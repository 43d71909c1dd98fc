import RadioLink.Bytes
import RadioLink.Error

/-!
Frames on a byte stream: a pair of magic octets, a big-endian length of 16 bits, and the payload.
A decoder takes the stream in arbitrary pieces and finds the frames amid noise.
-/

set_option autoImplicit false

namespace RadioLink.Frame

def magic₁ : UInt8 := 0x94

def magic₂ : UInt8 := 0xc3

/-- The octets in front of a payload: the magic pair and the length. -/
def headerLength : Nat := 4

/-- The longest payload that the length field can say. -/
def maxPayload : Nat := 65535

/-- A payload behind its header, whatever its length. -/
def wrap (payload : Bytes) : Bytes :=
  magic₁ :: magic₂ :: Bytes.ofNatBE 2 payload.length ++ payload

/-- A payload as a frame; one that is too long is refused. -/
def encode (payload : Bytes) : Except LinkError Bytes :=
  if payload.length ≤ maxPayload then .ok (wrap payload)
  else .error (.payloadTooLarge payload.length maxPayload)

inductive State where
  | seekFirst
  /-- The second magic octet, right behind the first. -/
  | seekSecond
  | length
  | payload (length : Nat)
  deriving DecidableEq, Repr

/-- The header octets that a state has taken off the stream. -/
def State.headerHeld : State → Nat
  | .seekFirst => 0
  | .seekSecond => 1
  | .length => 2
  | .payload _ => 4

structure Decoder where
  buffer : Bytes
  state : State
  discarded : Nat
  deriving DecidableEq, Repr

/-- The outcome of a search for the magic pair. -/
inductive Hunt where
  /-- The octets behind the pair, and the count of dropped octets. -/
  | found (rest : Bytes) (discarded : Nat)
  | exhausted (behindFirst : Bool) (discarded : Nat)
  deriving DecidableEq, Repr

/-- Searches for the magic pair, right behind a first magic octet or not. An octet that breaks the
pair may itself be a first magic octet. -/
def hunt (behindFirst : Bool) (discarded : Nat) : Bytes → Hunt
  | [] => .exhausted behindFirst discarded
  | b :: rest =>
    if behindFirst then
      if b = magic₂ then .found rest discarded
      else if b = magic₁ then hunt true (discarded + 1) rest
      else hunt false (discarded + 2) rest
    else if b = magic₁ then hunt true discarded rest
    else hunt false (discarded + 1) rest

namespace Decoder

def empty : Decoder := ⟨[], .seekFirst, 0⟩

instance : Inhabited Decoder := ⟨empty⟩

def feed (d : Decoder) (data : Bytes) : Decoder :=
  { d with buffer := d.buffer ++ data }

def isMidFrame (d : Decoder) : Bool :=
  d.state ≠ .seekFirst || !d.buffer.isEmpty

/-- Takes a payload of a known length, once all of it is there. -/
def takePayload (d : Decoder) (length : Nat) : Option Bytes × Decoder :=
  if d.buffer.length < length then (none, { d with state := .payload length })
  else (some (d.buffer.take length), { d with buffer := d.buffer.drop length, state := .seekFirst })

/-- Takes the length, once both octets are there, and then the payload. -/
def takeLength (d : Decoder) : Option Bytes × Decoder :=
  match d.buffer with
  | high :: low :: rest => takePayload { d with buffer := rest } (256 * high.toNat + low.toNat)
  | _ => (none, { d with state := .length })

def takeHunt (d : Decoder) : Hunt → Option Bytes × Decoder
  | .found rest discarded => takeLength { d with buffer := rest, discarded := discarded }
  | .exhausted behindFirst discarded =>
    (none, ⟨[], if behindFirst then .seekSecond else .seekFirst, discarded⟩)

/-- Takes the next payload, if all of it has been received. -/
def next (d : Decoder) : Option Bytes × Decoder :=
  match d.state with
  | .seekFirst => takeHunt d (hunt false d.discarded d.buffer)
  | .seekSecond => takeHunt d (hunt true d.discarded d.buffer)
  | .length => takeLength d
  | .payload length => takePayload d length

def drainUpTo : Nat → Decoder → List Bytes × Decoder
  | 0, d => ([], d)
  | n + 1, d =>
    match d.next with
    | (none, d) => ([], d)
    | (some payload, d) =>
      let (payloads, d) := drainUpTo n d
      (payload :: payloads, d)

/-- Takes every payload that has been received. A payload takes an octet off the buffer, or is the
empty one that the state waits for. -/
def drain (d : Decoder) : List Bytes × Decoder :=
  drainUpTo (d.buffer.length + 2) d

/-- Feeds pieces one behind the other and takes every payload that they complete. -/
def feedEach : Decoder → List Bytes → List Bytes × Decoder
  | d, [] => ([], d)
  | d, piece :: pieces =>
    let (payloads, d) := (d.feed piece).drain
    let (more, d) := feedEach d pieces
    (payloads ++ more, d)

end Decoder

end RadioLink.Frame
