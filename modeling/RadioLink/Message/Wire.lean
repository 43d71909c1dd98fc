import RadioLink.Bytes
import RadioLink.Text.Decimal

/-!
The protobuf wire format: variable-length numbers, keys, and fields that are skipped.
-/

set_option autoImplicit false

namespace RadioLink.Wire

inductive Kind where
  | varint
  | fixed64
  | lengthDelimited
  | startGroup
  | endGroup
  | fixed32
  deriving DecidableEq, Repr

namespace Kind

private def code : Kind → Nat
  | varint => 0
  | fixed64 => 1
  | lengthDelimited => 2
  | startGroup => 3
  | endGroup => 4
  | fixed32 => 5

private def ofCode? (code : Nat) : Option Kind :=
  [varint, fixed64, lengthDelimited, startGroup, endGroup, fixed32].find? (·.code = code)

private def title : Kind → String
  | varint => "Varint"
  | fixed64 => "SixtyFourBit"
  | lengthDelimited => "LengthDelimited"
  | startGroup => "StartGroup"
  | endGroup => "EndGroup"
  | fixed32 => "ThirtyTwoBit"

end Kind

inductive Fault where
  | invalidVarint
  | invalidKey (key : Nat)
  | invalidKind (code : Nat)
  | invalidTag
  | wrongKind (found expected : Kind)
  | underflow
  | invalidText
  | unexpectedEndGroup
  | tooDeep
  deriving DecidableEq, Repr

def Fault.message : Fault → String
  | .invalidVarint => "invalid varint"
  | .invalidKey key => "invalid key value: " ++ Text.decimal key
  | .invalidKind code => "invalid wire type value: " ++ Text.decimal code
  | .invalidTag => "invalid tag value: 0"
  | .wrongKind found expected =>
    "invalid wire type: " ++ found.title ++ " (expected " ++ expected.title ++ ")"
  | .underflow => "buffer underflow"
  | .invalidText => "invalid string value: data is not UTF-8 encoded"
  | .unexpectedEndGroup => "unexpected end group tag"
  | .tooDeep => "recursion limit reached"

/-- A number as groups of seven bits, least significant first, with a mark on all but the last. -/
def writeVarint (n : Nat) : Bytes :=
  if n < 128 then [UInt8.ofNat n] else UInt8.ofNat (128 + n % 128) :: writeVarint (n / 128)

/-- Reads a number of which `index` groups have been read with the given value. The tenth group may
hold one bit. -/
private def readVarintFrom (index value : Nat) : Bytes → Except Fault (Nat × Bytes)
  | [] => .error .invalidVarint
  | b :: rest =>
    let value := value + b.toNat % 128 * Nat.pow 128 index
    if b < 0x80 then
      if index = 9 && 2 ≤ b.toNat then .error .invalidVarint else .ok (value, rest)
    else if 9 ≤ index then .error .invalidVarint
    else readVarintFrom (index + 1) value rest

def readVarint (bytes : Bytes) : Except Fault (Nat × Bytes) :=
  readVarintFrom 0 0 bytes

def writeKey (tag : Nat) (kind : Kind) : Bytes :=
  writeVarint (8 * tag + kind.code)

def readKey (bytes : Bytes) : Except Fault (Nat × Kind × Bytes) := do
  let (key, rest) ← readVarint bytes
  if UInt32.size ≤ key then throw (.invalidKey key)
  match Kind.ofCode? (key % 8) with
  | none => throw (.invalidKind (key % 8))
  | some kind => if key / 8 = 0 then throw .invalidTag else return (key / 8, kind, rest)

/-- The first octets of a given number and those behind them. -/
private def takeBytes (count : Nat) (bytes : Bytes) : Except Fault (Bytes × Bytes) :=
  if bytes.length < count then .error .underflow else .ok (bytes.take count, bytes.drop count)

def readDelimited (bytes : Bytes) : Except Fault (Bytes × Bytes) := do
  let (length, rest) ← readVarint bytes
  takeBytes length rest

private def depthLimit : Nat := 100

mutual

/-- Skips the value of a field behind its key. A step drops an octet at least, which bounds the
steps. -/
private def skipField (fuel depth tag : Nat) (kind : Kind) (bytes : Bytes) : Except Fault Bytes :=
  match fuel with
  | 0 => .error .invalidVarint
  | fuel + 1 =>
    if depth = 0 then .error .tooDeep
    else match kind with
      | .varint => (readVarint bytes).map (·.2)
      | .fixed32 => (takeBytes 4 bytes).map (·.2)
      | .fixed64 => (takeBytes 8 bytes).map (·.2)
      | .lengthDelimited => (readDelimited bytes).map (·.2)
      | .startGroup => skipGroup fuel depth tag bytes
      | .endGroup => .error .unexpectedEndGroup

private def skipGroup (fuel depth tag : Nat) (bytes : Bytes) : Except Fault Bytes :=
  match fuel with
  | 0 => .error .invalidVarint
  | fuel + 1 =>
    match readKey bytes with
    | .error e => .error e
    | .ok (inner, kind, rest) =>
      if kind = .endGroup then if inner = tag then .ok rest else .error .unexpectedEndGroup
      else
        match skipField fuel (depth - 1) inner kind rest with
        | .error e => .error e
        | .ok rest => skipGroup fuel depth tag rest

end

def skip (tag : Nat) (kind : Kind) (bytes : Bytes) : Except Fault Bytes :=
  skipField (2 * bytes.length + 3) depthLimit tag kind bytes

def expect (found expected : Kind) : Except Fault Unit :=
  if found = expected then .ok () else .error (.wrongKind found expected)

end RadioLink.Wire
