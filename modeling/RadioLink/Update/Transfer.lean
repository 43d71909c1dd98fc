import RadioLink.Bytes
import RadioLink.Error
import RadioLink.Update.Status

/-!
The bookkeeping of an image that is handed out in chunks: the device reports its state octet by
octet and asks for every window of chunks. Once the device reports success or an error, everything
further is ignored.
-/

set_option autoImplicit false

namespace RadioLink.Update

inductive DeviceState where
  | waitingForSize
  | erasing
  | readyForChunk
  | chunkStored
  | complete
  | error
  deriving DecidableEq, Repr

/-- The state of an octet, if there is one. -/
def DeviceState.ofByte? (b : UInt8) : Option DeviceState :=
  [waitingForSize, erasing, readyForChunk, chunkStored, complete, error][b.toNat]?

inductive Step where
  | wait
  | preparing
  | send (chunks : List Bytes)
  | stalled
  | complete
  | failed
  deriving DecidableEq, Repr

structure Transfer where
  image : Bytes
  offset : Nat
  chunkSize : Nat
  window : Nat
  finished : Bool
  deriving DecidableEq, Repr

/-- At most so many chunks off the front of the octets; the last one may be short. -/
def chunksUpTo (size : Nat) : Nat → Bytes → List Bytes
  | 0, _ => []
  | _ + 1, [] => []
  | count + 1, b :: rest => (b :: rest).take size :: chunksUpTo size count ((b :: rest).drop size)

namespace Transfer

/-- An image before its first chunk; chunks without octets are refused, and a window holds one chunk
at least. -/
def start (image : Bytes) (chunkSize window : Nat) : Except LinkError Transfer :=
  if chunkSize = 0 then .error (.invalidConfig "chunk size must be non-zero")
  else .ok ⟨image, 0, chunkSize, max window 1, false⟩

def remaining (t : Transfer) : Nat :=
  t.image.length - t.offset

/-- How much has been handed out; an empty image counts as done. -/
def progress (t : Transfer) : Progress :=
  if t.image.isEmpty then .everything else .remaining t.remaining t.image.length

def nextWindow (t : Transfer) : List Bytes :=
  chunksUpTo t.chunkSize t.window (t.image.drop t.offset)

def request (t : Transfer) : Step × Transfer :=
  match t.nextWindow with
  | [] => (.stalled, t)
  | chunk :: rest =>
    let chunks := chunk :: rest
    (.send chunks, { t with offset := t.offset + chunks.flatten.length })

def report (t : Transfer) (state : DeviceState) : Step × Transfer :=
  if t.finished then (.wait, t)
  else match state with
    | .waitingForSize => (.wait, t)
    | .erasing => (.preparing, t)
    | .readyForChunk => t.request
    | .chunkStored => t.request
    | .complete => (.complete, { t with finished := true })
    | .error => (.failed, { t with finished := true })

/-- The octets of memory that a list takes for each chunk it has room for. -/
def roomPerChunk : Nat := 32

/-- The most octets of memory that can be set aside at once. -/
def roomLimit : Nat := 9223372036854775807

/-- Whether room for a whole window can be set aside. -/
def hasRoom (t : Transfer) : Bool :=
  t.window * roomPerChunk ≤ roomLimit

/-- Whether a report asks for a window of a transfer that goes on. -/
def isAsked (t : Transfer) : DeviceState → Bool
  | .readyForChunk | .chunkStored => !t.finished
  | _ => false

/-- What a report brings where memory is limited. Room for a whole window is set aside ahead of its
chunks, however few are left; the transfer breaks if there is no such room. -/
def report? (t : Transfer) (state : DeviceState) : Option (Step × Transfer) :=
  if t.isAsked state && !t.hasRoom then none else some (t.report state)

end Transfer

end RadioLink.Update
