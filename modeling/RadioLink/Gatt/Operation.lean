import RadioLink.Error
import RadioLink.Gatt

/-!
What is asked of a radio stack, and what it answers. Every operation is answered once, some time
after it was asked for, or never.
-/

set_option autoImplicit false

namespace RadioLink.Gatt

/-- An operation of the adapter, or of the peripheral that a link is about. -/
inductive Operation where
  | powerOn
  | scan (service : Uuid)
  | stopScan
  | connect (peripheral : String)
  | discoverServices
  | discoverCharacteristics (service : Uuid)
  | openNotifications
  | subscribe (characteristic : Uuid)
  | unsubscribe (characteristic : Uuid)
  | read (characteristic : Uuid)
  | write (characteristic : Uuid) (value : Bytes) (kind : WriteKind)
  | disconnect
  deriving DecidableEq

inductive Yield where
  | nothing
  /-- A stream of its own number, of sightings or of notifications. -/
  | stream (number : Nat)
  | peripheral (writeLimit : Nat)
  | listed (uuids : List Uuid)
  | value (bytes : Bytes)
  deriving DecidableEq

abbrev Answer := Except LinkError Yield

/-- The listed services or characteristics, if any are. -/
def Yield.uuids : Yield → List Uuid
  | .listed uuids => uuids
  | _ => []

/-- The longest write of the peripheral, if one was connected. -/
def Yield.writeLimit : Yield → Nat
  | .peripheral writeLimit => writeLimit
  | _ => 0

/-- The value that was read, if any was. -/
def Yield.bytes : Yield → Bytes
  | .value bytes => bytes
  | _ => []

end RadioLink.Gatt
