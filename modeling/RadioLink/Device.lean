import RadioLink.Digest.Sha256
import RadioLink.Error
import RadioLink.Text.Blank
import RadioLink.Uuid

/-!
Devices: radios that have been discovered or entered by hand, their stable identifiers, and the
`host[:port]` strings that name them on a network.
-/

set_option autoImplicit false

namespace RadioLink

inductive Medium where
  | ble
  | tcp
  deriving DecidableEq, Repr

def Medium.title : Medium → String
  | .ble => "BLE"
  | .tcp => "TCP"

structure DeviceId where
  uuid : Uuid
  deriving DecidableEq

namespace DeviceId

/-- The identifier derived from a text: the first sixteen octets of its SHA-256 digest. -/
def ofText (text : String) : DeviceId :=
  ⟨⟨(Digest.sha256 (Bytes.ofString text)).take 16, by
    simp [Digest.sha256, Digest.Sha256.State.toBytes]⟩⟩

protected def toString (id : DeviceId) : String :=
  id.uuid.toString

instance : ToString DeviceId := ⟨DeviceId.toString⟩

/-- The identifier of a peripheral: its platform identifier if that is a UUID, else derived from
it. -/
def ofPeripheral (id : String) : DeviceId :=
  match Uuid.ofString? id with
  | some uuid => ⟨uuid⟩
  | none => ofText id

end DeviceId

/-- A device that was discovered or entered by hand. Fresher data makes a new value. -/
structure Device where
  id : DeviceId
  name : String
  medium : Medium
  /-- Its address on the medium: `host:port`, or a peripheral's identifier. -/
  identifier : String
  isManual : Bool
  /-- Last signal strength, if the medium reports one. -/
  rssi : Option Int16
  deriving DecidableEq

/-- A discovered device without a signal strength. -/
def Device.discovered (id : DeviceId) (name : String) (medium : Medium) (identifier : String) :
    Device :=
  ⟨id, name, medium, identifier, false, none⟩

def Device.withRssi (device : Device) (rssi : Option Int16) : Device :=
  { device with rssi := rssi }

structure Target where
  host : String
  port : UInt16
  deriving DecidableEq, Repr

namespace Target

def normalized (target : Target) : String :=
  target.host ++ ":" ++ Text.decimal target.port.toNat

/-- The port that a non-empty text of decimal digits writes, if it fits into 16 bits. -/
def readPort? (text : List Char) : Option UInt16 :=
  (Text.readDecimal? text).bind fun n => if n < UInt16.size then some (UInt16.ofNat n) else none

/-- Reads `host` or `host:port` without blanks around it. The host is not empty and holds no
colon. -/
def ofTrimmed? (text : List Char) (defaultPort : UInt16) : Option Target :=
  match Text.pieces ':' text with
  | [host] => if host.isEmpty then none else some ⟨String.ofList host, defaultPort⟩
  | [host, port] =>
    if host.isEmpty then none
    else (readPort? port).map fun port => ⟨String.ofList host, port⟩
  | _ => none

/-- Reads `host` or `host:port`, ignoring blanks around it; the default port stands in for a missing
one. -/
def parse (input : String) (defaultPort : UInt16) : Except LinkError Target :=
  match ofTrimmed? (Text.trim input.toList) defaultPort with
  | some target => .ok target
  | none => .error (.invalidConnectionString input)

end Target

/-- The device of a connection string entered by hand. Its identifier is derived from the normal
form of the target; its address stays as it was entered, without blanks around it. -/
def Device.manual (input : String) (defaultPort : UInt16) : Except LinkError Device := do
  let target ← Target.parse input defaultPort
  let entered := Text.trimmed input
  return ⟨.ofText target.normalized, entered ++ " (Manual)", .tcp, entered, true, none⟩

end RadioLink
