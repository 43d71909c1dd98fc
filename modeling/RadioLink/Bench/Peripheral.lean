import RadioLink.Gatt.Operation
import RadioLink.Slots
import RadioLink.Text.Blank
import RadioLink.Text.Decimal
import RadioLink.Text.Utf8

/-!
Peripherals in memory: what they offer and hold, and how they answer writes.
-/

set_option autoImplicit false

namespace RadioLink.Bench

/-- How a peripheral answers writes: by notifications of one octet each. -/
inductive Responder where
  | silent
  | scripted (answers : List Bytes)
  /-- As a device in update mode: the invitation by these octets, and each chunk by a report that it
  is stored, or that the image is complete. Behind the invitation it counts the octets left. -/
  | updateDevice (first : Bytes) (left : Option Int)
  deriving DecidableEq

namespace Responder

/-- The size of the image that an invitation announces. -/
def announcedSize (invitation : Bytes) : Int :=
  match (Text.words (Text.Utf8.lossy invitation))[2]? with
  | some word => ((Text.readDecimal? word).getD 0 : Nat)
  | none => 0

def respond (responder : Responder) (written : Bytes) : Bytes × Responder :=
  match responder with
  | .silent => ([], .silent)
  | .scripted [] => ([], .scripted [])
  | .scripted (answer :: answers) => (answer, .scripted answers)
  | .updateDevice first none => (first, .updateDevice first (some (announcedSize written)))
  | .updateDevice first (some left) =>
    let left := left - written.length
    ([if left ≤ 0 then 4 else 3], .updateDevice first (some left))

end Responder

structure Written where
  characteristic : Uuid
  value : Bytes
  kind : Gatt.WriteKind
  deriving DecidableEq

/-- What happens to an operation before it reaches the peripheral or the adapter. -/
inductive Fault where
  | pass
  | fail (error : LinkError)
  | hang
  /-- It is held up for so many milliseconds. -/
  | delay (millis : Nat)

/-- Faults in store for each operation, by its name. -/
abbrev Faults := List (String × List Fault)

/-- The name of an operation in records and among faults. -/
def operationName : Gatt.Operation → String
  | .powerOn => "power"
  | .scan _ => "scan"
  | .stopScan => "stop_scan"
  | .connect _ => "connect"
  | .discoverServices => "discover_services"
  | .discoverCharacteristics _ => "discover_characteristics"
  | .openNotifications => "notifications"
  | .subscribe _ => "subscribe"
  | .unsubscribe _ => "unsubscribe"
  | .read _ => "read"
  | .write .. => "write"
  | .disconnect => "disconnect"

/-- The next fault for an operation, and the faults behind it. -/
def nextFault (name : String) : Faults → Fault × Faults
  | [] => (.pass, [])
  | (other, faults) :: rest =>
    if other = name then (faults.head?.getD .pass, (other, faults.drop 1) :: rest)
    else
      let (fault, rest) := nextFault name rest
      (fault, (other, faults) :: rest)

structure Peripheral where
  id : String
  name : Option String
  services : List (Uuid × List Uuid)
  writeLimit : Nat
  /-- Values in the mailbox, oldest first. -/
  mailbox : List Bytes
  written : List Written
  notifier : Option Nat
  subscribed : List Uuid
  unsubscribes : Nat
  disconnected : Bool
  failsWrites : Bool
  responder : Responder
  /-- How many milliseconds a discovery of services or a write takes, if it takes time. -/
  latency : Option Nat
  slots : Slots Unit
  inRange : Bool
  faults : Faults

namespace Peripheral

def plain (id : String) : Peripheral :=
  ⟨id, none, [], 512, [], [], none, [], 0, false, false, .silent, none, .empty, true, []⟩

/-- Adds a service, in place of one with the same identifier. -/
def withService (p : Peripheral) (service : Uuid) (characteristics : List Uuid) : Peripheral :=
  { p with services := p.services.filter (·.1 ≠ service) ++ [(service, characteristics)] }

def radio (id : String) : Peripheral :=
  (plain id).withService Gatt.radioService
    [Gatt.toRadio, Gatt.fromRadio, Gatt.packetCounter, Gatt.logLine]

def updateDevice (id : String) : Peripheral :=
  (plain id).withService Gatt.updateService [Gatt.updateStatus, Gatt.updateData]

end Peripheral

end RadioLink.Bench
