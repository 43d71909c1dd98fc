import RadioLink.Gatt.Operation
import RadioLink.Link.Session
import RadioLink.Message

/-!
Links over Bluetooth. A notification of the packet counter says that packets wait in the mailbox,
which is then read until it is empty; log lines come as notifications of their own. Opening a link
finds the radio's service and switches these notifications on, and ending it switches them off
again.
-/

set_option autoImplicit false

namespace RadioLink.Link.Ble

/-- Whether a failure is worth opening the link again: time ran out, or the radio went away. -/
private def isWorthRetrying : LinkError → Bool
  | .connectionTimeout _ | .timeout | .disconnected _ | .notConnected => true
  | _ => false

def causeOf (error : LinkError) : Cause :=
  ⟨some error, isWorthRetrying error⟩

def readMailbox : Next Gatt.Operation :=
  .run (.read Gatt.fromRadio)

/-- Takes what the mailbox held: a packet is delivered and the mailbox read again. -/
def takePacket {M : Type} (format : Format M) : Gatt.Answer → Reaction M Gatt.Operation
  | .error error => ⟨[], .stop (causeOf error)⟩
  | .ok yielded =>
    if yielded.bytes.isEmpty then ⟨[], .wait⟩
    else match format.decode yielded.bytes with
      | .ok message => ⟨[.message message], readMailbox⟩
      | .error error => ⟨[], .stop ⟨some error, true⟩⟩

/-- Takes a notification, or the end of the notifications. -/
def takeNotification {M : Type} : Option Gatt.Notification → Reaction M Gatt.Operation
  | none => ⟨[], .stop ⟨some (.disconnected "peripheral disconnected"), true⟩⟩
  | some n =>
    if n.characteristic = Gatt.packetCounter then ⟨[], readMailbox⟩
    else if n.characteristic = Gatt.logLine then ⟨[.log (Text.Utf8.lossyString n.value)], .wait⟩
    else ⟨[], .wait⟩

/-- Switches off what was switched on, and drops the link. -/
def releaseOf (hasLog : Bool) : List Gatt.Operation :=
  .unsubscribe Gatt.packetCounter ::
    (if hasLog then [.unsubscribe Gatt.logLine] else []) ++ [.disconnect]

/-- How links run over Bluetooth. The task remembers whether the radio has a log. -/
def protocol {M : Type} (format : Format M) : Protocol M where
  Op := Gatt.Operation
  Answer := Gatt.Answer
  Signal := Option Gatt.Notification
  Memory := Bool
  opening := readMailbox
  receive hasLog notification := (takeNotification notification, hasLog)
  resume hasLog answer := (takePacket format answer, hasLog)
  pack := .ok
  write bytes := .write Gatt.toRadio bytes .withResponse
  failure?
    | .ok _ => none
    | .error error => some (.disconnected error.message, causeOf error)
  release := releaseOf

inductive Setup where
  | connecting
  | findingService
  | findingCharacteristics
  | openingNotifications (hasLog : Bool)
  /-- The notifications of the packet counter are switched on. -/
  | subscribingCounter (hasLog : Bool)
  | subscribingLog
  /-- A step failed; the link is dropped. -/
  | givingUp (error : LinkError)
  deriving DecidableEq

inductive Progress where
  | next (setup : Setup)
  | opened (hasLog : Bool)
  | failed (error : LinkError)
  deriving DecidableEq

/-- The characteristics without which a radio is no use, in the order in which they are missed. -/
def required : List Uuid :=
  [Gatt.toRadio, Gatt.fromRadio, Gatt.packetCounter]

namespace Setup

def operation (peripheral : String) : Setup → Gatt.Operation
  | .connecting => .connect peripheral
  | .findingService => .discoverServices
  | .findingCharacteristics => .discoverCharacteristics Gatt.radioService
  | .openingNotifications _ => .openNotifications
  | .subscribingCounter _ => .subscribe Gatt.packetCounter
  | .subscribingLog => .subscribe Gatt.logLine
  | .givingUp _ => .disconnect

def proceed (yielded : Gatt.Yield) : Setup → Progress
  | .connecting => .next .findingService
  | .findingService =>
    if Gatt.radioService ∈ yielded.uuids then .next .findingCharacteristics
    else .next (.givingUp (.serviceMissing (toString Gatt.radioService)))
  | .findingCharacteristics =>
    match required.find? (· ∉ yielded.uuids) with
    | some missing =>
      .next (.givingUp (.characteristicMissing (Gatt.characteristicName missing)))
    | none => .next (.openingNotifications (decide (Gatt.logLine ∈ yielded.uuids)))
  | .openingNotifications hasLog => .next (.subscribingCounter hasLog)
  | .subscribingCounter hasLog => if hasLog then .next .subscribingLog else .opened false
  | .subscribingLog => .opened true
  | .givingUp error => .failed error

/-- A step that failed. Once the adapter has connected, the link is dropped, well or not. -/
def fail (error : LinkError) : Setup → Progress
  | .connecting => .failed error
  | .givingUp first => .failed first
  | _ => .next (.givingUp error)

/-- Takes the answer to the operation of a step. -/
def step (setup : Setup) : Gatt.Answer → Progress
  | .ok yielded => setup.proceed yielded
  | .error error => setup.fail error

end Setup

end RadioLink.Link.Ble
