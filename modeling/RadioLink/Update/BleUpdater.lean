import RadioLink.Config
import RadioLink.Gatt.Operation
import RadioLink.Update.Invitation
import RadioLink.Update.Status
import RadioLink.Update.Transfer

/-!
Updates over Bluetooth. A run finds the first device in update mode, connects, invites it, and hands
it a window of chunks whenever it asks for one. Until chunks are on their way a run can be asked to
stop; it notices where it waits. Whatever a run took hold of it lets go: the scan, the notifications
of the state, the link, and the timer that puts the display to sleep.
-/

set_option autoImplicit false

namespace RadioLink.Update

inductive BleStage where
  | poweringOn
  | startingScan
  | seeking
  | stoppingScan (found : Except LinkError Gatt.Advertisement)
  | connecting (name : String)
  | findingService
  | findingCharacteristics
  | openingNotifications
  | subscribing
  | inviting (transfer : Transfer)
  | listening (transfer : Transfer)
  | sending (transfer : Transfer) (rest : List Bytes)
  | unsubscribing (result : Except LinkError Unit)
  | disconnecting (result : Except LinkError Unit)

namespace BleStage

def isAwake : BleStage → Bool
  | .inviting _ | .listening _ | .sending .. => true
  | _ => false

def isBusy : BleStage → Bool
  | .seeking | .listening _ => false
  | _ => true

end BleStage

structure BleRun where
  image : Bytes
  /-- The longest write that the peripheral takes, once it is connected. -/
  writeLimit : Nat
  stage : BleStage

/-- An updater over Bluetooth: at most one run, and the session that shows it. -/
structure BleUpdater where
  settings : Config.BleUpdate
  session : Session
  run : Option BleRun

namespace BleUpdater

inductive Action where
  | start (image : Bytes)
  | cancel
  | drop
  | answer (answer : Gatt.Answer)
  | sighting (adv : Option Gatt.Advertisement)
  | scanTimeout
  | notification (n : Option Gatt.Notification)
  | noticeCancel

inductive Output where
  | run (operation : Gatt.Operation)
  | giveUp
  | keepAwake (awake : Bool)
  | cancelled (result : Except LinkError Unit)
  | finished (result : Except LinkError Unit)

def initial (settings : Config.BleUpdate) : BleUpdater := ⟨settings, .initial, none⟩

def enter (u : BleUpdater) (run : BleRun) (stage : BleStage) : BleUpdater :=
  { u with run := some { run with stage := stage } }

/-- The run goes on to a stage with an operation. -/
def perform (u : BleUpdater) (run : BleRun) (stage : BleStage) (operation : Gatt.Operation) :
    BleUpdater × List Output :=
  (u.enter run stage, [.run operation])

def present (u : BleUpdater) (phase : Phase) (message : String) : BleUpdater :=
  { u with session := u.session.setPhase phase message }

def finish (u : BleUpdater) (result : Except LinkError Unit) : BleUpdater × List Output :=
  ({ u with session := (u.session.settle "OTA Complete!" result).release, run := none },
   [.finished result])

/-- Lets the connected device go, with a result. -/
def letGo (u : BleUpdater) (run : BleRun) (result : Except LinkError Unit) :
    BleUpdater × List Output :=
  (u.enter run (.unsubscribing result),
   (if run.stage.isAwake then [.keepAwake false] else [])
    ++ [.run (.unsubscribe Gatt.updateStatus)])

def stopScan (u : BleUpdater) (run : BleRun) (found : Except LinkError Gatt.Advertisement) :
    BleUpdater × List Output :=
  u.perform run (.stoppingScan found) .stopScan

/-- Claims the session for a run, and begins it. -/
def start (u : BleUpdater) (image : Bytes) : BleUpdater × List Output :=
  match u.session.start with
  | .error error => (u, [.finished (.error error)])
  | .ok session =>
    let u := { u with session := session }
    if image.isEmpty then u.finish (.error (.invalidFirmware "image is empty"))
    else u.perform ⟨image, 0, .poweringOn⟩ .poweringOn .powerOn

def drop (u : BleUpdater) (run : BleRun) : BleUpdater × List Output :=
  ({ u with session := u.session.release, run := none },
   (if run.stage.isBusy then [.giveUp] else [])
    ++ (if run.stage.isAwake then [.keepAwake false] else []))

/-- The characteristics of a device in update mode, in the order in which they are missed. -/
def required : List Uuid := [Gatt.updateStatus, Gatt.updateData]

def invitation (image : Bytes) : Bytes :=
  (Invitation.flash 0 image.length (sha256Hex image)).toBytes

def writeData (value : Bytes) : Gatt.Operation :=
  .write Gatt.updateData value .withoutResponse

/-- Everything is listened for: keeps the display awake and invites the device. -/
def invite (u : BleUpdater) (run : BleRun) : BleUpdater × List Output :=
  let chunkSize := run.writeLimit - Config.writeOverhead
  match Transfer.start run.image chunkSize u.settings.chunksPerAck.toNat with
  | .error error =>
    let (u, outputs) := u.letGo run (.error error)
    (u, .keepAwake true :: .keepAwake false :: outputs)
  | .ok transfer =>
    let (u, outputs) := u.perform run (.inviting transfer) (writeData (invitation run.image))
    (u, .keepAwake true :: outputs)

def proceed (u : BleUpdater) (run : BleRun) (yielded : Gatt.Yield) : BleUpdater × List Output :=
  match run.stage with
  | .poweringOn => u.perform run .startingScan (.scan Gatt.updateService)
  | .startingScan => (u.enter run .seeking, [])
  | .stoppingScan (.ok adv) =>
    let name := adv.name.getD "unknown"
    { u with session := u.session.setDeviceName name }.perform run (.connecting name)
      (.connect adv.id)
  | .stoppingScan (.error error) => u.finish (.error error)
  | .connecting name =>
    (u.present .connected ("Connected to " ++ name)).perform
      { run with writeLimit := yielded.writeLimit } .findingService .discoverServices
  | .findingService =>
    if Gatt.updateService ∈ yielded.uuids then
      u.perform run .findingCharacteristics (.discoverCharacteristics Gatt.updateService)
    else u.letGo run (.error (.serviceMissing (toString Gatt.updateService)))
  | .findingCharacteristics =>
    match required.find? (· ∉ yielded.uuids) with
    | some missing => u.letGo run (.error (.characteristicMissing (toString missing)))
    | none => u.perform run .openingNotifications .openNotifications
  | .openingNotifications => u.perform run .subscribing (.subscribe Gatt.updateStatus)
  | .subscribing => u.invite run
  | .inviting transfer => (u.enter run (.listening transfer), [])
  | .sending transfer (chunk :: rest) =>
    u.perform run (.sending transfer rest) (writeData chunk)
  | .sending transfer [] =>
    ({ u with session := u.session.setProgress transfer.progress }.enter run (.listening transfer),
     [])
  | .unsubscribing result => u.perform run (.disconnecting result) .disconnect
  | .disconnecting result => u.finish result
  | .seeking => (u, [])
  | .listening _ => (u, [])

/-- An operation failed. What only lets something go may fail. -/
def fail (u : BleUpdater) (run : BleRun) (error : LinkError) : BleUpdater × List Output :=
  match run.stage with
  | .poweringOn | .startingScan | .connecting _ => u.finish (.error error)
  | .stoppingScan _ | .unsubscribing _ | .disconnecting _ => u.proceed run .nothing
  | .seeking | .listening _ => (u, [])
  | _ => u.letGo run (.error error)

/-- The state that a notification reports, if it reports one. -/
def reported? (n : Gatt.Notification) : Option DeviceState :=
  if n.characteristic = Gatt.updateStatus then n.value.head?.bind DeviceState.ofByte? else none

/-- The run takes a state that its device reports. Memory has no limit here: a transfer that breaks
for want of room (`Transfer.report?`) gives the run up where it listens, which is an action of its
own, `drop`. -/
def hear (u : BleUpdater) (run : BleRun) (transfer : Transfer) (state : DeviceState) :
    BleUpdater × List Output :=
  let (step, transfer) := transfer.report state
  match step with
  | .wait =>
    let u :=
      if state = .waitingForSize then u.present .waitingForConnection "About to start..." else u
    (u.enter run (.listening transfer), [])
  | .preparing =>
    ((u.present .preparing "Preparing flash partition...").enter run (.listening transfer), [])
  | .send (chunk :: rest) =>
    (u.present .transferring "Transfer in progress...").perform run (.sending transfer rest)
      (writeData chunk)
  | .send [] | .stalled => (u.enter run (.listening transfer), [])
  | .complete => u.letGo run (.ok ())
  | .failed => u.letGo run (.error .deviceReportedError)

def listen (u : BleUpdater) (run : BleRun) (transfer : Transfer) :
    Option Gatt.Notification → BleUpdater × List Output
  | none =>
    u.letGo run (.error (.disconnected "status notifications ended before completion"))
  | some n =>
    match reported? n with
    | some state => u.hear run transfer state
    | none => (u, [])

/-- Stops where it waits. Writes, starting and stopping the scan, and letting go are not broken
off. -/
def noticeCancel (u : BleUpdater) (run : BleRun) : BleUpdater × List Output :=
  match run.stage with
  | .poweringOn | .connecting _ =>
    let (u, outputs) := u.finish (.error .cancelled)
    (u, .giveUp :: outputs)
  | .seeking => u.stopScan run (.error .cancelled)
  | .findingService | .findingCharacteristics | .openingNotifications | .subscribing =>
    let (u, outputs) := u.letGo run (.error .cancelled)
    (u, .giveUp :: outputs)
  | .listening _ => u.letGo run (.error .cancelled)
  | _ => (u, [])

/-- One action: the updater behind it, and what the others see. -/
def step (u : BleUpdater) : Action → BleUpdater × List Output
  | .start image => u.start image
  | .cancel =>
    let (result, session) := u.session.cancel
    ({ u with session := session }, [.cancelled result])
  | .drop => u.run.elim (u, []) u.drop
  | .answer answer =>
    match u.run, answer with
    | some run, .ok yielded => u.proceed run yielded
    | some run, .error error => u.fail run error
    | none, _ => (u, [])
  | .sighting adv =>
    match u.run with
    | some run =>
      match run.stage, adv with
      | .seeking, some adv => u.stopScan run (.ok adv)
      | .seeking, none => u.stopScan run (.error (.bluetooth "scan ended unexpectedly"))
      | _, _ => (u, [])
    | none => (u, [])
  | .scanTimeout =>
    match u.run with
    | some run =>
      match run.stage with
      | .seeking => u.stopScan run (.error (.scanTimeout u.settings.scanTimeout.toMillis))
      | _ => (u, [])
    | none => (u, [])
  | .notification n =>
    match u.run with
    | some run =>
      match run.stage with
      | .listening transfer => u.listen run transfer n
      | _ => (u, [])
    | none => (u, [])
  | .noticeCancel =>
    match u.run with
    | some run => if u.session.cancelRequested then u.noticeCancel run else (u, [])
    | none => (u, [])

end BleUpdater

end RadioLink.Update
