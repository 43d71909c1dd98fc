import RadioLink.Config
import RadioLink.SystemError
import RadioLink.Update.Invitation
import RadioLink.Update.Status
import RadioLink.Update.Transfer

/-!
Updates over WiFi. A run listens on a port, invites the device by datagrams to connect to it, and
writes the image to the connection in chunks. Invitations are sent again and again until the device
accepts, and carry the answer to its latest challenge. A run can be asked to stop until chunks are
on their way; it notices where it waits for the device.
-/

set_option autoImplicit false

namespace RadioLink.Update

inductive NetOperation where
  | resolve (host : String) (port : UInt16)
  | listen (address : Net.IpAddress)
  | openDatagrams
  /-- Sends what is written without delay. -/
  | sendAtOnce
  | write (data : Bytes)
  | flush
  | shutdown
  deriving DecidableEq

inductive NetYield where
  | nothing
  | noAddress
  | port (number : UInt16)
  deriving DecidableEq

inductive WifiStage where
  | resolving
  | openingPort
  | openingDatagrams (invitation : Invitation)
  /-- The device is invited. The current invitation may answer a challenge; the one that is being
  sent may be an earlier one. -/
  | inviting (base current : Invitation) (sending : Option Invitation)
  | accepting
  | tuning
  /-- A chunk is written; these follow. The chunks so far, this one included, are counted, and the
  octets of those before it. -/
  | sending (chunk : Bytes) (rest : List Bytes) (index sent : Nat)
  | flushing
  | settling
  | closing

structure WifiRun where
  image : Bytes
  password : Option String
  host : String
  stage : WifiStage

/-- An updater over WiFi: at most one run, and the session that shows it. -/
structure WifiUpdater where
  settings : Config.WifiUpdate
  session : Session
  run : Option WifiRun

/-- All octets in chunks; the last one may be short. -/
def chunks (size : Nat) (data : Bytes) : List Bytes :=
  chunksUpTo size data.length data

namespace WifiUpdater

inductive Action where
  | start (host : String) (image : Bytes) (password : Option String)
  | cancel
  | drop
  | answer (answer : Except SystemError NetYield)
  /-- The current invitation is taken to be sent, unless one is being sent. -/
  | compose
  | invite (result : Except SystemError Unit)
  | datagram (received : Except SystemError Bytes)
  | accepted (result : Except SystemError Unit)
  | timeout
  | settled
  | noticeCancel

inductive Output where
  | run (operation : NetOperation)
  | send (datagram : Bytes)
  | cancelled (result : Except LinkError Unit)
  | finished (result : Except LinkError Unit)

/-- The octets of a datagram that are looked at. -/
def datagramLimit : Nat := 1024

def initial (settings : Config.WifiUpdate) : WifiUpdater := ⟨settings, .initial, none⟩

def enter (u : WifiUpdater) (run : WifiRun) (stage : WifiStage) : WifiUpdater :=
  { u with run := some { run with stage := stage } }

/-- The run goes on to a stage with an operation. -/
def perform (u : WifiUpdater) (run : WifiRun) (stage : WifiStage) (operation : NetOperation) :
    WifiUpdater × List Output :=
  (u.enter run stage, [.run operation])

def present (u : WifiUpdater) (phase : Phase) (message : String) : WifiUpdater :=
  { u with session := u.session.setPhase phase message }

def finish (u : WifiUpdater) (result : Except LinkError Unit) : WifiUpdater × List Output :=
  ({ u with session := (u.session.settle "Success!" result).release, run := none },
   [.finished result])

def failSystem (u : WifiUpdater) (error : SystemError) : WifiUpdater × List Output :=
  u.finish (.error (.system error))

/-- Claims the session for a run, and begins it. -/
def start (u : WifiUpdater) (host : String) (image : Bytes) (password : Option String) :
    WifiUpdater × List Output :=
  match u.session.start with
  | .error error => (u, [.finished (.error error)])
  | .ok session =>
    let u := { u with session := session }
    if image.isEmpty then u.finish (.error (.invalidFirmware "image is empty"))
    else u.perform ⟨image, password, host, .resolving⟩ .resolving
      (.resolve host u.settings.devicePort)

/-- Writes the next chunk, or hands over what has been written. -/
def sendNext (u : WifiUpdater) (run : WifiRun) (index sent : Nat) :
    List Bytes → WifiUpdater × List Output
  | [] => u.perform run .flushing .flush
  | chunk :: rest => u.perform run (.sending chunk rest (index + 1) sent) (.write chunk)

/-- A chunk was written; every so many chunks the progress is shown. -/
def chunkWritten (u : WifiUpdater) (run : WifiRun) (index sent : Nat) (rest : List Bytes) :
    WifiUpdater × List Output :=
  let every := max u.settings.progressEvery.toNat 1
  let session :=
    if index % every = 0 then u.session.setProgress (.sent sent run.image.length) else u.session
  { u with session := session }.sendNext run index sent rest

/-- Everything was written: shows it, and gives the device time. -/
def imageSent (u : WifiUpdater) (run : WifiRun) : WifiUpdater × List Output :=
  ({ u with session := u.session.setProgress .everything }.present .transferring "Done..."
    |>.enter run .settling, [])

def transfer (u : WifiUpdater) (run : WifiRun) : WifiUpdater × List Output :=
  (u.present .transferring "Please stay on this screen while update completes...").sendNext run 0 0
    (chunks (max u.settings.chunkSize.toNat 1) run.image)

def proceed (u : WifiUpdater) (run : WifiRun) (yielded : NetYield) : WifiUpdater × List Output :=
  match run.stage, yielded with
  | .resolving, .noAddress => u.finish (.error (.connectionFailed ("cannot resolve " ++ run.host)))
  | .resolving, _ => u.perform run .openingPort (.listen u.settings.bindAddress)
  | .openingPort, .port number =>
    let invitation := Invitation.flash number run.image.length (md5Hex run.image)
    (u.present .waitingForConnection "Waiting for device. This can take a while...").perform run
      (.openingDatagrams invitation) .openDatagrams
  | .openingDatagrams invitation, _ => (u.enter run (.inviting invitation invitation none), [])
  | .tuning, _ => u.transfer run
  | .sending chunk rest index sent, _ => u.chunkWritten run index (sent + chunk.length) rest
  | .flushing, _ => u.imageSent run
  | .closing, _ => u.finish (.ok ())
  | _, _ => (u, [])

/-- An operation failed. Only closing the connection may fail. -/
def fail (u : WifiUpdater) (run : WifiRun) (error : SystemError) : WifiUpdater × List Output :=
  match run.stage with
  | .closing => u.finish (.ok ())
  | .inviting .. | .accepting | .settling => (u, [])
  | _ => u.failSystem error

/-- An invitation was sent. Nobody may be there to take it yet. -/
def invited (u : WifiUpdater) (run : WifiRun) (base current sending : Invitation)
    (result : Except SystemError Unit) : WifiUpdater × List Output :=
  let waiting := (u.enter run (.inviting base current none), [])
  let (u, outputs) := match result with
    | .ok () => waiting
    | .error error => if error.isRefusal then waiting else u.failSystem error
  (u, .send sending.toBytes :: outputs)

/-- Takes a reply of the device to the invitation. -/
def hear (u : WifiUpdater) (run : WifiRun) (base current : Invitation)
    (sending : Option Invitation) : Reply → WifiUpdater × List Output
  | .accepted => ((u.present .connected "Device accepted the update").enter run .accepting, [])
  | .challenge nonce =>
    match run.password with
    | none => u.finish (.error .authenticationRequired)
    | some password =>
      (u.enter run (.inviting base (base.withAnswer (challengeAnswer password nonce)) sending), [])
  | .erasing =>
    ((u.present .preparing "Preparing flash partition...").enter run
      (.inviting base current sending), [])
  | .other _ => (u, [])

def timeOut (u : WifiUpdater) (run : WifiRun) : WifiUpdater × List Output :=
  match run.stage with
  | .inviting .. => u.finish (.error (.handshakeTimeout u.settings.handshakeTimeout.toMillis))
  | .accepting => u.finish (.error (.connectionTimeout u.settings.acceptTimeout.toMillis))
  | _ => (u, [])

/-- One action of a run: the updater behind it, and what the others see. -/
def stepRun (u : WifiUpdater) (run : WifiRun) : Action → WifiUpdater × List Output
  | .drop => ({ u with session := u.session.release, run := none }, [])
  | .answer (.ok yielded) => u.proceed run yielded
  | .answer (.error error) => u.fail run error
  | .compose =>
    match run.stage with
    | .inviting base current none => (u.enter run (.inviting base current (some current)), [])
    | _ => (u, [])
  | .invite result =>
    match run.stage with
    | .inviting base current (some sending) => u.invited run base current sending result
    | _ => (u, [])
  | .datagram received =>
    match run.stage, received with
    | .inviting base current sending, .ok data =>
      u.hear run base current sending (Reply.ofBytes (data.take datagramLimit))
    | .inviting .., .error error => if error.isRefusal then (u, []) else u.failSystem error
    | _, _ => (u, [])
  | .accepted result =>
    match run.stage, result with
    | .accepting, .ok () => u.perform run .tuning .sendAtOnce
    | .accepting, .error error => u.failSystem error
    | _, _ => (u, [])
  | .timeout => u.timeOut run
  | .settled =>
    match run.stage with
    | .settling => u.perform run .closing .shutdown
    | _ => (u, [])
  | .noticeCancel =>
    match run.stage with
    | .inviting .. | .accepting =>
      if u.session.cancelRequested then u.finish (.error .cancelled) else (u, [])
    | _ => (u, [])
  | .start .. => (u, [])
  | .cancel => (u, [])

/-- One action: the updater behind it, and what the others see. -/
def step (u : WifiUpdater) : Action → WifiUpdater × List Output
  | .start host image password => u.start host image password
  | .cancel =>
    let (result, session) := u.session.cancel
    ({ u with session := session }, [.cancelled result])
  | action => u.run.elim (u, []) fun run => u.stepRun run action

end WifiUpdater

end RadioLink.Update
