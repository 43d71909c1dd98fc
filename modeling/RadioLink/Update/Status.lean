import RadioLink.Error

/-!
The status of an update that is shown to people, and the session that keeps it: at most one run at a
time, and cancelling unless the image is on its way.
-/

set_option autoImplicit false

namespace RadioLink.Update

inductive Phase where
  | idle
  | waitingForConnection
  | connected
  | preparing
  | transferring
  | completed
  | failed
  deriving DecidableEq, Repr

namespace Phase

def all : List Phase :=
  [.idle, .waitingForConnection, .connected, .preparing, .transferring, .completed, .failed]

def title : Phase → String
  | .idle => "idle"
  | .waitingForConnection => "waiting for connection"
  | .connected => "connected"
  | .preparing => "preparing"
  | .transferring => "transferring"
  | .completed => "completed"
  | .failed => "error"

def isFinished : Phase → Bool
  | .completed => true
  | .failed => true
  | _ => false

end Phase

inductive Progress where
  | nothing
  | remaining (left total : Nat)
  | sent (count total : Nat)
  | everything
  deriving DecidableEq, Repr

private def clampPercent (x : Float) : Float :=
  if x < 0 then 0 else if 100 < x then 100 else x

def Progress.percent : Progress → Float
  | .nothing => 0
  | .remaining left total => clampPercent (100 * (1 - left.toFloat / total.toFloat))
  | .sent count total => clampPercent (100 * count.toFloat / total.toFloat)
  | .everything => 100

structure Status where
  phase : Phase
  progress : Progress
  message : String
  deviceName : Option String
  deriving DecidableEq, Repr

def Status.initial : Status := ⟨.idle, .nothing, "", none⟩

/-- The updates of one updater: the status of the last one, whether one runs, and whether it has
been asked to stop. -/
structure Session where
  status : Status
  running : Bool
  cancelRequested : Bool
  deriving DecidableEq, Repr

namespace Session

def initial : Session := ⟨.initial, false, false⟩

/-- Claims the session for an update; refused while another one runs. A request to stop that was
meant for an earlier update is forgotten. -/
def start (s : Session) : Except LinkError Session :=
  if s.running then .error .updateInProgress
  else .ok ⟨⟨.waitingForConnection, .nothing, "Connecting...", none⟩, true, false⟩

def setPhase (s : Session) (phase : Phase) (message : String) : Session :=
  { s with status := { s.status with phase := phase, message := message } }

def setProgress (s : Session) (progress : Progress) : Session :=
  { s with status := { s.status with progress := progress } }

def setDeviceName (s : Session) (name : String) : Session :=
  { s with status := { s.status with deviceName := some name } }

/-- Shows that the update failed, in the words of the error. -/
def fail (s : Session) (error : LinkError) : Session :=
  s.setPhase .failed error.message

/-- Shows the result of an update; a success in these words. -/
def settle (s : Session) (message : String) : Except LinkError Unit → Session
  | .ok () => s.setPhase .completed message
  | .error error => s.fail error

/-- Asks a running update to stop; refused while the image is on its way. -/
def cancel (s : Session) : Except LinkError Unit × Session :=
  if s.status.phase = .transferring then (.error .transferInFlight, s)
  else if s.running then (.ok (), { s with cancelRequested := true })
  else (.ok (), s)

/-- The update that claimed the session is over, or has been given up. -/
def release (s : Session) : Session :=
  { s with running := false }

end Session

end RadioLink.Update
