import RadioLink.Event
import RadioLink.Link.State

/-!
The session of an open link. One task owns the link; callers hand it commands and a consumer listens
to its events. Whatever ends the link, the task releases what it holds, marks the connection as
disconnected, hands the terminal event to the consumer, answers who asked for the end, and turns
away the commands that are left, in this order.

A session moves by actions, each the smallest piece of work that others can fall between. An action
that the session is not ready for changes nothing.
-/

set_option autoImplicit false

namespace RadioLink.Link

/-- Why a link ends. -/
structure Cause where
  error : Option LinkError
  reconnect : Bool
  deriving DecidableEq

namespace Cause

def abandoned : Cause := ⟨none, false⟩

def unheard : Cause := ⟨some .eventStreamCancelled, true⟩

def event {M : Type} (cause : Cause) : LinkEvent M :=
  .terminal cause.error cause.reconnect

end Cause

inductive Next (Op : Type) where
  | wait
  | run (operation : Op)
  | stop (cause : Cause)

/-- How the task reacts to something: events for the consumer, and then the next thing to do. -/
structure Reaction (M Op : Type) where
  events : List (LinkEvent M)
  next : Next Op

/-- How a medium carries a link that delivers messages of a type. -/
structure Protocol (M : Type) where
  Op : Type
  Answer : Type
  Signal : Type
  Memory : Type
  opening : Next Op
  receive : Memory → Signal → Reaction M Op × Memory
  /-- Takes the answer to an operation that the task runs on its own account. -/
  resume : Memory → Answer → Reaction M Op × Memory
  /-- The bytes that are written for a payload, unless it is refused at once. -/
  pack : Bytes → Except LinkError Bytes
  write : Bytes → Op
  /-- What the caller hears of a write that failed, and why the link ends with it. -/
  failure? : Answer → Option (LinkError × Cause)
  /-- Releases what the link holds, one operation behind the other. -/
  release : Memory → List Op

/-- A caller who waits for an answer. -/
abbrev Caller := Nat

inductive Command where
  | send (caller : Caller) (bytes : Bytes)
  | disconnect (caller : Caller) (cause : Cause)

namespace Command

def caller : Command → Caller
  | .send caller _ => caller
  | .disconnect caller _ => caller

/-- What a caller hears when the link is gone: there is nothing to write to, and nothing left to
end. -/
def turnedAway : Command → Except LinkError Unit
  | .send .. => .error .notConnected
  | .disconnect .. => .ok ()

end Command

/-- The end of a link: why, and who asked for it. -/
structure Ending where
  cause : Cause
  requester : Option Caller

/-- What the task is at. -/
inductive Phase (M Op : Type) where
  | reacting (reaction : Reaction M Op)
  /-- It waits for a command, for the medium, or for the consumer to leave. -/
  | waiting
  /-- It runs an operation on its own account. -/
  | working
  | writing (caller : Caller)
  /-- It runs an operation that releases something; these operations follow. -/
  | releasing (rest : List Op) (ending : Ending)
  | released (ending : Ending)
  | marked (ending : Ending)
  /-- The consumer has the terminal event, and the stream has ended. -/
  | announced (ending : Ending)
  | answered
  | ended

variable {M : Type}

structure Session (p : Protocol M) where
  phase : Phase M p.Op
  memory : p.Memory
  /-- Commands that the task has not taken, oldest first. -/
  queue : List Command
  /-- Whether anybody can still command the task. -/
  commanded : Bool
  /-- Whether the consumer listens. -/
  heard : Bool

/-- What happens to a session. -/
inductive Action (p : Protocol M) where
  | submit (command : Command)
  /-- The last of those who can command the task leaves. -/
  | abandon
  /-- The consumer closes or drops the stream. -/
  | unhear
  | take
  | noticeAbandoned
  | noticeUnheard
  /-- Something comes in unasked. -/
  | signal (signal : p.Signal)
  /-- The operation in flight ends. -/
  | answer (answer : p.Answer)
  /-- The task goes on by itself. -/
  | advance

/-- What the others see of a session. -/
inductive Output (p : Protocol M) where
  | deliver (event : LinkEvent M)
  | endStream
  | run (operation : p.Op)
  | reply (caller : Caller) (result : Except LinkError Unit)
  | markDisconnected

namespace Session

variable {p : Protocol M}

/-- The session of a link that has just been opened. -/
def start (p : Protocol M) (memory : p.Memory) : Session p :=
  ⟨.reacting ⟨[], p.opening⟩, memory, [], true, true⟩

def enter (s : Session p) (phase : Phase M p.Op) : Session p :=
  { s with phase := phase }

/-- Releases by the given operations, one behind the other. -/
def release (s : Session p) (ending : Ending) : List p.Op → Session p × List (Output p)
  | [] => (s.enter (.released ending), [])
  | op :: rest => (s.enter (.releasing rest ending), [.run op])

def stop (s : Session p) (cause : Cause) (requester : Option Caller) :
    Session p × List (Output p) :=
  s.release ⟨cause, requester⟩ (p.release s.memory)

def proceed (s : Session p) : Next p.Op → Session p × List (Output p)
  | .wait => (s.enter .waiting, [])
  | .run op => (s.enter .working, [.run op])
  | .stop cause => s.stop cause none

def react (s : Session p) (reaction : Reaction M p.Op × p.Memory) : Session p :=
  { s with phase := .reacting reaction.1, memory := reaction.2 }

/-- Delivers the next event, or else does the next thing. An event that nobody hears ends the
link. -/
def deliver (s : Session p) (reaction : Reaction M p.Op) : Session p × List (Output p) :=
  match reaction.events with
  | [] => s.proceed reaction.next
  | event :: events =>
    if s.heard then (s.enter (.reacting { reaction with events := events }), [.deliver event])
    else s.stop .unheard none

def obey (s : Session p) : Command → Session p × List (Output p)
  | .send caller bytes => (s.enter (.writing caller), [.run (p.write bytes)])
  | .disconnect caller cause => s.stop cause (some caller)

def wrote (s : Session p) (caller : Caller) (answer : p.Answer) : Session p × List (Output p) :=
  match p.failure? answer with
  | none => (s.enter .waiting, [.reply caller (.ok ())])
  | some (error, cause) =>
    let (s, outputs) := s.stop cause none
    (s, .reply caller (.error error) :: outputs)

/-- Hands the terminal event to a consumer who listens, and ends the stream. -/
def announce (s : Session p) (ending : Ending) : Session p × List (Output p) :=
  (s.enter (.announced ending),
   (if s.heard then [.deliver ending.cause.event] else []) ++ [.endStream])

/-- The answer to a command that the task will not take. -/
def turnAway (p : Protocol M) (command : Command) : Output p :=
  .reply command.caller command.turnedAway

/-- One action: the session behind it, and what the others see. -/
def step (s : Session p) : Action p → Session p × List (Output p)
  | .submit command =>
    match s.phase with
    | .ended => (s, [turnAway p command])
    | _ => if s.commanded then ({ s with queue := s.queue ++ [command] }, []) else (s, [])
  | .abandon => ({ s with commanded := false }, [])
  | .unhear => ({ s with heard := false }, [])
  | .take =>
    match s.phase, s.queue with
    | .waiting, command :: queue => { s with queue := queue }.obey command
    | _, _ => (s, [])
  | .noticeAbandoned =>
    match s.phase, s.queue with
    | .waiting, [] => if s.commanded then (s, []) else s.stop .abandoned none
    | _, _ => (s, [])
  | .noticeUnheard =>
    match s.phase with
    | .waiting => if s.heard then (s, []) else s.stop .unheard none
    | _ => (s, [])
  | .signal signal =>
    match s.phase with
    | .waiting => (s.react (p.receive s.memory signal), [])
    | _ => (s, [])
  | .answer answer =>
    match s.phase with
    | .working => (s.react (p.resume s.memory answer), [])
    | .writing caller => s.wrote caller answer
    | .releasing rest ending => s.release ending rest
    | _ => (s, [])
  | .advance =>
    match s.phase with
    | .reacting reaction => s.deliver reaction
    | .released ending => (s.enter (.marked ending), [.markDisconnected])
    | .marked ending => s.announce ending
    | .announced ending =>
      (s.enter .answered, ending.requester.toList.map fun caller => .reply caller (.ok ()))
    | .answered => ({ s with phase := .ended, queue := [] }, s.queue.map (turnAway p))
    | _ => (s, [])

/-- Some actions, one behind the other: the session behind them, and all that the others see. -/
def run (s : Session p) : List (Action p) → Session p × List (Output p)
  | [] => (s, [])
  | action :: actions =>
    let (s, seen) := s.step action
    let (s, more) := s.run actions
    (s, seen ++ more)

/-- Whether the task holds nothing of the medium any more. -/
def isReleased (s : Session p) : Bool :=
  match s.phase with
  | .released _ | .marked _ | .announced _ | .answered | .ended => true
  | _ => false

def canAdvance (s : Session p) : Bool :=
  match s.phase with
  | .reacting _ | .released _ | .marked _ | .announced _ | .answered => true
  | _ => false

def isWaiting (s : Session p) : Bool :=
  match s.phase with
  | .waiting => true
  | _ => false

end Session

end RadioLink.Link
