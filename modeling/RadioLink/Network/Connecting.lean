import RadioLink.Link.Connection
import RadioLink.Network

/-!
One connection over TCP on a network. Writes on an open link succeed.
-/

set_option autoImplicit false

namespace RadioLink.Network

variable {M : Type}

/-- A connection over TCP and the network around it. -/
structure Connecting (format : Format M) where
  network : Network
  target : Target
  connection : Link.Connection (Link.Tcp.protocol format)
  held : Bool
  incoming : List Link.Tcp.Incoming
  /-- The stream that the consumer listens to, if it is held. -/
  inbox : Option (Channel (LinkEvent M))
  replies : List (Link.Caller × Except LinkError Unit)
  nextCaller : Link.Caller

namespace Connecting

variable {format : Format M}

def start (format : Format M) (network : Network) (target : Target) : Connecting format :=
  ⟨network, target, .initial _, true, [], none, [], 0⟩

/-- What may happen to the latest session next. -/
private def nextAction? (b : Connecting format) :
    Option (Link.Action (Link.Tcp.protocol format)) := do
  let session ← b.connection.sessions.getLast?
  match session.phase with
  | .reacting _ | .released _ | .marked _ | .announced _ | .answered => return .advance
  | .working | .writing _ | .releasing .. => return .answer (.ok ())
  | .ended => none
  | .waiting =>
    if !session.queue.isEmpty then return .take
    match b.incoming with
    | signal :: _ => return .signal signal
    | [] =>
      if !session.heard then return .noticeUnheard
      if !session.commanded then return .noticeAbandoned
      none

/-- Takes what the latest session lets the others see. -/
private def takeOutput (b : Connecting format) :
    Link.Output (Link.Tcp.protocol format) → Connecting format
  | .deliver event => { b with inbox := b.inbox.map fun c => (c.send event).2 }
  | .endStream => { b with inbox := b.inbox.map (·.dropSender) }
  | .reply caller result => { b with replies := b.replies ++ [(caller, result)] }
  | _ => b

private def act (b : Connecting format) (action : Link.Action (Link.Tcp.protocol format)) :
    Connecting format :=
  let (connection, outputs) := b.connection.act (b.connection.sessions.length - 1) action
  let incoming := match action with
    | .signal _ => b.incoming.drop 1
    | _ => b.incoming
  outputs.foldl takeOutput { b with connection := connection, incoming := incoming }

/-- Runs until nothing is ready, for at most so many actions. -/
private def settleFor : Nat → Connecting format → Connecting format
  | 0, b => b
  | fuel + 1, b =>
    match b.nextAction? with
    | some action => (b.act action).settleFor fuel
    | none => b

def settle (b : Connecting format) : Connecting format :=
  b.settleFor 10000000

def connect (b : Connecting format) : Except LinkError Unit × Connecting format :=
  match b.connection.open? with
  | .error error => (.error error, b)
  | .ok connection =>
    match Link.Tcp.dialError? b.target (.ofMillis Config.defaultTimeoutMillis)
        (b.network.dial b.target) with
    | some error => (.error error, { b with connection := connection.failed })
    | none =>
      (.ok (), { b with
        connection := connection.opened .empty
        incoming := b.network.incoming
        inbox := some .unbounded })

private def submit (b : Connecting format) (request : Link.Request) : Connecting format :=
  let caller := b.nextCaller
  let (connection, outputs) := b.connection.ask caller request
  outputs.foldl takeOutput { b with connection := connection, nextCaller := caller + 1 }

def together (b : Connecting format) (calls : List Link.Request) :
    List (Option (Except LinkError Unit)) × Connecting format :=
  let callers := (List.range calls.length).map (b.nextCaller + ·)
  let b := (calls.foldl submit b).settle
  (callers.map fun caller => b.replies.lookup caller, b)

/-- The consumer drops the stream that is held. -/
def dropEvents (b : Connecting format) : Connecting format :=
  { b.act .unhear with inbox := none }

def dropConnection (b : Connecting format) : Connecting format :=
  { b with held := false, connection := b.connection.letGo }

/-- Takes what the held stream has: the events, and whether it has ended. -/
def takeEvents (b : Connecting format) : Option (List (LinkEvent M) × Bool) × Connecting format :=
  match b.inbox with
  | none => (none, b)
  | some inbox =>
    let drained := { inbox with queue := [] }
    (some (inbox.queue, drained.isEnded), { b with inbox := some drained })

end Connecting

end RadioLink.Network
