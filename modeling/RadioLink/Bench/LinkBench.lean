import RadioLink.Bench.Clockwork
import RadioLink.Bench.World
import RadioLink.Link.Ble
import RadioLink.Link.Connection

/-!
One connection over Bluetooth in a world of peripherals in memory: its owner's calls, the sessions
that it starts, and the streams that they deliver to.
-/

set_option autoImplicit false

namespace RadioLink.Bench

variable {M : Type}

structure Attachment (M : Type) where
  source : Nat
  inbox : Channel (LinkEvent M)

inductive Opening where
  | none
  /-- A step of it is in flight; the stream of notifications may have been opened. -/
  | running (setup : Link.Ble.Setup) (source : Option Nat)
  | done (result : Except LinkError Unit)

structure LinkBench (M : Type) (p : Link.Protocol M) where
  world : World
  target : String
  connection : Link.Connection p
  held : Bool
  attachments : List (Attachment M)
  listening : Option Nat
  opening : Opening
  replies : List (Link.Caller × Except LinkError Unit)
  nextCaller : Link.Caller

namespace LinkBench

variable {format : Format M}

abbrev Of (format : Format M) : Type := LinkBench M (Link.Ble.protocol format)

def start (format : Format M) (world : World) (target : String) : Of format :=
  ⟨world, target, .initial _, true, [], none, .none, [], 0⟩

def openingTicket : Ticket := 0

def ticketOf (index : Nat) : Ticket := index + 1

def takeOutput (b : Of format) (index : Nat) :
    Link.Output (Link.Ble.protocol format) → Of format
  | .deliver event =>
    { b with
      attachments := b.attachments.modify index fun a =>
        { a with inbox := (a.inbox.send event).2 } }
  | .endStream =>
    { b with
      attachments := b.attachments.modify index fun a => { a with inbox := a.inbox.dropSender } }
  | .run operation =>
    { b with world := b.world.ask (ticketOf index) (some b.target) operation }
  | .reply caller result => { b with replies := b.replies ++ [(caller, result)] }
  | .markDisconnected => b

/-- Takes all that a session lets the others see. -/
def takeOutputs (b : Of format) (index : Nat)
    (outputs : List (Link.Output (Link.Ble.protocol format))) : Of format :=
  outputs.foldl (fun b output => b.takeOutput index output) b

/-- Drops the notifications of a session that has ended. -/
def tidy (b : Of format) (index : Nat) : Of format :=
  match b.connection.sessions[index]?, b.attachments[index]? with
  | some session, some attachment =>
    match session.phase with
    | .ended =>
      { b with world := b.world.modifyNotifications attachment.source (·.dropReceiver) }
    | _ => b
  | _, _ => b

def act (b : Of format) (index : Nat) (action : Link.Action (Link.Ble.protocol format)) :
    Of format :=
  let (connection, outputs) := b.connection.act index action
  ({ b with connection := connection }.takeOutputs index outputs).tidy index

def reactWaiting (b : Of format) (index : Nat)
    (session : Link.Session (Link.Ble.protocol format)) (source : Nat) : Option (Of format) :=
  if !session.queue.isEmpty then some (b.act index .take)
  else match b.world.notification? source with
    | some (n, world) => some ({ b with world := world }.act index (.signal n))
    | none =>
      if !session.heard then some (b.act index .noticeUnheard)
      else if !session.commanded then some (b.act index .noticeAbandoned)
      else none

def reactSession (b : Of format) (index : Nat) : Option (Of format) := do
  let session ← b.connection.sessions[index]?
  let attachment ← b.attachments[index]?
  if session.canAdvance then return b.act index .advance
  match b.world.answer? (ticketOf index) with
  | some answer =>
    return { b with world := b.world.collect (ticketOf index) }.act index (.answer answer)
  | none =>
    if session.isWaiting then b.reactWaiting index session attachment.source else none

/-- Asks for the operation of a step of opening the link. -/
def askStep (b : Of format) (setup : Link.Ble.Setup) (source : Option Nat) : Of format :=
  { b with
    opening := .running setup source
    world := b.world.ask openingTicket (some b.target) (setup.operation b.target) }

/-- Nobody takes the notifications that were opened. -/
def dropSource (b : Of format) : Option Nat → Of format
  | some number => { b with world := b.world.modifyNotifications number (·.dropReceiver) }
  | none => b

def stepOpening (b : Of format) (setup : Link.Ble.Setup) (source : Option Nat)
    (answer : Gatt.Answer) : Of format :=
  let source := match answer with
    | .ok (.stream number) => some number
    | _ => source
  match setup.step answer with
  | .next (.givingUp error) => (b.dropSource source).askStep (.givingUp error) none
  | .next setup => b.askStep setup source
  | .failed error =>
    { b.dropSource source with
      connection := b.connection.failed
      opening := .done (.error error) }
  | .opened hasLog =>
    let index := b.connection.sessions.length
    { b with
      connection := b.connection.opened hasLog
      attachments := b.attachments ++ [⟨source.getD 0, .unbounded⟩]
      listening := some index
      opening := .done (.ok ()) }

def reactOpening (b : Of format) : Option (Of format) :=
  match b.opening with
  | .running setup source =>
    (b.world.answer? openingTicket).map fun answer =>
      { b with world := b.world.collect openingTicket }.stepOpening setup source answer
  | _ => none

def react? (b : Of format) : Option (Of format) :=
  b.reactOpening <|> (List.range b.attachments.length).reverse.findSome? b.reactSession

def clockwork (format : Format M) : Clockwork (Of format) where
  react? := react?
  now b := b.world.now
  nextDue? b := b.world.nextDue?
  setClock b now := { b with world := b.world.setClock now }

/-- The longest time, in milliseconds, that a call is waited for. -/
def callLimit : Nat := 3600000

/-- Whether the call to open the link has ended. -/
def openingDone (b : Of format) : Bool :=
  match b.opening with
  | .done _ => true
  | _ => false

def giveUpOpening (b : Of format) : Of format :=
  match b.opening with
  | .running _ source =>
    { b.dropSource source with
      opening := .none
      world := b.world.giveUp openingTicket }
  | _ => { b with opening := .none }

/-- Opens the link: its result, or `none` if the call took too long and was given up. -/
def connect (b : Of format) : Option (Except LinkError Unit) × Of format :=
  match b.connection.open? with
  | .error error => (some (.error error), b)
  | .ok connection =>
    let b := (clockwork format).waitFor openingDone callLimit
      ({ b with connection := connection }.askStep .connecting none)
    match b.opening with
    | .done result => (some result, { b with opening := .none })
    | _ => (none, b.giveUpOpening)

def submit (b : Of format) (request : Link.Request) : Of format :=
  let caller := b.nextCaller
  let (connection, outputs) := b.connection.ask caller request
  { b with connection := connection, nextCaller := caller + 1 }.takeOutputs
    (b.connection.current.getD 0) outputs

/-- Makes calls together and waits for them: the result of each, or `none` if it took too long. -/
def together (b : Of format) (calls : List Link.Request) :
    List (Option (Except LinkError Unit)) × Of format :=
  let callers := (List.range calls.length).map (b.nextCaller + ·)
  let answered (b : Of format) : Bool := callers.all fun caller => (b.replies.lookup caller).isSome
  let b := (clockwork format).waitFor answered callLimit (calls.foldl submit b)
  (callers.map fun caller => b.replies.lookup caller, b)

/-- The consumer drops the stream that is held. -/
def dropEvents (b : Of format) : Of format :=
  match b.listening with
  | none => b
  | some index =>
    { b with
      listening := none
      attachments := b.attachments.modify index fun a => { a with inbox := a.inbox.dropReceiver }
      }.act index .unhear

def dropConnection (b : Of format) : Of format :=
  { b with held := false, connection := b.connection.letGo }

/-- Takes what the held stream has: the events, and whether it has ended. -/
def takeEvents (b : Of format) : Option (List (LinkEvent M) × Bool) × Of format :=
  match b.listening.bind fun index => b.attachments[index]?.map (index, ·) with
  | none => (none, b)
  | some (index, attachment) =>
    let drained := { attachment.inbox with queue := [] }
    (some (attachment.inbox.queue, drained.isEnded),
     { b with attachments := b.attachments.set index { attachment with inbox := drained } })

end LinkBench

end RadioLink.Bench
