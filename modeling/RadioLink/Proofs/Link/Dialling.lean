import RadioLink.Bench.LinkBench
import RadioLink.Network.Connecting
import RadioLink.Proofs.Link.Media

/-!
A connection and its owner. To open the link, the owner lends the connection to an attempt, which
asks the medium for one thing after the other, until it has an open link or a failure. Only then can
the owner make another call; the sessions of earlier links move all the while.
-/

set_option autoImplicit false
set_option relaxedAutoImplicit false

namespace RadioLink.Link

variable {M : Type} {p : Protocol M}

/-- Where an answer gets an attempt to open a link. -/
inductive Course (Stage Memory : Type) where
  | next (stage : Stage)
  | opened (memory : Memory)
  | failed (error : LinkError)

/-- How a link is opened, one answered operation behind the other. -/
structure Dial (p : Protocol M) where
  Stage : Type
  Answer : Type
  first : Stage
  proceed : Stage → Answer → Course Stage p.Memory

def Tcp.dial (format : Format M) (target : Target) (allowed : Duration) :
    Dial (Tcp.protocol format) where
  Stage := Unit
  Answer := Tcp.Dialled
  first := ()
  proceed _ dialled :=
    match Tcp.dialError? target allowed dialled with
    | some error => .failed error
    | none => .opened .empty

def Ble.dial (format : Format M) : Dial (Ble.protocol format) where
  Stage := Ble.Setup
  Answer := Gatt.Answer
  first := .connecting
  proceed setup answer :=
    match setup.step answer with
    | .next setup => .next setup
    | .opened hasLog => .opened hasLog
    | .failed error => .failed error

def dialOver (format : Format M) (target : Target) (allowed : Duration) :
    (medium : Medium) → Dial (protocolOver format medium)
  | .tcp => Tcp.dial format target allowed
  | .ble => Ble.dial format

/-- A connection, and the stage of the attempt that it is lent to, if any. -/
structure Owner (d : Dial p) where
  connection : Connection p
  attempt : Option d.Stage

inductive Doing (d : Dial p) where
  | connect
  /-- What the attempt has asked for is answered. -/
  | dialled (answer : d.Answer)
  | call (caller : Caller) (request : Request)
  /-- A session moves, in whatever way. -/
  | move (index : Nat) (action : Action p)

inductive Notice (p : Protocol M) where
  | connected (result : Except LinkError Unit)
  /-- What a call shows at once. -/
  | called (output : Output p)
  | moved (index : Nat) (output : Output p)

namespace Owner

variable {d : Dial p}

def initial (d : Dial p) : Owner d := ⟨.initial p, none⟩

def dialled (c : Connection p) : Course d.Stage p.Memory → Owner d × List (Notice p)
  | .next stage => (⟨c, some stage⟩, [])
  | .opened memory => (⟨c.opened memory, none⟩, [.connected (.ok ())])
  | .failed error => (⟨c.failed, none⟩, [.connected (.error error)])

/-- One thing that happens. While the connection is lent to an attempt, there is no calling it. -/
def step (o : Owner d) : Doing d → Owner d × List (Notice p)
  | .connect =>
    match o.attempt with
    | some _ => (o, [])
    | none =>
      match o.connection.open? with
      | .error error => (o, [.connected (.error error)])
      | .ok connection => (⟨connection, some d.first⟩, [])
  | .dialled answer =>
    match o.attempt with
    | some stage => dialled o.connection (d.proceed stage answer)
    | none => (o, [])
  | .call caller request =>
    match o.attempt with
    | some _ => (o, [])
    | none =>
      let (connection, outputs) := o.connection.ask caller request
      (⟨connection, none⟩, outputs.map .called)
  | .move index action =>
    let (connection, outputs) := o.connection.act index action
    (⟨connection, o.attempt⟩, outputs.map (.moved index))

def run (o : Owner d) : List (Doing d) → Owner d × List (Notice p)
  | [] => (o, [])
  | doing :: doings =>
    let (o, seen) := o.step doing
    let (o, more) := o.run doings
    (o, seen ++ more)

end Owner

end RadioLink.Link

namespace RadioLink

variable {M : Type} {format : Format M}

theorem Network.Connecting.run_connect (b : Network.Connecting format) :
    (Link.Owner.run ⟨b.connection, none⟩ [.connect, .dialled (b.network.dial b.target)] :
        Link.Owner (Link.Tcp.dial format b.target (.ofMillis Config.defaultTimeoutMillis)) × _) =
      (⟨b.connect.2.connection, none⟩, [.connected b.connect.1]) := by
  simp only [Network.Connecting.connect]
  rcases hopen : b.connection.open? with error | connection
  · simp [Link.Owner.run, Link.Owner.step, hopen]
  · rcases hdial : Link.Tcp.dialError? b.target (.ofMillis Config.defaultTimeoutMillis)
      (b.network.dial b.target) with _ | error
    all_goals
      simp [Link.Owner.run, Link.Owner.step, hopen, Link.Owner.dialled, Link.Tcp.dial, hdial]

namespace Bench

private def Opening.stage? : Opening → Option Link.Ble.Setup
  | .running setup _ => some setup
  | .none | .done _ => Option.none

private def Opening.result? : Opening → Option (Except LinkError Unit)
  | .done result => some result
  | .none | .running .. => Option.none

theorem LinkBench.dialled_stepOpening (b : LinkBench.Of format) (setup : Link.Ble.Setup)
    (source : Option Nat) (answer : Gatt.Answer) :
    (Link.Owner.dialled b.connection ((Link.Ble.dial format).proceed setup answer) :
        Link.Owner (Link.Ble.dial format) × _) =
      (⟨(b.stepOpening setup source answer).connection,
          (b.stepOpening setup source answer).opening.stage?⟩,
        (b.stepOpening setup source answer).opening.result?.toList.map .connected) := by
  have hdrop : ∀ source, (b.dropSource source).connection = b.connection := by
    intro source
    cases source <;> rfl
  simp only [LinkBench.stepOpening, Link.Ble.dial]
  rcases hstep : setup.step answer with next | hasLog | error
  · cases next with
    | givingUp error =>
      simp [Link.Owner.dialled, LinkBench.askStep, Opening.stage?, Opening.result?, hdrop]
    | _ => rfl
  · rfl
  · simp [Link.Owner.dialled, Opening.stage?, Opening.result?]

end Bench

end RadioLink
