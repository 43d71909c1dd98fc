import RadioLink.Bench.Clockwork
import RadioLink.Bench.World

/-!
Direct calls on a world of peripherals in memory.
-/

set_option autoImplicit false

namespace RadioLink.Bench

/-- A world, and the streams that a caller holds. -/
structure DirectBench where
  world : World
  notifications : Option Nat
  sightings : Option Nat

namespace DirectBench

def start (world : World) : DirectBench := ⟨world, none, none⟩

def clockwork : Clockwork DirectBench where
  react? _ := none
  now b := b.world.now
  nextDue? b := b.world.nextDue?
  setClock b now := { b with world := b.world.setClock now }

/-- The longest time, in milliseconds, that a call is waited for. -/
def callLimit : Nat := 1000000000

/-- Makes calls together, each on a peripheral, and waits for all of them. -/
def together (b : DirectBench) (calls : List (Option String × Gatt.Operation)) :
    List Gatt.Answer × DirectBench :=
  let tickets := List.range calls.length
  let begun := (tickets.zip calls).foldl (fun w (ticket, target, operation) =>
    w.begin ticket target operation) b.world
  let landed (b : DirectBench) : Bool :=
    tickets.all fun ticket => (b.world.answer? ticket).isSome
  let b := clockwork.waitFor landed callLimit { b with world := begun }
  let answers := tickets.map fun ticket => (b.world.answer? ticket).getD (.error .timeout)
  (answers, { b with world := tickets.foldl World.giveUp b.world })

def dropNotifications (b : DirectBench) : DirectBench :=
  match b.notifications with
  | some number =>
    { b with
      world := b.world.modifyNotifications number (·.dropReceiver)
      notifications := none }
  | none => b

def dropSightings (b : DirectBench) : DirectBench :=
  match b.sightings with
  | some number =>
    { b with
      world := b.world.modifySightings number (·.dropReceiver)
      sightings := none }
  | none => b

/-- Makes a call and waits for it; a stream that it opens is held in place of an earlier one. -/
def call (b : DirectBench) (target : Option String) (operation : Gatt.Operation) :
    Gatt.Answer × DirectBench :=
  let (answers, b) := b.together [(target, operation)]
  let answer := answers.head?.getD (.error .timeout)
  match operation, answer with
  | .openNotifications, .ok (.stream number) =>
    (answer, { b.dropNotifications with notifications := some number })
  | .scan _, .ok (.stream number) =>
    (answer, { b.dropSightings with sightings := some number })
  | _, _ => (answer, b)

/-- Takes the notifications that wait, and whether they have ended. -/
def received (b : DirectBench) : Option (List Gatt.Notification × Bool) × DirectBench :=
  match b.notifications.bind fun number => b.world.notifications[number]?.map (number, ·) with
  | none => (none, b)
  | some (number, channel) =>
    let drained := { channel with queue := [] }
    (some (channel.queue, drained.isEnded),
     { b with world := b.world.modifyNotifications number fun _ => drained })

/-- Takes the sightings that wait, and whether they have ended. -/
def seen (b : DirectBench) : Option (List Gatt.Advertisement × Bool) × DirectBench :=
  match b.sightings.bind fun number => b.world.sightings[number]?.map (number, ·) with
  | none => (none, b)
  | some (number, channel) =>
    let drained := { channel with queue := [] }
    (some (channel.queue, drained.isEnded),
     { b with world := b.world.modifySightings number fun _ => drained })

end DirectBench

end RadioLink.Bench
