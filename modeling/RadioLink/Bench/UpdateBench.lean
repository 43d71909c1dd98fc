import RadioLink.Bench.Clockwork
import RadioLink.Bench.World
import RadioLink.Update.BleUpdater

/-!
An updater over Bluetooth in a world of peripherals in memory: its runs, and the calls on the timer
that puts the display to sleep.
-/

set_option autoImplicit false

namespace RadioLink.Bench

inductive Outcome where
  | running
  | finished (result : Except LinkError Unit)
  | dropped

structure UpdateBench where
  world : World
  updater : Update.BleUpdater
  /-- What has become of the runs that have not been reported as ended, in the order of their
  starts. -/
  runs : List Outcome
  timerCalls : List Bool
  sightings : Option Nat
  notifications : Option Nat
  target : Option String
  scanDeadline : Option Nat

namespace UpdateBench

def start (world : World) (settings : Config.BleUpdate) : UpdateBench :=
  ⟨world, .initial settings, [], [], none, none, none, none⟩

def ticket : Ticket := 0

/-- The outcomes with another one for the run that is under way. -/
def settle (outcome : Outcome) : List Outcome → List Outcome
  | [] => []
  | .running :: rest => outcome :: rest
  | other :: rest => other :: settle outcome rest

/-- Takes what the updater lets the others see. -/
def takeOutput (b : UpdateBench) : Update.BleUpdater.Output → UpdateBench
  | .run operation =>
    let target := match operation with
      | .connect id => some id
      | _ => b.target
    { b with target := target, world := b.world.ask ticket target operation }
  | .giveUp => { b with world := b.world.giveUp ticket }
  | .keepAwake awake => { b with timerCalls := b.timerCalls ++ [awake] }
  | .cancelled _ => b
  | .finished result => { b with runs := settle (.finished result) b.runs }

def isSeeking (b : UpdateBench) : Bool :=
  b.updater.run.any fun run => match run.stage with
    | .seeking => true
    | _ => false

/-- Whether the run still needs its notifications. -/
def needsNotifications (b : UpdateBench) : Bool :=
  b.updater.run.any fun run => match run.stage with
    | .subscribing | .inviting _ | .listening _ | .sending .. => true
    | _ => false

def isListening (b : UpdateBench) : Bool :=
  b.updater.run.any fun run => match run.stage with
    | .listening _ => true
    | _ => false

/-- Drops the streams that the run does not need any more. -/
def tidy (b : UpdateBench) : UpdateBench :=
  let b := match b.isSeeking, b.sightings with
    | false, some number =>
      { b with
        world := b.world.modifySightings number (·.dropReceiver)
        sightings := none
        scanDeadline := none }
    | _, _ => b
  match b.needsNotifications, b.notifications with
  | false, some number =>
    { b with
      world := b.world.modifyNotifications number (·.dropReceiver)
      notifications := none }
  | _, _ => b

def act (b : UpdateBench) (action : Update.BleUpdater.Action) : UpdateBench :=
  let (updater, outputs) := b.updater.step action
  (outputs.foldl takeOutput { b with updater := updater }).tidy

/-- The time for finding a device, in whole milliseconds. -/
def scanMillis (b : UpdateBench) : Nat :=
  (b.updater.settings.scanTimeout.toNanos + 999999) / 1000000

/-- Takes an answer; some bring a stream. -/
def takeAnswer (b : UpdateBench) (answer : Gatt.Answer) : UpdateBench :=
  let scanning := b.updater.run.any fun run => match run.stage with
    | .startingScan => true
    | _ => false
  let b := { b with world := b.world.collect ticket }
  let b := match answer with
    | .ok (.stream number) =>
      if scanning then
        { b with
          sightings := some number
          scanDeadline := some (b.world.now + b.scanMillis) }
      else { b with notifications := some number }
    | _ => b
  b.act (.answer answer)

/-- Whether the run notices that it was asked to stop. -/
def noticesCancel (b : UpdateBench) : Bool :=
  b.updater.session.cancelRequested && b.updater.run.any fun run => match run.stage with
    | .poweringOn | .seeking | .connecting _ | .findingService | .findingCharacteristics
    | .openingNotifications | .subscribing | .listening _ => true
    | _ => false

def react? (b : UpdateBench) : Option UpdateBench := do
  if let some answer := b.world.answer? ticket then return b.takeAnswer answer
  if noticesCancel b then return b.act .noticeCancel
  if b.isSeeking then
    if let some (adv, world) := b.sightings.bind b.world.sighting? then
      return { b with world := world }.act (.sighting adv)
    if b.scanDeadline.any (· ≤ b.world.now) then return b.act .scanTimeout
  if b.isListening then
    if let some (n, world) := b.notifications.bind b.world.notification? then
      return { b with world := world }.act (.notification n)
  none

def clockwork : Clockwork UpdateBench where
  react? := react?
  now b := b.world.now
  nextDue? b := (b.world.nextDue?.toList ++ b.scanDeadline.toList).min?
  setClock b now := { b with world := b.world.setClock now }

def run (b : UpdateBench) (image : Bytes) : UpdateBench :=
  match b.updater.run with
  | none => { b with runs := b.runs ++ [Outcome.running] }.act (.start image)
  | some _ =>
    let (updater, outputs) := b.updater.step (.start image)
    let refused := outputs.filterMap fun
      | .finished result => some (Outcome.finished result)
      | _ => none
    { b with updater := updater, runs := b.runs ++ refused }

def cancel (b : UpdateBench) : Except LinkError Unit × UpdateBench :=
  (b.updater.session.cancel.1, b.act .cancel)

/-- Drops the latest run that has not been reported as ended. -/
def abort (b : UpdateBench) : UpdateBench :=
  { b.act .drop with runs := settle .dropped b.runs }

def isRunning : Outcome → Bool
  | .running => true
  | _ => false

/-- What has become of the runs; those that ended are reported once. -/
def takeRuns (b : UpdateBench) : List Outcome × UpdateBench :=
  (b.runs, { b with runs := b.runs.filter isRunning })

end UpdateBench

end RadioLink.Bench
