import RadioLink.Bench.Clockwork
import RadioLink.Bench.World
import RadioLink.Discovery.Scan

/-!
Scans for radios in a world of peripherals in memory. Each discovery starts a session of its own;
only the stream of the latest is held.
-/

set_option autoImplicit false

namespace RadioLink.Bench

/-- A session of a scan and what it is attached to. -/
structure Scanning where
  scan : Scan
  /-- The stream of sightings that it takes, once the scan has started. -/
  source : Option Nat
  inbox : Channel DiscoveryEvent

structure ScanBench where
  world : World
  settings : Config.Ble
  sessions : List Scanning
  listening : Option Nat

namespace ScanBench

def start (world : World) (settings : Config.Ble) : ScanBench := ⟨world, settings, [], none⟩

def nanos (millis : Nat) : Nat := 1000000 * millis

def takeOutput (b : ScanBench) (index : Nat) : Scan.Output → ScanBench
  | .run operation => { b with world := b.world.ask index none operation }
  | .giveUp => { b with world := b.world.giveUp index }
  | .deliver event =>
    { b with
      sessions := b.sessions.modify index fun s => { s with inbox := (s.inbox.send event).2 } }
  | .endStream =>
    { b with
      sessions := b.sessions.modify index fun s => { s with inbox := s.inbox.dropSender }
      world := match (b.sessions[index]?).bind (·.source) with
        | some number => b.world.modifySightings number (·.dropReceiver)
        | none => b.world }

/-- Takes all that a session lets the others see. -/
def takeOutputs (b : ScanBench) (index : Nat) (outputs : List Scan.Output) : ScanBench :=
  outputs.foldl (fun b output => b.takeOutput index output) b

def act (b : ScanBench) (index : Nat) (action : Scan.Action) : ScanBench :=
  match b.sessions[index]? with
  | none => b
  | some session =>
    let (scan, outputs) := session.scan.step action
    { b with sessions := b.sessions.set index { session with scan := scan } }.takeOutputs index
      outputs

/-- Takes an answer; one to the start of a scan brings its stream. -/
def takeAnswer (b : ScanBench) (index : Nat) (answer : Gatt.Answer) : ScanBench :=
  let b := match answer with
    | .ok (.stream number) =>
      { b with sessions := b.sessions.modify index fun s => { s with source := some number } }
    | _ => b
  { b with world := b.world.collect index }.act index (.answer answer (nanos b.world.now))

def reactWatching (b : ScanBench) (index : Nat) (session : Scanning) : Option ScanBench :=
  match session.source.bind b.world.sighting? with
  | some (adv, world) =>
    some ({ b with world := world }.act index (.sighting adv (nanos b.world.now)))
  | none =>
    if session.scan.nextSweep?.any (· ≤ nanos b.world.now) then
      some (b.act index (.sweep (nanos b.world.now)))
    else none

/-- Whether a session notices that its consumer has left. -/
def noticesUnheard (scan : Scan) : Bool :=
  !scan.heard && match scan.stage with
    | .poweringOn | .watching _ _ => true
    | _ => false

def reactSession (b : ScanBench) (index : Nat) : Option ScanBench := do
  let session ← b.sessions[index]?
  match b.world.answer? index with
  | some answer => return b.takeAnswer index answer
  | none =>
    if session.scan.isWatching then
      if let some b := b.reactWatching index session then return b
    if noticesUnheard session.scan then return b.act index .noticeUnheard
    none

/-- One reaction to something that is ready; the latest session comes first. -/
def react? (b : ScanBench) : Option ScanBench :=
  (List.range b.sessions.length).reverse.findSome? b.reactSession

def nextDue? (b : ScanBench) : Option Nat :=
  let sweeps := b.sessions.filterMap fun s =>
    s.scan.nextSweep?.map fun nanos => (nanos + 999999) / 1000000
  (b.world.nextDue?.toList ++ sweeps).min?

def clockwork : Clockwork ScanBench where
  react? := react?
  now b := b.world.now
  nextDue? := nextDue?
  setClock b now := { b with world := b.world.setClock now }

/-- The consumer drops the stream that is held. -/
def dropEvents (b : ScanBench) : ScanBench :=
  match b.listening with
  | none => b
  | some index =>
    { b with
      listening := none
      sessions := b.sessions.modify index fun s => { s with inbox := s.inbox.dropReceiver }
      }.act index .unhear

/-- Starts a session, whose stream is held from now on. -/
def discover (b : ScanBench) : ScanBench :=
  let b := b.dropEvents
  let (scan, outputs) := Scan.start b.settings
  let index := b.sessions.length
  let session : Scanning := ⟨scan, none, .unbounded⟩
  { b with sessions := b.sessions ++ [session], listening := some index }.takeOutputs index
    outputs

/-- Takes what the held stream has: the events, and whether it has ended. -/
def takeEvents (b : ScanBench) : (List DiscoveryEvent × Bool) × ScanBench :=
  match b.listening.bind fun index => b.sessions[index]?.map (index, ·) with
  | none => (([], false), b)
  | some (index, session) =>
    let drained := { session.inbox with queue := [] }
    ((session.inbox.queue, drained.isEnded),
     { b with sessions := b.sessions.set index { session with inbox := drained } })

end ScanBench

end RadioLink.Bench
