import RadioLink.Config
import RadioLink.Discovery.Tracker
import RadioLink.Gatt.Operation

/-!
The session of one scan for radios. It waits for the adapter, scans, turns sightings into events,
sweeps at regular times, and stops the scan when the adapter ends it or when nobody listens any
more. Times are nanoseconds since some origin.
-/

set_option autoImplicit false

namespace RadioLink

namespace Scan

inductive Stage where
  | poweringOn
  | starting
  /-- Sightings come in; the next sweep has a time. -/
  | watching (tracker : Tracker) (nextSweep : Nat)
  | stopping
  | ended
  | broken
  deriving DecidableEq

end Scan

structure Scan where
  settings : Config.Ble
  stage : Scan.Stage
  heard : Bool

namespace Scan

inductive Action where
  | unhear
  | noticeUnheard
  | answer (answer : Gatt.Answer) (now : Nat)
  | sighting (adv : Option Gatt.Advertisement) (now : Nat)
  | sweep (now : Nat)

inductive Output where
  | run (operation : Gatt.Operation)
  | giveUp
  | deliver (event : DiscoveryEvent)
  | endStream

private def lastInstant : Nat := 9223372036854775808 * 1000000000 - 1

/-- Whether something can be repeated at an interval from now on: the interval is not empty, and
the clock can tell when it has passed. -/
def canRepeat (now : Nat) (interval : Duration) : Bool :=
  interval.toNanos ≠ 0 && now + interval.toNanos ≤ lastInstant

/-- How late a sweep may be without those behind it being put off: five milliseconds. -/
def allowedDelay : Nat := 5000000

/-- When the sweep behind one is due: an interval behind the time that the one was due at, or behind
the one itself if it came too late. -/
def sweepBehind (interval : Duration) (due now : Nat) : Nat :=
  (if now ≤ due + allowedDelay then due else now) + interval.toNanos

def start (settings : Config.Ble) : Scan × List Output :=
  (⟨settings, .poweringOn, true⟩, [.run .powerOn])

def enter (s : Scan) (stage : Stage) : Scan :=
  { s with stage := stage }

def finish (s : Scan) : Scan × List Output :=
  (s.enter .ended, [.endStream])

/-- Stops the scan, and forgets the peripherals. -/
def stop (s : Scan) : Scan × List Output :=
  (s.enter .stopping, [.run .stopScan])

def watch (s : Scan) (now : Nat) : Scan × List Output :=
  if canRepeat now s.settings.sweepInterval then
    (s.enter (.watching (.start s.settings.staleAfter)
      (now + s.settings.sweepInterval.toNanos)), [])
  else (s.enter .broken, [.endStream])

/-- Delivers events and goes on; without a consumer an event is a reason to stop. -/
def deliver (s : Scan) (events : List DiscoveryEvent) (next : Stage) : Scan × List Output :=
  if s.heard || events.isEmpty then (s.enter next, events.map .deliver) else s.stop

/-- One action: the session behind it, and what the others see. -/
def step (s : Scan) : Action → Scan × List Output
  | .unhear => ({ s with heard := false }, [])
  | .noticeUnheard =>
    if s.heard then (s, [])
    else match s.stage with
      | .poweringOn => (s.enter .ended, [.giveUp, .endStream])
      | .watching _ _ => s.stop
      | _ => (s, [])
  | .answer answer now =>
    match s.stage, answer with
    | .poweringOn, .ok _ => (s.enter .starting, [.run (.scan Gatt.radioService)])
    | .poweringOn, .error _ => s.finish
    | .starting, .ok _ => s.watch now
    | .starting, .error _ => s.finish
    | .stopping, _ => s.finish
    | _, _ => (s, [])
  | .sighting adv now =>
    match s.stage, adv with
    | .watching _ _, none => s.stop
    | .watching tracker nextSweep, some adv =>
      let (event, tracker) := tracker.observe adv now
      s.deliver [event] (.watching tracker nextSweep)
    | _, _ => (s, [])
  | .sweep now =>
    match s.stage with
    | .watching tracker nextSweep =>
      if nextSweep ≤ now then
        let (events, tracker) := tracker.sweep now
        s.deliver events (.watching tracker (sweepBehind s.settings.sweepInterval nextSweep now))
      else (s, [])
    | _ => (s, [])

/-- When the next sweep is due, if one is. -/
def nextSweep? (s : Scan) : Option Nat :=
  match s.stage with
  | .watching _ nextSweep => some nextSweep
  | _ => none

def isWatching (s : Scan) : Bool :=
  s.nextSweep?.isSome

end Scan

end RadioLink
