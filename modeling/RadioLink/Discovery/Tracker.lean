import RadioLink.Duration
import RadioLink.Event
import RadioLink.Gatt

/-!
The peripherals seen during one scan. A peripheral that has not been seen for longer than a limit is
lost at the next sweep. Times are nanoseconds since some origin.
-/

set_option autoImplicit false

namespace RadioLink

structure Sighting where
  peripheral : String
  device : DeviceId
  seen : Nat
  deriving DecidableEq

structure Tracker where
  staleAfter : Duration
  sightings : List Sighting
  deriving DecidableEq

namespace Tracker

def start (staleAfter : Duration) : Tracker := ⟨staleAfter, []⟩

def tracks (t : Tracker) (peripheral : String) : Bool :=
  t.sightings.any (·.peripheral = peripheral)

def observe (t : Tracker) (adv : Gatt.Advertisement) (now : Nat) : DiscoveryEvent × Tracker :=
  let device := adv.toDevice
  let others := t.sightings.filter (·.peripheral ≠ adv.id)
  (if t.tracks adv.id then .updated device else .found device,
   { t with sightings := others ++ [⟨adv.id, device.id, now⟩] })

/-- Whether a sighting is recent enough; one in the future is. -/
def isFresh (t : Tracker) (now : Nat) (s : Sighting) : Bool :=
  now - s.seen ≤ t.staleAfter.toNanos

def sweep (t : Tracker) (now : Nat) : List DiscoveryEvent × Tracker :=
  ((t.sightings.filter (!t.isFresh now ·)).map fun s => .lost s.device,
   { t with sightings := t.sightings.filter (t.isFresh now ·) })

def clear (t : Tracker) : Tracker := start t.staleAfter

def size (t : Tracker) : Nat := t.sightings.length

def isEmpty (t : Tracker) : Bool := t.sightings.isEmpty

end Tracker

end RadioLink
