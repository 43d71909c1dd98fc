import RadioLink.Discovery.Announcement
import RadioLink.Event

/-!
The services resolved during one discovery on the local network. Each change of a service becomes
events with which a consumer can follow the registry.
-/

set_option autoImplicit false

namespace RadioLink

/-- The resolved services and their devices, by instance. -/
structure Registry where
  /-- Instances and their devices; no instance stands twice. -/
  entries : List (String × Device)

namespace Registry

def empty : Registry := ⟨[]⟩

def find? (r : Registry) (name : String) : Option Device :=
  r.entries.lookup name

def erase (r : Registry) (name : String) : Registry :=
  ⟨r.entries.filter (·.1 ≠ name)⟩

/-- The registry with a device for an instance. -/
def insert (r : Registry) (name : String) (device : Device) : Registry :=
  ⟨(r.erase name).entries ++ [(name, device)]⟩

/-- What a consumer has to hear when an instance's device changes. A device that moved is another
device. -/
def changes (previous : Option Device) (device : Device) : List DiscoveryEvent :=
  match previous with
  | none => [.found device]
  | some old =>
    if old.id ≠ device.id then [.lost old.id, .found device]
    else if old ≠ device then [.updated device]
    else []

def resolved (r : Registry) (announcement : Announcement) : List DiscoveryEvent × Registry :=
  let device := announcement.toDevice
  (changes (r.find? announcement.name) device, r.insert announcement.name device)

/-- A service was withdrawn; one that was never resolved goes without a word. -/
def removed (r : Registry) (name : String) : Option DiscoveryEvent × Registry :=
  ((r.find? name).map fun device => .lost device.id, r.erase name)

def clear (_ : Registry) : Registry := empty

def size (r : Registry) : Nat := r.entries.length

end Registry

end RadioLink
