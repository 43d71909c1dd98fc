import RadioLink.Channel
import RadioLink.Device

/-!
Events that a link and a discovery deliver to their consumer.
-/

set_option autoImplicit false

namespace RadioLink

/-- One occurrence on an open link. Messages and log lines may repeat; each of the others ends the
link. -/
inductive LinkEvent (M : Type) where
  | message (m : M)
  | log (line : String)
  /-- The link was closed without an error. -/
  | closed (reconnect : Bool)
  | failed (error : LinkError)
  | failedForGood (error : LinkError)
  deriving DecidableEq

namespace LinkEvent

variable {M : Type}

def terminal (error : Option LinkError) (reconnect : Bool) : LinkEvent M :=
  match error, reconnect with
  | some e, true => .failed e
  | some e, false => .failedForGood e
  | none, reconnect => .closed reconnect

def isTerminal : LinkEvent M → Bool
  | .message _ => false
  | .log _ => false
  | _ => true

/-- Whether the link should be opened again, if the event ends it. -/
def reconnect? : LinkEvent M → Option Bool
  | .message _ => none
  | .log _ => none
  | .closed reconnect => some reconnect
  | .failed _ => some true
  | .failedForGood _ => some false

/-- The event that ends a link is the last one, whatever ended it. -/
@[simp] theorem isTerminal_terminal (error : Option LinkError) (reconnect : Bool) :
    (terminal error reconnect : LinkEvent M).isTerminal = true := by
  cases error <;> cases reconnect <;> rfl

end LinkEvent

/-- A change in the set of devices within reach. -/
inductive DiscoveryEvent where
  | found (device : Device)
  | updated (device : Device)
  | lost (id : DeviceId)
  deriving DecidableEq

/-- The identifier of the device that an event is about. -/
def DiscoveryEvent.deviceId : DiscoveryEvent → DeviceId
  | .found device => device.id
  | .updated device => device.id
  | .lost id => id

end RadioLink
