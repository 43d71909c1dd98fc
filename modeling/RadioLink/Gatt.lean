import RadioLink.Device

/-!
What Bluetooth links and updates say to a radio stack: the services and characteristics of radios
and of devices in update mode, advertisements, notifications, and kinds of writes.
-/

set_option autoImplicit false

namespace RadioLink.Gatt

def radioService : Uuid := .ofNat 0x6ba1b21815a8461f9fa85dcae273eafd

def toRadio : Uuid := .ofNat 0xf75c76d2129e4dada1dd7866124401e7

/-- Characteristic for packets from the radio, read until it is empty. -/
def fromRadio : Uuid := .ofNat 0x2c55e69e499311edb8780242ac120002

/-- Characteristic that notifies of waiting packets. -/
def packetCounter : Uuid := .ofNat 0xed9da18ca8004f66a670aa7547e34453

def logLine : Uuid := .ofNat 0x5a3d6e4906e644239944e9de8cdf9547

def updateService : Uuid := .ofNat 0x4fafc2011fb5459e8fccc5c9c331914b

/-- Characteristic that notifies of the state of an update. -/
def updateStatus : Uuid := .ofNat 0x62ec02723ec511ebb3780242ac130003

/-- Characteristic for the invitation and the image. -/
def updateData : Uuid := .ofNat 0x62ec02723ec511ebb3780242ac130005

/-- The characteristics of a radio and their names in messages. -/
private def characteristicNames : List (Uuid × String) :=
  [(toRadio, "TORADIO"), (fromRadio, "FROMRADIO"), (packetCounter, "FROMNUM"),
   (logLine, "LOGRADIO")]

/-- The name of a characteristic of a radio in messages. -/
def characteristicName (characteristic : Uuid) : String :=
  (characteristicNames.lookup characteristic).getD "UNKNOWN"

structure Advertisement where
  id : String
  name : Option String
  rssi : Option Int16
  deriving DecidableEq

/-- The device that an advertisement describes. -/
def Advertisement.toDevice (adv : Advertisement) : Device :=
  ⟨.ofPeripheral adv.id, adv.name.getD "Unknown", .ble, adv.id, false, adv.rssi⟩

structure Notification where
  characteristic : Uuid
  value : Bytes
  deriving DecidableEq

inductive WriteKind where
  | withResponse
  | withoutResponse
  deriving DecidableEq, Repr

def WriteKind.title : WriteKind → String
  | .withResponse => "with-response"
  | .withoutResponse => "without-response"

end RadioLink.Gatt
