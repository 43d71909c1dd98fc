import RadioLink.Config
import RadioLink.Device

/-!
Which connection a device gets: what a transport dials for it, and the devices it makes of strings
entered by hand.
-/

set_option autoImplicit false

namespace RadioLink.Transport

def tcpTarget (config : Config.Tcp) (device : Device) : Except LinkError Target :=
  if device.medium ≠ .tcp then
    .error (.connectionFailed (device.name ++ " is not a TCP device"))
  else match Target.parse device.identifier config.defaultPort with
    | .ok target => .ok target
    | .error _ =>
      .error (.connectionFailed ("invalid identifier format: " ++ device.identifier))

/-- The device of a string entered by hand, if the TCP transport can dial it. -/
def tcpManualDevice? (config : Config.Tcp) (input : String) : Option Device :=
  (Device.manual input config.defaultPort).toOption

/-- The peripheral that the Bluetooth transport connects to for a device. -/
def blePeripheral (device : Device) : Except LinkError String :=
  if device.medium ≠ .ble then
    .error (.connectionFailed (device.name ++ " is not a BLE device"))
  else .ok device.identifier

/-- The Bluetooth transport makes no devices of strings. -/
def bleManualDevice? (_ : String) : Option Device := none

end RadioLink.Transport
