/-!
The forms of the program's commands: what each one is for, its operands, and its options.
-/

set_option autoImplicit false

namespace RadioLink.CommandLine

structure Switch where
  long : String
  /-- Its letter behind one hyphen, if it has one. -/
  short : Option Char
  /-- What stands for its value, if one follows. -/
  value : Option String
  help : String
  deriving DecidableEq, Repr

structure Form where
  name : String
  about : String
  operands : List (String × String)
  switches : List Switch
  deriving DecidableEq, Repr

def programName : String := "meshlink"

def programAbout : String := "Link and firmware-update tool for Meshtastic radios"

def commonSwitches : List Switch :=
  [⟨"config", some 'c', some "CONFIG", "JSON configuration file"⟩,
   ⟨"verbose", some 'v', none, "Enable verbose logging"⟩]

/-- The option that chooses a medium, for a purpose. -/
private def mediumSwitch (purpose : String) : Switch :=
  ⟨"transport", none, some "TRANSPORT",
    purpose ++ " [default: tcp] [possible values: tcp, ble]"⟩

def discoverForm : Form :=
  ⟨"discover", "Browse for radios and print what is found", [],
    [mediumSwitch "Transport to browse",
     ⟨"seconds", none, some "SECONDS", "How long to browse for [default: 10]"⟩]⟩

def connectForm : Form :=
  ⟨"connect", "Connect and print incoming frames until interrupted",
    [("TARGET", "`host[:port]` for TCP, peripheral id for BLE")],
    [mediumSwitch "Transport to connect over"]⟩

def updateWifiForm : Form :=
  ⟨"ota-wifi", "Update firmware over WiFi",
    [("HOST", "Device host name or address"), ("FIRMWARE", "Firmware image")],
    [⟨"password", none, some "PASSWORD", "Update password, if the device asks for one"⟩]⟩

def updateBleForm : Form :=
  ⟨"ota-ble", "Update firmware over Bluetooth (first device in update mode)",
    [("FIRMWARE", "Firmware image")], []⟩

def forms : List Form :=
  [discoverForm, connectForm, updateWifiForm, updateBleForm]

end RadioLink.CommandLine
