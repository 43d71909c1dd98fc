import RadioLink.Duration
import RadioLink.Error
import RadioLink.Net.IpAddress

/-!
Settings of the transports and of both kinds of update, with their defaults and the check that the
protocols can work with them.
-/

set_option autoImplicit false

namespace RadioLink

/-- The version of the protocols' settings and of the program. -/
def version : String := "0.1.0"

namespace Config

def defaultTcpPort : UInt16 := 4403

/-- Service type that radios advertise on the local network. -/
def radioServiceType : String := "_meshtastic._tcp.local."

/-- Port on which a device awaits invitations to an update over WiFi. -/
def wifiUpdatePort : UInt16 := 3232

/-- Octets of a chunk over WiFi, which fit into a common packet. -/
def wifiChunkSize : UInt64 := 1460

/-- Octets of a Bluetooth write that are not data. -/
def writeOverhead : Nat := 3

def defaultTimeoutMillis : Nat := 10000

structure Tcp where
  defaultPort : UInt16 := defaultTcpPort
  connectTimeout : Duration := .ofMillis defaultTimeoutMillis
  serviceType : String := radioServiceType
  deriving DecidableEq

structure Ble where
  /-- A device is lost after this long without an advertisement. -/
  staleAfter : Duration := .ofSecs 30
  sweepInterval : Duration := .ofSecs 15
  maxWriteLength : UInt64 := 244
  connectTimeout : Duration := .ofMillis defaultTimeoutMillis
  deriving DecidableEq

structure WifiUpdate where
  devicePort : UInt16 := wifiUpdatePort
  bindAddress : Net.IpAddress := .v4 .unspecified
  chunkSize : UInt64 := wifiChunkSize
  retryInterval : Duration := .ofSecs 2
  handshakeTimeout : Duration := .ofSecs 30
  acceptTimeout : Duration := .ofSecs 60
  settleDelay : Duration := .ofSecs 3
  progressEvery : UInt64 := 10
  deriving DecidableEq

structure BleUpdate where
  scanTimeout : Duration := .ofSecs 10
  chunksPerAck : UInt64 := 1
  deriving DecidableEq

end Config

structure Config where
  tcp : Config.Tcp := {}
  ble : Config.Ble := {}
  wifiUpdate : Config.WifiUpdate := {}
  bleUpdate : Config.BleUpdate := {}
  deriving DecidableEq

namespace Config

instance : Inhabited Config := ⟨{}⟩

/-- Refuses settings that the protocols cannot work with; of several faults the first of this list
is reported. -/
def validate (config : Config) : Except LinkError Unit :=
  if config.wifiUpdate.chunkSize = 0 then
    .error (.invalidConfig "wifi_ota.chunk_size must be non-zero")
  else if config.wifiUpdate.progressEvery = 0 then
    .error (.invalidConfig "wifi_ota.progress_every_chunks must be non-zero")
  else if config.bleUpdate.chunksPerAck = 0 then
    .error (.invalidConfig "ble_ota.chunks_per_ack must be non-zero")
  else if config.ble.maxWriteLength.toNat ≤ writeOverhead then
    .error (.invalidConfig
      ("ble.max_write_len must exceed " ++ Text.decimal writeOverhead ++ " bytes"))
  else .ok ()

/-- Sets the time allowed for connecting on both transports. -/
def withConnectTimeout (config : Config) (timeout : Duration) : Config :=
  { config with
    tcp := { config.tcp with connectTimeout := timeout }
    ble := { config.ble with connectTimeout := timeout } }

/-- Sets the port of a connection string that has none. -/
def withDefaultTcpPort (config : Config) (port : UInt16) : Config :=
  { config with tcp := { config.tcp with defaultPort := port } }

/-- Sets the port on which the device awaits invitations. -/
def withWifiUpdatePort (config : Config) (port : UInt16) : Config :=
  { config with wifiUpdate := { config.wifiUpdate with devicePort := port } }

/-- Sets the local address at which the device is awaited. -/
def withBindAddress (config : Config) (address : Net.IpAddress) : Config :=
  { config with wifiUpdate := { config.wifiUpdate with bindAddress := address } }

/-- Sets the time between invitations and the time allowed for an answer. -/
def withHandshakeTiming (config : Config) (retryInterval timeout : Duration) : Config :=
  { config with
    wifiUpdate := { config.wifiUpdate with
      retryInterval := retryInterval
      handshakeTimeout := timeout } }

/-- Sets the pause behind the last chunk. -/
def withSettleDelay (config : Config) (delay : Duration) : Config :=
  { config with wifiUpdate := { config.wifiUpdate with settleDelay := delay } }

/-- Sets the time allowed for a device to show up. -/
def withScanTimeout (config : Config) (timeout : Duration) : Config :=
  { config with bleUpdate := { config.bleUpdate with scanTimeout := timeout } }

/-- Sets the number of chunks for each acknowledgement, at least one. -/
def withChunksPerAck (config : Config) (chunks : UInt64) : Config :=
  { config with bleUpdate := { config.bleUpdate with chunksPerAck := max chunks 1 } }

def withMaxWriteLength (config : Config) (length : UInt64) : Config :=
  { config with ble := { config.ble with maxWriteLength := length } }

end Config

end RadioLink
