import RadioLink.Config
import RadioLink.Duration.Text
import RadioLink.Json.Record
import RadioLink.Json.Writer

/-!
Settings in JSON. A section that is left out has the defaults of its type, and a setting that is
left out of its section has a default of its own; spans of time are written as text. Errors name no
position in the text.
-/

set_option autoImplicit false

namespace RadioLink.Config

def setting {σ : Type} (name : String) (read : σ → Json.Reader σ) : Json.Field σ :=
  ⟨name, read, false, true⟩

def readDuration : Json.Reader Duration :=
  Json.parsed "a string" fun text => (Duration.ofText text).mapError Duration.TextError.message

def readPort : Json.Reader UInt16 :=
  return UInt16.ofNat (← Json.unsigned "u16" UInt16.size)

def readCount : Json.Reader UInt64 :=
  return UInt64.ofNat (← Json.unsigned "usize" UInt64.size)

def readAddress : Json.Reader Net.IpAddress :=
  Json.parsed "IP address" fun text =>
    match Net.IpAddress.ofString? text with
    | some address => .ok address
    | none => .error "invalid IP address syntax"

/-- What the settings of the TCP transport are if they are left out of its section. -/
def Tcp.leftOut : Tcp where
  defaultPort := defaultTcpPort
  connectTimeout := .ofMillis defaultTimeoutMillis
  serviceType := radioServiceType

def Tcp.schema : Json.Schema Tcp where
  title := "struct TcpConfig"
  arrayTitle := "struct TcpConfig with 3 elements"
  fields := [
    setting "default_port" fun c => return { c with defaultPort := ← readPort },
    setting "connect_timeout" fun c => return { c with connectTimeout := ← readDuration },
    setting "service_type" fun c => return { c with serviceType := ← Json.string "a string" }]

/-- What the settings of the Bluetooth transport are if they are left out of its section. -/
def Ble.leftOut : Ble where
  staleAfter := .ofSecs 30
  sweepInterval := .ofSecs 15
  maxWriteLength := 244
  connectTimeout := .ofMillis defaultTimeoutMillis

def Ble.schema : Json.Schema Ble where
  title := "struct BleConfig"
  arrayTitle := "struct BleConfig with 4 elements"
  fields := [
    setting "stale_after" fun c => return { c with staleAfter := ← readDuration },
    setting "sweep_interval" fun c => return { c with sweepInterval := ← readDuration },
    setting "max_write_len" fun c => return { c with maxWriteLength := ← readCount },
    setting "connect_timeout" fun c => return { c with connectTimeout := ← readDuration }]

/-- What the settings of updates over WiFi are if they are left out of their section. -/
def WifiUpdate.leftOut : WifiUpdate where
  devicePort := wifiUpdatePort
  bindAddress := .v4 .unspecified
  chunkSize := wifiChunkSize
  retryInterval := .ofSecs 2
  handshakeTimeout := .ofSecs 30
  acceptTimeout := .ofSecs 60
  settleDelay := .ofSecs 3
  progressEvery := 10

def WifiUpdate.schema : Json.Schema WifiUpdate where
  title := "struct WifiOtaConfig"
  arrayTitle := "struct WifiOtaConfig with 8 elements"
  fields := [
    setting "device_port" fun c => return { c with devicePort := ← readPort },
    setting "bind_address" fun c => return { c with bindAddress := ← readAddress },
    setting "chunk_size" fun c => return { c with chunkSize := ← readCount },
    setting "retry_interval" fun c => return { c with retryInterval := ← readDuration },
    setting "handshake_timeout" fun c => return { c with handshakeTimeout := ← readDuration },
    setting "accept_timeout" fun c => return { c with acceptTimeout := ← readDuration },
    setting "settle_delay" fun c => return { c with settleDelay := ← readDuration },
    setting "progress_every_chunks" fun c => return { c with progressEvery := ← readCount }]

/-- What the settings of updates over Bluetooth are if they are left out of their section. -/
def BleUpdate.leftOut : BleUpdate where
  scanTimeout := .ofSecs 10
  chunksPerAck := 1

def BleUpdate.schema : Json.Schema BleUpdate where
  title := "struct BleOtaConfig"
  arrayTitle := "struct BleOtaConfig with 2 elements"
  fields := [
    setting "scan_timeout" fun c => return { c with scanTimeout := ← readDuration },
    setting "chunks_per_ack" fun c => return { c with chunksPerAck := ← readCount }]

def schema : Json.Schema Config where
  title := "struct LinkConfig"
  arrayTitle := "struct LinkConfig with 4 elements"
  fields := [
    setting "tcp" fun c => return { c with tcp := ← Json.record Tcp.schema Tcp.leftOut },
    setting "ble" fun c => return { c with ble := ← Json.record Ble.schema Ble.leftOut },
    setting "wifi_ota" fun c =>
      return { c with wifiUpdate := ← Json.record WifiUpdate.schema WifiUpdate.leftOut },
    setting "ble_ota" fun c =>
      return { c with bleUpdate := ← Json.record BleUpdate.schema BleUpdate.leftOut }]

def ofJson (text : String) : Except LinkError Config := do
  let config ← ((Json.record schema {}).run text).mapError fun e => .invalidConfig e.message
  config.validate
  return config

def writeDuration (d : Duration) : List Char :=
  Json.writeString d.chars

def writeNat (n : Nat) : List Char :=
  Text.decimalDigits n

def Tcp.members (c : Tcp) : List (String × List Char) :=
  [("default_port", writeNat c.defaultPort.toNat),
   ("connect_timeout", writeDuration c.connectTimeout),
   ("service_type", Json.writeString c.serviceType.toList)]

/-- The written settings of the Bluetooth transport. -/
def Ble.members (c : Ble) : List (String × List Char) :=
  [("stale_after", writeDuration c.staleAfter),
   ("sweep_interval", writeDuration c.sweepInterval),
   ("max_write_len", writeNat c.maxWriteLength.toNat),
   ("connect_timeout", writeDuration c.connectTimeout)]

def WifiUpdate.members (c : WifiUpdate) : List (String × List Char) :=
  [("device_port", writeNat c.devicePort.toNat),
   ("bind_address", Json.writeString c.bindAddress.chars),
   ("chunk_size", writeNat c.chunkSize.toNat),
   ("retry_interval", writeDuration c.retryInterval),
   ("handshake_timeout", writeDuration c.handshakeTimeout),
   ("accept_timeout", writeDuration c.acceptTimeout),
   ("settle_delay", writeDuration c.settleDelay),
   ("progress_every_chunks", writeNat c.progressEvery.toNat)]

/-- The written settings of updates over Bluetooth. -/
def BleUpdate.members (c : BleUpdate) : List (String × List Char) :=
  [("scan_timeout", writeDuration c.scanTimeout),
   ("chunks_per_ack", writeNat c.chunksPerAck.toNat)]

def sections (config : Config) : List (String × List (String × List Char)) :=
  [("tcp", config.tcp.members), ("ble", config.ble.members),
   ("wifi_ota", config.wifiUpdate.members), ("ble_ota", config.bleUpdate.members)]

def writeSections (chosen : List (String × List (String × List Char))) : List Char :=
  Json.writeObject (chosen.map fun (name, members) => (name, Json.writeObject members))

def toJson (config : Config) : String :=
  String.ofList (writeSections config.sections)

end RadioLink.Config
