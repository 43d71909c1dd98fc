import RadioLink.Config

/-!
Settings addressed by the name of their section and their own name.
-/

set_option autoImplicit false

namespace RadioLink.Config

inductive Value where
  | count (n : Nat)
  | span (d : Duration)
  | text (s : String)

def spans (config : Config) : List (String × Duration) :=
  [("tcp.connect_timeout", config.tcp.connectTimeout),
   ("ble.stale_after", config.ble.staleAfter),
   ("ble.sweep_interval", config.ble.sweepInterval),
   ("ble.connect_timeout", config.ble.connectTimeout),
   ("wifi_ota.retry_interval", config.wifiUpdate.retryInterval),
   ("wifi_ota.handshake_timeout", config.wifiUpdate.handshakeTimeout),
   ("wifi_ota.accept_timeout", config.wifiUpdate.acceptTimeout),
   ("wifi_ota.settle_delay", config.wifiUpdate.settleDelay),
   ("ble_ota.scan_timeout", config.bleUpdate.scanTimeout)]

/-- The settings with one of them set, without a check of the others. There is none of another name,
or for a value of another kind. -/
def assign? (config : Config) (path : String) (value : Value) : Option Config :=
  match path, value with
  | "tcp.default_port", .count n => some { config with tcp.defaultPort := UInt16.ofNat n }
  | "tcp.connect_timeout", .span d => some { config with tcp.connectTimeout := d }
  | "tcp.service_type", .text s => some { config with tcp.serviceType := s }
  | "ble.stale_after", .span d => some { config with ble.staleAfter := d }
  | "ble.sweep_interval", .span d => some { config with ble.sweepInterval := d }
  | "ble.max_write_len", .count n => some { config with ble.maxWriteLength := UInt64.ofNat n }
  | "ble.connect_timeout", .span d => some { config with ble.connectTimeout := d }
  | "wifi_ota.device_port", .count n =>
    some { config with wifiUpdate.devicePort := UInt16.ofNat n }
  | "wifi_ota.bind_address", .text s =>
    (Net.IpAddress.ofString? s).map fun ip => { config with wifiUpdate.bindAddress := ip }
  | "wifi_ota.chunk_size", .count n => some { config with wifiUpdate.chunkSize := UInt64.ofNat n }
  | "wifi_ota.retry_interval", .span d => some { config with wifiUpdate.retryInterval := d }
  | "wifi_ota.handshake_timeout", .span d => some { config with wifiUpdate.handshakeTimeout := d }
  | "wifi_ota.accept_timeout", .span d => some { config with wifiUpdate.acceptTimeout := d }
  | "wifi_ota.settle_delay", .span d => some { config with wifiUpdate.settleDelay := d }
  | "wifi_ota.progress_every_chunks", .count n =>
    some { config with wifiUpdate.progressEvery := UInt64.ofNat n }
  | "ble_ota.scan_timeout", .span d => some { config with bleUpdate.scanTimeout := d }
  | "ble_ota.chunks_per_ack", .count n =>
    some { config with bleUpdate.chunksPerAck := UInt64.ofNat n }
  | _, _ => none

end RadioLink.Config
