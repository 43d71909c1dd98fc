import RadioLink.Config.Json
import RadioLink.Proofs.Config.Validity
import RadioLink.Proofs.Duration.Spelling
import RadioLink.Proofs.Json.Records
import RadioLink.Proofs.Net.Addresses

/-!
Settings read back from their JSON, of which any sections and any settings may be left out. What is
written comes back as it was, and what is left out has its default, whether its section is there or
not.
-/

set_option autoImplicit false
set_option relaxedAutoImplicit false

namespace RadioLink.Config

open Json (Picks Reads pick_or reads_put reads_text)

/-! ### Values -/

private theorem reads_duration (d : Duration) : Reads readDuration (writeDuration d) d :=
  Json.reads_parsed (by rw [show String.ofList d.chars = d.text from rfl, d.ofText_text]; rfl)

private theorem reads_port (port : UInt16) : Reads readPort (writeNat port.toNat) port := by
  have hread := reads_put (Json.reads_unsigned "u16" port.toNat_lt (by decide)) UInt16.ofNat
  rwa [UInt16.ofNat_toNat] at hread

private theorem reads_count (count : UInt64) : Reads readCount (writeNat count.toNat) count := by
  have hread := reads_put (Json.reads_unsigned "usize" count.toNat_lt (Nat.le_refl _)) UInt64.ofNat
  rwa [UInt64.ofNat_toNat] at hread

private theorem reads_address (address : Net.IpAddress) :
    Reads readAddress (Json.writeString address.chars) address := by
  refine Json.reads_parsed ?_
  have hread : Net.IpAddress.ofString? (String.ofList address.chars) = some address := by
    rw [Net.IpAddress.ofString?, String.toList_ofList, address.ofChars?_chars]
  rw [hread]

/-! ### Sections -/

def Tcp.pick (keep : String → Bool) (kept other : Tcp) : Tcp where
  defaultPort := if keep "default_port" then kept.defaultPort else other.defaultPort
  connectTimeout := if keep "connect_timeout" then kept.connectTimeout else other.connectTimeout
  serviceType := if keep "service_type" then kept.serviceType else other.serviceType

def Ble.pick (keep : String → Bool) (kept other : Ble) : Ble where
  staleAfter := if keep "stale_after" then kept.staleAfter else other.staleAfter
  sweepInterval := if keep "sweep_interval" then kept.sweepInterval else other.sweepInterval
  maxWriteLength := if keep "max_write_len" then kept.maxWriteLength else other.maxWriteLength
  connectTimeout := if keep "connect_timeout" then kept.connectTimeout else other.connectTimeout

def WifiUpdate.pick (keep : String → Bool) (kept other : WifiUpdate) : WifiUpdate where
  devicePort := if keep "device_port" then kept.devicePort else other.devicePort
  bindAddress := if keep "bind_address" then kept.bindAddress else other.bindAddress
  chunkSize := if keep "chunk_size" then kept.chunkSize else other.chunkSize
  retryInterval := if keep "retry_interval" then kept.retryInterval else other.retryInterval
  handshakeTimeout :=
    if keep "handshake_timeout" then kept.handshakeTimeout else other.handshakeTimeout
  acceptTimeout := if keep "accept_timeout" then kept.acceptTimeout else other.acceptTimeout
  settleDelay := if keep "settle_delay" then kept.settleDelay else other.settleDelay
  progressEvery := if keep "progress_every_chunks" then kept.progressEvery else other.progressEvery

def BleUpdate.pick (keep : String → Bool) (kept other : BleUpdate) : BleUpdate where
  scanTimeout := if keep "scan_timeout" then kept.scanTimeout else other.scanTimeout
  chunksPerAck := if keep "chunks_per_ack" then kept.chunksPerAck else other.chunksPerAck

private theorem Tcp.picks : Picks (Tcp.schema.fields.map (·.name)) Tcp.pick where
  none := fun _ _ => rfl
  or := fun f g c d => by simp only [Tcp.pick, pick_or]
  only := fun f g c d same => by
    simp only [Tcp.schema, setting, List.map_cons, List.map_nil, List.forall_mem_cons] at same
    simp only [Tcp.pick, same]

private theorem Ble.picks : Picks (Ble.schema.fields.map (·.name)) Ble.pick where
  none := fun _ _ => rfl
  or := fun f g c d => by simp only [Ble.pick, pick_or]
  only := fun f g c d same => by
    simp only [Ble.schema, setting, List.map_cons, List.map_nil, List.forall_mem_cons] at same
    simp only [Ble.pick, same]

private theorem WifiUpdate.picks :
    Picks (WifiUpdate.schema.fields.map (·.name)) WifiUpdate.pick where
  none := fun _ _ => rfl
  or := fun f g c d => by simp only [WifiUpdate.pick, pick_or]
  only := fun f g c d same => by
    simp only [WifiUpdate.schema, setting, List.map_cons, List.map_nil,
      List.forall_mem_cons] at same
    simp only [WifiUpdate.pick, same]

private theorem BleUpdate.picks : Picks (BleUpdate.schema.fields.map (·.name)) BleUpdate.pick where
  none := fun _ _ => rfl
  or := fun f g c d => by simp only [BleUpdate.pick, pick_or]
  only := fun f g c d same => by
    simp only [BleUpdate.schema, setting, List.map_cons, List.map_nil, List.forall_mem_cons] at same
    simp only [BleUpdate.pick, same]

private theorem reads_tcp (c : Tcp) (keep : String → Bool) :
    Reads (Json.record Tcp.schema Tcp.leftOut)
      (Json.writeObject (c.members.filter (keep ·.1))) (c.pick keep {}) := by
  refine Json.reads_picked Tcp.schema (by decide) keep (by simp [Tcp.schema, setting]) Tcp.picks rfl
    ?_ Tcp.leftOut
  simp only [Tcp.schema, Tcp.members, Tcp.pick, List.zip_cons_cons, List.zip_nil_left,
    List.forall_mem_cons, setting]
  exact ⟨fun _ => reads_put (reads_port c.defaultPort) _,
    fun _ => reads_put (reads_duration c.connectTimeout) _,
    fun _ => reads_put (reads_text _ c.serviceType) _, by simp⟩

private theorem reads_ble (c : Ble) (keep : String → Bool) :
    Reads (Json.record Ble.schema Ble.leftOut)
      (Json.writeObject (c.members.filter (keep ·.1))) (c.pick keep {}) := by
  refine Json.reads_picked Ble.schema (by decide) keep (by simp [Ble.schema, setting]) Ble.picks rfl
    ?_ Ble.leftOut
  simp only [Ble.schema, Ble.members, Ble.pick, List.zip_cons_cons, List.zip_nil_left,
    List.forall_mem_cons, setting]
  exact ⟨fun _ => reads_put (reads_duration c.staleAfter) _,
    fun _ => reads_put (reads_duration c.sweepInterval) _,
    fun _ => reads_put (reads_count c.maxWriteLength) _,
    fun _ => reads_put (reads_duration c.connectTimeout) _, by simp⟩

private theorem reads_wifiUpdate (c : WifiUpdate) (keep : String → Bool) :
    Reads (Json.record WifiUpdate.schema WifiUpdate.leftOut)
      (Json.writeObject (c.members.filter (keep ·.1))) (c.pick keep {}) := by
  refine Json.reads_picked WifiUpdate.schema (by decide) keep (by simp [WifiUpdate.schema, setting])
    WifiUpdate.picks rfl ?_ WifiUpdate.leftOut
  simp only [WifiUpdate.schema, WifiUpdate.members, WifiUpdate.pick, List.zip_cons_cons,
    List.zip_nil_left, List.forall_mem_cons, setting]
  exact ⟨fun _ => reads_put (reads_port c.devicePort) _,
    fun _ => reads_put (reads_address c.bindAddress) _,
    fun _ => reads_put (reads_count c.chunkSize) _,
    fun _ => reads_put (reads_duration c.retryInterval) _,
    fun _ => reads_put (reads_duration c.handshakeTimeout) _,
    fun _ => reads_put (reads_duration c.acceptTimeout) _,
    fun _ => reads_put (reads_duration c.settleDelay) _,
    fun _ => reads_put (reads_count c.progressEvery) _, by simp⟩

private theorem reads_bleUpdate (c : BleUpdate) (keep : String → Bool) :
    Reads (Json.record BleUpdate.schema BleUpdate.leftOut)
      (Json.writeObject (c.members.filter (keep ·.1))) (c.pick keep {}) := by
  refine Json.reads_picked BleUpdate.schema (by decide) keep (by simp [BleUpdate.schema, setting])
    BleUpdate.picks rfl ?_ BleUpdate.leftOut
  simp only [BleUpdate.schema, BleUpdate.members, BleUpdate.pick, List.zip_cons_cons,
    List.zip_nil_left, List.forall_mem_cons, setting]
  exact ⟨fun _ => reads_put (reads_duration c.scanTimeout) _,
    fun _ => reads_put (reads_count c.chunksPerAck) _, by simp⟩

/-! ### Whole texts -/

def pickSections (keep : String → Bool) (kept other : Config) : Config where
  tcp := if keep "tcp" then kept.tcp else other.tcp
  ble := if keep "ble" then kept.ble else other.ble
  wifiUpdate := if keep "wifi_ota" then kept.wifiUpdate else other.wifiUpdate
  bleUpdate := if keep "ble_ota" then kept.bleUpdate else other.bleUpdate

private theorem picks_sections : Picks (schema.fields.map (·.name)) pickSections where
  none := fun _ _ => rfl
  or := fun f g c d => by simp only [pickSections, pick_or]
  only := fun f g c d same => by
    simp only [schema, setting, List.map_cons, List.map_nil, List.forall_mem_cons] at same
    simp only [pickSections, same]

/-- Which sections stand in a text, and which settings in a section that does. -/
structure Choice where
  hasSection : String → Bool
  hasSetting : String → String → Bool

namespace Choice

private def all : Choice := ⟨fun _ => true, fun _ _ => true⟩

def cut (choice : Choice) (sections : List (String × List (String × List Char))) :
    List (String × List (String × List Char)) :=
  (sections.filter (choice.hasSection ·.1)).map fun (title, members) =>
    (title, members.filter (choice.hasSetting title ·.1))

def pick (choice : Choice) (kept other : Config) : Config :=
  pickSections choice.hasSection
    { tcp := kept.tcp.pick (choice.hasSetting "tcp") other.tcp
      ble := kept.ble.pick (choice.hasSetting "ble") other.ble
      wifiUpdate := kept.wifiUpdate.pick (choice.hasSetting "wifi_ota") other.wifiUpdate
      bleUpdate := kept.bleUpdate.pick (choice.hasSetting "ble_ota") other.bleUpdate } other

private theorem cut_all (sections : List (String × List (String × List Char))) :
    all.cut sections = sections := by
  simp [cut, all]

private theorem pick_all (kept other : Config) : all.pick kept other = kept := rfl

variable (choice : Choice)

private def written (c : Config) : List (String × List Char) :=
  c.sections.map fun (title, members) =>
    (title, Json.writeObject (members.filter (choice.hasSetting title ·.1)))

private theorem writeSections_cut (c : Config) :
    writeSections (choice.cut c.sections) =
      Json.writeObject ((choice.written c).filter (choice.hasSection ·.1)) := by
  rw [writeSections, cut, written, List.filter_map, List.map_map]
  rfl

private theorem reads_cut (c : Config) :
    Reads (Json.record schema {}) (writeSections (choice.cut c.sections)) (choice.pick c {}) := by
  rw [choice.writeSections_cut]
  refine Json.reads_picked schema (by decide) choice.hasSection (by simp [schema, setting])
    picks_sections rfl ?_ {}
  simp only [schema, written, sections, pickSections, List.map_cons, List.map_nil,
    List.zip_cons_cons, List.zip_nil_left, List.forall_mem_cons, setting]
  exact ⟨fun _ => reads_put (reads_tcp c.tcp _) _,
    fun _ => reads_put (reads_ble c.ble _) _,
    fun _ => reads_put (reads_wifiUpdate c.wifiUpdate _) _,
    fun _ => reads_put (reads_bleUpdate c.bleUpdate _) _, by simp⟩

end Choice

private theorem of_picked {α : Type} (P : α → Prop) {k : Bool} {a b : α} (ha : P a) (hb : P b) :
    P (if k then a else b) := by
  cases k
  · exact hb
  · exact ha

/-- Picking from accepted settings gives accepted settings: no two settings depend on each other. -/
private theorem validate_pick {c d : Config} (accepted : c.validate = .ok ())
    (accepted' : d.validate = .ok ()) (choice : Choice) : (choice.pick c d).validate = .ok () := by
  rw [validate_eq_ok_iff] at accepted accepted' ⊢
  obtain ⟨hsize, hevery, hack, hlength⟩ := accepted
  obtain ⟨hsize', hevery', hack', hlength'⟩ := accepted'
  exact ⟨of_picked (WifiUpdate.chunkSize · ≠ 0) (of_picked (· ≠ 0) hsize hsize') hsize',
    of_picked (WifiUpdate.progressEvery · ≠ 0) (of_picked (· ≠ 0) hevery hevery') hevery',
    of_picked (BleUpdate.chunksPerAck · ≠ 0) (of_picked (· ≠ 0) hack hack') hack',
    of_picked (fun b : Ble => writeOverhead < b.maxWriteLength.toNat)
      (of_picked (writeOverhead < UInt64.toNat ·) hlength hlength') hlength'⟩

/-- Accepted settings come back from their JSON, whatever sections and settings are left out of it:
what stands is as it was, and what is left out is as in the default settings. -/
theorem ofJson_cut (c : Config) (accepted : c.validate = .ok ()) (choice : Choice) :
    ofJson (String.ofList (writeSections (choice.cut c.sections))) = .ok (choice.pick c {}) ∧
      ofJson c.toJson = .ok c := by
  have hread (choice : Choice) :
      ofJson (String.ofList (writeSections (choice.cut c.sections))) = .ok (choice.pick c {}) := by
    have hvalid : (choice.pick c {}).validate = .ok () := validate_pick accepted (by decide) choice
    rw [ofJson, (choice.reads_cut c).run]
    simp only [Except.mapError, bind, Except.bind, hvalid]
    rfl
  have hall := hread .all
  rw [Choice.cut_all, Choice.pick_all] at hall
  exact ⟨hread choice, hall⟩

def unusual : Config where
  tcp := { serviceType := "\"radio\"\n" }
  ble := { sweepInterval := ⟨18446744073709551615, 999999999, by decide⟩ }
  wifiUpdate := {
    bindAddress := .v6 ⟨[0x2001, 0xdb8, 0, 0, 0, 0, 0, 1], rfl⟩
    settleDelay := ⟨18446744073709551615, 999999999, by decide⟩ }

def scarce : Choice where
  hasSection title := title ≠ "ble"
  hasSetting _ name := name ≠ "service_type"

theorem ofJson_cut_unusual :
    unusual.validate = .ok () ∧
      ofJson (String.ofList (writeSections (scarce.cut unusual.sections))) =
        .ok { wifiUpdate := unusual.wifiUpdate } ∧
      ofJson unusual.toJson = .ok unusual :=
  ⟨by decide, ofJson_cut unusual (by decide) scarce⟩

end RadioLink.Config
