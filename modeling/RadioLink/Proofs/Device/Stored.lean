import RadioLink.Device.Json
import RadioLink.Proofs.Device.Identifiers
import RadioLink.Proofs.Json.Records

/-!
Devices that have been stored are recognised again. The JSON of a device is read as that device,
whatever stands in its texts, and its identifier is found again in the text that it is shown as.
-/

set_option autoImplicit false
set_option relaxedAutoImplicit false

namespace RadioLink.Device

open Json (Picks Reads pick_or reads_put reads_text)

/-! ### Values -/

private theorem reads_mediumName (medium : Medium) :
    Reads readMediumName (Json.writeString (mediumName medium).toList) medium := by
  intro rest ends
  rw [readMediumName, Json.bind_ok (reads_text _ _ rest ends)]
  cases medium <;> rfl

private theorem reads_medium (medium : Medium) :
    Reads readMedium (Json.writeString (mediumName medium).toList) medium := by
  intro rest ends
  have hread := reads_mediumName medium rest ends
  rw [Json.writeString_append] at hread ⊢
  rw [readMedium, Json.bind_ok (Json.peek_cons (by decide) _)]
  exact hread

private theorem reads_id (id : DeviceId) : Reads readId (Json.writeString id.uuid.chars) id := by
  refine Json.reads_parsed ?_
  have hread : Uuid.ofString? (String.ofList id.uuid.chars) = some id.uuid :=
    id.uuid.ofString?_toString
  rw [hread]

private theorem head_writeInt (n : Int) :
    ∃ c front, Json.writeInt n = c :: front ∧ Json.isSpace c = false ∧ c ≠ 'n' := by
  cases n with
  | ofNat n =>
    obtain ⟨c, front, hdigits, hc⟩ := Text.exists_decimalDigits_eq_cons n
    refine ⟨c, front, ?_, (Json.digit_solid hc).1, ?_⟩
    · rw [Json.writeInt, Text.signedDecimal, Text.decimal, String.toList_ofList, hdigits]
    · rintro rfl
      exact absurd hc (by decide)
  | negSucc n =>
    refine ⟨'-', Text.decimalDigits (n + 1), ?_, by decide, by decide⟩
    rw [Json.writeInt, Text.signedDecimal, String.toList_ofList]

private theorem reads_rssi (rssi : Option Int16) :
    Reads (Json.optional Json.int16) (Json.writeOptional (fun n => Json.writeInt n.toInt) rssi)
      rssi :=
  Json.reads_optional Json.reads_int16 (fun n => head_writeInt n.toInt) rssi

/-! ### Records -/

private def toDraft (device : Device) : Draft :=
  ⟨some device.id, some device.name, some device.medium, some device.identifier,
    some device.isManual, device.rssi⟩

private def Draft.pick (keep : String → Bool) (kept other : Draft) : Draft where
  id := if keep "id" then kept.id else other.id
  name := if keep "name" then kept.name else other.name
  medium := if keep "transport_type" then kept.medium else other.medium
  identifier := if keep "identifier" then kept.identifier else other.identifier
  isManual := if keep "is_manual" then kept.isManual else other.isManual
  rssi := if keep "rssi" then kept.rssi else other.rssi

private theorem Draft.picks : Picks (schema.fields.map (·.name)) Draft.pick where
  none := fun _ _ => rfl
  or := fun f g c d => by simp only [Draft.pick, pick_or]
  only := fun f g c d same => by
    simp only [schema, List.map_cons, List.map_nil, List.forall_mem_cons] at same
    simp only [Draft.pick, same]

private def members (device : Device) : List (String × List Char) := [
  ("id", Json.writeString device.id.uuid.chars),
  ("name", Json.writeString device.name.toList),
  ("transport_type", Json.writeString (mediumName device.medium).toList),
  ("identifier", Json.writeString device.identifier.toList),
  ("is_manual", Json.writeBool device.isManual),
  ("rssi", Json.writeOptional (fun n => Json.writeInt n.toInt) device.rssi)]

private theorem reads_members (device : Device) (keep : String → Bool)
    (required : ∀ field ∈ schema.fields, field.required = true → keep field.name = true) :
    Reads (Json.record schema Draft.empty)
      (Json.writeObject (device.members.filter (keep ·.1)))
      (Draft.pick keep device.toDraft Draft.empty) := by
  refine Json.reads_picked schema (by decide) keep required Draft.picks rfl ?_ Draft.empty
  simp only [schema, members, Draft.pick, List.zip_cons_cons, List.zip_nil_left,
    List.forall_mem_cons]
  exact ⟨fun _ => reads_put (reads_id device.id) _,
    fun _ => reads_put (reads_text _ device.name) _,
    fun _ => reads_put (reads_medium device.medium) _,
    fun _ => reads_put (reads_text _ device.identifier) _,
    fun _ => reads_put (Json.reads_boolean device.isManual) _,
    fun _ => reads_put (reads_rssi device.rssi) _, by simp⟩

private theorem reads_reader {device read : Device} (keep : String → Bool)
    (required : ∀ field ∈ schema.fields, field.required = true → keep field.name = true)
    (complete : (Draft.pick keep device.toDraft Draft.empty).toDevice? = some read) :
    Reads reader (Json.writeObject (device.members.filter (keep ·.1))) read := by
  intro rest ends
  rw [reader, Json.bind_ok (reads_members device keep required rest ends), complete]
  rfl

theorem ofJson_without_rssi (device : Device) :
    ofJson (String.ofList (Json.writeObject (device.members.filter (·.1 ≠ "rssi")))) =
      .ok (device.withRssi none) :=
  (reads_reader (· ≠ "rssi") (by simp [schema]) rfl).run

private theorem ofJson_toJson (device : Device) : ofJson device.toJson = .ok device := by
  have hall : device.members.filter (fun _ => true) = device.members :=
    List.filter_eq_self.mpr fun _ _ => rfl
  have hread : Reads reader (Json.writeObject (device.members.filter fun _ => true)) device :=
    reads_reader (fun _ => true) (fun _ _ _ => rfl) rfl
  rw [hall] at hread
  exact hread.run

/-- A device that has been stored is read back as it was, whatever its texts are, whether it has a
signal strength and of which sign. An identifier, wherever it comes from, is that of the peripheral
named by the text it is shown as; so showing identifiers of peripherals twice is showing them
once. -/
theorem stored_recognised :
    (∀ device : Device, ofJson device.toJson = .ok device) ∧
    (∀ id : DeviceId, DeviceId.ofPeripheral id.toString = id) ∧
    ∀ text : String,
      let shown := (DeviceId.ofPeripheral text).toString
      (DeviceId.ofPeripheral shown).toString = shown := by
  refine ⟨ofJson_toJson, DeviceId.ofPeripheral_toString, fun text => ?_⟩
  intro shown
  exact congrArg DeviceId.toString (DeviceId.ofPeripheral text).ofPeripheral_toString

end RadioLink.Device
