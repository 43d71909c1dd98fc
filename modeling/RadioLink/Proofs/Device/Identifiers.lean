import RadioLink.Device
import RadioLink.Proofs.Text.Octets

/-!
Identifiers read back from their texts. The hyphenated form of a UUID is read as that UUID, so an
identifier that is shown and taken for that of a peripheral stays as it is.
-/

set_option autoImplicit false
set_option relaxedAutoImplicit false

namespace RadioLink

namespace Uuid

/-! ### Groups of digits -/

private theorem length_printGroups {sizes : List Nat} {octets : Bytes}
    (fits : octets.length = sizes.sum) :
    (printGroups sizes octets).length = 2 * octets.length + (sizes.length - 1) := by
  fun_induction printGroups sizes octets with
  | case1 octets => simp [fits]
  | case2 n octets =>
    rw [Bytes.length_hexChars, List.length_take]
    simp at fits ⊢
    omega
  | case3 n sizes octets hmore ih =>
    rw [List.sum_cons] at fits
    have hrest : (octets.drop n).length = sizes.sum := by rw [List.length_drop]; omega
    have hsizes : 0 < sizes.length := List.length_pos_iff.mpr fun hnil => hmore hnil
    rw [List.length_append, List.length_cons, ih hrest, Bytes.length_hexChars, List.length_take,
      List.length_drop, List.length_cons]
    omega

/-- Groups of digits are read back as the octets they were cut from. -/
private theorem readGroups?_printGroups {sizes : List Nat} {octets : Bytes}
    (fits : octets.length = sizes.sum) :
    readGroups? sizes (printGroups sizes octets) = some octets := by
  fun_induction printGroups sizes octets with
  | case1 octets =>
    obtain rfl := List.length_eq_zero_iff.mp fits
    rfl
  | case2 n octets =>
    have hlength : octets.length = n := by simpa using fits
    rw [readGroups?, List.take_of_length_le (Nat.le_of_eq hlength), Bytes.length_hexChars, hlength,
      if_pos rfl, Bytes.ofHexChars?_hexChars]
  | case3 n sizes octets hmore ih =>
    rw [List.sum_cons] at fits
    have hrest : (octets.drop n).length = sizes.sum := by rw [List.length_drop]; omega
    have hdigits : (Bytes.hexChars (octets.take n)).length = 2 * n := by
      rw [Bytes.length_hexChars, List.length_take]
      omega
    rw [readGroups?, List.take_left' hdigits, List.drop_left' hdigits, Bytes.ofHexChars?_hexChars]
    · simp [ih hrest]
    · exact hmore

/-! ### Whole texts -/

private theorem length_chars (u : Uuid) : u.chars.length = 36 := by
  rw [chars, length_printGroups u.length_eq, u.length_eq]
  rfl

private theorem ofChars?_chars (u : Uuid) : ofChars? u.chars = some u := by
  have hread : readHyphenated? u.chars = some u := by
    rw [readHyphenated?, chars, readGroups?_printGroups u.length_eq, Option.bind_some, ofBytes?,
      dif_pos u.length_eq]
  have hdigits : ¬u.chars.length = 32 := by
    rw [u.length_chars]
    decide
  unfold ofChars?
  rw [if_neg hdigits, if_pos u.length_chars, hread]

theorem ofString?_toString (u : Uuid) : ofString? u.toString = some u := by
  rw [ofString?, Uuid.toString, String.toList_ofList, ofChars?_chars]

end Uuid

namespace DeviceId

theorem ofPeripheral_toString (id : DeviceId) : ofPeripheral id.toString = id := by
  rw [ofPeripheral, DeviceId.toString, id.uuid.ofString?_toString]

end DeviceId

end RadioLink
