import RadioLink.Proofs.Text.Digits

/-!
Octets and texts. Octets are read back from their hexadecimal digits, in which there is no blank;
the octets of a text are those of its characters.
-/

set_option autoImplicit false
set_option relaxedAutoImplicit false

namespace RadioLink.Bytes

/-! ### Hexadecimal digits -/

theorem length_hexChars (octets : Bytes) : (hexChars octets).length = 2 * octets.length := by
  induction octets with
  | nil => rfl
  | cons octet octets ih =>
    simp only [hexChars, List.flatMap_cons, List.length_append, List.length_cons,
      List.length_nil] at ih ⊢
    omega

theorem ofHexChars?_hexChars (octets : Bytes) : ofHexChars? (hexChars octets) = some octets := by
  induction octets with
  | nil => rfl
  | cons octet octets ih =>
    have hlt := octet.toNat_lt
    have hhigh := Text.hexValue?_hexDigit (n := octet.toNat / 16) (by omega)
    have hlow := Text.hexValue?_hexDigit (n := octet.toNat % 16) (by omega)
    have hsum : 16 * (octet.toNat / 16) + octet.toNat % 16 = octet.toNat := Nat.div_add_mod ..
    have hsplit : hexChars (octet :: octets) =
        hexDigit (octet.toNat / 16) :: hexDigit (octet.toNat % 16) :: hexChars octets := rfl
    rw [hsplit, ofHexChars?, hhigh, hlow, ih]
    simp only [Option.bind_eq_bind, Option.bind_some, hsum, UInt8.ofNat_toNat]
    rfl

private theorem isBlank_hexDigit {n : Nat} (small : n < 16) :
    Text.isBlank (hexDigit n) = false := by
  have hall : ∀ k : Fin 16, Text.isBlank (hexDigit k) = false := by decide
  exact hall ⟨n, small⟩

theorem isBlank_of_mem_hexChars {octets : Bytes} {c : Char} (mem : c ∈ hexChars octets) :
    Text.isBlank c = false := by
  obtain ⟨octet, -, hc⟩ := List.mem_flatMap.mp mem
  have hlt := octet.toNat_lt
  simp only [List.mem_cons, List.not_mem_nil, or_false] at hc
  rcases hc with rfl | rfl
  · exact isBlank_hexDigit (by omega)
  · exact isBlank_hexDigit (by omega)

/-! ### Texts -/

private theorem toList_loop (octets : ByteArray) (i : Nat) (r : List UInt8) :
    ByteArray.toList.loop octets i r = r.reverse ++ octets.data.toList.drop i := by
  fun_induction ByteArray.toList.loop octets i r with
  | case1 i r inside ih =>
    have hinside : i < octets.data.toList.length := inside
    have hget : octets.get! i = octets.data.toList[i] := by
      rw [Array.getElem_toList, ← getElem!_pos octets.data i inside]
      rfl
    rw [ih, List.drop_eq_getElem_cons hinside, List.reverse_cons, List.append_assoc, hget]
    rfl
  | case2 i r outside =>
    rw [List.drop_eq_nil_of_le (Nat.le_of_not_lt outside), List.append_nil]

theorem ofString_eq_flatMap (text : String) :
    ofString text = text.toList.flatMap String.utf8EncodeChar := by
  obtain ⟨chars, rfl⟩ : ∃ chars, text = String.ofList chars := ⟨_, String.ofList_toList.symm⟩
  rw [ofString, ByteArray.toList, toList_loop, String.toUTF8_eq_toByteArray,
    String.toByteArray_ofList, String.toList_ofList]
  simp [List.utf8Encode]

end RadioLink.Bytes
