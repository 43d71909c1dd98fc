import Mathlib.Algebra.GroupWithZero.Nat
import Mathlib.Data.List.Induction
import Mathlib.Data.List.TakeDrop
import Mathlib.Data.Nat.Digits.Defs
import RadioLink.Text.Blank
import RadioLink.Text.Decimal

/-!
Numbers read back from their digits, and lists read back from texts with a separator between their
items. What stands behind the last separator can be told from what stands in front of it.
-/

set_option autoImplicit false
set_option relaxedAutoImplicit false

namespace RadioLink.Text

/-! ### Decimal digits -/

private theorem isDecimalDigit_decimalDigit {n : Nat} (small : n < 10) :
    isDecimalDigit (decimalDigit n) = true := by
  have hall : ∀ k : Fin 10, isDecimalDigit (decimalDigit k) = true := by decide
  exact hall ⟨n, small⟩

theorem digitValue_decimalDigit {n : Nat} (small : n < 10) : digitValue (decimalDigit n) = n := by
  have hall : ∀ k : Fin 10, digitValue (decimalDigit k) = k := by decide
  exact hall ⟨n, small⟩

theorem isDecimalDigit_of_mem {n : Nat} {c : Char} (mem : c ∈ decimalDigits n) :
    isDecimalDigit c = true := by
  induction n using decimalDigits.induct with
  | case1 n small =>
    rw [decimalDigits, if_pos small, List.mem_singleton] at mem
    rw [mem]
    exact isDecimalDigit_decimalDigit small
  | case2 n large ih =>
    rw [decimalDigits, if_neg large] at mem
    rcases List.mem_append.mp mem with front | last
    · exact ih front
    · rw [List.mem_singleton.mp last]
      exact isDecimalDigit_decimalDigit (Nat.mod_lt n (by decide))

theorem colon_not_mem_decimalDigits (n : Nat) : ':' ∉ decimalDigits n := by
  intro mem
  have hdigit := isDecimalDigit_of_mem mem
  exact absurd hdigit (by decide)

theorem decimalDigits_ne_nil (n : Nat) : decimalDigits n ≠ [] := by
  rw [decimalDigits]
  split_ifs <;> simp

theorem exists_decimalDigits_eq_cons (n : Nat) :
    ∃ c rest, decimalDigits n = c :: rest ∧ isDecimalDigit c = true := by
  obtain ⟨c, rest, hdigits⟩ := List.exists_cons_of_ne_nil (decimalDigits_ne_nil n)
  exact ⟨c, rest, hdigits, isDecimalDigit_of_mem (hdigits ▸ List.mem_cons_self ..)⟩

theorem foldl_decimalDigits {σ : Type} (push : σ → Char → σ) (value : Nat → σ) (start : σ)
    (first : ∀ d, d < 10 → push start (decimalDigit d) = value d) {n : Nat}
    (next : ∀ m d, d < 10 → 10 * m + d ≤ n → push (value m) (decimalDigit d) = value (10 * m + d)) :
    (decimalDigits n).foldl push start = value n := by
  induction n using decimalDigits.induct with
  | case1 n small =>
    rw [decimalDigits, if_pos small]
    exact first n small
  | case2 n large ih =>
    have hsplit : 10 * (n / 10) + n % 10 = n := Nat.div_add_mod n 10
    rw [decimalDigits, if_neg large, List.foldl_append, ih fun m d small le => ?_]
    · refine (next (n / 10) (n % 10) (Nat.mod_lt n (by decide)) (Nat.le_of_eq hsplit)).trans ?_
      rw [hsplit]
    · exact next m d small (Nat.le_trans le (Nat.div_le_self n 10))

theorem decimalValue_decimalDigits (n : Nat) : decimalValue (decimalDigits n) = n := by
  refine foldl_decimalDigits _ id 0 (fun d small => ?_) fun m d small _ => ?_
  · rw [digitValue_decimalDigit small, Nat.mul_zero, Nat.zero_add]
    rfl
  · rw [digitValue_decimalDigit small]
    rfl

theorem readDecimal?_decimalDigits (n : Nat) : readDecimal? (decimalDigits n) = some n := by
  have hall : (decimalDigits n).all isDecimalDigit = true :=
    List.all_eq_true.mpr fun c mem => isDecimalDigit_of_mem mem
  have hsome : (decimalDigits n).isEmpty = false :=
    Bool.eq_false_iff.mpr fun h => decimalDigits_ne_nil n (List.isEmpty_iff.mp h)
  rw [readDecimal?, hall, hsome, decimalValue_decimalDigits]
  rfl

theorem isDecimalDigit_iff {c : Char} : isDecimalDigit c = true ↔ '0' ≤ c ∧ c ≤ '9' := by
  rw [isDecimalDigit, Bool.and_eq_true, decide_eq_true_eq, decide_eq_true_eq]

theorem isBlank_of_isDecimalDigit {c : Char} (digit : isDecimalDigit c = true) :
    isBlank c = false := by
  obtain ⟨hfirst, hlast⟩ := isDecimalDigit_iff.mp digit
  have hlow : 48 ≤ c.toNat := hfirst
  have hhigh : c.toNat ≤ 57 := hlast
  simp only [isBlank, Bool.or_eq_false_iff, Bool.and_eq_false_iff, decide_eq_false_iff_not,
    beq_eq_false_iff_ne]
  omega

theorem decimalValue_eq_ofDigits (digits : List Char) :
    decimalValue digits = Nat.ofDigits 10 (digits.reverse.map fun c => c.toNat - '0'.toNat) := by
  induction digits using List.reverseRecOn with
  | nil => rfl
  | append_singleton digits c ih =>
    have hvalue : decimalValue (digits ++ [c]) = 10 * decimalValue digits + digitValue c :=
      List.foldl_append
    rw [hvalue, ih, List.reverse_append, List.reverse_singleton, List.singleton_append,
      List.map_cons, Nat.ofDigits_cons, Nat.add_comm]
    rfl

theorem readDecimal?_eq_some_iff {text : List Char} {n : Nat} : readDecimal? text = some n ↔
    text ≠ [] ∧ (∀ c ∈ text, isDecimalDigit c = true) ∧ decimalValue text = n := by
  have hsome : (!text.isEmpty) = true ↔ text ≠ [] := by simp
  rw [readDecimal?, ← List.all_eq_true, ← hsome, ← and_assoc, ← Bool.and_eq_true]
  split_ifs with hread <;> simp [hread]

theorem decimal_injective {m n : Nat} (same : decimal m = decimal n) : m = n := by
  have hdigits : decimalDigits m = decimalDigits n := String.ofList_injective same
  rw [← decimalValue_decimalDigits m, hdigits, decimalValue_decimalDigits]

theorem decimal_port_eq_iff {port port' : UInt16} :
    decimal port.toNat = decimal port'.toNat ↔ port = port' := by
  rw [← UInt16.toNat_inj]
  exact ⟨decimal_injective, congrArg decimal⟩

theorem colon_not_mem_decimal (n : Nat) : ':' ∉ (decimal n).toList := by
  rw [decimal, String.toList_ofList]
  exact colon_not_mem_decimalDigits n

theorem length_decimalDigits_le {n k : Nat} (bound : n < 10 ^ (k + 1)) :
    (decimalDigits n).length ≤ k + 1 := by
  induction k generalizing n with
  | zero =>
    rw [decimalDigits, if_pos (by omega)]
    exact Nat.le_refl 1
  | succ k ih =>
    rw [decimalDigits]
    split_ifs
    · simp
    · rw [List.length_append, List.length_singleton]
      exact Nat.succ_le_succ (ih (by omega))

theorem eq_zero_of_head_decimalDigits {n : Nat} (zero : (decimalDigits n).head? = some '0') :
    n = 0 := by
  induction n using decimalDigits.induct with
  | case1 n small =>
    rw [decimalDigits, if_pos small] at zero
    have hall : ∀ k : Fin 10, decimalDigit k = '0' → (k : Nat) = 0 := by decide
    exact hall ⟨n, small⟩ (Option.some.inj zero)
  | case2 n large ih =>
    obtain ⟨c, front, hfront⟩ := List.exists_cons_of_ne_nil (decimalDigits_ne_nil (n / 10))
    rw [decimalDigits, if_neg large, hfront] at zero
    rw [hfront] at ih
    have hdiv : n / 10 = 0 := ih zero
    omega

theorem span_decimalDigits (n : Nat) {rest : List Char}
    (stops : ∀ c ∈ rest.head?, isDecimalDigit c = false) :
    (decimalDigits n ++ rest).span isDecimalDigit = (decimalDigits n, rest) := by
  have hall : ∀ c ∈ decimalDigits n, isDecimalDigit c = true := fun c mem =>
    isDecimalDigit_of_mem mem
  rw [List.span_eq_takeWhile_dropWhile, List.takeWhile_append_of_pos hall,
    List.dropWhile_append_of_pos hall]
  cases rest with
  | nil => simp
  | cons c rest =>
    have hstop : isDecimalDigit c = false := stops c rfl
    simp [hstop]

/-! ### Hexadecimal digits -/

theorem hexValue?_hexDigit {n : Nat} (small : n < 16) :
    Bytes.hexValue? (Bytes.hexDigit n) = some n := by
  have hall : ∀ k : Fin 16, Bytes.hexValue? (Bytes.hexDigit k) = some (k : Nat) := by decide
  exact hall ⟨n, small⟩

theorem hexDigits_ne_nil (n : Nat) : hexDigits n ≠ [] := by
  rw [hexDigits]
  split_ifs <;> simp

theorem hexValue?_of_mem {n : Nat} {c : Char} (mem : c ∈ hexDigits n) :
    (Bytes.hexValue? c).isSome = true := by
  induction n using hexDigits.induct with
  | case1 n small =>
    rw [hexDigits, if_pos small, List.mem_singleton] at mem
    rw [mem, hexValue?_hexDigit small]
    rfl
  | case2 n large ih =>
    rw [hexDigits, if_neg large] at mem
    rcases List.mem_append.mp mem with front | last
    · exact ih front
    · rw [List.mem_singleton.mp last, hexValue?_hexDigit (Nat.mod_lt n (by decide))]
      rfl

private theorem length_hexDigits_le {n k : Nat} (bound : n < 16 ^ (k + 1)) :
    (hexDigits n).length ≤ k + 1 := by
  induction k generalizing n with
  | zero =>
    rw [hexDigits, if_pos (by omega)]
    exact Nat.le_refl 1
  | succ k ih =>
    rw [hexDigits]
    split_ifs
    · simp
    · rw [List.length_append, List.length_singleton]
      exact Nat.succ_le_succ (ih (by omega))

private theorem foldlM_hexDigits (n : Nat) :
    (hexDigits n).foldlM (fun n c => (Bytes.hexValue? c).map (16 * n + ·)) 0 = some n := by
  induction n using hexDigits.induct with
  | case1 n small =>
    rw [hexDigits, if_pos small]
    simp [hexValue?_hexDigit small]
  | case2 n large ih =>
    rw [hexDigits, if_neg large, List.foldlM_append, ih]
    simp [hexValue?_hexDigit (Nat.mod_lt n (by decide : 0 < 16)), Nat.div_add_mod]

theorem readHex?_hexDigits {n k : Nat} (bound : n < 16 ^ (k + 1)) :
    readHex? (k + 1) (hexDigits n) = some n := by
  have hsome : (hexDigits n).isEmpty = false :=
    Bool.eq_false_iff.mpr fun h => hexDigits_ne_nil n (List.isEmpty_iff.mp h)
  have hlength : ¬ k + 1 < (hexDigits n).length := Nat.not_lt.mpr (length_hexDigits_le bound)
  rw [readHex?, hsome, if_neg (by simpa using hlength), foldlM_hexDigits]

/-! ### Pieces -/

theorem pieces_of_not_mem {separator : Char} {piece : List Char} (apart : separator ∉ piece) :
    pieces separator piece = [piece] := by
  induction piece with
  | nil => rfl
  | cons c piece ih =>
    obtain ⟨hne, hrest⟩ := not_or.mp (mt List.mem_cons.mpr apart)
    simp only [pieces, List.cons.injEq] at ih ⊢
    obtain ⟨hfirst, hmore⟩ := ih hrest
    simp only [splitOn, if_neg (Ne.symm hne), hfirst, hmore, and_self]

theorem pieces_append (separator : Char) (front back : List Char) :
    pieces separator (front ++ separator :: back) =
      pieces separator front ++ pieces separator back := by
  induction front with
  | nil => simp [pieces, splitOn]
  | cons c front ih =>
    simp only [pieces, List.cons_append, splitOn] at ih ⊢
    obtain ⟨hfirst, hmore⟩ := List.cons.inj ih
    split_ifs <;> simp [hfirst, hmore]

theorem exists_mem_pieces {separator c : Char} {text : List Char} (mem : c ∈ text)
    (other : c ≠ separator) : ∃ piece ∈ pieces separator text, c ∈ piece := by
  induction text with
  | nil => cases mem
  | cons first text ih =>
    simp only [pieces, splitOn] at ih ⊢
    rcases List.mem_cons.mp mem with rfl | mem
    · rw [if_neg other]
      exact ⟨_, List.mem_cons_self .., List.mem_cons_self ..⟩
    · obtain ⟨piece, hpiece, hmem⟩ := ih mem
      split_ifs
      · exact ⟨piece, List.mem_cons_of_mem _ hpiece, hmem⟩
      · rcases List.mem_cons.mp hpiece with rfl | hpiece
        · exact ⟨_, List.mem_cons_self .., List.mem_cons_of_mem _ hmem⟩
        · exact ⟨piece, List.mem_cons_of_mem _ hpiece, hmem⟩

theorem pieces_eq_splitOn (separator : Char) (text : List Char) :
    pieces separator text = text.splitOn separator := by
  induction text with
  | nil => rfl
  | cons c text ih =>
    rw [List.splitOn_eq_splitOnP, List.splitOnP_cons_eq_if_modifyHead, ← List.splitOn_eq_splitOnP,
      ← ih]
    simp only [pieces, splitOn, beq_iff_eq]
    split_ifs <;> rfl

theorem not_mem_of_mem_pieces {separator : Char} {text piece : List Char}
    (mem : piece ∈ pieces separator text) : separator ∉ piece := by
  induction text generalizing piece with
  | nil =>
    rw [List.mem_singleton.mp mem]
    exact List.not_mem_nil
  | cons c text ih =>
    simp only [pieces, splitOn] at ih mem
    split_ifs at mem with hc
    · rcases List.mem_cons.mp mem with rfl | hpiece
      · exact List.not_mem_nil
      · exact ih hpiece
    · rcases List.mem_cons.mp mem with rfl | hpiece
      · have hfirst := ih (List.mem_cons_self ..)
        exact fun hmem => (List.mem_cons.mp hmem).elim (Ne.symm hc) hfirst
      · exact ih (List.mem_cons_of_mem _ hpiece)

/-! ### The last separator -/

private theorem eq_nil_of_last_separator {c : Char} {between back back' : List Char}
    (last : c ∉ back) (split : c :: back = between ++ c :: back') : between = [] := by
  cases between with
  | nil => rfl
  | cons d between =>
    have hmem : c ∈ back := by
      rw [(List.cons.inj split).2]
      exact List.mem_append_right _ (List.mem_cons_self ..)
    exact absurd hmem last

/-- What stands in front of the last separator and what stands behind it can be told apart. -/
private theorem append_separator_inj {c : Char} {front back front' back' : List Char}
    (last : c ∉ back) (last' : c ∉ back') :
    front ++ c :: back = front' ++ c :: back' ↔ front = front' ∧ back = back' := by
  constructor
  · intro h
    have hfront : front = front' := by
      rcases List.append_eq_append_iff.mp h with ⟨between, hfront, hsplit⟩ |
        ⟨between, hfront, hsplit⟩
      · rw [hfront, eq_nil_of_last_separator last hsplit, List.append_nil]
      · rw [hfront, eq_nil_of_last_separator last' hsplit, List.append_nil]
    rw [hfront, List.append_cancel_left_eq] at h
    exact ⟨hfront, (List.cons.inj h).2⟩
  · rintro ⟨rfl, rfl⟩
    rfl

theorem append_colon_inj {front back front' back' : String} (last : ':' ∉ back.toList)
    (last' : ':' ∉ back'.toList) :
    front ++ ":" ++ back = front' ++ ":" ++ back' ↔ front = front' ∧ back = back' := by
  have hchars (s t : String) : (s ++ ":" ++ t).toList = s.toList ++ ':' :: t.toList := by simp
  rw [← String.toList_inj, hchars, hchars, append_separator_inj last last', String.toList_inj,
    String.toList_inj]

end RadioLink.Text
