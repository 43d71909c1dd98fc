import RadioLink.Duration.Text
import RadioLink.Proofs.Text.Digits

/-!
Spans of time read back from their printed form. Reading adds up the parts, and the parts of a span
come to the whole of it, up to the last nanosecond.
-/

set_option autoImplicit false
set_option relaxedAutoImplicit false

namespace RadioLink.Duration

private def tooMany : Nat := UInt64.size * 1000000000

private theorem toNanos_lt (d : Duration) : d.toNanos < tooMany := by
  have hsecs : d.secs.toNat + 1 ≤ UInt64.size := d.secs.toNat_lt_size
  have hnanos := d.nanos_lt
  calc d.toNanos < d.secs.toNat * 1000000000 + 1000000000 := Nat.add_lt_add_left hnanos _
    _ = (d.secs.toNat + 1) * 1000000000 := (Nat.succ_mul _ _).symm
    _ ≤ tooMany := Nat.mul_le_mul_right _ hsecs

private def Unit.total (u : Unit) : Nat := u.secs * 1000000000 + u.nanos

/-- A number of some unit, in one of its spellings. -/
structure Piece where
  value : Nat
  unit : Unit
  name : List Char

namespace Piece

private def chars (p : Piece) : List Char := Text.decimalDigits p.value ++ p.name

private def total (p : Piece) : Nat := p.value * p.unit.total

structure Sound (p : Piece) : Prop where
  spelt : Unit.ofText? (String.ofList p.name) = some p.unit
  letters : p.name.all isUnitLetter = true
  named : p.name ≠ []
  small : p.value < UInt64.size
  below : p.value * p.unit.nanos < 1000000000

end Piece

section Reading

variable {d : Duration} {p : Piece} {ps : List Piece} {n offset : Nat}

private theorem ok_bind {ε α β : Type} (a : α) (next : α → Except ε β) :
    ((.ok a : Except ε α) >>= next) = next a := rfl

private theorem checked_of_lt (small : n < UInt64.size) : checked n = .ok n :=
  if_pos small

private theorem isUnitLetter_solid {c : Char} (letter : isUnitLetter c = true) :
    Text.isDecimalDigit c = false ∧ Text.isBlank c = false := by
  have hnat : 97 ≤ c.toNat ∧ c.toNat ≤ 122 ∨ 65 ≤ c.toNat ∧ c.toNat ≤ 90 ∨ c.toNat = 181 := by
    simp only [isUnitLetter, Bool.or_eq_true, Bool.and_eq_true, decide_eq_true_eq] at letter
    rcases letter with (⟨hlow, hhigh⟩ | ⟨hlow, hhigh⟩) | rfl
    · exact .inl ⟨hlow, hhigh⟩
    · exact .inr (.inl ⟨hlow, hhigh⟩)
    · exact .inr (.inr rfl)
  refine ⟨?_, ?_⟩
  · refine Bool.eq_false_iff.mpr fun hdigit => ?_
    obtain ⟨-, hnine⟩ := Bool.and_eq_true_iff.mp hdigit
    have hle : c.toNat ≤ 57 := of_decide_eq_true hnine
    omega
  · simp only [Text.isBlank, Bool.or_eq_false_iff, Bool.and_eq_false_iff, decide_eq_false_iff_not,
      beq_eq_false_iff_ne]
    omega

private theorem ofNanos?_of_lt (small : n < tooMany) :
    ∃ d, ofNanos? n = some d ∧ d.toNanos = n := by
  have hsecs : n / 1000000000 < UInt64.size :=
    Nat.div_lt_of_lt_mul (Nat.lt_of_lt_of_eq small (Nat.mul_comm _ _))
  refine ⟨_, if_pos hsecs, ?_⟩
  rw [toNanos, UInt64.toNat_ofNat_of_lt' hsecs]
  exact Nat.div_add_mod' n 1000000000

private theorem plus_of_ofNanos? {secs nanos : Nat} {sum : Duration}
    (small : d.nanos + nanos < UInt64.size)
    (whole : ofNanos? ((d.secs.toNat + secs) * 1000000000 + (d.nanos + nanos)) = some sum) :
    plus d secs nanos = .ok sum := by
  rw [plus, checked_of_lt small, ok_bind, whole]
  rfl

private theorem addUnits_piece (sound : p.Sound)
    (fits : d.toNanos + p.total < tooMany) :
    ∃ sum, addUnits d p.value none p.name.reverse = .ok sum ∧
      sum.toNanos = d.toNanos + p.total := by
  have hnanos := d.nanos_lt
  have hbelow := sound.below
  have htotal : p.total = p.value * p.unit.secs * 1000000000 + p.value * p.unit.nanos := by
    rw [Piece.total, Unit.total, Nat.mul_add, Nat.mul_assoc]
  have hd : d.toNanos = d.secs.toNat * 1000000000 + d.nanos := rfl
  have hsum : (d.secs.toNat + p.value * p.unit.secs) * 1000000000 +
      (d.nanos + p.value * p.unit.nanos) = d.toNanos + p.total := by
    rw [hd, htotal, Nat.add_mul]
    omega
  rw [← hsum] at fits
  obtain ⟨sum, hof, hvalue⟩ := ofNanos?_of_lt fits
  refine ⟨sum, ?_, hvalue.trans hsum⟩
  have hlimit : p.value * p.unit.secs * 1000000000 < UInt64.size * 1000000000 :=
    Nat.lt_of_le_of_lt (by omega) fits
  have hroom : 2000000000 < UInt64.size := by decide
  have hsecs : checked (p.value * p.unit.secs) = .ok _ :=
    checked_of_lt (Nat.lt_of_mul_lt_mul_right hlimit)
  have hsmall : checked (p.value * p.unit.nanos) = .ok _ :=
    checked_of_lt (Nat.lt_trans (by omega) hroom)
  have hplus : plus d (p.value * p.unit.secs) (p.value * p.unit.nanos) = .ok sum :=
    plus_of_ofNanos? (Nat.lt_trans (by omega) hroom) hof
  rw [addUnits, List.reverse_reverse, sound.spelt]
  simp only [hsecs, hsmall, ok_bind, hplus]
  rfl

private theorem le_foldl_digits (ds : List Char) (m : Nat) :
    m ≤ ds.foldl (fun n c => 10 * n + Text.digitValue c) m := by
  induction ds generalizing m with
  | nil => exact Nat.le_refl m
  | cons c ds ih =>
    have hnext := ih (10 * m + Text.digitValue c)
    rw [List.foldl_cons]
    omega

private theorem run_digits {ds : List Char} (digits : ∀ c ∈ ds, Text.isDecimalDigit c = true)
    {m : Nat}
    (small : ds.foldl (fun n c => 10 * n + Text.digitValue c) m < UInt64.size) (offset : Nat)
    (rest : List Char) :
    ∃ offset', (Reading.whole m).run d offset (ds ++ rest) =
      (Reading.whole (ds.foldl (fun n c => 10 * n + Text.digitValue c) m)).run d offset' rest := by
  induction ds generalizing m offset with
  | nil => exact ⟨offset, rfl⟩
  | cons c ds ih =>
    have hc : Text.isDecimalDigit c = true := digits c (List.mem_cons_self ..)
    have hfits : 10 * m + Text.digitValue c < UInt64.size :=
      Nat.lt_of_le_of_lt (le_foldl_digits ds _) small
    have hstep : (Reading.whole m).step d offset c =
        .ok (.whole (10 * m + Text.digitValue c), d) := by
      simp only [Reading.step, if_pos hc, pushDigit, checked_of_lt hfits, ok_bind]
      rfl
    obtain ⟨offset', hrest⟩ := ih (fun c mem => digits c (List.mem_cons_of_mem _ mem)) small
      (offset + Text.Utf8.width c)
    refine ⟨offset', ?_⟩
    rw [List.cons_append, Reading.run, hstep]
    exact hrest

private theorem run_number (small : n < UInt64.size) (since : Nat) (started : Bool) (offset : Nat)
    (rest : List Char) :
    ∃ offset', (Reading.seeking since started).run d offset (Text.decimalDigits n ++ rest) =
      (Reading.whole n).run d offset' rest := by
  obtain ⟨c, front, hdigits⟩ := List.exists_cons_of_ne_nil (Text.decimalDigits_ne_nil n)
  have hall (c : Char) (mem : c ∈ Text.decimalDigits n) : Text.isDecimalDigit c = true :=
    Text.isDecimalDigit_of_mem mem
  have hvalue := Text.decimalValue_decimalDigits n
  rw [hdigits] at hall hvalue ⊢
  have hfront : front.foldl (fun n c => 10 * n + Text.digitValue c) (Text.digitValue c) = n := by
    rw [← hvalue, Text.decimalValue, List.foldl_cons, Nat.mul_zero, Nat.zero_add]
  have hstep : (Reading.seeking since started).step d offset c =
      .ok (.whole (Text.digitValue c), d) := by
    simp only [Reading.step, if_pos (hall c (List.mem_cons_self ..))]
    rfl
  obtain ⟨offset', hrest⟩ := run_digits (d := d)
    (fun c mem => hall c (List.mem_cons_of_mem _ mem)) (hfront.symm ▸ small)
    (offset + Text.Utf8.width c) rest
  refine ⟨offset', ?_⟩
  rw [List.cons_append, Reading.run, hstep]
  rw [hfront] at hrest
  exact hrest

private theorem run_letters {name : List Char} (letters : ∀ c ∈ name, isUnitLetter c = true)
    (read : List Char) (offset : Nat) (rest : List Char) :
    ∃ offset', (Reading.unit n none read).run d offset (name ++ rest) =
      (Reading.unit n none (name.reverse ++ read)).run d offset' rest := by
  induction name generalizing read offset with
  | nil => exact ⟨offset, rfl⟩
  | cons c name ih =>
    have hc : isUnitLetter c = true := letters c (List.mem_cons_self ..)
    obtain ⟨hdigit, hblank⟩ := isUnitLetter_solid hc
    have hstep :
        (Reading.unit n none read).step d offset c = .ok (.unit n none (c :: read), d) := by
      simp only [Reading.step, hdigit, hblank, hc, Bool.false_eq_true, if_false, if_true]
      rfl
    obtain ⟨offset', hrest⟩ := ih (fun c mem => letters c (List.mem_cons_of_mem _ mem)) (c :: read)
      (offset + Text.Utf8.width c)
    refine ⟨offset', ?_⟩
    rw [List.cons_append, Reading.run, hstep, List.reverse_cons, List.append_assoc]
    exact hrest

private theorem run_piece (sound : p.Sound) (since : Nat) (started : Bool) (offset : Nat)
    (rest : List Char) :
    ∃ offset', (Reading.seeking since started).run d offset (p.chars ++ rest) =
      (Reading.unit p.value none p.name.reverse).run d offset' rest := by
  obtain ⟨c, name, hname⟩ := List.exists_cons_of_ne_nil sound.named
  have hall (c : Char) (mem : c ∈ p.name) : isUnitLetter c = true :=
    List.all_eq_true.mp sound.letters c mem
  rw [hname] at hall
  have hc : isUnitLetter c = true := hall c (List.mem_cons_self ..)
  obtain ⟨hdigit, hblank⟩ := isUnitLetter_solid hc
  have hstep (offset : Nat) :
      (Reading.whole p.value).step d offset c = .ok (.unit p.value none [c], d) := by
    simp only [Reading.step, hdigit, hblank, hc, Bool.false_eq_true, if_false, if_true]
    rfl
  rw [Piece.chars, hname, List.append_assoc]
  obtain ⟨middle, hnumber⟩ := run_number (d := d) sound.small since started offset
    (c :: name ++ rest)
  obtain ⟨offset', hletters⟩ := run_letters (d := d) (n := p.value)
    (fun c mem => hall c (List.mem_cons_of_mem _ mem)) [c] (middle + Text.Utf8.width c) rest
  refine ⟨offset', ?_⟩
  rw [hnumber, List.cons_append, Reading.run, hstep, List.reverse_cons]
  exact hletters

private theorem step_blank {fraction : Option Fraction} {letters : List Char} {sum : Duration}
    (adds : addUnits d n fraction letters = .ok sum) :
    (Reading.unit n fraction letters).step d offset ' ' =
      .ok (.seeking (offset + Text.Utf8.width ' ') true, sum) := by
  have hdigit : Text.isDecimalDigit ' ' = false := by decide
  have hblank : Text.isBlank ' ' = true := by decide
  simp only [Reading.step, hdigit, hblank, Bool.false_eq_true, if_false, if_true, adds, ok_bind]
  rfl

private theorem joinParts_one (part : List Char) : joinParts [part] = part := rfl

private theorem joinParts_cons (part next : List Char) (more : List (List Char)) :
    joinParts (part :: next :: more) = part ++ ' ' :: joinParts (next :: more) := rfl

private theorem run_pieces (some : ps ≠ []) (sound : ∀ p ∈ ps, p.Sound)
    (fits : d.toNanos + (ps.map Piece.total).sum < tooMany) (since : Nat)
    (started : Bool) (offset : Nat) :
    ∃ sum, (Reading.seeking since started).run d offset (joinParts (ps.map Piece.chars)) = .ok sum ∧
      sum.toNanos = d.toNanos + (ps.map Piece.total).sum := by
  induction ps generalizing d since started offset with
  | nil => exact absurd rfl some
  | cons p ps ih =>
    have hp : p.Sound := sound p (List.mem_cons_self ..)
    simp only [List.map_cons, List.sum_cons] at fits ⊢
    obtain ⟨sum, hadd, hsum⟩ := addUnits_piece (d := d) hp (by omega)
    cases ps with
    | nil =>
      obtain ⟨offset', hpiece⟩ := run_piece (d := d) hp since started offset []
      rw [List.append_nil, Reading.run, Reading.finish, hadd] at hpiece
      rw [List.map_nil, List.map_nil, List.sum_nil, Nat.add_zero, joinParts_one]
      exact ⟨sum, hpiece, hsum⟩
    | cons q ps =>
      obtain ⟨middle, hpiece⟩ := run_piece (d := d) hp since started offset
        (' ' :: joinParts ((q :: ps).map Piece.chars))
      obtain ⟨whole, hrest, hwhole⟩ := ih (d := sum) (List.cons_ne_nil q ps)
        (fun p mem => sound p (List.mem_cons_of_mem _ mem)) (by omega)
        (middle + Text.Utf8.width ' ') true (middle + Text.Utf8.width ' ')
      refine ⟨whole, ?_, by omega⟩
      rw [List.map_cons] at hrest hpiece ⊢
      rw [joinParts_cons, hpiece, Reading.run, step_blank hadd]
      exact hrest

end Reading

section Writing

variable {d : Duration} {value : Nat} {unit : Unit} {name : String} {plural : Bool}

private def piecesOf (value : Nat) (unit : Unit) (name : String) (plural : Bool) : List Piece :=
  if value = 0 then []
  else [⟨value, unit, name.toList ++ if plural && 1 < value then ['s'] else []⟩]

private theorem map_chars_piecesOf (value : Nat) (unit : Unit) (name : String) (plural : Bool) :
    (piecesOf value unit name plural).map Piece.chars = part value name plural := by
  rw [piecesOf, part]
  split_ifs <;> simp [Piece.chars]

private theorem sum_piecesOf (value : Nat) (unit : Unit) (name : String) (plural : Bool) :
    ((piecesOf value unit name plural).map Piece.total).sum = value * unit.total := by
  rw [piecesOf]
  split_ifs with hzero hplural
  · rw [hzero, Nat.zero_mul, List.map_nil, List.sum_nil]
  · rw [List.map_singleton, List.sum_singleton, Piece.total]
  · rw [List.map_singleton, List.sum_singleton, Piece.total]

private def Unit.Named (unit : Unit) (name : List Char) : Prop :=
  Unit.ofText? (String.ofList name) = some unit ∧ name.all isUnitLetter = true ∧ name ≠ []

instance (unit : Unit) (name : List Char) : Decidable (unit.Named name) :=
  inferInstanceAs (Decidable (_ ∧ _ ∧ _))

private theorem sound_of_mem_piecesOf {p : Piece} (mem : p ∈ piecesOf value unit name plural)
    (one : unit.Named name.toList) (many : plural = true → unit.Named (name.toList ++ ['s']))
    (small : value < UInt64.size) (below : value * unit.nanos < 1000000000) : p.Sound := by
  rw [piecesOf] at mem
  split_ifs at mem with hzero hplural
  · cases mem
  · rw [List.mem_singleton.mp mem]
    obtain ⟨hspelt, hletters, hnamed⟩ := many (Bool.and_eq_true_iff.mp hplural).1
    exact ⟨hspelt, hletters, hnamed, small, below⟩
  · rw [List.mem_singleton.mp mem, List.append_nil]
    obtain ⟨hspelt, hletters, hnamed⟩ := one
    exact ⟨hspelt, hletters, hnamed, small, below⟩

private def pieces (d : Duration) : List Piece :=
  let secs := d.secs.toNat
  let inYear := secs % 31557600
  let inMonth := inYear % 2630016
  let inDay := inMonth % 86400
  piecesOf (secs / 31557600) .year "year" true ++
    piecesOf (inYear / 2630016) .month "month" true ++
    piecesOf (inMonth / 86400) .day "day" true ++ piecesOf (inDay / 3600) .hour "h" false ++
    piecesOf (inDay % 3600 / 60) .minute "m" false ++ piecesOf (inDay % 60) .second "s" false ++
    piecesOf (d.nanos / 1000000) .millisecond "ms" false ++
    piecesOf (d.nanos / 1000 % 1000) .microsecond "us" false ++
    piecesOf (d.nanos % 1000) .nanosecond "ns" false

private theorem map_chars_pieces (d : Duration) : d.pieces.map Piece.chars = d.parts := by
  simp only [pieces, parts, List.map_append, map_chars_piecesOf]

private theorem sum_pieces (d : Duration) : (d.pieces.map Piece.total).sum = d.toNanos := by
  simp only [pieces, List.map_append, List.sum_append, sum_piecesOf, Unit.total, Unit.secs,
    Unit.nanos, toNanos]
  omega

private theorem sound_of_mem_pieces {p : Piece} (mem : p ∈ d.pieces) : p.Sound := by
  have hnanos := d.nanos_lt
  have hsecs : d.secs.toNat < UInt64.size := d.secs.toNat_lt_size
  have hlarge (value : Nat) {unit : Unit} (none : unit.nanos = 0) :
      value * unit.nanos < 1000000000 := by
    rw [none, Nat.mul_zero]
    decide
  have hthousand : 1000 < UInt64.size := by decide
  simp only [pieces, List.mem_append] at mem
  rcases mem with (((((((hyear | hmonth) | hday) | hhour) | hminute) | hsecond) | hmilli) |
    hmicro) | hnano
  · exact sound_of_mem_piecesOf hyear (by decide) (by decide) (by omega) (hlarge _ rfl)
  · exact sound_of_mem_piecesOf hmonth (by decide) (by decide) (by omega) (hlarge _ rfl)
  · exact sound_of_mem_piecesOf hday (by decide) (by decide) (by omega) (hlarge _ rfl)
  · exact sound_of_mem_piecesOf hhour (by decide) nofun (by omega) (hlarge _ rfl)
  · exact sound_of_mem_piecesOf hminute (by decide) nofun (by omega) (hlarge _ rfl)
  · exact sound_of_mem_piecesOf hsecond (by decide) nofun (by omega) (hlarge _ rfl)
  · exact sound_of_mem_piecesOf hmilli (by decide) nofun (by omega) (by rw [Unit.nanos]; omega)
  · exact sound_of_mem_piecesOf hmicro (by decide) nofun (by omega) (by rw [Unit.nanos]; omega)
  · exact sound_of_mem_piecesOf hnano (by decide) nofun (by omega) (by rw [Unit.nanos]; omega)

private theorem pieces_ne_nil (nonzero : d ≠ zero) : d.pieces ≠ [] := by
  intro hnil
  have hsum := sum_pieces d
  rw [hnil] at hsum
  exact nonzero (toNanos_injective hsum.symm)

/-- The printed form of a span is read as the span. -/
theorem ofText_text (d : Duration) : ofText d.text = .ok d := by
  by_cases hzero : d = zero
  · rw [hzero]
    decide
  have hfits : zero.toNanos + (d.pieces.map Piece.total).sum < tooMany := by
    rw [sum_pieces, show zero.toNanos = 0 from rfl, Nat.zero_add]
    exact toNanos_lt d
  obtain ⟨sum, hrun, hsum⟩ := run_pieces (pieces_ne_nil hzero)
    (fun p mem => sound_of_mem_pieces mem) hfits 0 false 0
  rw [map_chars_pieces] at hrun
  rw [sum_pieces, show zero.toNanos = 0 from rfl, Nat.zero_add] at hsum
  have hd : sum = d := toNanos_injective hsum
  -- A lone zero is no printed form: it has no unit, and so it would not be read as parts.
  have hunit : d.text ≠ "0" := by
    intro htext
    rw [text, chars, if_neg hzero] at htext
    have hchars : joinParts d.parts = ['0'] := String.ofList_injective htext
    rw [hchars] at hrun
    cases hrun
  rw [ofText, if_neg hunit, text, String.toList_ofList, chars, if_neg hzero, hrun, hd]

end Writing

end RadioLink.Duration
