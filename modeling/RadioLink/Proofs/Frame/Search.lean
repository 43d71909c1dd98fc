import RadioLink.Frame.Stream
import Mathlib.Data.List.Basic

/-!
The search for a frame, told from the octets alone. Of a byte string a search settles everything up
to the place where a frame begins, or may begin once more octets are known. What a decoder has taken
off the stream and may still need is written out as octets again, so that one step of a decoder is a
function of these octets and of the number of octets seen.
-/

set_option autoImplicit false
set_option relaxedAutoImplicit false

namespace RadioLink.Frame

def PairAt (s : Bytes) (i : Nat) : Prop :=
  s[i]? = some magic₁ ∧ s[i + 1]? = some magic₂

instance (s : Bytes) (i : Nat) : Decidable (PairAt s i) :=
  inferInstanceAs (Decidable (s[i]? = some magic₁ ∧ s[i + 1]? = some magic₂))

theorem PairAt.lt_length {s : Bytes} {i : Nat} (h : PairAt s i) : i + 1 < s.length :=
  (List.getElem?_eq_some_iff.mp h.2).1

/-- The octets from the place where a frame begins, or may begin once more is known. -/
def undecided : Bytes → Bytes
  | [] => []
  | [b] => if b = magic₁ then [b] else []
  | b :: c :: rest => if b = magic₁ ∧ c = magic₂ then b :: c :: rest else undecided (c :: rest)

theorem magic_ne : magic₁ ≠ magic₂ := by decide

@[simp] theorem undecided_pair (rest : Bytes) :
    undecided (magic₁ :: magic₂ :: rest) = magic₁ :: magic₂ :: rest := by
  simp [undecided]

theorem undecided_cons_of_ne {b : UInt8} (hb : b ≠ magic₁) (s : Bytes) :
    undecided (b :: s) = undecided s := by
  cases s with
  | nil => simp [undecided, hb]
  | cons c rest => simp [undecided, hb]

theorem undecided_cons_cons_of_ne {c : UInt8} (hc : c ≠ magic₂) (b : UInt8) (s : Bytes) :
    undecided (b :: c :: s) = undecided (c :: s) := by
  simp [undecided, hc]

theorem undecided_append (s t : Bytes) :
    undecided (undecided s ++ t) = undecided (s ++ t) := by
  fun_induction undecided s with
  | case1 => rfl
  | case2 => rfl
  | case3 b hb => rw [List.singleton_append, undecided_cons_of_ne hb, List.nil_append]
  | case4 => rfl
  | case5 b c rest hpair ih =>
    rw [ih, List.cons_append, List.cons_append, List.cons_append]
    by_cases hb : b = magic₁
    · rw [undecided_cons_cons_of_ne (fun hc => hpair ⟨hb, hc⟩)]
    · rw [undecided_cons_of_ne hb]

theorem undecided_cases (s : Bytes) :
    undecided s = [] ∨ undecided s = [magic₁] ∨
      ∃ rest, undecided s = magic₁ :: magic₂ :: rest := by
  fun_induction undecided s with
  | case1 => exact Or.inl rfl
  | case2 => exact Or.inr (Or.inl rfl)
  | case3 => exact Or.inl rfl
  | case4 b c rest hpair => exact Or.inr (Or.inr ⟨rest, by rw [hpair.1, hpair.2]⟩)
  | case5 b c rest hpair ih => exact ih

private theorem exists_settled (s : Bytes) :
    ∃ front, s = front ++ undecided s ∧ ∀ i < front.length, ¬ PairAt s i := by
  fun_induction undecided s with
  | case1 => exact ⟨[], rfl, by simp⟩
  | case2 => exact ⟨[], rfl, by simp⟩
  | case3 b hb => exact ⟨[b], rfl, by simp [PairAt]⟩
  | case4 => exact ⟨[], rfl, by simp⟩
  | case5 b c rest hpair ih =>
    obtain ⟨front, hs, hfront⟩ := ih
    refine ⟨b :: front, by rw [List.cons_append, ← hs], ?_⟩
    intro i hi hat
    cases i with
    | zero => exact hpair (by simpa [PairAt] using hat)
    | succ i => exact hfront i (by simpa using hi) (by simpa [PairAt] using hat)

theorem length_undecided_le (s : Bytes) : (undecided s).length ≤ s.length := by
  obtain ⟨front, hs, -⟩ := exists_settled s
  have h := congrArg List.length hs
  rw [List.length_append] at h
  omega

theorem afterPair?_undecided (s : Bytes) : afterPair? (undecided s) = afterPair? s := by
  fun_induction undecided s with
  | case1 => rfl
  | case2 => rfl
  | case3 => rfl
  | case4 => rfl
  | case5 b c rest hpair ih => rw [ih, afterPair?, if_neg hpair]

def Hunt.ofUndecided (seen : Nat) : Bytes → Hunt
  | [] => .exhausted false seen
  | [_] => .exhausted true (seen - 1)
  | _ :: _ :: rest => .found rest (seen - (rest.length + 2))

/-- A search for the pair finds what the octets alone say. -/
theorem hunt_eq_ofUndecided (n : Nat) (s : Bytes) :
    hunt false n s = .ofUndecided (n + s.length) (undecided s) := by
  fun_induction undecided s generalizing n with
  | case1 => rfl
  | case2 => simp [hunt, Hunt.ofUndecided]
  | case3 b hb => simp [hunt, Hunt.ofUndecided, hb]
  | case4 b c rest hpair => simp [hunt, Hunt.ofUndecided, hpair.1, hpair.2]
  | case5 b c rest hpair ih =>
    have hstep : hunt false n (b :: c :: rest) = hunt false (n + 1) (c :: rest) := by
      by_cases hb : b = magic₁
      · have hc : c ≠ magic₂ := fun hc => hpair ⟨hb, hc⟩
        by_cases hc' : c = magic₁ <;> simp [hunt, hb, hc, hc', magic_ne]
      · simp [hunt, hb]
    rw [hstep, ih, List.length_cons (a := b), Nat.add_right_comm n 1, Nat.add_assoc]

end RadioLink.Frame
