import RadioLink.Proofs.Frame.Decoding

/-!
The leftmost parse of a byte string, read off its indices, and the decoder that is fed the string in
pieces. However the pieces are cut and whenever the decoder is asked for a payload in between, it
delivers the payloads of the leftmost parse and comes to rest in the same place.
-/

set_option autoImplicit false
set_option relaxedAutoImplicit false

namespace RadioLink.Frame

/-- The magic pair stands at an index, and nowhere ahead of it. -/
structure FirstPair (s : Bytes) (i : Nat) : Prop where
  pair : PairAt s i
  least : ∀ j < i, ¬ PairAt s j

def lengthAt (s : Bytes) (i : Nat) : Nat := Bytes.toNatBE ((s.drop (i + 2)).take 2)

/-- The payloads of a byte string from the left: each frame begins at the first pair, and the next
search begins right behind it. -/
inductive Leftmost : Bytes → List Bytes → Prop
  | frame {s : Bytes} {i : Nat} {payloads : List Bytes} (first : FirstPair s i)
      (whole : i + 4 + lengthAt s i ≤ s.length)
      (behind : Leftmost (s.drop (i + 4 + lengthAt s i)) payloads) :
      Leftmost s ((s.drop (i + 4)).take (lengthAt s i) :: payloads)
  /-- There is no pair, or the frame at the first one has not arrived in full. -/
  | stop {s : Bytes} (short : ∀ i, FirstPair s i → s.length < i + 4 + lengthAt s i) :
      Leftmost s []

private theorem FirstPair.exists_cons_cons {s : Bytes} {i : Nat} (h : FirstPair s i) :
    ∃ a b rest, s = a :: b :: rest := by
  have hlt := h.pair.lt_length
  rcases s with _ | ⟨a, _ | ⟨b, rest⟩⟩
  · simp at hlt
  · simp at hlt
  · exact ⟨a, b, rest, rfl⟩

private theorem afterPair?_of_firstPair {s : Bytes} {i : Nat} (h : FirstPair s i) :
    afterPair? s = some (s.drop (i + 2)) := by
  induction i generalizing s with
  | zero =>
    obtain ⟨a, b, rest, rfl⟩ := h.exists_cons_cons
    have hpair := h.pair
    simp only [PairAt, List.getElem?_cons_zero, List.getElem?_cons_succ, Option.some.injEq]
      at hpair
    simp [afterPair?, hpair.1, hpair.2]
  | succ i ih =>
    obtain ⟨a, b, rest, rfl⟩ := h.exists_cons_cons
    have hhead : ¬ (a = magic₁ ∧ b = magic₂) := fun he =>
      h.least 0 (Nat.succ_pos i) (by simp [PairAt, he.1, he.2])
    have htail : FirstPair (b :: rest) i :=
      ⟨by simpa [PairAt] using h.pair, fun j hj hat =>
        h.least (j + 1) (by omega) (by simpa [PairAt] using hat)⟩
    rw [afterPair?, if_neg hhead, ih htail]
    rfl

private theorem exists_firstPair_of_afterPair? {s rest : Bytes} (h : afterPair? s = some rest) :
    ∃ i, FirstPair s i ∧ rest = s.drop (i + 2) := by
  fun_induction afterPair? s with
  | case1 a b tail hpair =>
    cases h
    exact ⟨0, ⟨by simp [PairAt, hpair.1, hpair.2], by simp⟩, rfl⟩
  | case2 a b tail hpair ih =>
    obtain ⟨i, hi, hrest⟩ := ih h
    refine ⟨i + 1, ⟨by simpa [PairAt] using hi.pair, ?_⟩, hrest⟩
    intro j hj hat
    cases j with
    | zero => exact hpair (by simpa [PairAt] using hat)
    | succ j => exact hi.least j (by omega) (by simpa [PairAt] using hat)
  | case3 => cases h

private theorem lengthAt_of_drop {s rest : Bytes} {i : Nat} {high low : UInt8}
    (h : s.drop (i + 2) = high :: low :: rest) :
    lengthAt s i = 256 * high.toNat + low.toNat ∧ s.drop (i + 4) = rest := by
  constructor
  · simp [lengthAt, h, Bytes.toNatBE, Nat.mul_comm]
  · rw [← List.drop_drop (i := 2) (j := i + 2), h]
    rfl

private theorem firstFrame?_eq_some_iff {s p rest : Bytes} :
    firstFrame? s = some (p, rest) ↔
      ∃ i, FirstPair s i ∧ i + 4 + lengthAt s i ≤ s.length ∧
        p = (s.drop (i + 4)).take (lengthAt s i) ∧ rest = s.drop (i + 4 + lengthAt s i) := by
  constructor
  · intro h
    rw [firstFrame?] at h
    split at h
    · rename_i high low behind hpair
      obtain ⟨i, hi, hdrop⟩ := exists_firstPair_of_afterPair? hpair
      obtain ⟨hlength, hbehind⟩ := lengthAt_of_drop hdrop.symm
      have hcount := congrArg List.length hdrop
      simp only [List.length_cons, List.length_drop] at hcount
      simp only [← hlength] at h
      split_ifs at h with hwhole
      · cases h
        refine ⟨i, hi, by omega, by rw [hbehind], ?_⟩
        rw [← hbehind, List.drop_drop]
    · cases h
  · rintro ⟨i, hi, hwhole, rfl, rfl⟩
    rw [firstFrame?, afterPair?_of_firstPair hi]
    match hdrop : s.drop (i + 2) with
    | [] | [_] =>
      have hcount := congrArg List.length hdrop
      simp only [List.length_cons, List.length_nil, List.length_drop] at hcount
      omega
    | high :: low :: behind =>
      obtain ⟨hlength, hbehind⟩ := lengthAt_of_drop hdrop
      have hcount := congrArg List.length hdrop
      simp only [List.length_cons, List.length_drop] at hcount
      simp only [← hlength]
      rw [if_pos (by omega), hbehind, ← List.drop_drop, hbehind]

private theorem firstFrame?_eq_none_iff {s : Bytes} :
    firstFrame? s = none ↔ ∀ i, FirstPair s i → s.length < i + 4 + lengthAt s i := by
  constructor
  · intro h i hi
    by_contra hlong
    have hsome := firstFrame?_eq_some_iff.mpr ⟨i, hi, by omega, rfl, rfl⟩
    rw [h] at hsome
    cases hsome
  · intro h
    rcases hfirst : firstFrame? s with _ | ⟨p, rest⟩
    · rfl
    · obtain ⟨i, hi, hwhole, -, -⟩ := firstFrame?_eq_some_iff.mp hfirst
      have hlong := h i hi
      omega

private theorem firstFrame?_undecided (s : Bytes) : firstFrame? (undecided s) = firstFrame? s := by
  rw [firstFrame?, afterPair?_undecided, firstFrame?]

namespace Decoder

variable {d d' : Decoder} {p : Bytes}

private theorem firstFrame?_of_next_some (hd : d.Sound) (h : d.next = (some p, d')) :
    firstFrame? d.kept = some (p, d'.kept) := by
  obtain ⟨high, low, hs, hp, -⟩ := kept_of_next_some hd h
  rw [← firstFrame?_undecided, hs]
  simp [firstFrame?, afterPair?, ← hp]

private theorem firstFrame?_of_next_none (hd : d.Sound) (h : d.next = (none, d')) :
    firstFrame? d.kept = none := by
  rw [next_eq_settle hd] at h
  rw [← firstFrame?_undecided]
  rcases undecided_cases d.kept with hs | hs | ⟨rest, hs⟩
  · rw [hs]
    rfl
  · rw [hs]
    rfl
  · rw [hs] at h ⊢
    match rest with
    | [] | [_] => simp [firstFrame?, afterPair?]
    | high :: low :: rest =>
      simp only [settle, takePayload] at h
      split_ifs at h with hshort
      · simp only [firstFrame?, afterPair?, and_self, if_true]
        rw [if_neg (by omega)]
      · cases h

private theorem parseUpTo_kept (n : Nat) (hd : d.Sound) (hn : d.kept.length / 4 ≤ n) :
    parseUpTo n d.kept = d.drain.1 := by
  induction d, hd using drain_induction generalizing n with
  | nothing d d' hd h =>
    rw [drain_of_next_none h]
    cases n with
    | zero => rfl
    | succ n => rw [parseUpTo, firstFrame?_of_next_none hd h]
  | payload d d' p hd h ih =>
    have hlength := length_kept_of_next_some hd h
    rw [drain_of_next_some hd h]
    cases n with
    | zero => omega
    | succ n =>
      rw [parseUpTo, firstFrame?_of_next_some hd h]
      exact congrArg (p :: ·) (ih n (by omega))

private theorem parse_kept (hd : d.Sound) : parse d.kept = d.drain.1 :=
  parseUpTo_kept _ hd (Nat.le_refl _)

end Decoder

theorem parse_eq_drain (s : Bytes) : parse s = (Decoder.empty.feed s).drain.1 := by
  have h := Decoder.parse_kept (Decoder.sound_empty.feed s)
  rwa [Decoder.kept_feed, Decoder.kept_empty, List.nil_append] at h

private theorem parse_of_firstFrame?_none {s : Bytes} (h : firstFrame? s = none) :
    parse s = [] := by
  rw [parse]
  cases s.length / 4 with
  | zero => rfl
  | succ n => rw [parseUpTo, h]

private theorem parse_of_firstFrame?_some {s p rest : Bytes} (h : firstFrame? s = some (p, rest)) :
    parse s = p :: parse rest := by
  have hd := Decoder.sound_empty.feed s
  have hkept : (Decoder.empty.feed s).kept = s := by simp
  rcases hnext : (Decoder.empty.feed s).next with ⟨found, d⟩
  cases found with
  | none =>
    have hnone := Decoder.firstFrame?_of_next_none hd hnext
    rw [hkept, h] at hnone
    cases hnone
  | some q =>
    have hsome := Decoder.firstFrame?_of_next_some hd hnext
    rw [hkept, h] at hsome
    cases hsome
    rw [parse_eq_drain s, Decoder.drain_of_next_some hd hnext,
      ← Decoder.parse_kept (Decoder.sound_of_next_some hd hnext)]

/-- The parse of a byte string is its leftmost parse, and there is no other. -/
theorem leftmost_iff {s : Bytes} {payloads : List Bytes} :
    Leftmost s payloads ↔ payloads = parse s := by
  constructor
  · intro h
    induction h with
    | frame first whole behind ih =>
      rw [parse_of_firstFrame?_some (firstFrame?_eq_some_iff.mpr ⟨_, first, whole, rfl, rfl⟩), ih]
    | stop short => rw [parse_of_firstFrame?_none (firstFrame?_eq_none_iff.mpr short)]
  · rintro rfl
    induction hn : s.length using Nat.strongRecOn generalizing s with
    | ind n ih =>
      rcases hfirst : firstFrame? s with _ | ⟨p, rest⟩
      · rw [parse_of_firstFrame?_none hfirst]
        exact .stop (firstFrame?_eq_none_iff.mp hfirst)
      · rw [parse_of_firstFrame?_some hfirst]
        obtain ⟨i, hi, hwhole, rfl, rfl⟩ := firstFrame?_eq_some_iff.mp hfirst
        refine .frame hi hwhole (ih _ ?_ rfl)
        rw [List.length_drop]
        omega

/-- A pair that begins at the second of two first octets, behind noise. -/
example : parse [0, magic₁, magic₁, magic₂, 0, 1, 7, magic₁] = [[7]] := by decide

inductive Call where
  /-- Octets come in, handed over or read straight into the buffer. -/
  | feed (piece : Bytes)
  | next
  deriving DecidableEq, Repr

def Call.stream : List Call → Bytes
  | [] => []
  | .feed piece :: calls => piece ++ stream calls
  | .next :: calls => stream calls

namespace Decoder

variable {d : Decoder}

def run (d : Decoder) : List Call → List Bytes × Decoder
  | [] => ([], d)
  | .feed piece :: calls => (d.feed piece).run calls
  | .next :: calls =>
    let (found, d) := d.next
    let (payloads, d) := d.run calls
    (found.toList ++ payloads, d)

theorem run_next_of_next_none {d' : Decoder} (h : d.next = (none, d')) (calls : List Call) :
    d.run (.next :: calls) = d'.run calls := by
  simp [run, h]

theorem run_next_of_next_some {d' : Decoder} {p : Bytes} (h : d.next = (some p, d'))
    (calls : List Call) :
    d.run (.next :: calls) = (p :: (d'.run calls).1, (d'.run calls).2) := by
  simp [run, h]

/-- Taking everything behind some calls gives what the calls did not give of all that a decoder fed
at once has to deliver. -/
private theorem drain_run (hd : d.Sound) (calls : List Call) :
    (d.feed (Call.stream calls)).drain =
      ((d.run calls).1 ++ (d.run calls).2.drain.1, (d.run calls).2.drain.2) := by
  induction calls generalizing d with
  | nil => simp [Call.stream, run]
  | cons call calls ih =>
    cases call with
    | feed piece =>
      have h := ih (hd.feed piece)
      rwa [feed_feed] at h
    | next =>
      rcases hnext : d.next with ⟨found, d'⟩
      cases found with
      | none =>
        rw [run_next_of_next_none hnext, ← ih (kept_of_next_none hd hnext).2.2]
        exact (drain_feed_of_next_none hd hnext _).symm
      | some p =>
        have hfed := next_feed_of_next_some hd hnext (Call.stream calls)
        rw [run_next_of_next_some hnext, Call.stream, drain_of_next_some (hd.feed _) hfed,
          ih (sound_of_next_some hd hnext), List.cons_append]

/-- However a byte string is cut, and whenever the decoder is asked in between, the payloads are
those of the one leftmost parse, the decoder ends where it has nothing more to give, and it ends in
the same state, with the same octets buffered and the same count of dropped octets, as after a
single piece. -/
theorem leftmost_run_append_drain (calls : List Call) :
    (∀ payloads, Leftmost (Call.stream calls) payloads ↔
        payloads = (empty.run calls).1 ++ (empty.run calls).2.drain.1) ∧
      (empty.run calls).2.drain.2.next = (none, (empty.run calls).2.drain.2) ∧
      (empty.run calls).2.drain.2 = (empty.feed (Call.stream calls)).drain.2 := by
  have hdrain := drain_run sound_empty calls
  refine ⟨fun payloads => ?_, ?_, ?_⟩
  · rw [leftmost_iff, parse_eq_drain, hdrain]
  · have hnext := next_drain (sound_empty.feed (Call.stream calls))
    rwa [hdrain] at hnext
  · rw [hdrain]

end Decoder

end RadioLink.Frame
