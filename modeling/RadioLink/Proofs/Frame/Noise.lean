import RadioLink.Proofs.Frame.Cuts

/-!
Frames amid noise. Noise is any octets in which the magic pair does not stand; it may hold single
magic octets, also where it meets a frame. A decoder gets every payload out of the noise and counts
every octet of it as dropped, but for a first magic octet at the very end.
-/

set_option autoImplicit false
set_option relaxedAutoImplicit false

namespace RadioLink.Frame

def Noise (s : Bytes) : Prop := ∀ i, ¬ PairAt s i

instance (s : Bytes) : Decidable (Noise s) :=
  decidable_of_iff (∀ i < s.length, ¬ PairAt s i)
    ⟨fun h i hi => h i (Nat.lt_of_succ_lt hi.lt_length) hi, fun h i _ => h i⟩

private theorem Noise.tail {b : UInt8} {s : Bytes} (h : Noise (b :: s)) : Noise s := by
  intro i hi
  exact h (i + 1) (by simpa [PairAt] using hi)

private theorem Noise.not_pair {b c : UInt8} {s : Bytes} (h : Noise (b :: c :: s)) :
    ¬ (b = magic₁ ∧ c = magic₂) := by
  intro he
  exact h 0 (by simp [PairAt, he.1, he.2])

/-- Noise ahead of a first magic octet is settled, and the octet is not: whatever the noise ends
with, it makes no pair with this octet. -/
private theorem undecided_noise_append {g : Bytes} (h : Noise g) (t : Bytes) :
    undecided (g ++ magic₁ :: t) = undecided (magic₁ :: t) := by
  induction g with
  | nil => rfl
  | cons b g ih =>
    rw [List.cons_append, ← ih h.tail]
    cases g with
    | nil => exact undecided_cons_cons_of_ne magic_ne b t
    | cons c g =>
      by_cases hb : b = magic₁
      · exact undecided_cons_cons_of_ne (fun hc => h.not_pair ⟨hb, hc⟩) b _
      · exact undecided_cons_of_ne hb _

/-- Of noise a search leaves at most a first magic octet at the end undecided. -/
private theorem undecided_noise {g : Bytes} (h : Noise g) :
    undecided g = if g.getLast? = some magic₁ then [magic₁] else [] := by
  fun_induction undecided g with
  | case1 => simp
  | case2 => simp
  | case3 b hb => simp [hb]
  | case4 b c rest hpair => exact absurd hpair h.not_pair
  | case5 b c rest hpair ih => rw [ih h.tail, List.getLast?_cons_cons]

theorem encode_eq_ok_iff (p : Bytes) :
    ((∃ frame, encode p = .ok frame) ↔ p.length ≤ 65535) ∧
      (65535 < p.length → encode p = .error (.payloadTooLarge p.length 65535)) := by
  constructor
  · constructor
    · rintro ⟨frame, h⟩
      rw [encode] at h
      split_ifs at h with hle
      exact hle
    · intro hle
      exact ⟨wrap p, if_pos hle⟩
  · intro hlt
    exact if_neg (by simpa [maxPayload] using hlt)

theorem encode_eq_ok {p frame : Bytes} (h : encode p = .ok frame) :
    ∃ high low : UInt8, frame = magic₁ :: magic₂ :: high :: low :: p ∧
      p.length = 256 * high.toNat + low.toNat := by
  have hle : p.length ≤ 65535 := (encode_eq_ok_iff p).1.mp ⟨frame, h⟩
  obtain ⟨high, low, hfield, hlength⟩ := exists_length_field (n := p.length) (by omega)
  rw [encode, if_pos (show p.length ≤ maxPayload from hle)] at h
  cases h
  exact ⟨high, low, by simp [wrap, hfield], hlength.symm⟩

def noisyStream (noise : Bytes) : List (Bytes × Bytes) → Except LinkError Bytes
  | [] => .ok noise
  | (payload, behind) :: parts => do
    let frame ← encode payload
    let rest ← noisyStream behind parts
    return noise ++ frame ++ rest

def noises (noise : Bytes) (parts : List (Bytes × Bytes)) : List Bytes :=
  noise :: parts.map Prod.snd

namespace Decoder

private def seeking (n : Nat) : Decoder := ⟨[], .seekFirst, n⟩

private theorem kept_seeking (n : Nat) : (seeking n).kept = [] := rfl

private theorem sound_seeking (n : Nat) : (seeking n).Sound := by
  intro m h
  cases h

private theorem next_noise_frame {g p frame : Bytes} (hg : Noise g) (hp : encode p = .ok frame)
    (n : Nat) (rest : Bytes) :
    ((seeking n).feed (g ++ frame ++ rest)).next =
      (some p, (seeking (n + g.length)).feed rest) := by
  obtain ⟨high, low, rfl, hlength⟩ := encode_eq_ok hp
  have hkept : ((seeking n).feed (g ++ magic₁ :: magic₂ :: high :: low :: p ++ rest)).kept =
      g ++ magic₁ :: magic₂ :: high :: low :: (p ++ rest) := by
    simp [kept_seeking]
  rw [next_eq_settle ((sound_seeking n).feed _), seen, hkept, undecided_noise_append hg,
    undecided_pair, settle_frame _ _ _ hlength]
  simp only [seeking, feed, List.length_append, List.length_cons, List.nil_append, Prod.mk.injEq,
    Decoder.mk.injEq, true_and]
  omega

private theorem next_noise {g : Bytes} (hg : Noise g) (n : Nat) :
    ∃ d, ((seeking n).feed g).next = (none, d) ∧
      d.discarded + (if g.getLast? = some magic₁ then 1 else 0) = n + g.length := by
  have hkept : ((seeking n).feed g).kept = g := by simp [kept_seeking]
  rw [next_eq_settle ((sound_seeking n).feed g), seen, hkept, undecided_noise hg]
  split_ifs with hlast
  · refine ⟨_, rfl, ?_⟩
    have hpos : 0 < g.length := by
      cases g with
      | nil => simp at hlast
      | cons b g => simp
    simp only [discarded_feed, seeking]
    omega
  · exact ⟨_, rfl, rfl⟩

private theorem drain_noisyStream (noise : Bytes) (parts : List (Bytes × Bytes)) (n : Nat)
    (hnoise : Noise noise)
    (hparts : ∀ part ∈ parts, (∃ frame, encode part.1 = .ok frame) ∧ Noise part.2) :
    ∃ stream, noisyStream noise parts = .ok stream ∧
      ((seeking n).feed stream).drain.1 = parts.map Prod.fst ∧
      ((seeking n).feed stream).drain.2.discarded +
          (if ((noises noise parts).getLast (List.cons_ne_nil _ _)).getLast? = some magic₁
            then 1 else 0) =
        n + (noises noise parts).flatten.length := by
  induction parts generalizing noise n with
  | nil =>
    obtain ⟨d, hnext, hcount⟩ := next_noise hnoise n
    refine ⟨noise, rfl, ?_, ?_⟩
    · rw [drain_of_next_none hnext]
      rfl
    · rw [drain_of_next_none hnext]
      simpa [noises] using hcount
  | cons part parts ih =>
    obtain ⟨payload, behind⟩ := part
    obtain ⟨⟨frame, hframe⟩, hbehind⟩ := hparts (payload, behind) (List.mem_cons_self ..)
    obtain ⟨rest, hrest, hpayloads, hcount⟩ := ih behind (n + noise.length) hbehind
      (fun part hpart => hparts part (List.mem_cons_of_mem _ hpart))
    have hnext := next_noise_frame hnoise hframe n rest
    refine ⟨noise ++ frame ++ rest, ?_, ?_, ?_⟩
    · rw [noisyStream, hframe, hrest]
      rfl
    · rw [drain_of_next_some ((sound_seeking n).feed _) hnext, hpayloads]
      rfl
    · rw [drain_of_next_some ((sound_seeking n).feed _) hnext]
      have hlast : (noises noise ((payload, behind) :: parts)).getLast (List.cons_ne_nil _ _) =
          (noises behind parts).getLast (List.cons_ne_nil _ _) := rfl
      have hflat : (noises noise ((payload, behind) :: parts)).flatten.length =
          noise.length + (noises behind parts).flatten.length := by
        simp [noises]
      rw [hlast, hflat, hcount, Nat.add_assoc]

/-- Encoding and decoding agree amid noise. A payload is refused just when it is too long for its
length field. Payloads that are not refused, with any noise around them, all come out in order, and
the dropped octets are those of the noise, less one if the noise at the end leaves it open whether a
frame has begun. -/
theorem drain_of_noisyStream :
    (∀ p : Bytes, ((∃ frame, encode p = .ok frame) ↔ p.length ≤ 65535) ∧
      (65535 < p.length → encode p = .error (.payloadTooLarge p.length 65535))) ∧
    ∀ (noise : Bytes) (parts : List (Bytes × Bytes)), Noise noise →
      (∀ part ∈ parts, (∃ frame, encode part.1 = .ok frame) ∧ Noise part.2) →
      ∃ stream, noisyStream noise parts = .ok stream ∧
        (empty.feed stream).drain.1 = parts.map Prod.fst ∧
        (empty.feed stream).drain.2.discarded +
            (if ((noises noise parts).getLast (List.cons_ne_nil _ _)).getLast? = some magic₁
              then 1 else 0) =
          (noises noise parts).flatten.length := by
  refine ⟨encode_eq_ok_iff, fun noise parts hnoise hparts => ?_⟩
  obtain ⟨stream, hstream, hpayloads, hcount⟩ := drain_noisyStream noise parts 0 hnoise hparts
  exact ⟨stream, hstream, hpayloads, by rwa [Nat.zero_add] at hcount⟩

/-- A payload that is itself a magic pair, behind two first octets and ahead of noise that begins
and ends with single magic octets. -/
theorem drain_of_noisyStream_magic_octets :
    Noise [magic₁, magic₁] ∧
    (∀ part ∈ [([magic₁, magic₂], [magic₂, magic₁])],
      (∃ frame, encode part.1 = .ok frame) ∧ Noise part.2) ∧
    ∃ stream, noisyStream [magic₁, magic₁] [([magic₁, magic₂], [magic₂, magic₁])] = .ok stream ∧
      (empty.feed stream).drain.1 = [[magic₁, magic₂]] ∧
      (empty.feed stream).drain.2.discarded = 3 := by
  have hnoise : Noise [magic₁, magic₁] := by decide
  have hparts : ∀ part ∈ [([magic₁, magic₂], [magic₂, magic₁])],
      (∃ frame, encode part.1 = .ok frame) ∧ Noise part.2 := by
    intro part hpart
    rw [List.mem_singleton.mp hpart]
    exact ⟨⟨_, rfl⟩, by decide⟩
  obtain ⟨stream, hstream, hpayloads, hcount⟩ :=
    drain_of_noisyStream.2 [magic₁, magic₁] [([magic₁, magic₂], [magic₂, magic₁])] hnoise hparts
  exact ⟨hnoise, hparts, stream, hstream, hpayloads, by simpa [noises] using hcount⟩

end Decoder

end RadioLink.Frame
