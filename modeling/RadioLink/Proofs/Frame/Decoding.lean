import RadioLink.Proofs.Frame.Search

/-!
One step of a decoder, and taking all that has been received. A decoder keeps the octets that are
neither delivered nor dropped: the header octets that its state stands for, and its buffer. A step
depends on these and on the number of octets seen, so a decoder that found nothing and is fed goes
on like one that was fed at once.
-/

set_option autoImplicit false
set_option relaxedAutoImplicit false

namespace RadioLink.Frame

def State.header : State → Bytes
  | .seekFirst => []
  | .seekSecond => [magic₁]
  | .length => [magic₁, magic₂]
  | .payload n => magic₁ :: magic₂ :: Bytes.ofNatBE 2 n

theorem State.length_header (state : State) : state.header.length = state.headerHeld := by
  cases state <;> simp [State.header, State.headerHeld]

private theorem ofNatBE_two (n : Nat) :
    Bytes.ofNatBE 2 n = [UInt8.ofNat (n / 256), UInt8.ofNat n] := by
  change [UInt8.ofNat (n / 256), UInt8.ofNat (n / 1)] = _
  rw [Nat.div_one]

theorem exists_length_field {n : Nat} (hn : n < 65536) :
    ∃ high low : UInt8, Bytes.ofNatBE 2 n = [high, low] ∧ 256 * high.toNat + low.toNat = n := by
  refine ⟨UInt8.ofNat (n / 256), UInt8.ofNat n, ofNatBE_two n, ?_⟩
  simp only [UInt8.toNat_ofNat']
  omega

private theorem ofNatBE_length_field (high low : UInt8) :
    Bytes.ofNatBE 2 (256 * high.toNat + low.toNat) = [high, low] := by
  have hhigh := high.toNat_lt
  have hlow := low.toNat_lt
  have hdiv : (256 * high.toNat + low.toNat) / 256 = high.toNat := by omega
  have hmod : (256 * high.toNat + low.toNat) % 2 ^ 8 = low.toNat := by omega
  rw [ofNatBE_two, hdiv, UInt8.ofNat_toNat]
  congr 2
  apply UInt8.toNat_inj.mp
  rw [UInt8.toNat_ofNat', hmod]

namespace Decoder

def kept (d : Decoder) : Bytes := d.state.header ++ d.buffer

/-- A decoder waits for no payload that the length field cannot say. -/
def Sound (d : Decoder) : Prop := ∀ n, d.state = .payload n → n < 65536

theorem sound_empty : empty.Sound := by
  intro n h
  cases h

theorem Sound.feed {d : Decoder} (h : d.Sound) (x : Bytes) : (d.feed x).Sound := h

@[simp] theorem kept_empty : empty.kept = [] := rfl

@[simp] theorem kept_feed (d : Decoder) (x : Bytes) : (d.feed x).kept = d.kept ++ x := by
  simp [kept, feed]

@[simp] theorem discarded_feed (d : Decoder) (x : Bytes) : (d.feed x).discarded = d.discarded := rfl

@[simp] theorem feed_nil (d : Decoder) : d.feed [] = d := by simp [feed]

theorem feed_feed (d : Decoder) (x y : Bytes) : (d.feed x).feed y = d.feed (x ++ y) := by
  simp [feed]

def seen (d : Decoder) : Nat := d.discarded + d.kept.length

@[simp] theorem seen_feed (d : Decoder) (x : Bytes) : (d.feed x).seen = d.seen + x.length := by
  simp [seen, Nat.add_assoc]

def settle (seen : Nat) : Bytes → Option Bytes × Decoder
  | [] => (none, ⟨[], .seekFirst, seen⟩)
  | [_] => (none, ⟨[], .seekSecond, seen - 1⟩)
  | _ :: _ :: high :: low :: rest =>
    takePayload ⟨rest, .length, seen - (rest.length + 4)⟩ (256 * high.toNat + low.toNat)
  | _ :: _ :: rest => (none, ⟨rest, .length, seen - (rest.length + 2)⟩)

private theorem takeHunt_eq_settle (d : Decoder) (seen : Nat) (s : Bytes) :
    d.takeHunt (.ofUndecided seen s) = settle seen s := by
  match s with
  | [] => rfl
  | [_] => rfl
  | [_, _] => rfl
  | [_, _, _] => rfl
  | _ :: _ :: _ :: _ :: _ => rfl

theorem next_eq_settle {d : Decoder} (h : d.Sound) : d.next = settle d.seen (undecided d.kept) := by
  obtain ⟨buffer, state, discarded⟩ := d
  cases state with
  | seekFirst =>
    simp only [next, hunt_eq_ofUndecided, takeHunt_eq_settle, seen, kept, State.header,
      List.nil_append]
  | seekSecond =>
    have hhunt : hunt true discarded buffer = hunt false discarded (magic₁ :: buffer) := by
      simp [hunt]
    simp only [next, hhunt, hunt_eq_ofUndecided, takeHunt_eq_settle, seen, kept, State.header,
      List.singleton_append]
  | length =>
    rcases buffer with _ | ⟨high, _ | ⟨low, rest⟩⟩
    · simp [next, takeLength, seen, kept, State.header, settle]
    · simp [next, takeLength, seen, kept, State.header, settle]
    · have hseen : discarded + (rest.length + 1 + 1 + 1 + 1) - (rest.length + 4) = discarded := by
        omega
      simp [next, takeLength, seen, kept, State.header, settle, hseen]
  | payload n =>
    obtain ⟨high, low, hfield, hn⟩ := exists_length_field (h n rfl)
    have hseen : discarded + (buffer.length + 1 + 1 + 1 + 1) - (buffer.length + 4) = discarded := by
      omega
    simp [next, seen, kept, State.header, hfield, settle, hn, hseen, takePayload]

private theorem settle_none {n : Nat} {s : Bytes} {d : Decoder} (hn : (undecided s).length ≤ n)
    (h : settle n (undecided s) = (none, d)) : d.kept = undecided s ∧ d.seen = n ∧ d.Sound := by
  rcases undecided_cases s with hs | hs | ⟨rest, hs⟩
  · rw [hs] at h ⊢
    cases h
    exact ⟨rfl, by simp [seen, kept, State.header], fun _ h => by cases h⟩
  · rw [hs] at h hn ⊢
    cases h
    refine ⟨rfl, ?_, fun _ h => by cases h⟩
    simp only [List.length_singleton] at hn
    simp [seen, kept, State.header]
    omega
  · rw [hs] at h hn ⊢
    simp only [List.length_cons] at hn
    match rest with
    | [] | [_] =>
      cases h
      refine ⟨rfl, ?_, fun _ h => by cases h⟩
      simp [seen, kept, State.header] at hn ⊢
      omega
    | high :: low :: rest =>
      have hfield := ofNatBE_length_field high low
      have hhigh := high.toNat_lt
      have hlow := low.toNat_lt
      simp only [settle, takePayload] at h
      split_ifs at h with hlength
      · cases h
        refine ⟨by simp [kept, State.header, hfield], ?_, ?_⟩
        · simp [seen, kept, State.header] at hn ⊢
          omega
        · intro n hstate
          cases hstate
          omega
      · cases h

private theorem settle_some {n : Nat} {s p : Bytes} {d : Decoder}
    (h : settle n (undecided s) = (some p, d)) :
    ∃ high low, undecided s = magic₁ :: magic₂ :: high :: low :: (p ++ d.buffer) ∧
      p.length = 256 * high.toNat + low.toNat ∧
      d = ⟨d.buffer, .seekFirst, n - (undecided s).length⟩ := by
  rcases undecided_cases s with hs | hs | ⟨rest, hs⟩
  · rw [hs] at h
    cases h
  · rw [hs] at h
    cases h
  · rw [hs] at h ⊢
    match rest with
    | [] | [_] => cases h
    | high :: low :: rest =>
      simp only [settle, takePayload] at h
      split_ifs at h with hlength
      · cases h
      · cases h
        refine ⟨high, low, by simp, ?_, by simp⟩
        rw [List.length_take]
        omega

theorem settle_frame (n : Nat) (high low : UInt8) {p : Bytes}
    (hp : p.length = 256 * high.toNat + low.toNat) (rest : Bytes) :
    settle n (magic₁ :: magic₂ :: high :: low :: (p ++ rest)) =
      (some p, ⟨rest, .seekFirst, n - (p.length + rest.length + 4)⟩) := by
  simp [settle, takePayload, ← hp]

variable {d d' : Decoder} {p : Bytes}

private theorem length_undecided_kept_le (d : Decoder) : (undecided d.kept).length ≤ d.seen :=
  Nat.le_trans (length_undecided_le d.kept) (Nat.le_add_left _ _)

theorem kept_of_next_none (hd : d.Sound) (h : d.next = (none, d')) :
    d'.kept = undecided d.kept ∧ d'.seen = d.seen ∧ d'.Sound := by
  rw [next_eq_settle hd] at h
  exact settle_none (length_undecided_kept_le d) h

theorem kept_of_next_some (hd : d.Sound) (h : d.next = (some p, d')) :
    ∃ high low, undecided d.kept = magic₁ :: magic₂ :: high :: low :: (p ++ d'.kept) ∧
      p.length = 256 * high.toNat + low.toNat ∧
      d' = ⟨d'.kept, .seekFirst, d.seen - (undecided d.kept).length⟩ := by
  rw [next_eq_settle hd] at h
  obtain ⟨high, low, hs, hp, he⟩ := settle_some h
  have hkept : d'.kept = d'.buffer := by
    rw [he]
    rfl
  rw [hkept]
  exact ⟨high, low, hs, hp, he⟩

theorem sound_of_next_some (hd : d.Sound) (h : d.next = (some p, d')) : d'.Sound := by
  obtain ⟨_, _, _, _, he⟩ := kept_of_next_some hd h
  intro n hn
  rw [he] at hn
  cases hn

theorem length_kept_of_next_some (hd : d.Sound) (h : d.next = (some p, d')) :
    d'.kept.length + 4 ≤ d.kept.length := by
  obtain ⟨high, low, hs, -, -⟩ := kept_of_next_some hd h
  have hle := length_undecided_le d.kept
  rw [hs] at hle
  simp only [List.length_cons, List.length_append] at hle
  omega

private theorem next_feed_of_next_none (hd : d.Sound) (h : d.next = (none, d')) (x : Bytes) :
    (d'.feed x).next = (d.feed x).next := by
  obtain ⟨hkept, hseen, hd'⟩ := kept_of_next_none hd h
  rw [next_eq_settle (hd.feed x), next_eq_settle (hd'.feed x)]
  simp only [seen_feed, kept_feed]
  rw [hkept, hseen, undecided_append]

theorem next_feed_of_next_some (hd : d.Sound) (h : d.next = (some p, d')) (x : Bytes) :
    (d.feed x).next = (some p, d'.feed x) := by
  obtain ⟨high, low, hs, hp, he⟩ := kept_of_next_some hd h
  rw [next_eq_settle (hd.feed x), seen_feed, kept_feed, ← undecided_append, hs]
  simp only [List.cons_append, undecided_pair, List.append_assoc]
  rw [settle_frame _ _ _ hp, he, hs]
  simp only [feed, kept, State.header, List.length_append, List.length_cons, List.nil_append,
    Prod.mk.injEq, Decoder.mk.injEq, true_and]
  omega

private theorem drainUpTo_of_next_none (n : Nat) (h : d.next = (none, d')) :
    drainUpTo (n + 1) d = ([], d') := by
  simp only [drainUpTo, h]

private theorem drainUpTo_of_next_some (n : Nat) (h : d.next = (some p, d')) :
    drainUpTo (n + 1) d = (p :: (drainUpTo n d').1, (drainUpTo n d').2) := by
  simp only [drainUpTo, h]

private theorem drainUpTo_eq_of_enough (n m : Nat) (hd : d.Sound) (hn : d.kept.length < 4 * n)
    (hm : d.kept.length < 4 * m) : drainUpTo n d = drainUpTo m d := by
  induction n generalizing d m with
  | zero => omega
  | succ n ih =>
    cases m with
    | zero => omega
    | succ m =>
      rcases hnext : d.next with ⟨found, d'⟩
      cases found with
      | none => rw [drainUpTo_of_next_none n hnext, drainUpTo_of_next_none m hnext]
      | some p =>
        have hlength := length_kept_of_next_some hd hnext
        rw [drainUpTo_of_next_some n hnext, drainUpTo_of_next_some m hnext,
          ih m (sound_of_next_some hd hnext) (by omega) (by omega)]

private theorem length_kept_lt (d : Decoder) : d.kept.length < 4 * (d.buffer.length + 2) := by
  have hheader : d.state.header.length ≤ 4 := by
    rw [State.length_header]
    cases d.state <;> simp [State.headerHeld]
  rw [kept, List.length_append]
  omega

theorem drain_of_next_none (h : d.next = (none, d')) : d.drain = ([], d') :=
  drainUpTo_of_next_none _ h

theorem drain_of_next_some (hd : d.Sound) (h : d.next = (some p, d')) :
    d.drain = (p :: d'.drain.1, d'.drain.2) := by
  have hlength := length_kept_of_next_some hd h
  have hfuel := length_kept_lt d
  have henough : drainUpTo (d.buffer.length + 1) d' = d'.drain :=
    drainUpTo_eq_of_enough _ _ (sound_of_next_some hd h) (by omega) (length_kept_lt d')
  rw [drain, drainUpTo_of_next_some _ h, henough]

/-- What holds of a decoder with nothing to deliver, and of one behind whose next payload it holds,
holds of every decoder. -/
theorem drain_induction {motive : ∀ d : Decoder, d.Sound → Prop}
    (nothing : ∀ (d d' : Decoder) (hd : d.Sound), d.next = (none, d') → motive d hd)
    (payload : ∀ (d d' : Decoder) (p : Bytes) (hd : d.Sound) (h : d.next = (some p, d')),
      motive d' (sound_of_next_some hd h) → motive d hd)
    (d : Decoder) (hd : d.Sound) : motive d hd := by
  rcases hnext : d.next with ⟨found, d'⟩
  cases found with
  | none => exact nothing d d' hd hnext
  | some p =>
    have hlength := length_kept_of_next_some hd hnext
    exact payload d d' p hd hnext (drain_induction nothing payload d' (sound_of_next_some hd hnext))
termination_by d.kept.length

theorem next_drain (hd : d.Sound) : d.drain.2.next = (none, d.drain.2) := by
  induction d, hd using drain_induction with
  | nothing d d' hd h =>
    have hagain := next_feed_of_next_none hd h []
    rw [feed_nil, feed_nil] at hagain
    rw [drain_of_next_none h, hagain, h]
  | payload d d' p hd h ih => rwa [drain_of_next_some hd h]

theorem drain_feed_of_next_none (hd : d.Sound) (h : d.next = (none, d')) (x : Bytes) :
    (d'.feed x).drain = (d.feed x).drain := by
  have hstep := next_feed_of_next_none hd h x
  have hd' := (kept_of_next_none hd h).2.2
  rcases hnext : (d.feed x).next with ⟨found, e⟩
  rw [hnext] at hstep
  cases found with
  | none => rw [drain_of_next_none hnext, drain_of_next_none hstep]
  | some p =>
    rw [drain_of_next_some (hd.feed x) hnext, drain_of_next_some (hd'.feed x) hstep]

theorem drain_feed (hd : d.Sound) (x : Bytes) :
    (d.feed x).drain = (d.drain.1 ++ (d.drain.2.feed x).drain.1, (d.drain.2.feed x).drain.2) := by
  induction d, hd using drain_induction with
  | nothing d d' hd h =>
    rw [drain_of_next_none h, drain_feed_of_next_none hd h, List.nil_append]
  | payload d d' p hd h ih =>
    rw [drain_of_next_some (hd.feed x) (next_feed_of_next_some hd h x), drain_of_next_some hd h, ih,
      List.cons_append]

end Decoder

end RadioLink.Frame
