import Mathlib.Algebra.GroupWithZero.Nat
import RadioLink.Proofs.Frame.Cuts

/-!
Where the octets of a stream are. Each octet that has come in has been delivered with a payload or
in its header, or has been dropped, or is kept: as the header that the state stands for, or in the
buffer. A decoder that has found nothing keeps less than what it waits for.
-/

set_option autoImplicit false
set_option relaxedAutoImplicit false

namespace RadioLink.Frame

def framedLength (payloads : List Bytes) : Nat :=
  (payloads.map (headerLength + ·.length)).sum

private theorem framedLength_cons (payload : Bytes) (payloads : List Bytes) :
    framedLength (payload :: payloads) =
      headerLength + payload.length + framedLength payloads :=
  List.sum_cons

/-- How many octets have to be in the buffer before a state can be left. -/
def State.needed : State → Nat
  | .seekFirst => 1
  | .seekSecond => 1
  | .length => 2
  | .payload n => n

namespace Decoder

variable {d d' : Decoder} {p : Bytes}

/-! ### One step -/

private theorem discarded_le_of_next_none (hd : d.Sound) (h : d.next = (none, d')) :
    d.discarded ≤ d'.discarded := by
  obtain ⟨hkept, hseen, -⟩ := kept_of_next_none hd h
  have hless := length_undecided_le d.kept
  rw [seen, seen, hkept] at hseen
  omega

private theorem balance_of_next_some (hd : d.Sound) (h : d.next = (some p, d')) :
    d'.seen + (headerLength + p.length) = d.seen ∧ d.discarded ≤ d'.discarded := by
  obtain ⟨high, low, hundecided, -, hbehind⟩ := kept_of_next_some hd h
  have hless := length_undecided_le d.kept
  have hlength : (undecided d.kept).length = d'.kept.length + (headerLength + p.length) := by
    rw [hundecided, headerLength]
    simp only [List.length_cons, List.length_append]
    omega
  have hdiscarded : d'.discarded = d.seen - (undecided d.kept).length := by
    rw [hbehind]
  rw [seen] at hdiscarded ⊢
  rw [seen]
  constructor <;> omega

private theorem length_buffer_lt_of_takePayload {n : Nat} (h : d.takePayload n = (none, d')) :
    d'.buffer.length < d'.state.needed := by
  rw [takePayload] at h
  split_ifs at h with hshort
  · cases h
    exact hshort
  · cases h

private theorem length_buffer_lt_of_takeLength (h : d.takeLength = (none, d')) :
    d'.buffer.length < d'.state.needed := by
  obtain ⟨buffer, state, discarded⟩ := d
  match buffer with
  | [] =>
    cases h
    exact Nat.zero_lt_two
  | [_] =>
    cases h
    exact Nat.one_lt_two
  | high :: low :: rest => exact length_buffer_lt_of_takePayload h

private theorem length_buffer_lt_of_takeHunt {hunted : Hunt} (h : d.takeHunt hunted = (none, d')) :
    d'.buffer.length < d'.state.needed := by
  cases hunted with
  | found rest discarded => exact length_buffer_lt_of_takeLength h
  | exhausted behindFirst discarded =>
    cases h
    cases behindFirst <;> exact Nat.one_pos

private theorem length_buffer_lt_of_next_none (h : d.next = (none, d')) :
    d'.buffer.length < d'.state.needed := by
  rw [next] at h
  split at h
  · exact length_buffer_lt_of_takeHunt h
  · exact length_buffer_lt_of_takeHunt h
  · exact length_buffer_lt_of_takeLength h
  · exact length_buffer_lt_of_takePayload h

private theorem length_buffer_le_of_next_none (hd : d.Sound) (h : d.next = (none, d')) :
    d'.buffer.length ≤ 65534 := by
  have hshort := length_buffer_lt_of_next_none h
  have hsound := (kept_of_next_none hd h).2.2
  cases hstate : d'.state with
  | seekFirst | seekSecond | length =>
    rw [hstate, State.needed] at hshort
    omega
  | payload n =>
    have hn := hsound n hstate
    rw [hstate, State.needed] at hshort
    omega

private theorem isMidFrame_eq_false_iff : d.isMidFrame = false ↔ d.kept.length = 0 := by
  rw [kept, List.length_append, State.length_header, isMidFrame]
  cases d.state <;> simp [State.headerHeld, List.length_eq_zero_iff]

private theorem seen_eq (d : Decoder) :
    d.seen = d.discarded + d.state.headerHeld + d.buffer.length := by
  rw [seen, kept, List.length_append, State.length_header, Nat.add_assoc]

/-! ### Some calls, one behind the other -/

private theorem run_append (d : Decoder) (calls more : List Call) :
    d.run (calls ++ more) =
      ((d.run calls).1 ++ ((d.run calls).2.run more).1, ((d.run calls).2.run more).2) := by
  induction calls generalizing d with
  | nil => simp [run]
  | cons call calls ih =>
    cases call with
    | feed piece => simp [run, ih]
    | next => simp [run, ih, List.append_assoc]

/-- What calls keep: a decoder stays sound, it never drops fewer octets than before, and the octets
that it has seen or delivered are those that it had seen and those that came in. -/
private theorem balance_run (hd : d.Sound) (calls : List Call) :
    (d.run calls).2.Sound ∧ d.discarded ≤ (d.run calls).2.discarded ∧
      (d.run calls).2.seen + framedLength (d.run calls).1 =
        d.seen + (Call.stream calls).length := by
  induction calls generalizing d with
  | nil => exact ⟨hd, Nat.le_refl _, rfl⟩
  | cons call calls ih =>
    cases call with
    | feed piece =>
      obtain ⟨hsound, hdropped, hbalance⟩ := ih (hd.feed piece)
      refine ⟨hsound, hdropped, ?_⟩
      rw [Call.stream, List.length_append, ← Nat.add_assoc, ← seen_feed]
      exact hbalance
    | next =>
      rcases hnext : d.next with ⟨found, behind⟩
      cases found with
      | none =>
        obtain ⟨-, hseen, hsound⟩ := kept_of_next_none hd hnext
        obtain ⟨hlast, hdropped, hbalance⟩ := ih hsound
        rw [run_next_of_next_none hnext, Call.stream, ← hseen]
        exact ⟨hlast, Nat.le_trans (discarded_le_of_next_none hd hnext) hdropped, hbalance⟩
      | some p =>
        obtain ⟨hstep, hmore⟩ := balance_of_next_some hd hnext
        obtain ⟨hlast, hdropped, hbalance⟩ := ih (sound_of_next_some hd hnext)
        rw [run_next_of_next_some hnext, Call.stream]
        refine ⟨hlast, Nat.le_trans hmore hdropped, ?_⟩
        change (behind.run calls).2.seen + framedLength (p :: (behind.run calls).1) = _
        rw [framedLength_cons, ← hstep]
        omega

/-- Behind any calls, the octets that have come in are those dropped, those of the payloads returned
with their headers, those of the header that the state stands for, and those in the buffer. Further
calls never lower the count of dropped octets. Where a call has just found nothing, no frame is
under way exactly if each octet has been delivered or dropped, and the buffer holds fewer octets
than the state needs, so 65534 at most. -/
theorem octets_conserved (calls : List Call) :
    let payloads := (empty.run calls).1
    let d := (empty.run calls).2
    (Call.stream calls).length =
        d.discarded + framedLength payloads + d.state.headerHeld + d.buffer.length ∧
      (∀ more, d.discarded ≤ (empty.run (calls ++ more)).2.discarded) ∧
      ∀ d', d.next = (none, d') →
        (d'.isMidFrame = false ↔
          (Call.stream calls).length = d'.discarded + framedLength payloads) ∧
        d'.buffer.length < d'.state.needed ∧ d'.buffer.length ≤ 65534 := by
  intro payloads d
  obtain ⟨hsound, -, hbalance⟩ := balance_run sound_empty calls
  have hempty : empty.seen = 0 := rfl
  have htotal : d.seen + framedLength payloads = (Call.stream calls).length := by
    rw [hempty, Nat.zero_add] at hbalance
    exact hbalance
  refine ⟨?_, fun more => ?_, fun d' hnone => ⟨?_, length_buffer_lt_of_next_none hnone,
    length_buffer_le_of_next_none hsound hnone⟩⟩
  · rw [← htotal, seen_eq]
    omega
  · rw [run_append]
    exact (balance_run hsound more).2.1
  · have hseen := (kept_of_next_none hsound hnone).2.1
    rw [isMidFrame_eq_false_iff, ← htotal, ← hseen, seen]
    omega

theorem octets_conserved_interrupted :
    let calls : List Call :=
      [.feed [7, magic₁], .next, .feed [8, magic₁, magic₂, 0, 1, 9], .next, .feed [magic₁], .next]
    let d := (empty.run calls).2
    empty.run calls = ([[9]], ⟨[], .seekSecond, 3⟩) ∧ d.next = (none, d) ∧
      (Call.stream calls).length = 3 + framedLength [[9]] + 1 + 0 ∧ d.isMidFrame = true ∧
      d.buffer.length < d.state.needed := by
  intro calls d
  have hrun : empty.run calls = ([[9]], ⟨[], .seekSecond, 3⟩) := by decide
  have hnone : d.next = (none, d) := by decide
  obtain ⟨hbalance, -, hrest⟩ := octets_conserved calls
  obtain ⟨hmid, hshort, -⟩ := hrest d hnone
  rw [hrun] at hbalance hmid
  refine ⟨hrun, hnone, hbalance, ?_, hshort⟩
  rw [← Bool.not_eq_false, hmid, hbalance, show d.discarded = 3 by decide]
  decide

end Decoder

end RadioLink.Frame
