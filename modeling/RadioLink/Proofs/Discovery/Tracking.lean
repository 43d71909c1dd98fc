import Mathlib.Data.List.Infix
import RadioLink.Proofs.Discovery.Sightings

/-!
What a tracker answers behind any uses, at whatever times. A peripheral is found if the tracker has
not observed it since it last forgot it. A sweep forgets the peripherals whose last observation is
too old, reports each of them once, and leaves what is known of the others as it is.
-/

set_option autoImplicit false
set_option relaxedAutoImplicit false

namespace RadioLink

namespace Tracker

inductive Use where
  | feed (item : Feed)
  | clear
  deriving DecidableEq

def use (t : Tracker) : Use → Tracker
  | .feed item => (t.take item).1
  | .clear => t.clear

def behind (staleAfter : Duration) (past : List Use) : Tracker :=
  past.foldl use (start staleAfter)

def Use.observed? (peripheral : String) : Use → Option Nat
  | .feed (.seen adv time) => if adv.id = peripheral then some time else none
  | _ => none

def lastObserved? (peripheral : String) (past : List Use) : Option Nat :=
  past.reverse.findSome? (Use.observed? peripheral)

/-- A use that makes the tracker forget a peripheral: it is cleared, or a sweep drops what it has
tracked until then. -/
def Drops (staleAfter : Duration) (past : List Use) (peripheral : String) : Use → Prop
  | .clear => True
  | .feed (.swept now) => (behind staleAfter past).tracks peripheral = true ∧
      (behind staleAfter (past ++ [.feed (.swept now)])).tracks peripheral = false
  | .feed (.seen ..) => False

/-- A peripheral has been observed, and nothing behind that has dropped it. -/
def ObservedSince (staleAfter : Duration) (past : List Use) (peripheral : String) : Prop :=
  ∃ front adv time rest, past = front ++ .feed (.seen adv time) :: rest ∧ adv.id = peripheral ∧
    ∀ mid use, mid ++ [use] <+: rest →
      ¬ Drops staleAfter (front ++ .feed (.seen adv time) :: mid) peripheral use

section Uses

variable {t : Tracker} {staleAfter : Duration} {past : List Use} {peripheral : String} {time : Nat}

private theorem behind_snoc (staleAfter : Duration) (past : List Use) (use : Use) :
    behind staleAfter (past ++ [use]) = (behind staleAfter past).use use :=
  List.foldl_append

private theorem lastObserved?_snoc (peripheral : String) (past : List Use) (use : Use) :
    lastObserved? peripheral (past ++ [use]) =
      (use.observed? peripheral).or (lastObserved? peripheral past) := by
  rw [lastObserved?, List.reverse_append, List.reverse_singleton, List.singleton_append,
    List.findSome?_cons]
  cases use.observed? peripheral <;> rfl

private theorem tracks_iff :
    t.tracks peripheral = true ↔ ∃ time, t.lastSeen? peripheral = some time := by
  rw [tracks, List.any_eq_true, ← List.find?_isSome, ← Option.isSome_iff_exists, lastSeen?,
    Option.isSome_map]

private theorem orderly_behind (staleAfter : Duration) (past : List Use) :
    (behind staleAfter past).Orderly ∧ (behind staleAfter past).staleAfter = staleAfter := by
  induction past using List.reverseRecOn with
  | nil => exact ⟨.start staleAfter, rfl⟩
  | append_singleton past use ih =>
    obtain ⟨horderly, hstale⟩ := ih
    rw [behind_snoc]
    cases use with
    | feed item => exact ⟨horderly.take item, (take_staleAfter _ item).trans hstale⟩
    | clear => exact ⟨.start _, hstale⟩

private theorem lastSeen?_seen (staleAfter : Duration) (past : List Use) (adv : Gatt.Advertisement)
    (now : Nat) (peripheral : String) :
    (behind staleAfter (past ++ [.feed (.seen adv now)])).lastSeen? peripheral =
      if adv.id = peripheral then some now else (behind staleAfter past).lastSeen? peripheral := by
  have hobserve : ((behind staleAfter past).observe adv now).2.lastSeen? peripheral =
      if peripheral = adv.id then some now else (behind staleAfter past).lastSeen? peripheral :=
    lastSeen?_observe (orderly_behind staleAfter past).1
  rw [behind_snoc, use, take, hobserve]
  exact if_congr eq_comm rfl rfl

private theorem lastSeen?_sweep_behind (staleAfter : Duration) (past : List Use) (now : Nat)
    (peripheral : String) (time : Nat) :
    ((behind staleAfter past).sweep now).2.lastSeen? peripheral = some time ↔
      (behind staleAfter past).lastSeen? peripheral = some time ∧
        now ≤ time + staleAfter.toNanos := by
  obtain ⟨horderly, hstale⟩ := orderly_behind staleAfter past
  have hsweep : ((behind staleAfter past).sweep now).2.lastSeen? peripheral = some time ↔ _ :=
    lastSeen?_sweep horderly
  rw [hstale] at hsweep
  exact hsweep

private theorem lastSeen?_swept (staleAfter : Duration) (past : List Use) (now : Nat) :
    (behind staleAfter (past ++ [.feed (.swept now)])).lastSeen? peripheral = some time ↔
      (behind staleAfter past).lastSeen? peripheral = some time ∧
        now ≤ time + staleAfter.toNanos := by
  rw [behind_snoc]
  exact lastSeen?_sweep_behind staleAfter past now peripheral time

private theorem lastSeen?_cleared (staleAfter : Duration) (past : List Use) (peripheral : String) :
    (behind staleAfter (past ++ [.clear])).lastSeen? peripheral = none := by
  rw [behind_snoc]
  rfl

private theorem lastObserved?_of_lastSeen?
    (seen : (behind staleAfter past).lastSeen? peripheral = some time) :
    lastObserved? peripheral past = some time := by
  induction past using List.reverseRecOn with
  | nil => cases seen
  | append_singleton past use ih =>
    rw [lastObserved?_snoc]
    cases use with
    | clear =>
      rw [lastSeen?_cleared] at seen
      cases seen
    | feed item =>
      cases item with
      | swept now => exact ih ((lastSeen?_swept staleAfter past now).mp seen).1
      | seen adv now =>
        rw [lastSeen?_seen] at seen
        rw [Use.observed?]
        split_ifs at seen ⊢ with hsame
        · exact seen
        · exact ih seen

private theorem tracks_snoc_of_not_drops {use : Use}
    (tracked : (behind staleAfter past).tracks peripheral)
    (kept : ¬ Drops staleAfter past peripheral use) :
    (behind staleAfter (past ++ [use])).tracks peripheral = true := by
  cases use with
  | clear => exact absurd trivial kept
  | feed item =>
    cases item with
    | swept now =>
      by_contra hlost
      exact kept ⟨tracked, Bool.eq_false_iff.mpr hlost⟩
    | seen adv now =>
      rw [tracks_iff, lastSeen?_seen]
      split_ifs
      · exact ⟨now, rfl⟩
      · exact tracks_iff.mp tracked

private theorem of_tracks_snoc {use : Use}
    (tracked : (behind staleAfter (past ++ [use])).tracks peripheral) :
    (∃ adv time, use = .feed (.seen adv time) ∧ adv.id = peripheral) ∨
      (behind staleAfter past).tracks peripheral ∧ ¬ Drops staleAfter past peripheral use := by
  obtain ⟨time, htime⟩ := tracks_iff.mp tracked
  cases use with
  | clear =>
    rw [lastSeen?_cleared] at htime
    cases htime
  | feed item =>
    cases item with
    | swept now =>
      have hbefore := ((lastSeen?_swept staleAfter past now).mp htime).1
      refine .inr ⟨tracks_iff.mpr ⟨time, hbefore⟩, ?_⟩
      rintro ⟨-, hlost⟩
      cases tracked.symm.trans hlost
    | seen adv now =>
      rw [lastSeen?_seen] at htime
      split_ifs at htime with hsame
      · exact .inl ⟨adv, now, rfl, hsame⟩
      · exact .inr ⟨tracks_iff.mpr ⟨time, htime⟩, id⟩

/-- The tracker tracks what has been observed since it was last dropped. -/
private theorem observedSince_iff :
    ObservedSince staleAfter past peripheral ↔
      (behind staleAfter past).tracks peripheral = true := by
  constructor
  · rintro ⟨front, adv, time, rest, rfl, hsame, hkept⟩
    -- On what comes behind the observation: no use of it drops the peripheral.
    induction rest using List.reverseRecOn with
    | nil =>
      rw [tracks_iff, lastSeen?_seen, if_pos hsame]
      exact ⟨time, rfl⟩
    | append_singleton rest use ih =>
      have htracked := ih fun mid use hmid =>
        hkept mid use (hmid.trans (List.prefix_append rest _))
      have hlast := hkept rest use List.prefix_rfl
      have hnext := tracks_snoc_of_not_drops htracked hlast
      rwa [List.append_assoc, List.cons_append] at hnext
  · intro htracked
    -- Back from the end, up to the use that observed the peripheral last.
    induction past using List.reverseRecOn with
    | nil => cases htracked
    | append_singleton past use ih =>
      rcases of_tracks_snoc htracked with ⟨adv, time, rfl, hsame⟩ | ⟨hbefore, hkept⟩
      · refine ⟨past, adv, time, [], rfl, hsame, fun mid use hmid => ?_⟩
        have hempty : mid ++ [use] = [] := List.prefix_nil.mp hmid
        exact absurd hempty (List.append_ne_nil_of_right_ne_nil mid (List.cons_ne_nil use []))
      · obtain ⟨front, adv, time, rest, rfl, hsame, hrest⟩ := ih hbefore
        refine ⟨front, adv, time, rest ++ [use], by simp, hsame, fun mid next hmid => ?_⟩
        rcases List.prefix_concat_iff.mp hmid with hwhole | hfront
        · obtain ⟨rfl, hnext⟩ := List.append_inj' hwhole rfl
          rw [List.singleton_inj.mp hnext]
          exact hkept
        · exact hrest mid next hfront

end Uses

/-! ### The answers -/

/-- What a tracker answers behind some uses. -/
structure Answers (staleAfter : Duration) (past : List Use) : Prop where
  found : ∀ adv now, ((behind staleAfter past).observe adv now).1 = .found adv.toDevice ↔
    ¬ ObservedSince staleAfter past adv.id
  updated : ∀ adv now, ((behind staleAfter past).observe adv now).1 = .updated adv.toDevice ↔
    ObservedSince staleAfter past adv.id
  /-- What is known of a peripheral is when it was observed last. -/
  known : ∀ peripheral time, (behind staleAfter past).lastSeen? peripheral = some time ↔
    ObservedSince staleAfter past peripheral ∧ lastObserved? peripheral past = some time
  swept : ∀ now, ∃ dropped : List String, dropped.Nodup ∧
    ((behind staleAfter past).sweep now).1 = dropped.map (.lost <| .ofPeripheral ·) ∧
    (∀ peripheral, peripheral ∈ dropped ↔ ObservedSince staleAfter past peripheral ∧
      ∃ time, lastObserved? peripheral past = some time ∧ time + staleAfter.toNanos < now) ∧
    ∀ peripheral, ((behind staleAfter past).sweep now).2.lastSeen? peripheral =
      if peripheral ∈ dropped then none else (behind staleAfter past).lastSeen? peripheral
  /-- What is reported lost is the device that the observations reported. -/
  carried : ∀ adv time, .feed (.seen adv time) ∈ past → adv.toDevice.id = .ofPeripheral adv.id
  counted : ∃ tracked : List String, tracked.Nodup ∧
    (∀ peripheral, peripheral ∈ tracked ↔ ObservedSince staleAfter past peripheral) ∧
    (behind staleAfter past).size = tracked.length ∧
    ((behind staleAfter past).isEmpty = true ↔ tracked = [])

section Answers

variable (staleAfter : Duration) (past : List Use)

private theorem lastSeen?_behind_iff {peripheral : String} {time : Nat} :
    (behind staleAfter past).lastSeen? peripheral = some time ↔
      ObservedSince staleAfter past peripheral ∧ lastObserved? peripheral past = some time := by
  rw [observedSince_iff, tracks_iff]
  constructor
  · intro hseen
    exact ⟨⟨time, hseen⟩, lastObserved?_of_lastSeen? hseen⟩
  · rintro ⟨⟨other, hseen⟩, hlast⟩
    have hother : lastObserved? peripheral past = some other := lastObserved?_of_lastSeen? hseen
    rw [hseen, ← hother, hlast]

private theorem exists_swept (now : Nat) : ∃ dropped : List String, dropped.Nodup ∧
    ((behind staleAfter past).sweep now).1 = dropped.map (.lost <| .ofPeripheral ·) ∧
    (∀ peripheral, peripheral ∈ dropped ↔ ObservedSince staleAfter past peripheral ∧
      ∃ time, lastObserved? peripheral past = some time ∧ time + staleAfter.toNanos < now) ∧
    ∀ peripheral, ((behind staleAfter past).sweep now).2.lastSeen? peripheral =
      if peripheral ∈ dropped then none else (behind staleAfter past).lastSeen? peripheral := by
  obtain ⟨horderly, hstale⟩ := orderly_behind staleAfter past
  obtain ⟨dropped, honce, hlost, hdropped⟩ := exists_dropped horderly now
  rw [hstale] at hdropped
  refine ⟨dropped, honce, hlost, fun peripheral => ?_, fun peripheral => ?_⟩
  · rw [hdropped]
    simp only [lastSeen?_behind_iff, and_assoc, exists_and_left]
  · refine Option.ext fun time =>
      (lastSeen?_sweep_behind staleAfter past now peripheral time).trans ?_
    split_ifs with hmem
    · obtain ⟨other, hseen, hold⟩ := (hdropped peripheral).mp hmem
      refine iff_of_false ?_ nofun
      rintro ⟨htime, hrecent⟩
      have hsame : other = time := Option.some.inj (hseen.symm.trans htime)
      omega
    · refine and_iff_left_of_imp fun htime => ?_
      by_contra hold
      exact hmem ((hdropped peripheral).mpr ⟨time, htime, Nat.not_le.mp hold⟩)

/-- A tracker answers by what it has been asked before, whatever that is and at whatever times. An
observation is of a found device if the peripheral has not been observed since the tracker was made,
last cleared, or last dropped it in a sweep, and of an updated device otherwise. A sweep reports
each peripheral that is tracked and was last observed too long ago, once, and forgets these and no
others. The size counts the peripherals that are tracked. -/
theorem answers_by_history : Answers staleAfter past where
  found adv now := by
    rw [observedSince_iff, observe]
    split_ifs with htracked <;> simp [htracked]
  updated adv now := by
    rw [observedSince_iff, observe]
    split_ifs with htracked <;> simp [htracked]
  known _ _ := lastSeen?_behind_iff staleAfter past
  swept := exists_swept staleAfter past
  carried _ _ _ := rfl
  counted := by
    refine ⟨(behind staleAfter past).sightings.map (·.peripheral),
      (orderly_behind staleAfter past).1.once, fun peripheral => ?_, ?_, ?_⟩
    · rw [observedSince_iff, tracks, List.any_eq_true]
      simp only [List.mem_map, decide_eq_true_eq]
    · rw [List.length_map]
      rfl
    · rw [List.map_eq_nil_iff]
      exact List.isEmpty_iff

end Answers

end Tracker

end RadioLink
