import Mathlib.Data.List.Nodup
import RadioLink.Discovery.Tracker
import RadioLink.Proofs.Discovery.Following
import RadioLink.Proofs.Update.Sessions

/-!
What a tracker knows behind any sightings and sweeps. It knows each peripheral once, by its last
sighting. A sweep forgets those whose last sighting is too old and reports each of them, so a
consumer of the events holds no device that has not been seen lately.
-/

set_option autoImplicit false
set_option relaxedAutoImplicit false

namespace RadioLink

namespace Tracker

inductive Feed where
  | seen (adv : Gatt.Advertisement) (now : Nat)
  | swept (now : Nat)
  deriving DecidableEq

def Feed.time : Feed → Nat
  | .seen _ now => now
  | .swept now => now

def take (t : Tracker) : Feed → Tracker × List DiscoveryEvent
  | .seen adv now => ((t.observe adv now).2, [(t.observe adv now).1])
  | .swept now => ((t.sweep now).2, (t.sweep now).1)

def fed (staleAfter : Duration) (feed : List Feed) : Tracker × List DiscoveryEvent :=
  Update.actEach take (start staleAfter) feed

def lastSeen? (t : Tracker) (peripheral : String) : Option Nat :=
  (t.sightings.find? (·.peripheral = peripheral)).map (·.seen)

/-- Each peripheral is there once, with the identifier of its devices. -/
structure Orderly (t : Tracker) : Prop where
  once : (t.sightings.map (·.peripheral)).Nodup
  named : ∀ s ∈ t.sightings, s.device = .ofPeripheral s.peripheral

section Changes

variable {t : Tracker} {adv : Gatt.Advertisement} {peripheral : String} {now time : Nat}

theorem Orderly.start (staleAfter : Duration) : (start staleAfter).Orderly :=
  ⟨List.nodup_nil, nofun⟩

private theorem Orderly.filter (orderly : t.Orderly) (keep : Sighting → Bool) :
    Orderly { t with sightings := t.sightings.filter keep } :=
  ⟨orderly.once.sublist (List.filter_sublist.map _),
    fun s mem => orderly.named s (List.mem_of_mem_filter mem)⟩

private theorem Orderly.observe (orderly : t.Orderly) (adv : Gatt.Advertisement) (now : Nat) :
    (t.observe adv now).2.Orderly := by
  have hothers := orderly.filter (·.peripheral ≠ adv.id)
  refine ⟨?_, fun s mem => ?_⟩
  · simp only [Tracker.observe, List.map_append, List.map_singleton]
    refine List.nodup_append.mpr ⟨hothers.once, List.pairwise_singleton _ _, ?_⟩
    intro other hother key hkey
    obtain ⟨s, hs, rfl⟩ := List.mem_map.mp hother
    rw [List.mem_singleton.mp hkey]
    exact of_decide_eq_true (List.mem_filter.mp hs).2
  · rcases List.mem_append.mp mem with hold | hnew
    · exact hothers.named s hold
    · rw [List.mem_singleton.mp hnew]
      rfl

theorem Orderly.take (orderly : t.Orderly) (feed : Feed) : (t.take feed).1.Orderly := by
  cases feed with
  | seen adv now => exact orderly.observe adv now
  | swept now => exact orderly.filter _

@[simp] theorem take_staleAfter (t : Tracker) (feed : Feed) :
    (t.take feed).1.staleAfter = t.staleAfter := by
  cases feed <;> rfl

private theorem lastSeen?_eq_some_iff (orderly : t.Orderly) :
    t.lastSeen? peripheral = some time ↔
      ∃ s ∈ t.sightings, s.peripheral = peripheral ∧ s.seen = time := by
  rw [lastSeen?, Option.map_eq_some_iff]
  constructor
  · rintro ⟨s, found, rfl⟩
    exact ⟨s, List.mem_of_find?_eq_some found, by simpa using List.find?_some found, rfl⟩
  · rintro ⟨s, mem, rfl, rfl⟩
    refine ⟨s, ?_, rfl⟩
    cases hfound : t.sightings.find? (·.peripheral = s.peripheral) with
    | none => exact absurd (decide_eq_true rfl) (List.find?_eq_none.mp hfound s mem)
    | some other =>
      have hsame : other.peripheral = s.peripheral := by simpa using List.find?_some hfound
      exact congrArg some
        (List.inj_on_of_nodup_map orderly.once (List.mem_of_find?_eq_some hfound) mem hsame)

theorem lastSeen?_observe (orderly : t.Orderly) :
    (t.observe adv now).2.lastSeen? peripheral =
      if peripheral = adv.id then some now else t.lastSeen? peripheral := by
  refine Option.ext fun time => ?_
  rw [lastSeen?_eq_some_iff (orderly.observe adv now)]
  simp only [Tracker.observe, List.mem_append, List.mem_filter, List.mem_singleton,
    decide_eq_true_eq]
  split_ifs with hsame
  · constructor
    · rintro ⟨s, ⟨-, hother⟩ | rfl, hs, rfl⟩
      · exact absurd (hs.trans hsame) hother
      · rfl
    · rintro ⟨⟩
      exact ⟨_, .inr rfl, hsame.symm, rfl⟩
  · rw [lastSeen?_eq_some_iff orderly]
    constructor
    · rintro ⟨s, ⟨hs, -⟩ | rfl, rfl, rfl⟩
      · exact ⟨s, hs, rfl, rfl⟩
      · exact absurd rfl hsame
    · rintro ⟨s, hs, rfl, rfl⟩
      exact ⟨s, .inl ⟨hs, hsame⟩, rfl, rfl⟩

theorem lastSeen?_sweep (orderly : t.Orderly) :
    (t.sweep now).2.lastSeen? peripheral = some time ↔
      t.lastSeen? peripheral = some time ∧ now ≤ time + t.staleAfter.toNanos := by
  rw [lastSeen?_eq_some_iff orderly]
  refine (lastSeen?_eq_some_iff (orderly.filter (t.isFresh now ·))).trans ?_
  simp only [List.mem_filter, isFresh, decide_eq_true_eq, Nat.sub_le_iff_le_add']
  constructor
  · rintro ⟨s, ⟨hs, hfresh⟩, rfl, rfl⟩
    exact ⟨⟨s, hs, rfl, rfl⟩, hfresh⟩
  · rintro ⟨⟨s, hs, rfl, rfl⟩, hfresh⟩
    exact ⟨s, ⟨hs, hfresh⟩, rfl, rfl⟩

theorem exists_dropped (orderly : t.Orderly) (now : Nat) :
    ∃ dropped : List String, dropped.Nodup ∧
      (t.sweep now).1 = dropped.map (.lost <| .ofPeripheral ·) ∧
      ∀ peripheral, peripheral ∈ dropped ↔
        ∃ time, t.lastSeen? peripheral = some time ∧ time + t.staleAfter.toNanos < now := by
  have hstale := orderly.filter (!t.isFresh now ·)
  refine ⟨(t.sightings.filter (!t.isFresh now ·)).map (·.peripheral), hstale.once, ?_, ?_⟩
  · rw [List.map_map]
    exact List.map_congr_left fun s mem => congrArg DiscoveryEvent.lost (hstale.named s mem)
  · intro peripheral
    simp only [lastSeen?_eq_some_iff orderly, List.mem_map, List.mem_filter, isFresh,
      Bool.not_eq_true', decide_eq_false_iff_not, Nat.sub_le_iff_le_add', Nat.not_le]
    constructor
    · rintro ⟨s, ⟨hs, hold⟩, rfl⟩
      exact ⟨s.seen, ⟨s, hs, rfl, rfl⟩, hold⟩
    · rintro ⟨time, ⟨s, hs, rfl, rfl⟩, hold⟩
      exact ⟨s, ⟨hs, hold⟩, rfl⟩

end Changes

/-! ### A consumer of the events -/

/-- What a consumer of some events holds. -/
def heldBehind (events : List DiscoveryEvent) : Holding :=
  events.foldl Holding.hear .nothing

private theorem foldl_hear_lost (held : Holding) (ids : List DeviceId) (id : DeviceId) :
    (ids.map DiscoveryEvent.lost).foldl Holding.hear held id =
      if id ∈ ids then none else held id := by
  induction ids generalizing held with
  | nil => simp
  | cons first ids ih =>
    rw [List.map_cons, List.foldl_cons, ih]
    by_cases hfirst : id = first
    · simp [hfirst, Holding.hear]
    · simp [hfirst, Holding.hear]

/-- Each device that the consumer holds is the one of the last sighting of a peripheral that is
tracked. -/
private def Backs (t : Tracker) (feed : List Feed) (held : Holding) : Prop :=
  ∀ id device, held id = some device → ∃ adv time, .seen adv time ∈ feed ∧ adv.toDevice = device ∧
    device.id = id ∧ t.lastSeen? adv.id = some time

section Fed

variable {t : Tracker} {feed : List Feed} {held : Holding} {staleAfter : Duration}

private theorem Backs.take (backs : t.Backs feed held) (orderly : t.Orderly) (item : Feed) :
    (t.take item).1.Backs (feed ++ [item]) ((t.take item).2.foldl Holding.hear held) := by
  intro id device holds
  cases item with
  | seen adv now =>
    have hheard : (t.take (.seen adv now)).2.foldl Holding.hear held =
        Function.update held adv.toDevice.id (some adv.toDevice) := by
      simp only [Tracker.take, Tracker.observe]
      split_ifs <;> rfl
    rw [hheard, Function.update_apply] at holds
    split_ifs at holds with hid
    · refine ⟨adv, now, by simp, Option.some.inj holds, ?_, ?_⟩
      · rw [← Option.some.inj holds, hid]
      · exact (lastSeen?_observe orderly).trans (if_pos rfl)
    · obtain ⟨other, time, mem, rfl, rfl, hseen⟩ := backs id device holds
      have hother : other.id ≠ adv.id := by
        intro hsame
        exact hid (congrArg DeviceId.ofPeripheral hsame)
      refine ⟨other, time, List.mem_append_left _ mem, rfl, rfl, ?_⟩
      exact (lastSeen?_observe orderly).trans ((if_neg hother).trans hseen)
  | swept now =>
    obtain ⟨dropped, -, hlost, hdropped⟩ := exists_dropped orderly now
    have hevents : (t.take (.swept now)).2 =
        (dropped.map DeviceId.ofPeripheral).map DiscoveryEvent.lost := by
      rw [List.map_map]
      exact hlost
    rw [hevents, foldl_hear_lost] at holds
    split_ifs at holds with hid
    obtain ⟨adv, time, mem, rfl, rfl, hseen⟩ := backs id device holds
    refine ⟨adv, time, List.mem_append_left _ mem, rfl, rfl,
      (lastSeen?_sweep orderly).mpr ⟨hseen, ?_⟩⟩
    by_contra hold
    have hmem : adv.id ∈ dropped := (hdropped adv.id).mpr ⟨time, hseen, Nat.not_le.mp hold⟩
    exact hid (List.mem_map_of_mem hmem)

theorem fed_snoc (staleAfter : Duration) (feed : List Feed) (item : Feed) :
    fed staleAfter (feed ++ [item]) =
      (((fed staleAfter feed).1.take item).1,
        (fed staleAfter feed).2 ++ ((fed staleAfter feed).1.take item).2) :=
  Update.actEach_snoc ..

@[simp] theorem fed_staleAfter (staleAfter : Duration) (feed : List Feed) :
    (fed staleAfter feed).1.staleAfter = staleAfter := by
  induction feed using List.reverseRecOn with
  | nil => rfl
  | append_singleton feed item ih => rw [fed_snoc, take_staleAfter, ih]

private theorem orderly_fed (staleAfter : Duration) (feed : List Feed) :
    (fed staleAfter feed).1.Orderly := by
  induction feed using List.reverseRecOn with
  | nil => exact .start staleAfter
  | append_singleton feed item ih =>
    rw [fed_snoc]
    exact ih.take item

private theorem backs_fed (staleAfter : Duration) (feed : List Feed) :
    (fed staleAfter feed).1.Backs feed (heldBehind (fed staleAfter feed).2) := by
  induction feed using List.reverseRecOn with
  | nil => exact nofun
  | append_singleton feed item ih =>
    rw [fed_snoc, heldBehind, List.foldl_append]
    exact ih.take (orderly_fed staleAfter feed) item

/-- What a sweep leaves and what it reports, behind any feed: it forgets the peripherals whose last
sighting is too old and no others, it reports each of them as lost once, and each device that the
consumer still holds was seen lately. -/
structure Settles (staleAfter : Duration) (feed : List Feed) (now : Nat) : Prop where
  recent : ∀ id device, heldBehind (fed staleAfter (feed ++ [.swept now])).2 id = some device →
    ∃ adv time, .seen adv time ∈ feed ∧ adv.toDevice = device ∧
      now ≤ time + staleAfter.toNanos
  kept : ∀ peripheral time,
    (fed staleAfter (feed ++ [.swept now])).1.lastSeen? peripheral = some time ↔
      (fed staleAfter feed).1.lastSeen? peripheral = some time ∧ now ≤ time + staleAfter.toNanos
  reported : ∃ dropped : List String, dropped.Nodup ∧
    (fed staleAfter (feed ++ [.swept now])).2 =
      (fed staleAfter feed).2 ++ dropped.map (.lost <| .ofPeripheral ·) ∧
    ∀ peripheral, peripheral ∈ dropped ↔
      ∃ time, (fed staleAfter feed).1.lastSeen? peripheral = some time ∧
        time + staleAfter.toNanos < now

theorem settles (staleAfter : Duration) (feed : List Feed) (now : Nat) :
    Settles staleAfter feed now := by
  have horderly := orderly_fed staleAfter feed
  have hkept (peripheral : String) (time : Nat) :
      (fed staleAfter (feed ++ [.swept now])).1.lastSeen? peripheral = some time ↔
        (fed staleAfter feed).1.lastSeen? peripheral = some time ∧
          now ≤ time + staleAfter.toNanos := by
    have hsweep : ((fed staleAfter feed).1.sweep now).2.lastSeen? peripheral = some time ↔ _ :=
      lastSeen?_sweep horderly
    rw [fed_staleAfter] at hsweep
    rw [fed_snoc]
    exact hsweep
  refine ⟨?_, hkept, ?_⟩
  · intro id device holds
    obtain ⟨adv, time, mem, hdevice, -, hseen⟩ :=
      backs_fed staleAfter (feed ++ [.swept now]) id device holds
    refine ⟨adv, time, ?_, hdevice, ((hkept adv.id time).mp hseen).2⟩
    rcases List.mem_append.mp mem with hfeed | hnew
    · exact hfeed
    · cases List.mem_singleton.mp hnew
  · obtain ⟨dropped, honce, hlost, hdropped⟩ := exists_dropped horderly now
    rw [fed_staleAfter] at hdropped
    refine ⟨dropped, honce, ?_, hdropped⟩
    rw [fed_snoc]
    exact congrArg ((fed staleAfter feed).2 ++ ·) hlost

end Fed

end Tracker

end RadioLink
