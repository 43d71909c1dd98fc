import Mathlib.Data.List.Induction
import Mathlib.Logic.Function.Basic
import RadioLink.Discovery.Registry
import RadioLink.Proofs.Discovery.Identity

/-!
Following a registry by its events. A consumer that adds what is found, replaces what is updated and
forgets what is lost holds the registry's devices at any time, although it keeps them by identifier
and the registry keeps them by instance. The registry tells it nothing that does not fit what it
holds.
-/

set_option autoImplicit false
set_option relaxedAutoImplicit false

namespace RadioLink

/-! ### What a consumer holds -/

abbrev Holding := DeviceId → Option Device

namespace Holding

def nothing : Holding := fun _ => none

def hear (held : Holding) : DiscoveryEvent → Holding
  | .found device => Function.update held device.id (some device)
  | .updated device => Function.update held device.id (some device)
  | .lost id => Function.update held id none

/-- An event tells the consumer something new about what it holds. -/
def Awaits (held : Holding) : DiscoveryEvent → Prop
  | .found device => held device.id = none
  | .updated device => ∃ old, held device.id = some old ∧ old ≠ device
  | .lost id => ∃ old, held id = some old

/-- So does each of some events, when the consumer has heard those before it. -/
def AwaitsAll (held : Holding) : List DiscoveryEvent → Prop
  | [] => True
  | event :: events => held.Awaits event ∧ (held.hear event).AwaitsAll events

/-- The consumer holds the devices of a registry, and no others. -/
def Mirrors (held : Holding) (r : Registry) : Prop :=
  ∀ id device, held id = some device ↔ device.id = id ∧ ∃ name, r.find? name = some device

end Holding

namespace Registry

variable {r : Registry}

private theorem lookup_cons_eq (name other : String) (device : Device)
    (entries : List (String × Device)) :
    ((name, device) :: entries).lookup other =
      if other = name then some device else entries.lookup other := by
  rw [List.lookup_cons]
  by_cases hother : other = name
  · simp [hother]
  · have hne : (other == name) = false := beq_false_of_ne hother
    simp only [hne, if_neg hother]

@[simp] theorem find?_erase (r : Registry) (name other : String) :
    (r.erase name).find? other = if other = name then none else r.find? other := by
  obtain ⟨entries⟩ := r
  simp only [find?, erase]
  induction entries with
  | nil => simp
  | cons entry entries ih =>
    obtain ⟨key, device⟩ := entry
    rw [lookup_cons_eq, List.filter_cons]
    by_cases hkey : key = name
    · rw [if_neg (by simp [hkey]), ih, hkey]
      split_ifs <;> rfl
    · rw [if_pos (by simp [hkey]), lookup_cons_eq, ih]
      by_cases hother : other = key
      · rw [if_pos hother, if_neg (fun h => hkey (hother.symm.trans h)), if_pos hother]
      · rw [if_neg hother, if_neg hother]

@[simp] theorem find?_insert (r : Registry) (name : String) (device : Device) (other : String) :
    (r.insert name device).find? other = if other = name then some device else r.find? other := by
  have happend : (r.insert name device).find? other =
      ((r.erase name).find? other).or (List.lookup other [(name, device)]) :=
    List.lookup_append
  rw [happend, find?_erase, lookup_cons_eq]
  by_cases hother : other = name
  · simp [hother]
  · simp [hother]

end Registry

/-! ### A registry and its consumer -/

/-- What a registry is told: a service was resolved or withdrawn, or everything is to be
forgotten. -/
inductive News where
  | resolved (announcement : Announcement)
  | removed (name : String)
  | clear

def announced : List News → List Announcement
  | [] => []
  | .resolved announcement :: news => announcement :: announced news
  | .removed _ :: news => announced news
  | .clear :: news => announced news

private theorem announced_append (before behind : List News) :
    announced (before ++ behind) = announced before ++ announced behind := by
  induction before with
  | nil => rfl
  | cons news before ih => cases news <;> simp [announced, ih]

def Registry.take (r : Registry) : News → List DiscoveryEvent × Registry
  | .resolved announcement => r.resolved announcement
  | .removed name => ((r.removed name).1.toList, (r.removed name).2)
  | .clear => ([], r.clear)

/-- The consumer hears the events of some news; there are none of a registry that forgets
everything, and the consumer does the same. -/
def Holding.attend (held : Holding) (events : List DiscoveryEvent) : News → Holding
  | .clear => nothing
  | .resolved _ => events.foldl hear held
  | .removed _ => events.foldl hear held

/-- A registry, and what a consumer of its events holds. -/
structure Followed where
  registry : Registry
  held : Holding

namespace Followed

def begin : Followed := ⟨.empty, .nothing⟩

def take (f : Followed) (news : News) : Followed :=
  ⟨(f.registry.take news).2, f.held.attend (f.registry.take news).1 news⟩

def behind (past : List News) : Followed :=
  past.foldl take begin

private theorem behind_snoc (past : List News) (news : News) :
    behind (past ++ [news]) = (behind past).take news :=
  List.foldl_append

end Followed

/-! ### One change -/

section Change

variable {held : Holding} {r : Registry} {name : String} {device : Device}

private def Holding.forget (held : Holding) : Option Device → Holding
  | none => held
  | some old => Function.update held old.id none

/-- No two instances have devices of one identifier. -/
private def Registry.IsApart (r : Registry) : Prop :=
  ∀ {name name' device device'}, r.find? name = some device → r.find? name' = some device' →
    device.id = device'.id → name = name'

/-- Only the instance itself has a device of this identifier. -/
private def Registry.Reserves (r : Registry) (name : String) (id : DeviceId) : Prop :=
  ∀ {other device}, r.find? other = some device → device.id = id → other = name

private theorem Holding.Mirrors.holds (mirrors : held.Mirrors r)
    (found : r.find? name = some device) : held device.id = some device :=
  (mirrors device.id device).mpr ⟨rfl, name, found⟩

private theorem Holding.Mirrors.erase (mirrors : held.Mirrors r) (apart : r.IsApart)
    (name : String) : (held.forget (r.find? name)).Mirrors (r.erase name) := by
  intro id device
  simp only [Registry.find?_erase]
  cases hname : r.find? name with
  | none =>
    rw [Holding.forget, mirrors id device]
    refine and_congr_right fun _ => ⟨?_, ?_⟩
    · rintro ⟨other, hother⟩
      have hne : other ≠ name := by
        rintro rfl
        cases hname.symm.trans hother
      exact ⟨other, by rw [if_neg hne, hother]⟩
    · rintro ⟨other, hother⟩
      split_ifs at hother
      exact ⟨other, hother⟩
  | some old =>
    rw [Holding.forget, Function.update_apply]
    by_cases hid : id = old.id
    · rw [if_pos hid]
      refine iff_of_false nofun ?_
      rintro ⟨hdevice, other, hother⟩
      split_ifs at hother with hne
      exact hne (apart hother hname (hdevice.trans hid))
    · rw [if_neg hid, mirrors id device]
      refine and_congr_right fun hdevice => ⟨?_, ?_⟩
      · rintro ⟨other, hother⟩
        have hne : other ≠ name := by
          rintro rfl
          obtain rfl := Option.some.inj (hname.symm.trans hother)
          exact hid hdevice.symm
        exact ⟨other, by rw [if_neg hne, hother]⟩
      · rintro ⟨other, hother⟩
        split_ifs at hother
        exact ⟨other, hother⟩

private theorem Holding.Mirrors.insert (mirrors : held.Mirrors r) (apart : r.IsApart)
    (reserves : r.Reserves name device.id) :
    Holding.Mirrors (Function.update (held.forget (r.find? name)) device.id (some device))
      (r.insert name device) := by
  intro id other
  have herased := mirrors.erase apart name id other
  simp only [Registry.find?_erase] at herased
  simp only [Registry.find?_insert, Function.update_apply]
  by_cases hid : id = device.id
  · rw [if_pos hid]
    constructor
    · rintro ⟨⟩
      exact ⟨hid.symm, name, if_pos rfl⟩
    · rintro ⟨hother, key, hkey⟩
      split_ifs at hkey with hname
      · exact hkey
      · exact absurd (reserves hkey (hother.trans hid)) hname
  · rw [if_neg hid, herased]
    refine and_congr_right fun hother => ⟨?_, ?_⟩
    · rintro ⟨key, hkey⟩
      split_ifs at hkey with hname
      exact ⟨key, by rw [if_neg hname, hkey]⟩
    · rintro ⟨key, hkey⟩
      split_ifs at hkey with hname
      · cases hkey
        exact absurd hother.symm hid
      · exact ⟨key, by rw [if_neg hname, hkey]⟩

private theorem Holding.hear_changes (held : Holding) {previous : Option Device} (device : Device)
    (holds : ∀ old, previous = some old → held old.id = some old) :
    (Registry.changes previous device).foldl hear held =
      Function.update (held.forget previous) device.id (some device) := by
  cases previous with
  | none => rfl
  | some old =>
    have hold := holds old rfl
    rw [Registry.changes, Holding.forget]
    by_cases hid : old.id = device.id
    · rw [if_neg (not_not_intro hid), hid, Function.update_idem]
      by_cases hsame : old = device
      · rw [if_neg (not_not_intro hsame), ← hsame, ← hold, Function.update_eq_self]
        rfl
      · rw [if_pos hsame]
        rfl
    · rw [if_pos hid]
      rfl

private theorem Holding.awaits_changes (held : Holding) {previous : Option Device} (device : Device)
    (holds : ∀ old, previous = some old → held old.id = some old)
    (owned : ∀ other, held device.id = some other → previous = some other ∧ other.id = device.id) :
    held.AwaitsAll (Registry.changes previous device) := by
  cases previous with
  | none =>
    refine ⟨Option.eq_none_iff_forall_ne_some.mpr fun other hother => ?_, trivial⟩
    cases (owned other hother).1
  | some old =>
    have hold := holds old rfl
    rw [Registry.changes]
    by_cases hid : old.id = device.id
    · rw [if_neg (not_not_intro hid)]
      by_cases hsame : old = device
      · rw [if_neg (not_not_intro hsame)]
        trivial
      · rw [if_pos hsame]
        exact ⟨⟨old, hid ▸ hold, hsame⟩, trivial⟩
    · rw [if_pos hid]
      refine ⟨⟨old, hold⟩, Option.eq_none_iff_forall_ne_some.mpr fun other hother => ?_, trivial⟩
      rw [Holding.hear, Function.update_of_ne (Ne.symm hid)] at hother
      obtain ⟨hprevious, hother⟩ := owned other hother
      cases hprevious
      exact hid hother

private theorem Registry.changes_eq_nil_iff {previous : Option Device} {device : Device} :
    changes previous device = [] ↔ previous = some device := by
  cases previous with
  | none => simp [changes]
  | some old =>
    rw [changes]
    by_cases hsame : old = device
    · simp [hsame]
    · split_ifs <;> simp [hsame]

end Change

/-! ### All news -/

/-- The announcements of different instances make different devices. -/
private def Apart (announcements : List Announcement) : Prop :=
  ∀ a ∈ announcements, ∀ b ∈ announcements, a.toDevice.id = b.toDevice.id → a.name = b.name

private theorem apart_of_identities {announcements : List Announcement}
    (plain : ∀ a ∈ announcements, a.HasPlainHost)
    (distinct : ∀ a ∈ announcements, ∀ b ∈ announcements,
      DeviceId.ofText a.identity = DeviceId.ofText b.identity → a.identity = b.identity) :
    Apart announcements := by
  intro a ha b hb hid
  have hidentity := distinct a ha b hb hid
  exact ((Announcement.identity_eq_iff (plain a ha) (plain b hb)).mp hidentity).1

/-- The consumer holds the registry's devices, and each device is that of an announcement. -/
structure Followed.Sound (f : Followed) (announcements : List Announcement) : Prop where
  mirrors : f.held.Mirrors f.registry
  stems : ∀ name device, f.registry.find? name = some device →
    ∃ a ∈ announcements, a.name = name ∧ a.toDevice = device

namespace Followed

variable {f : Followed} {announcements : List Announcement} {a : Announcement}

private theorem Sound.isApart (sound : f.Sound announcements) (apart : Apart announcements) :
    f.registry.IsApart := by
  intro name name' device device' hname hname' hid
  obtain ⟨a, ha, rfl, rfl⟩ := sound.stems name device hname
  obtain ⟨b, hb, rfl, rfl⟩ := sound.stems name' device' hname'
  exact apart a ha b hb hid

private theorem Sound.reserves (sound : f.Sound announcements)
    (apart : Apart (announcements ++ [a])) : f.registry.Reserves a.name a.toDevice.id := by
  intro other device hother hid
  obtain ⟨b, hb, rfl, rfl⟩ := sound.stems other device hother
  exact apart b (List.mem_append_left _ hb) a (List.mem_append_right _ (List.mem_singleton_self a))
    hid

private theorem Sound.awaits (sound : f.Sound announcements) (news : News)
    (apart : Apart (announcements ++ announced [news])) :
    f.held.AwaitsAll (f.registry.take news).1 := by
  cases news with
  | clear => trivial
  | removed name =>
    cases hname : f.registry.find? name with
    | none =>
      simp only [Registry.take, Registry.removed, hname]
      trivial
    | some device =>
      simp only [Registry.take, Registry.removed, hname]
      exact ⟨⟨device, sound.mirrors.holds hname⟩, trivial⟩
  | resolved a =>
    refine f.held.awaits_changes a.toDevice (fun old hold => sound.mirrors.holds hold) ?_
    intro other hother
    obtain ⟨hid, name, hname⟩ := (sound.mirrors _ other).mp hother
    obtain rfl := sound.reserves apart hname hid
    exact ⟨hname, hid⟩

private theorem Sound.take (sound : f.Sound announcements) (news : News)
    (apart : Apart (announcements ++ announced [news])) :
    (f.take news).Sound (announcements ++ announced [news]) := by
  have hapart : f.registry.IsApart := sound.isApart fun b hb c hc =>
    apart b (List.mem_append_left _ hb) c (List.mem_append_left _ hc)
  have hstems (name : String) (device : Device) (found : f.registry.find? name = some device) :
      ∃ a ∈ announcements ++ announced [news], a.name = name ∧ a.toDevice = device := by
    obtain ⟨a, ha, hdevice⟩ := sound.stems name device found
    exact ⟨a, List.mem_append_left _ ha, hdevice⟩
  cases news with
  | clear =>
    refine ⟨fun id device => ?_, nofun⟩
    exact iff_of_false nofun (by rintro ⟨-, name, ⟨⟩⟩)
  | removed name =>
    refine ⟨?_, fun other device found => hstems other device ?_⟩
    · have hheard : f.held.attend (f.registry.take (.removed name)).1 (.removed name) =
          f.held.forget (f.registry.find? name) := by
        cases hname : f.registry.find? name <;>
          simp [Holding.attend, Registry.take, Registry.removed, hname, Holding.forget,
            Holding.hear]
      rw [Followed.take, hheard]
      exact sound.mirrors.erase hapart name
    · simp only [Followed.take, Registry.take, Registry.removed, Registry.find?_erase] at found
      split_ifs at found
      exact found
  | resolved a =>
    refine ⟨?_, fun other device found => ?_⟩
    · have hheard : f.held.attend (f.registry.take (.resolved a)).1 (.resolved a) =
          Function.update (f.held.forget (f.registry.find? a.name)) a.toDevice.id
            (some a.toDevice) :=
        f.held.hear_changes a.toDevice fun old hold => sound.mirrors.holds hold
      rw [Followed.take, hheard]
      exact sound.mirrors.insert hapart (sound.reserves apart)
    · simp only [Followed.take, Registry.take, Registry.resolved, Registry.find?_insert] at found
      split_ifs at found with hother
      · exact ⟨a, by simp [announced], hother.symm, Option.some.inj found⟩
      · exact hstems other device found

private theorem sound_behind (past : List News) (apart : Apart (announced past)) :
    (behind past).Sound (announced past) := by
  induction past using List.reverseRecOn with
  | nil => exact ⟨fun id device => iff_of_false nofun (by rintro ⟨-, name, ⟨⟩⟩), nofun⟩
  | append_singleton past news ih =>
    rw [announced_append] at apart ⊢
    rw [behind_snoc]
    refine Sound.take (ih fun b hb c hc => ?_) news apart
    exact apart b (List.mem_append_left _ hb) c (List.mem_append_left _ hc)

/-- A consumer can follow a registry by its events, whatever is resolved and withdrawn and in what
order: behind all news it holds the registry's devices and no others, and each event tells it
something new. It hears of nothing that it holds as found, and of nothing else as updated or lost,
what is updated differs from what it holds, and what is resolved to the same device again goes
without a word. Services are told apart by the hash of their identities, so no two of these may have
the same one. -/
theorem replay_mirrors_registry {all : List News} (plain : ∀ a ∈ announced all, a.HasPlainHost)
    (distinct : ∀ a ∈ announced all, ∀ b ∈ announced all,
      DeviceId.ofText a.identity = DeviceId.ofText b.identity → a.identity = b.identity) :
    ∀ past news rest, all = past ++ news :: rest →
      let events := ((behind past).registry.take news).1
      (behind (past ++ [news])).held.Mirrors (behind (past ++ [news])).registry ∧
      (behind past).held.AwaitsAll events ∧
      ∀ a, news = .resolved a →
        (events = [] ↔ (behind past).registry.find? a.name = some a.toDevice) := by
  rintro past news rest rfl events
  have hall : announced (past ++ news :: rest) =
      announced past ++ announced [news] ++ announced rest := by
    rw [← announced_append, ← announced_append, List.append_assoc, List.singleton_append]
  have hapart : Apart (announced past ++ announced [news]) := by
    have hwhole := apart_of_identities plain distinct
    rw [hall] at hwhole
    exact fun b hb c hc => hwhole b (List.mem_append_left _ hb) c (List.mem_append_left _ hc)
  have hpast : (behind past).Sound (announced past) := sound_behind past fun b hb c hc =>
    hapart b (List.mem_append_left _ hb) c (List.mem_append_left _ hc)
  refine ⟨?_, hpast.awaits news hapart, ?_⟩
  · rw [behind_snoc]
    exact (hpast.take news hapart).mirrors
  · rintro a rfl
    exact Registry.changes_eq_nil_iff

def announcement (name : String) (port : UInt16) (shortName : String) : Announcement :=
  ⟨name, "radio.local.", [.v4 ⟨192, 168, 1, 42⟩], port, some shortName, none, true⟩

theorem replay_mirrors_registry_moved :
    let all : List News :=
      [.resolved (announcement "a" 4403 "base"), .resolved (announcement "a:b" 4403 "roof"),
        .resolved (announcement "a" 4500 "base"), .resolved (announcement "a" 4500 "shed"),
        .removed "a"]
    (∀ a ∈ announced all, a.HasPlainHost) ∧
    (∀ a ∈ announced all, ∀ b ∈ announced all,
      DeviceId.ofText a.identity = DeviceId.ofText b.identity → a.identity = b.identity) ∧
    (behind all).held.Mirrors (behind all).registry ∧
    (behind all).registry.find? "a:b" = some (announcement "a:b" 4403 "roof").toDevice ∧
    (behind (all.take 3)).held.AwaitsAll
      [.updated (announcement "a" 4500 "shed").toDevice] := by
  intro all
  have hplain : ∀ a ∈ announced all, a.HasPlainHost := by decide +kernel
  have hdistinct : ∀ a ∈ announced all, ∀ b ∈ announced all,
      DeviceId.ofText a.identity = DeviceId.ofText b.identity → a.identity = b.identity := by
    decide +kernel
  have hreplay := replay_mirrors_registry hplain hdistinct
  have hevents : ((behind (all.take 3)).registry.take
      (.resolved (announcement "a" 4500 "shed"))).1 =
        [.updated (announcement "a" 4500 "shed").toDevice] := by decide +kernel
  refine ⟨hplain, hdistinct, (hreplay (all.take 4) _ [] rfl).1, by decide +kernel, ?_⟩
  rw [← hevents]
  exact (hreplay (all.take 3) _ _ rfl).2.1

end Followed

end RadioLink
