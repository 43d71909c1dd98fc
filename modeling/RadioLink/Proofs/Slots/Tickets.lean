import RadioLink.Slots

/-!
Slots as the owners of their waiters see them. An owner holds a ticket, the kind of its operation
and which of the waiters of that kind is its own; a waiter waits, has been told a result or has
left. Every operation on the slots is an action on these fates, and the actions on one kind do not
read the fates of another.
-/

set_option autoImplicit false
set_option relaxedAutoImplicit false

namespace RadioLink

variable {α : Type}

/-- What has become of a waiter. -/
inductive Fate (α : Type) where
  | waiting
  | told (result : Except LinkError α)
  | gone

namespace Fate

/-- A result reaches a waiter that waits and no other. -/
def deliver (fate : Fate α) (result : Except LinkError α) : Fate α :=
  match fate with
  | .waiting => .told result
  | .told earlier => .told earlier
  | .gone => .gone

def looked (fate : Fate α) : Fate α :=
  match fate with
  | .waiting => .waiting
  | .told _ => .gone
  | .gone => .gone

end Fate

def Delivery.fate : Delivery α → Fate α
  | .pending => .waiting
  | .outcome result => .told result
  | .abandoned => .told (.error .channelClosed)

namespace Slots

variable {s : Slots α} {kind : OperationKind} {number other : Nat}

/-! ### Waiters by number -/

def fateOf (s : Slots α) (number : Nat) : Fate α :=
  match s.find? number with
  | none => .gone
  | some waiter => waiter.delivery.fate

private theorem number_of_find? {waiter : Waiter α} (found : s.find? number = some waiter) :
    waiter.number = number := by
  simpa using List.find?_some found

private theorem find?_tell (s : Slots α) (number other : Nat) (delivery : Delivery α) :
    (s.tell number delivery).find? other =
      (s.find? other).map fun w =>
        if w.number = number then { w with delivery := delivery } else w := by
  have hsame : (fun w : Waiter α => decide (w.number = other)) ∘
      (fun w => if w.number = number then { w with delivery := delivery } else w) =
        fun w => decide (w.number = other) := by
    funext w
    by_cases h : w.number = number <;> simp [h]
  simp only [find?, tell, List.find?_map, hsame]

private theorem fateOf_tell_self (s : Slots α) (number : Nat) (delivery : Delivery α) :
    (s.tell number delivery).fateOf number =
      match s.find? number with
      | none => .gone
      | some _ => delivery.fate := by
  rw [fateOf, find?_tell]
  cases hfind : s.find? number with
  | none => rfl
  | some w => simp [number_of_find? hfind]

private theorem fateOf_tell_of_ne (s : Slots α) (delivery : Delivery α) (ne : other ≠ number) :
    (s.tell number delivery).fateOf other = s.fateOf other := by
  rw [fateOf, find?_tell, fateOf]
  cases hfind : s.find? other with
  | none => rfl
  | some w => simp [number_of_find? hfind, ne]

private theorem find?_leave (s : Slots α) (number other : Nat) :
    (s.leave number).find? other = if other = number then none else s.find? other := by
  simp only [find?, leave, List.find?_filter]
  split
  case isTrue h => exact List.find?_eq_none.mpr fun w _ => by simp [h]
  case isFalse h =>
    congr 1
    funext w
    by_cases hw : w.number = other <;> simp [hw, h]

private theorem fateOf_leave (s : Slots α) (number other : Nat) :
    (s.leave number).fateOf other = if other = number then .gone else s.fateOf other := by
  unfold fateOf
  rw [find?_leave]
  by_cases h : other = number <;> simp only [h, if_true, if_false]

private theorem find?_isSome_iff : (s.find? number).isSome = true ↔ s.fateOf number ≠ .gone := by
  unfold fateOf
  cases s.find? number with
  | none => simp
  | some w => cases hd : w.delivery <;> simp [hd, Delivery.fate]

theorem poll_eq (s : Slots α) (number : Nat) :
    s.poll number =
      match s.fateOf number with
      | .waiting => (none, s)
      | .told result => (some result, s.leave number)
      | .gone => (none, s) := by
  unfold poll fateOf
  cases s.find? number with
  | none => rfl
  | some w => cases hd : w.delivery <;> simp [hd, Delivery.fate]

theorem expire_eq (s : Slots α) (number : Nat) :
    s.expire number =
      match s.fateOf number with
      | .told result => (result, s.leave number)
      | _ => (.error .timeout, s.leave number) := by
  rw [expire, poll_eq]
  cases s.fateOf number <;> rfl

/-! ### Telling whoever holds a slot -/

def give (s : Slots α) (kind : OperationKind) (delivery : Delivery α) : Slots α :=
  match s.holder kind with
  | none => s
  | some number => (s.setHolder kind none).tell number delivery

private theorem tell_of_find?_eq_none (delivery : Delivery α) (absent : s.find? number = none) :
    s.tell number delivery = s := by
  have hsame : s.waiters.map (fun w =>
      if w.number = number then { w with delivery := delivery } else w) = s.waiters := by
    refine (List.map_congr_left fun w hw => ?_).trans (List.map_id _)
    have hne : ¬ w.number = number := by
      simpa using List.find?_eq_none.mp absent w hw
    simp [hne]
  simp only [tell, hsame]

theorem resolve_snd (s : Slots α) (kind : OperationKind) (result : Except LinkError α) :
    (s.resolve kind result).2 = s.give kind (.outcome result) := by
  unfold resolve give
  cases hholder : s.holder kind with
  | none => rfl
  | some number =>
    cases hfind : s.find? number with
    | some w => simp [hfind]
    | none =>
      have habsent : (s.setHolder kind none).find? number = none := hfind
      simp [hfind, tell_of_find?_eq_none _ habsent]

theorem resolve_fst (s : Slots α) (kind : OperationKind) (result : Except LinkError α) :
    (s.resolve kind result).1 = s.isPending kind := by
  unfold resolve isPending
  cases s.holder kind with
  | none => rfl
  | some number => cases hfind : s.find? number <;> simp [hfind]

theorem failAll_eq (s : Slots α) (error : LinkError) :
    s.failAll error =
      OperationKind.all.foldl (fun s kind => s.give kind (.outcome (.error error))) s := by
  simp only [failAll, resolve_snd]

theorem drop_eq (s : Slots α) :
    s.drop = OperationKind.all.foldl (fun s kind => s.give kind .abandoned) s := rfl

private theorem holder_give (s : Slots α) (kind other : OperationKind) (delivery : Delivery α) :
    (s.give kind delivery).holder other = if other = kind then none else s.holder other := by
  unfold give
  cases hholder : s.holder kind with
  | none =>
    by_cases h : other = kind <;> simp [h, hholder]
  | some number => rfl

private theorem next_give (s : Slots α) (kind : OperationKind) (delivery : Delivery α) :
    (s.give kind delivery).next = s.next := by
  unfold give
  cases s.holder kind <;> rfl

private theorem numbers_give (s : Slots α) (kind : OperationKind) (delivery : Delivery α) :
    (s.give kind delivery).waiters.map (·.number) = s.waiters.map (·.number) := by
  unfold give
  cases s.holder kind with
  | none => rfl
  | some number =>
    simp only [tell, setHolder, List.map_map]
    refine List.map_congr_left fun w _ => ?_
    by_cases h : w.number = number <;> simp [h]

private theorem fateOf_give_of_ne (delivery : Delivery α) (ne : s.holder kind ≠ some number) :
    (s.give kind delivery).fateOf number = s.fateOf number := by
  unfold give
  cases hholder : s.holder kind with
  | none => rfl
  | some held =>
    have hne : number ≠ held := fun h => ne (h ▸ hholder)
    exact fateOf_tell_of_ne (s.setHolder kind none) delivery hne

private theorem fateOf_give {delivery : Delivery α} {result : Except LinkError α}
    (settled : delivery.fate = .told result) (holder : s.holder kind = some number)
    (unsettled : s.fateOf number = .waiting ∨ s.fateOf number = .gone) :
    (s.give kind delivery).fateOf number = (s.fateOf number).deliver result := by
  have hgive : s.give kind delivery = (s.setHolder kind none).tell number delivery := by
    simp only [give, holder]
  have hfind : (s.setHolder kind none).find? number = s.find? number := rfl
  rw [hgive, fateOf_tell_self, hfind]
  cases hwaiter : s.find? number with
  | none => simp [fateOf, hwaiter, Fate.deliver]
  | some w =>
    have hpresent : s.fateOf number ≠ .gone := find?_isSome_iff.mp (by simp [hwaiter])
    have hwaiting : s.fateOf number = .waiting := unsettled.resolve_right hpresent
    simp [hwaiting, Fate.deliver, settled]

/-! ### Registering -/

private def begun (s : Slots α) (kind : OperationKind) : Slots α :=
  { holder := fun k => if k = kind then some s.next else s.holder k
    waiters := s.waiters ++ [⟨s.next, kind, .pending⟩]
    next := s.next + 1 }

theorem begin_eq (s : Slots α) (kind : OperationKind) :
    s.begin kind =
      if s.isPending kind then .error (.operationInProgress kind)
      else .ok (s.next, s.begun kind) := rfl

private theorem fateOf_begun_next (kind : OperationKind)
    (listed : ∀ number ∈ s.waiters.map (·.number), number < s.next) :
    (s.begun kind).fateOf s.next = .waiting := by
  have habsent : s.waiters.find? (·.number = s.next) = none := by
    refine List.find?_eq_none.mpr fun w hw => ?_
    have hlt := listed w.number (List.mem_map.mpr ⟨w, hw, rfl⟩)
    simpa using Nat.ne_of_lt hlt
  simp [fateOf, find?, begun, List.find?_append, habsent, Delivery.fate]

private theorem fateOf_begun_of_lt (kind : OperationKind) (lt : number < s.next) :
    (s.begun kind).fateOf number = s.fateOf number := by
  have hne : ¬ s.next = number := by omega
  simp [fateOf, find?, begun, List.find?_append, hne]

/-! ### Owners -/

/-- A waiter as its owner knows it: which one of its kind it is. -/
structure Ticket where
  kind : OperationKind
  index : Nat
  deriving DecidableEq, Repr

inductive Action (α : Type) where
  | begin (kind : OperationKind)
  | resolve (kind : OperationKind) (result : Except LinkError α)
  | failAll (error : LinkError)
  /-- The whole set of slots goes away. -/
  | drop
  /-- The owner drops its waiter. -/
  | leave (ticket : Ticket)
  | poll (ticket : Ticket)
  /-- The bound of a bounded wait elapses. -/
  | expire (ticket : Ticket)

inductive Answer (α : Type) where
  | begun (result : Except LinkError Ticket)
  | resolved (told : Bool)
  | outcome (result : Except LinkError α)
  | pending
  /-- Nobody holds the ticket, or no longer. -/
  | unknown
  | done

/-- Slots, and the numbers of the waiters registered so far, kind by kind and in order. -/
structure Desk (α : Type) where
  slots : Slots α
  numbers : OperationKind → List Nat

namespace Desk

def empty : Desk α := ⟨Slots.empty, fun _ => []⟩

def number? (d : Desk α) (ticket : Ticket) : Option Nat :=
  (d.numbers ticket.kind)[ticket.index]?

def fate? (d : Desk α) (ticket : Ticket) : Option (Fate α) :=
  (d.number? ticket).map d.slots.fateOf

def register (d : Desk α) (kind : OperationKind) (number : Nat) (slots : Slots α) : Desk α :=
  ⟨slots, fun k => if k = kind then d.numbers k ++ [number] else d.numbers k⟩

/-- The desk behind another state of its slots, nobody registered in between. -/
def on (d : Desk α) (slots : Slots α) : Desk α :=
  { d with slots := slots }

def present? (d : Desk α) (ticket : Ticket) : Option Nat :=
  (d.number? ticket).filter fun number => (d.slots.find? number).isSome

def ask (d : Desk α) (ticket : Ticket) (use : Slots α → Nat → Answer α × Slots α) :
    Answer α × Desk α :=
  match d.present? ticket with
  | none => (.unknown, d)
  | some number => ((use d.slots number).1, d.on (use d.slots number).2)

def step (d : Desk α) : Action α → Answer α × Desk α
  | .begin kind =>
    match d.slots.begin kind with
    | .error error => (.begun (.error error), d)
    | .ok (number, slots) =>
      (.begun (.ok ⟨kind, (d.numbers kind).length⟩), d.register kind number slots)
  | .resolve kind result =>
    (.resolved (d.slots.resolve kind result).1, d.on (d.slots.resolve kind result).2)
  | .failAll error => (.done, d.on (d.slots.failAll error))
  | .drop => (.done, d.on d.slots.drop)
  | .leave ticket => d.ask ticket fun slots number => (.done, slots.leave number)
  | .poll ticket =>
    d.ask ticket fun slots number =>
      ((slots.poll number).1.elim .pending .outcome, (slots.poll number).2)
  | .expire ticket =>
    d.ask ticket fun slots number => (.outcome (slots.expire number).1, (slots.expire number).2)

/-- Numbers are never given twice, a slot is held by a waiter that has not been told, and whoever
waits holds the slot of its kind. -/
structure Sound (d : Desk α) : Prop where
  below : ∀ ticket number, d.number? ticket = some number → number < d.slots.next
  listed : ∀ number ∈ d.slots.waiters.map (·.number), number < d.slots.next
  apart : ∀ ticket other number, d.number? ticket = some number → d.number? other = some number →
    ticket = other
  held : ∀ kind number, d.slots.holder kind = some number →
    (∃ index, d.number? ⟨kind, index⟩ = some number) ∧
      (d.slots.fateOf number = .waiting ∨ d.slots.fateOf number = .gone)
  holds : ∀ ticket number, d.number? ticket = some number → d.slots.fateOf number = .waiting →
    d.slots.holder ticket.kind = some number

theorem sound_empty : Sound (empty : Desk α) where
  below := by simp [number?, empty]
  listed := by simp [empty, Slots.empty]
  apart := by simp [number?, empty]
  held := by simp [empty, Slots.empty]
  holds := by simp [number?, empty]

variable {d : Desk α} {ticket : Ticket}

private theorem fate?_of_number? (number : d.number? ticket = some other) :
    d.fate? ticket = some (d.slots.fateOf other) := by
  simp [fate?, number]

private theorem present?_eq_some_iff :
    d.present? ticket = some number ↔
      d.number? ticket = some number ∧ d.slots.fateOf number ≠ .gone := by
  rw [present?, Option.filter_eq_some_iff, find?_isSome_iff]

private theorem fate?_of_present?_eq_none (absent : d.present? ticket = none) :
    d.fate? ticket = none ∨ d.fate? ticket = some .gone := by
  cases hnumber : d.number? ticket with
  | none => exact .inl (by simp [fate?, hnumber])
  | some number =>
    by_cases hgone : d.slots.fateOf number = .gone
    · exact .inr (by rw [fate?_of_number? hnumber, hgone])
    · have hpresent : d.present? ticket = some number :=
        present?_eq_some_iff.mpr ⟨hnumber, hgone⟩
      cases absent.symm.trans hpresent

theorem isPending_iff (sound : Sound d) :
    d.slots.isPending kind = true ↔ ∃ index, d.fate? ⟨kind, index⟩ = some .waiting := by
  constructor
  · intro h
    obtain ⟨number, hholder, hsome⟩ :
        ∃ number, d.slots.holder kind = some number ∧ (d.slots.find? number).isSome := by
      cases hholder : d.slots.holder kind with
      | none => simp [isPending, hholder] at h
      | some number => exact ⟨number, rfl, by simpa [isPending, hholder] using h⟩
    obtain ⟨⟨index, hindex⟩, hfate⟩ := sound.held kind number hholder
    have hwaiting : d.slots.fateOf number = .waiting :=
      hfate.resolve_right (find?_isSome_iff.mp hsome)
    exact ⟨index, by rw [fate?_of_number? hindex, hwaiting]⟩
  · rintro ⟨index, hfate⟩
    obtain ⟨number, hnumber, hwaiting⟩ := Option.map_eq_some_iff.mp hfate
    have hholder := sound.holds _ number hnumber hwaiting
    have hpresent : (d.slots.find? number).isSome = true :=
      find?_isSome_iff.mpr (by simp [hwaiting])
    simp only [isPending, hholder, Option.any_some, hpresent]

/-! ### What a step does to the waiters -/

private theorem on_slots (d : Desk α) : d.on d.slots = d := rfl

private theorem fate?_on (d : Desk α) (slots : Slots α) (ticket : Ticket) :
    (d.on slots).fate? ticket = (d.number? ticket).map slots.fateOf := rfl

section Giving

variable {delivery : Delivery α} {result : Except LinkError α}

theorem fate?_give (sound : Sound d) (settled : delivery.fate = .told result)
    (kind : OperationKind) (ticket : Ticket) :
    (d.on (d.slots.give kind delivery)).fate? ticket =
      (d.fate? ticket).map fun fate =>
        if ticket.kind = kind then fate.deliver result else fate := by
  rw [fate?_on, fate?, Option.map_map]
  cases hnumber : d.number? ticket with
  | none => rfl
  | some number =>
    simp only [Option.map_some, Function.comp_apply, Option.some.injEq]
    by_cases hholder : d.slots.holder kind = some number
    · obtain ⟨⟨index, hindex⟩, hopen⟩ := sound.held kind number hholder
      have hticket : ticket = ⟨kind, index⟩ := sound.apart _ _ number hnumber hindex
      rw [fateOf_give settled hholder hopen, hticket, if_pos rfl]
    · rw [fateOf_give_of_ne delivery hholder]
      split
      case isFalse => rfl
      case isTrue hkind =>
        have hnot : d.slots.fateOf number ≠ .waiting := fun hwaiting =>
          hholder (hkind ▸ sound.holds ticket number hnumber hwaiting)
        cases hfate : d.slots.fateOf number with
        | waiting => exact absurd hfate hnot
        | told earlier => rfl
        | gone => rfl

theorem sound_give (sound : Sound d) (settled : delivery.fate = .told result)
    (kind : OperationKind) : Sound (d.on (d.slots.give kind delivery)) where
  below := by
    intro ticket number hnumber
    exact (next_give d.slots kind delivery).symm ▸ sound.below ticket number hnumber
  listed := by
    intro number hmem
    have hnext : (d.on (d.slots.give kind delivery)).slots.next = d.slots.next := next_give ..
    rw [hnext]
    exact sound.listed number (numbers_give d.slots kind delivery ▸ hmem)
  apart := sound.apart
  held := by
    intro k number hholder
    have hholder' : (if k = kind then none else d.slots.holder k) = some number :=
      holder_give d.slots kind k delivery ▸ hholder
    obtain ⟨hne, hold⟩ : k ≠ kind ∧ d.slots.holder k = some number := by
      split at hholder'
      case isTrue => cases hholder'
      case isFalse hne => exact ⟨hne, hholder'⟩
    obtain ⟨⟨index, hindex⟩, hopen⟩ := sound.held k number hold
    refine ⟨⟨index, hindex⟩, ?_⟩
    have hother : d.slots.holder kind ≠ some number := by
      intro hkind
      obtain ⟨⟨index', hindex'⟩, -⟩ := sound.held kind number hkind
      exact hne (congrArg Ticket.kind (sound.apart _ _ number hindex hindex'))
    have hsame : (d.slots.give kind delivery).fateOf number = d.slots.fateOf number :=
      fateOf_give_of_ne delivery hother
    exact hsame.symm ▸ hopen
  holds := by
    intro ticket number hnumber hwaiting
    have hmap := fate?_give sound settled kind ticket
    have hnumber' : d.number? ticket = some number := hnumber
    rw [fate?_of_number? hnumber, hwaiting, fate?_of_number? hnumber', Option.map_some,
      Option.some.injEq] at hmap
    change (d.slots.give kind delivery).holder ticket.kind = some number
    rw [holder_give]
    split at hmap
    case isTrue hkind =>
      cases hfate : d.slots.fateOf number <;> rw [hfate] at hmap <;> cases hmap
    case isFalse hkind =>
      rw [if_neg hkind]
      exact sound.holds ticket number hnumber hmap.symm

private theorem deliver_deliver (fate : Fate α) (result : Except LinkError α) :
    (fate.deliver result).deliver result = fate.deliver result := by
  cases fate <;> rfl

theorem giveAll (sound : Sound d) (settled : delivery.fate = .told result)
    (kinds : List OperationKind) :
    Sound (d.on (kinds.foldl (fun s kind => s.give kind delivery) d.slots)) ∧
      ∀ ticket, (d.on (kinds.foldl (fun s kind => s.give kind delivery) d.slots)).fate? ticket =
        (d.fate? ticket).map fun fate =>
          if ticket.kind ∈ kinds then fate.deliver result else fate := by
  induction kinds generalizing d with
  | nil => exact ⟨sound, fun ticket => by simp [on]⟩
  | cons kind kinds ih =>
    have hgive := sound_give sound settled kind
    obtain ⟨hsound, hfates⟩ := ih hgive
    refine ⟨hsound, fun ticket => ?_⟩
    refine (hfates ticket).trans ?_
    rw [fate?_give sound settled kind ticket, Option.map_map]
    congr 1
    funext fate
    by_cases hkind : ticket.kind = kind
    · by_cases hmem : ticket.kind ∈ kinds
      · simp [hkind, hkind ▸ hmem, deliver_deliver]
      · simp [hkind, hkind ▸ hmem]
    · simp [hkind]

end Giving

private theorem fate?_leave (sound : Sound d) (number : d.number? ticket = some other)
    (asked : Ticket) :
    (d.on (d.slots.leave other)).fate? asked =
      (d.fate? asked).map fun fate => if asked = ticket then .gone else fate := by
  rw [fate?_on, fate?, Option.map_map]
  cases hasked : d.number? asked with
  | none => rfl
  | some n =>
    simp only [Option.map_some, Function.comp_apply, Option.some.injEq]
    rw [fateOf_leave]
    have hiff : n = other ↔ asked = ticket := by
      constructor
      · intro h
        exact sound.apart asked ticket n hasked (h ▸ number)
      · intro h
        exact Option.some.inj (hasked.symm.trans (h ▸ number))
    by_cases h : asked = ticket
    · simp [h, hiff.mpr h]
    · simp [h, mt hiff.mp h]

private theorem sound_leave (sound : Sound d) (other : Nat) :
    Sound (d.on (d.slots.leave other)) where
  below := sound.below
  listed := by
    intro number hmem
    have hsub : (d.slots.leave other).waiters.Sublist d.slots.waiters := List.filter_sublist
    exact sound.listed number ((hsub.map _).mem hmem)
  apart := sound.apart
  held := by
    intro kind number hholder
    obtain ⟨hindex, hopen⟩ := sound.held kind number hholder
    refine ⟨hindex, ?_⟩
    have hleave := fateOf_leave d.slots other number
    by_cases h : number = other
    · exact .inr (hleave.trans (if_pos h))
    · exact (hleave.trans (if_neg h)).symm ▸ hopen
  holds := by
    intro ticket number hnumber hwaiting
    have hleave := fateOf_leave d.slots other number
    have hfate : d.slots.fateOf number = .waiting := by
      by_cases h : number = other
      · rw [if_pos h] at hleave
        cases hwaiting.symm.trans hleave
      · rw [if_neg h] at hleave
        exact hleave.symm.trans hwaiting
    exact sound.holds ticket number hnumber hfate

/-- An owner learns what has become of its waiter, and the others notice nothing. -/
theorem ask_spec (sound : Sound d) (ticket : Ticket) {use : Slots α → Nat → Answer α × Slots α}
    {reply : Fate α → Answer α} {after : Fate α → Fate α}
    (fits : ∀ number, d.slots.fateOf number ≠ .gone →
      (use d.slots number).1 = reply (d.slots.fateOf number) ∧
        ((use d.slots number).2 = d.slots ∧
            after (d.slots.fateOf number) = d.slots.fateOf number ∨
          (use d.slots number).2 = d.slots.leave number ∧
            after (d.slots.fateOf number) = .gone))
    (reply_gone : reply .gone = .unknown) (after_gone : after .gone = .gone) :
    (d.ask ticket use).1 = (d.fate? ticket).elim .unknown reply ∧
      Sound (d.ask ticket use).2 ∧
      ∀ asked, (d.ask ticket use).2.fate? asked =
        (d.fate? asked).map fun fate => if ticket = asked then after fate else fate := by
  cases hpresent : d.present? ticket with
  | none =>
    simp only [ask, hpresent]
    refine ⟨?_, sound, fun asked => ?_⟩
    · rcases fate?_of_present?_eq_none hpresent with hfate | hfate <;> simp [hfate, reply_gone]
    · by_cases hasked : ticket = asked
      · subst hasked
        rcases fate?_of_present?_eq_none hpresent with hfate | hfate <;> simp [hfate, after_gone]
      · simp [hasked]
  | some number =>
    obtain ⟨hnumber, hpresent'⟩ := present?_eq_some_iff.mp hpresent
    obtain ⟨hreply, hkept⟩ := fits number hpresent'
    simp only [ask, hpresent]
    refine ⟨by simp [fate?_of_number? hnumber, hreply], ?_⟩
    rcases hkept with ⟨hslots, hafter⟩ | ⟨hslots, hafter⟩
    · refine ⟨hslots.symm ▸ sound, fun asked => ?_⟩
      rw [hslots, on_slots]
      by_cases hasked : ticket = asked
      · subst hasked
        simp [fate?_of_number? hnumber, hafter]
      · simp [hasked]
    · refine ⟨hslots.symm ▸ sound_leave sound number, fun asked => ?_⟩
      rw [hslots, fate?_leave sound hnumber asked]
      by_cases hasked : ticket = asked
      · subst hasked
        simp [fate?_of_number? hnumber, hafter]
      · simp [hasked, Ne.symm hasked]

private theorem number?_register (d : Desk α) (kind : OperationKind) (number : Nat)
    (slots : Slots α) (ticket : Ticket) :
    (d.register kind number slots).number? ticket =
      if ticket = ⟨kind, (d.numbers kind).length⟩ then some number else d.number? ticket := by
  obtain ⟨k, index⟩ := ticket
  unfold number? register
  by_cases hkind : k = kind
  · subst hkind
    by_cases hindex : index = (d.numbers k).length
    · simp [hindex]
    · simp only [if_true, Ticket.mk.injEq, hindex, and_false, if_false]
      rcases Nat.lt_or_gt_of_ne hindex with hlt | hgt
      · exact List.getElem?_append_left hlt
      · rw [List.getElem?_eq_none (by simp; omega), List.getElem?_eq_none (by omega)]
  · simp [hkind]

def fresh (d : Desk α) (kind : OperationKind) : Ticket :=
  ⟨kind, (d.numbers kind).length⟩

theorem number?_fresh (d : Desk α) (kind : OperationKind) : d.number? (d.fresh kind) = none := by
  simp [number?, fresh]

def registered (d : Desk α) (kind : OperationKind) : Desk α :=
  d.register kind d.slots.next (d.slots.begun kind)

private theorem number?_registered (d : Desk α) (kind : OperationKind) (ticket : Ticket) :
    (d.registered kind).number? ticket =
      if ticket = d.fresh kind then some d.slots.next else d.number? ticket :=
  number?_register ..

theorem fate?_registered (sound : Sound d) (kind : OperationKind) (ticket : Ticket) :
    (d.registered kind).fate? ticket =
      if ticket = d.fresh kind then some .waiting else d.fate? ticket := by
  have hslots : (d.registered kind).slots = d.slots.begun kind := rfl
  rw [fate?, number?_registered, hslots]
  split
  case isTrue => simp [fateOf_begun_next kind sound.listed]
  case isFalse =>
    cases hnumber : d.number? ticket with
    | none => simp [fate?, hnumber]
    | some number =>
      rw [fate?_of_number? hnumber, Option.map_some,
        fateOf_begun_of_lt kind (sound.below ticket number hnumber)]

theorem sound_registered (sound : Sound d) (free : d.slots.isPending kind = false) :
    Sound (d.registered kind) where
  below := by
    intro ticket number hnumber
    rw [number?_registered] at hnumber
    change number < d.slots.next + 1
    split at hnumber
    case isTrue => cases hnumber; omega
    case isFalse =>
      have hlt := sound.below ticket number hnumber
      omega
  listed := by
    intro number hmem
    change number < d.slots.next + 1
    obtain ⟨w, hw, rfl⟩ := List.mem_map.mp hmem
    rcases List.mem_append.mp hw with hold | hnew
    · have hlt := sound.listed w.number (List.mem_map.mpr ⟨w, hold, rfl⟩)
      omega
    · rw [List.mem_singleton.mp hnew]
      exact Nat.lt_succ_self _
  apart := by
    intro ticket other number hticket hother
    rw [number?_registered] at hticket hother
    split at hticket <;> split at hother
    case isTrue.isTrue h h' => rw [h, h']
    case isTrue.isFalse =>
      cases hticket
      exact absurd (sound.below other _ hother) (by omega)
    case isFalse.isTrue =>
      cases hother
      exact absurd (sound.below ticket _ hticket) (by omega)
    case isFalse.isFalse => exact sound.apart ticket other number hticket hother
  held := by
    intro k number hholder
    change (if k = kind then some d.slots.next else d.slots.holder k) = some number at hholder
    split at hholder
    case isTrue hkind =>
      cases hholder
      refine ⟨⟨(d.numbers kind).length, ?_⟩, .inl (fateOf_begun_next kind sound.listed)⟩
      rw [hkind, number?_registered]
      exact if_pos rfl
    case isFalse hkind =>
      obtain ⟨⟨index, hindex⟩, hopen⟩ := sound.held k number hholder
      have hlt := sound.below _ number hindex
      have hne : (⟨k, index⟩ : Ticket) ≠ d.fresh kind := fun h =>
        hkind (congrArg Ticket.kind h)
      refine ⟨⟨index, ?_⟩, ?_⟩
      · rw [number?_registered, if_neg hne, hindex]
      · exact (fateOf_begun_of_lt kind hlt).symm ▸ hopen
  holds := by
    intro ticket number hnumber hwaiting
    change (if ticket.kind = kind then some d.slots.next else d.slots.holder ticket.kind) = _
    rw [number?_registered] at hnumber
    split at hnumber
    case isTrue hticket =>
      have hkind : ticket.kind = kind := congrArg Ticket.kind hticket
      rw [if_pos hkind, hnumber]
    case isFalse hticket =>
      have hlt := sound.below ticket number hnumber
      have hfate : d.slots.fateOf number = .waiting :=
        (fateOf_begun_of_lt kind hlt).symm.trans hwaiting
      have hne : ticket.kind ≠ kind := by
        intro hkind
        have hpending : d.slots.isPending ticket.kind = true :=
          (isPending_iff sound).mpr ⟨ticket.index, by rw [fate?_of_number? hnumber, hfate]⟩
        rw [hkind, free] at hpending
        cases hpending
      rw [if_neg hne]
      exact sound.holds ticket number hnumber hfate

theorem step_begin (d : Desk α) (kind : OperationKind) :
    d.step (.begin kind) =
      if d.slots.isPending kind then (.begun (.error (.operationInProgress kind)), d)
      else (.begun (.ok (d.fresh kind)), d.registered kind) := by
  cases hpending : d.slots.isPending kind with
  | true => simp [step, begin_eq, hpending]
  | false => simp [step, begin_eq, hpending, fresh, registered]

end Desk

end Slots

end RadioLink
