import Mathlib.Data.List.Induction
import RadioLink.Proofs.Slots.Tickets

/-!
What a waiter learns depends only on what is done behind its registration: the first result that
goes to its kind is its own, however late it looks. Over every history of the slots, a registration
is refused exactly while a waiter of the kind waits, every waiter finishes once at most, and what
is done for one kind does not show in another.
-/

set_option autoImplicit false
set_option relaxedAutoImplicit false

namespace RadioLink.Slots

variable {α : Type}

def Action.outcome? (kind : OperationKind) : Action α → Option (Except LinkError α)
  | .resolve k result => if k = kind then some result else none
  | .failAll error => some (.error error)
  | .drop => some (.error .channelClosed)
  | _ => none

/-- What an action makes of the fate of a registered waiter. -/
private def fateAfter (ticket : Ticket) (fate : Fate α) : Action α → Fate α
  | .leave asked => if asked = ticket then .gone else fate
  | .expire asked => if asked = ticket then .gone else fate
  | .poll asked => if asked = ticket then fate.looked else fate
  | a => (a.outcome? ticket.kind).elim fate fate.deliver

private def look : Fate α → Answer α
  | .waiting => .pending
  | .told result => .outcome result
  | .gone => .unknown

private def timeUp : Fate α → Answer α
  | .waiting => .outcome (.error .timeout)
  | .told result => .outcome result
  | .gone => .unknown

private def farewell : Fate α → Answer α
  | .waiting => .done
  | .told _ => .done
  | .gone => .unknown

namespace Desk

variable {d e : Desk α} {ticket : Ticket} {kind : OperationKind}

/-! ### Steps -/

private theorem leave_spec (sound : Sound d) (ticket : Ticket) :
    (d.step (.leave ticket)).1 = (d.fate? ticket).elim .unknown farewell ∧
      Sound (d.step (.leave ticket)).2 ∧
      ∀ asked, (d.step (.leave ticket)).2.fate? asked =
        (d.fate? asked).map fun fate => if ticket = asked then .gone else fate := by
  refine ask_spec sound ticket (fun number hpresent => ?_) rfl rfl
  cases hfate : d.slots.fateOf number with
  | waiting => exact ⟨rfl, .inr ⟨rfl, rfl⟩⟩
  | told result => exact ⟨rfl, .inr ⟨rfl, rfl⟩⟩
  | gone => exact absurd hfate hpresent

private theorem poll_spec (sound : Sound d) (ticket : Ticket) :
    (d.step (.poll ticket)).1 = (d.fate? ticket).elim .unknown look ∧
      Sound (d.step (.poll ticket)).2 ∧
      ∀ asked, (d.step (.poll ticket)).2.fate? asked =
        (d.fate? asked).map fun fate => if ticket = asked then fate.looked else fate := by
  refine ask_spec sound ticket (fun number hpresent => ?_) rfl rfl
  rw [poll_eq]
  cases hfate : d.slots.fateOf number with
  | waiting => exact ⟨rfl, .inl ⟨rfl, rfl⟩⟩
  | told result => exact ⟨rfl, .inr ⟨rfl, rfl⟩⟩
  | gone => exact absurd hfate hpresent

private theorem expire_spec (sound : Sound d) (ticket : Ticket) :
    (d.step (.expire ticket)).1 = (d.fate? ticket).elim .unknown timeUp ∧
      Sound (d.step (.expire ticket)).2 ∧
      ∀ asked, (d.step (.expire ticket)).2.fate? asked =
        (d.fate? asked).map fun fate => if ticket = asked then .gone else fate := by
  refine ask_spec sound ticket (fun number hpresent => ?_) rfl rfl
  rw [expire_eq]
  cases hfate : d.slots.fateOf number with
  | waiting => exact ⟨rfl, .inr ⟨rfl, rfl⟩⟩
  | told result => exact ⟨rfl, .inr ⟨rfl, rfl⟩⟩
  | gone => exact absurd hfate hpresent

private theorem answer_resolve (d : Desk α) (kind : OperationKind) (result : Except LinkError α) :
    (d.step (.resolve kind result)).1 = .resolved (d.slots.isPending kind) := by
  simp only [step, resolve_fst]

private theorem step_of_ne_begin (sound : Sound d) {a : Action α}
    (other : ∀ kind, a ≠ .begin kind) :
    Sound (d.step a).2 ∧
      ∀ asked, (d.step a).2.fate? asked = (d.fate? asked).map (fateAfter asked · a) := by
  cases a with
  | begin kind => exact absurd rfl (other kind)
  | resolve kind result =>
    have hstep : (d.step (.resolve kind result)).2 =
        d.on (d.slots.give kind (.outcome result)) := by
      simp only [step, resolve_snd]
    rw [hstep]
    refine ⟨sound_give sound rfl kind, fun asked => ?_⟩
    rw [fate?_give sound rfl kind asked]
    congr 1
    funext fate
    by_cases hkind : asked.kind = kind
    · simp [fateAfter, Action.outcome?, hkind]
    · simp [fateAfter, Action.outcome?, hkind, Ne.symm hkind]
  | failAll error =>
    have hstep : (d.step (.failAll error)).2 = d.on (d.slots.failAll error) := rfl
    have hsettled :
        (Delivery.outcome (.error error) : Delivery α).fate = .told (.error error) := rfl
    obtain ⟨hsound, hfates⟩ := giveAll sound hsettled OperationKind.all
    rw [hstep, failAll_eq]
    refine ⟨hsound, fun asked => ?_⟩
    rw [hfates asked]
    simp [fateAfter, Action.outcome?, OperationKind.mem_all]
  | drop =>
    have hstep : (d.step .drop).2 = d.on d.slots.drop := rfl
    have hsettled : (Delivery.abandoned : Delivery α).fate = .told (.error .channelClosed) := rfl
    obtain ⟨hsound, hfates⟩ := giveAll sound hsettled OperationKind.all
    rw [hstep, drop_eq]
    refine ⟨hsound, fun asked => ?_⟩
    rw [hfates asked]
    simp [fateAfter, Action.outcome?, OperationKind.mem_all]
  | leave ticket => exact (leave_spec sound ticket).2
  | poll ticket => exact (poll_spec sound ticket).2
  | expire ticket => exact (expire_spec sound ticket).2

private theorem sound_step (sound : Sound d) (a : Action α) : Sound (d.step a).2 := by
  by_cases h : ∃ kind, a = .begin kind
  · obtain ⟨kind, rfl⟩ := h
    rw [step_begin]
    cases hpending : d.slots.isPending kind with
    | true => exact sound
    | false => exact sound_registered sound hpending
  · exact (step_of_ne_begin sound fun kind hkind => h ⟨kind, hkind⟩).1

private theorem fate?_step_of_some (sound : Sound d) {fate : Fate α}
    (known : d.fate? ticket = some fate)
    (a : Action α) : (d.step a).2.fate? ticket = some (fateAfter ticket fate a) := by
  by_cases h : ∃ kind, a = .begin kind
  · obtain ⟨kind, rfl⟩ := h
    rw [step_begin]
    cases hpending : d.slots.isPending kind with
    | true => exact known
    | false =>
      have hne : ticket ≠ d.fresh kind := by
        intro hfresh
        rw [hfresh, fate?, number?_fresh] at known
        cases known
      exact (fate?_registered sound kind ticket).trans ((if_neg hne).trans known)
  · rw [(step_of_ne_begin sound fun kind hkind => h ⟨kind, hkind⟩).2 ticket, known]
    rfl

private theorem fate?_step_of_none (sound : Sound d) (unknown : d.fate? ticket = none)
    (a : Action α) :
    (d.step a).2.fate? ticket = none ∨
      a = .begin ticket.kind ∧ (d.step a).1 = .begun (.ok ticket) := by
  by_cases h : ∃ kind, a = .begin kind
  · obtain ⟨kind, rfl⟩ := h
    rw [step_begin]
    cases hpending : d.slots.isPending kind with
    | true => exact .inl unknown
    | false =>
      by_cases hfresh : ticket = d.fresh kind
      · subst hfresh
        exact .inr ⟨rfl, rfl⟩
      · exact .inl ((fate?_registered sound kind ticket).trans ((if_neg hfresh).trans unknown))
  · left
    rw [(step_of_ne_begin sound fun kind hkind => h ⟨kind, hkind⟩).2 ticket, unknown]
    rfl

private theorem fate?_of_begun (sound : Sound d)
    (begun : (d.step (.begin kind)).1 = .begun (.ok ticket)) :
    ticket = d.fresh kind ∧ d.slots.isPending kind = false ∧
      (d.step (.begin kind)).2.fate? ticket = some .waiting := by
  rw [step_begin] at begun ⊢
  cases hpending : d.slots.isPending kind with
  | true => simp [hpending] at begun
  | false =>
    have hticket : d.fresh kind = ticket := by simpa [hpending] using begun
    exact ⟨hticket.symm, rfl, (fate?_registered sound kind ticket).trans (if_pos hticket.symm)⟩

end Desk

/-! ### Histories -/

def after (actions : List (Action α)) : Desk α :=
  actions.foldl (fun d a => (d.step a).2) Desk.empty

def answer (actions : List (Action α)) (a : Action α) : Answer α :=
  ((after actions).step a).1

/-- A history registers a ticket, and this much of it lies behind the registration. -/
def Registered (ticket : Ticket) (actions behind : List (Action α)) : Prop :=
  ∃ before, actions = before ++ .begin ticket.kind :: behind ∧
    answer before (.begin ticket.kind) = .begun (.ok ticket)

def verdict? (kind : OperationKind) (behind : List (Action α)) : Option (Except LinkError α) :=
  behind.findSome? (Action.outcome? kind)

/-- The owner has dropped its waiter, has waited until its time was over, or has looked when a
result was there. -/
def HasLeft (ticket : Ticket) (behind : List (Action α)) : Prop :=
  .leave ticket ∈ behind ∨ .expire ticket ∈ behind ∨
    ∃ earlier later, behind = earlier ++ .poll ticket :: later ∧
      (verdict? ticket.kind earlier).isSome

/-- A live waiter to which no result has come. -/
def Waits (ticket : Ticket) (actions : List (Action α)) : Prop :=
  ∃ behind, Registered ticket actions behind ∧ ¬ HasLeft ticket behind ∧
    verdict? ticket.kind behind = none

variable {ticket : Ticket} {kind : OperationKind} {actions behind : List (Action α)}

private theorem after_snoc (actions : List (Action α)) (a : Action α) :
    after (actions ++ [a]) = ((after actions).step a).2 := by
  simp [after]

private theorem sound_after (actions : List (Action α)) : (after actions).Sound := by
  induction actions using List.reverseRecOn with
  | nil => exact Desk.sound_empty
  | append_singleton actions a ih =>
    rw [after_snoc]
    exact Desk.sound_step ih a

private theorem verdict?_snoc (kind : OperationKind) (behind : List (Action α)) (a : Action α) :
    verdict? kind (behind ++ [a]) = (verdict? kind behind).or (a.outcome? kind) := by
  simp [verdict?, List.findSome?_append]

/-- An action with which a waiter leaves that has this result. -/
private def Parting (ticket : Ticket) (result : Option (Except LinkError α)) (a : Action α) :
    Prop :=
  a = .leave ticket ∨ a = .expire ticket ∨ a = .poll ticket ∧ result.isSome

private theorem hasLeft_snoc (ticket : Ticket) (behind : List (Action α)) (a : Action α) :
    HasLeft ticket (behind ++ [a]) ↔
      HasLeft ticket behind ∨ Parting ticket (verdict? ticket.kind behind) a := by
  constructor
  · rintro (hmem | hmem | ⟨earlier, later, heq, hverdict⟩)
    · rcases List.mem_append.mp hmem with hold | hnew
      · exact .inl (.inl hold)
      · exact .inr (.inl (List.mem_singleton.mp hnew).symm)
    · rcases List.mem_append.mp hmem with hold | hnew
      · exact .inl (.inr (.inl hold))
      · exact .inr (.inr (.inl (List.mem_singleton.mp hnew).symm))
    · rcases List.eq_nil_or_concat later with rfl | ⟨later, last, rfl⟩
      · obtain ⟨rfl, hlast⟩ := List.append_inj' heq rfl
        exact .inr (.inr (.inr ⟨List.head_eq_of_cons_eq hlast, hverdict⟩))
      · have hassoc : behind ++ [a] = earlier ++ Action.poll ticket :: later ++ [last] := by
          simpa using heq
        obtain ⟨rfl, -⟩ := List.append_inj' hassoc rfl
        exact .inl (.inr (.inr ⟨earlier, later, rfl, hverdict⟩))
  · rintro ((hmem | hmem | ⟨earlier, later, rfl, hverdict⟩) | rfl | rfl | ⟨rfl, hverdict⟩)
    · exact .inl (List.mem_append_left _ hmem)
    · exact .inr (.inl (List.mem_append_left _ hmem))
    · exact .inr (.inr ⟨earlier, later ++ [a], by simp, hverdict⟩)
    · exact .inl (by simp)
    · exact .inr (.inl (by simp))
    · exact .inr (.inr ⟨behind, [], rfl, hverdict⟩)

private def fateBehind (ticket : Ticket) (behind : List (Action α)) : Fate α :=
  behind.foldl (fateAfter ticket) .waiting

private theorem fateBehind_snoc (ticket : Ticket) (behind : List (Action α)) (a : Action α) :
    fateBehind ticket (behind ++ [a]) = fateAfter ticket (fateBehind ticket behind) a := by
  simp [fateBehind]

private theorem fateAfter_gone (ticket : Ticket) (a : Action α) :
    fateAfter ticket .gone a = .gone := by
  cases a <;> simp only [fateAfter, Fate.looked, ite_self]
  all_goals cases Action.outcome? ticket.kind _ <;> rfl

private theorem fateAfter_of_parting {result : Option (Except LinkError α)} {a : Action α}
    (parting : Parting ticket result a) :
    fateAfter ticket (result.elim .waiting .told) a = .gone := by
  rcases parting with rfl | rfl | ⟨rfl, hresult⟩
  · exact if_pos rfl
  · exact if_pos rfl
  · obtain ⟨result, rfl⟩ := Option.isSome_iff_exists.mp hresult
    exact if_pos rfl

private theorem fateAfter_of_not_parting {result : Option (Except LinkError α)} {a : Action α}
    (stays : ¬ Parting ticket result a) :
    fateAfter ticket (result.elim .waiting .told) a =
      (result.or (a.outcome? ticket.kind)).elim .waiting .told := by
  have hearlier : ∀ outcome : Option (Except LinkError α),
      outcome.elim (result.elim .waiting .told) (result.elim .waiting .told : Fate α).deliver =
        (result.or outcome).elim .waiting .told := by
    intro outcome
    cases result <;> cases outcome <;> rfl
  cases a with
  | leave asked =>
    have hne : asked ≠ ticket := fun h => stays (.inl (h ▸ rfl))
    simp [fateAfter, Action.outcome?, hne]
  | expire asked =>
    have hne : asked ≠ ticket := fun h => stays (.inr (.inl (h ▸ rfl)))
    simp [fateAfter, Action.outcome?, hne]
  | poll asked =>
    by_cases hasked : asked = ticket
    · subst hasked
      cases result with
      | none => simp [fateAfter, Action.outcome?, Fate.looked]
      | some result => exact absurd (.inr (.inr ⟨rfl, rfl⟩)) stays
    · simp [fateAfter, Action.outcome?, hasked]
  | begin kind => exact hearlier none
  | resolve kind result => exact hearlier _
  | failAll error => exact hearlier (some (.error error))
  | drop => exact hearlier (some (.error .channelClosed))

private theorem fateBehind_spec (ticket : Ticket) (behind : List (Action α)) :
    (HasLeft ticket behind → fateBehind ticket behind = .gone) ∧
      (¬ HasLeft ticket behind →
        fateBehind ticket behind = (verdict? ticket.kind behind).elim .waiting .told) := by
  induction behind using List.reverseRecOn with
  | nil =>
    refine ⟨fun hleft => ?_, fun _ => rfl⟩
    simp [HasLeft] at hleft
  | append_singleton behind a ih =>
    rw [hasLeft_snoc, verdict?_snoc, fateBehind_snoc]
    by_cases hbefore : HasLeft ticket behind
    · refine ⟨fun _ => ?_, fun hstays => absurd (.inl hbefore) hstays⟩
      rw [ih.1 hbefore]
      exact fateAfter_gone ticket a
    · rw [ih.2 hbefore]
      constructor
      · intro hleft
        exact fateAfter_of_parting (hleft.resolve_left hbefore)
      · intro hstays
        exact fateAfter_of_not_parting fun hparting => hstays (.inr hparting)

private theorem fate?_of_registered (registered : Registered ticket actions behind) :
    (after actions).fate? ticket = some (fateBehind ticket behind) := by
  obtain ⟨before, rfl, hbegun⟩ := registered
  induction behind using List.reverseRecOn with
  | nil =>
    rw [after_snoc]
    exact (Desk.fate?_of_begun (sound_after before) hbegun).2.2
  | append_singleton behind a ih =>
    have hassoc : before ++ Action.begin ticket.kind :: (behind ++ [a]) =
        before ++ Action.begin ticket.kind :: behind ++ [a] := by simp
    rw [hassoc, after_snoc, fateBehind_snoc]
    exact Desk.fate?_step_of_some (sound_after _) ih a

private theorem exists_registered {fate : Fate α}
    (known : (after actions).fate? ticket = some fate) :
    ∃ behind, Registered ticket actions behind := by
  induction actions using List.reverseRecOn generalizing fate with
  | nil => simp [after, Desk.fate?, Desk.number?, Desk.empty] at known
  | append_singleton actions a ih =>
    cases hold : (after actions).fate? ticket with
    | some old =>
      obtain ⟨behind, before, rfl, hbegun⟩ := ih hold
      exact ⟨behind ++ [a], before, by simp, hbegun⟩
    | none =>
      rw [after_snoc] at known
      rcases Desk.fate?_step_of_none (sound_after actions) hold a with hnone | ⟨rfl, hbegun⟩
      · rw [hnone] at known
        cases known
      · exact ⟨[], actions, rfl, hbegun⟩

private theorem waits_iff :
    Waits ticket actions ↔ (after actions).fate? ticket = some .waiting := by
  constructor
  · rintro ⟨behind, hregistered, hstays, hverdict⟩
    rw [fate?_of_registered hregistered, (fateBehind_spec ticket behind).2 hstays, hverdict]
    rfl
  · intro hfate
    obtain ⟨behind, hregistered⟩ := exists_registered hfate
    have hwaiting : fateBehind ticket behind = .waiting :=
      Option.some.inj ((fate?_of_registered hregistered).symm.trans hfate)
    have hstays : ¬ HasLeft ticket behind := by
      intro hleft
      rw [(fateBehind_spec ticket behind).1 hleft] at hwaiting
      cases hwaiting
    refine ⟨behind, hregistered, hstays, ?_⟩
    rw [(fateBehind_spec ticket behind).2 hstays] at hwaiting
    cases hverdict : verdict? ticket.kind behind with
    | none => rfl
    | some result =>
      rw [hverdict] at hwaiting
      cases hwaiting

def Busy (kind : OperationKind) (actions : List (Action α)) : Prop :=
  ∃ ticket, ticket.kind = kind ∧ Waits ticket actions

private theorem isPending_iff_busy :
    (after actions).slots.isPending kind = true ↔ Busy kind actions := by
  rw [Desk.isPending_iff (sound_after actions)]
  constructor
  · rintro ⟨index, hfate⟩
    exact ⟨⟨kind, index⟩, rfl, waits_iff.mpr hfate⟩
  · rintro ⟨ticket, rfl, hwaits⟩
    exact ⟨ticket.index, waits_iff.mp hwaits⟩

/-! ### At most one outcome -/

def Desk.transcript : Desk α → List (Action α) → List (Action α × Answer α)
  | _, [] => []
  | d, a :: rest => (a, (d.step a).1) :: transcript (d.step a).2 rest

def finish? (ticket : Ticket) : Action α × Answer α → Option (Except LinkError α)
  | (.poll asked, .outcome result) => if asked = ticket then some result else none
  | (.expire asked, .outcome result) => if asked = ticket then some result else none
  | _ => none

private theorem Desk.gone_of_finish {d : Desk α} (sound : d.Sound) {a : Action α}
    {result : Except LinkError α} (finished : finish? ticket (a, (d.step a).1) = some result) :
    d.fate? ticket ≠ some .gone ∧ (d.step a).2.fate? ticket = some .gone := by
  cases a with
  | poll asked =>
    obtain ⟨hanswer, -, hfates⟩ := poll_spec sound asked
    rw [hanswer] at finished
    rw [hfates]
    cases hfate : d.fate? asked with
    | none => simp [hfate, finish?] at finished
    | some fate =>
      cases fate with
      | waiting => simp [hfate, look, finish?] at finished
      | gone => simp [hfate, look, finish?] at finished
      | told result =>
        obtain ⟨rfl, -⟩ : asked = ticket ∧ _ := by simpa [hfate, look, finish?] using finished
        simp [hfate, Fate.looked]
  | expire asked =>
    obtain ⟨hanswer, -, hfates⟩ := expire_spec sound asked
    rw [hanswer] at finished
    rw [hfates]
    cases hfate : d.fate? asked with
    | none => simp [hfate, finish?] at finished
    | some fate =>
      cases fate with
      | gone => simp [hfate, timeUp, finish?] at finished
      | waiting =>
        obtain ⟨rfl, -⟩ : asked = ticket ∧ _ := by simpa [hfate, timeUp, finish?] using finished
        simp [hfate]
      | told result =>
        obtain ⟨rfl, -⟩ : asked = ticket ∧ _ := by simpa [hfate, timeUp, finish?] using finished
        simp [hfate]
  | begin kind => simp [finish?] at finished
  | resolve kind result => simp [finish?] at finished
  | failAll error => simp [finish?] at finished
  | drop => simp [finish?] at finished
  | leave asked => simp [finish?] at finished

private theorem Desk.length_finish_le {d : Desk α} (sound : d.Sound) (actions : List (Action α)) :
    ((d.transcript actions).filterMap (finish? ticket)).length ≤ 1 ∧
      (d.fate? ticket = some .gone →
        (d.transcript actions).filterMap (finish? ticket) = []) := by
  induction actions generalizing d with
  | nil => simp [transcript]
  | cons a actions ih =>
    obtain ⟨hle, hgone⟩ := ih (sound_step sound a)
    cases hfinish : finish? ticket (a, (d.step a).1) with
    | none =>
      simp only [transcript, List.filterMap_cons, hfinish]
      refine ⟨hle, fun hfate => hgone ?_⟩
      rw [fate?_step_of_some sound hfate a, fateAfter_gone]
    | some result =>
      obtain ⟨hthere, hleft⟩ := gone_of_finish sound hfinish
      simp only [transcript, List.filterMap_cons, hfinish, hgone hleft]
      exact ⟨Nat.le_refl 1, fun hfate => absurd hfate hthere⟩

/-! ### Kinds do not meet -/

def Action.concerns (kind : OperationKind) : Action α → Bool
  | .begin k => k = kind
  | .resolve k _ => k = kind
  | .failAll _ => true
  | .drop => true
  | .leave ticket => ticket.kind = kind
  | .poll ticket => ticket.kind = kind
  | .expire ticket => ticket.kind = kind

private theorem fateAfter_of_unconcerned {fate : Fate α} {a : Action α}
    (unconcerned : a.concerns ticket.kind = false) : fateAfter ticket fate a = fate := by
  cases a with
  | begin k => rfl
  | resolve k result =>
    have hne : k ≠ ticket.kind := by simpa [Action.concerns] using unconcerned
    simp [fateAfter, Action.outcome?, hne]
  | failAll error => cases unconcerned
  | drop => cases unconcerned
  | leave asked =>
    have hne : asked ≠ ticket := by
      rintro rfl
      simp [Action.concerns] at unconcerned
    exact if_neg hne
  | poll asked =>
    have hne : asked ≠ ticket := by
      rintro rfl
      simp [Action.concerns] at unconcerned
    exact if_neg hne
  | expire asked =>
    have hne : asked ≠ ticket := by
      rintro rfl
      simp [Action.concerns] at unconcerned
    exact if_neg hne

namespace Desk

variable {d e : Desk α}

/-- The waiters of a kind have the same fates. -/
private def Agree (kind : OperationKind) (d e : Desk α) : Prop :=
  ∀ index, d.fate? ⟨kind, index⟩ = e.fate? ⟨kind, index⟩

private theorem fate?_eq_none_iff (d : Desk α) (kind : OperationKind) (index : Nat) :
    d.fate? ⟨kind, index⟩ = none ↔ (d.numbers kind).length ≤ index := by
  simp [fate?, number?]

private theorem Agree.fresh_eq (agree : Agree kind d e) : d.fresh kind = e.fresh kind := by
  have hlength : (d.numbers kind).length = (e.numbers kind).length := by
    have hd := (fate?_eq_none_iff d kind _).mpr (Nat.le_refl _)
    have he := (fate?_eq_none_iff e kind _).mpr (Nat.le_refl _)
    apply Nat.le_antisymm
    · exact (fate?_eq_none_iff d kind _).mp ((agree _).trans he)
    · exact (fate?_eq_none_iff e kind _).mp ((agree _).symm.trans hd)
  simp only [fresh, hlength]

private theorem Agree.isPending_eq (agree : Agree kind d e) (soundD : d.Sound) (soundE : e.Sound) :
    d.slots.isPending kind = e.slots.isPending kind := by
  rw [Bool.eq_iff_iff, isPending_iff soundD, isPending_iff soundE]
  simp only [agree _]

private theorem Agree.answer_eq (agree : Agree kind d e) (soundD : d.Sound) (soundE : e.Sound)
    {a : Action α} (concerned : a.concerns kind = true) (other : ∀ k, a ≠ .begin k) :
    (d.step a).1 = (e.step a).1 := by
  cases a with
  | begin k => exact absurd rfl (other k)
  | resolve k result =>
    obtain rfl : k = kind := by simpa [Action.concerns] using concerned
    rw [answer_resolve, answer_resolve, agree.isPending_eq soundD soundE]
  | failAll error => rfl
  | drop => rfl
  | leave ticket =>
    obtain rfl : ticket.kind = kind := by simpa [Action.concerns] using concerned
    rw [(leave_spec soundD ticket).1, (leave_spec soundE ticket).1, agree ticket.index]
  | poll ticket =>
    obtain rfl : ticket.kind = kind := by simpa [Action.concerns] using concerned
    rw [(poll_spec soundD ticket).1, (poll_spec soundE ticket).1, agree ticket.index]
  | expire ticket =>
    obtain rfl : ticket.kind = kind := by simpa [Action.concerns] using concerned
    rw [(expire_spec soundD ticket).1, (expire_spec soundE ticket).1, agree ticket.index]

private theorem Agree.of_unconcerned (agree : Agree kind d e) (sound : d.Sound) {a : Action α}
    (unconcerned : a.concerns kind = false) : Agree kind (d.step a).2 e := by
  intro index
  rw [← agree index]
  cases hfate : d.fate? ⟨kind, index⟩ with
  | some fate => rw [fate?_step_of_some sound hfate a, fateAfter_of_unconcerned unconcerned]
  | none =>
    rcases fate?_step_of_none sound hfate a with hnone | ⟨rfl, -⟩
    · exact hnone
    · simp [Action.concerns] at unconcerned

private theorem Agree.of_concerned (agree : Agree kind d e) (soundD : d.Sound) (soundE : e.Sound)
    {a : Action α} (concerned : a.concerns kind = true) :
    (d.step a).1 = (e.step a).1 ∧ Agree kind (d.step a).2 (e.step a).2 := by
  by_cases h : ∃ k, a = .begin k
  · obtain ⟨k, rfl⟩ := h
    obtain rfl : k = kind := by simpa [Action.concerns] using concerned
    rw [step_begin, step_begin, agree.isPending_eq soundD soundE, agree.fresh_eq]
    cases hpending : e.slots.isPending k with
    | true => exact ⟨rfl, agree⟩
    | false =>
      refine ⟨rfl, fun index => ?_⟩
      change (d.registered k).fate? _ = (e.registered k).fate? _
      rw [fate?_registered soundD, fate?_registered soundE, agree.fresh_eq, agree index]
  · have hother : ∀ k, a ≠ .begin k := fun k hk => h ⟨k, hk⟩
    constructor
    · exact agree.answer_eq soundD soundE concerned hother
    · intro index
      rw [(step_of_ne_begin soundD hother).2, (step_of_ne_begin soundE hother).2, agree index]

private theorem Agree.transcript (agree : Agree kind d e) (soundD : d.Sound) (soundE : e.Sound)
    (actions : List (Action α)) :
    (d.transcript actions).filter (fun entry => entry.1.concerns kind) =
      e.transcript (actions.filter (·.concerns kind)) := by
  induction actions generalizing d e with
  | nil => rfl
  | cons a actions ih =>
    cases hconcerns : a.concerns kind with
    | false =>
      have hagree := agree.of_unconcerned soundD hconcerns
      simp only [Desk.transcript, List.filter_cons, hconcerns]
      exact ih hagree (sound_step soundD a) soundE
    | true =>
      obtain ⟨hanswer, hagree⟩ := agree.of_concerned soundD soundE hconcerns
      simp only [Desk.transcript, List.filter_cons, hconcerns, if_true, hanswer]
      rw [ih hagree (sound_step soundD a) (sound_step soundE a)]

end Desk

private theorem agree_after (kind : OperationKind) (actions : List (Action α)) :
    Desk.Agree kind (after actions) (after (actions.filter (·.concerns kind))) := by
  induction actions using List.reverseRecOn with
  | nil => exact fun _ => rfl
  | append_singleton actions a ih =>
    rw [after_snoc, List.filter_append]
    cases hconcerns : a.concerns kind with
    | false =>
      have hfilter : [a].filter (·.concerns kind) = [] := by simp [hconcerns]
      rw [hfilter, List.append_nil]
      exact ih.of_unconcerned (sound_after actions) hconcerns
    | true =>
      have hfilter : [a].filter (·.concerns kind) = [a] := by simp [hconcerns]
      rw [hfilter, after_snoc]
      exact (ih.of_concerned (sound_after actions) (sound_after _) hconcerns).2

/-! ### The slots as a whole -/

private theorem waits_unique {other : Ticket} (waits : Waits ticket actions)
    (also : Waits other actions) (kinds : ticket.kind = other.kind) : ticket = other := by
  have hsound := sound_after actions
  obtain ⟨number, hnumber, hwaiting⟩ := Option.map_eq_some_iff.mp (waits_iff.mp waits)
  obtain ⟨number', hnumber', hwaiting'⟩ := Option.map_eq_some_iff.mp (waits_iff.mp also)
  have hholder := hsound.holds ticket number hnumber hwaiting
  have hholder' := hsound.holds other number' hnumber' hwaiting'
  have hsame : number = number' :=
    Option.some.inj (hholder.symm.trans ((congrArg _ kinds).trans hholder'))
  exact hsound.apart ticket other number hnumber (hsame ▸ hnumber')

private theorem begin_of_busy (busy : Busy kind actions) :
    answer actions (.begin kind) = .begun (.error (.operationInProgress kind)) ∧
      after (actions ++ [.begin kind]) = after actions := by
  rw [after_snoc, answer, Desk.step_begin, isPending_iff_busy.mpr busy]
  exact ⟨rfl, rfl⟩

private theorem begin_of_not_busy (free : ¬ Busy kind actions) :
    ∃ ticket, ticket.kind = kind ∧ answer actions (.begin kind) = .begun (.ok ticket) ∧
      ∀ behind, ¬ Registered ticket actions behind := by
  have hpending : (after actions).slots.isPending kind = false :=
    Bool.eq_false_iff.mpr (mt isPending_iff_busy.mp free)
  refine ⟨(after actions).fresh kind, rfl, ?_, fun behind hregistered => ?_⟩
  · rw [answer, Desk.step_begin, hpending]
    rfl
  · have hfate := fate?_of_registered hregistered
    rw [Desk.fate?, Desk.number?_fresh] at hfate
    cases hfate

private theorem isPending_of_timeout (registered : Registered ticket actions behind)
    (stays : ¬ HasLeft ticket behind) (unresolved : verdict? ticket.kind behind = none) :
    (after (actions ++ [.expire ticket])).slots.isPending ticket.kind = false := by
  refine Bool.eq_false_iff.mpr fun hpending => ?_
  obtain ⟨other, hkind, hwaits⟩ := isPending_iff_busy.mp hpending
  have hother := waits_iff.mp hwaits
  rw [after_snoc, (Desk.expire_spec (sound_after actions) ticket).2.2 other] at hother
  obtain ⟨fate, hfate, hwaiting⟩ := Option.map_eq_some_iff.mp hother
  by_cases hsame : ticket = other
  · rw [if_pos hsame] at hwaiting
    cases hwaiting
  · rw [if_neg hsame] at hwaiting
    have hbefore : Waits other actions := waits_iff.mpr (hwaiting ▸ hfate)
    exact hsame (waits_unique ⟨behind, registered, stays, unresolved⟩ hbefore hkind.symm)

/-- Over every history of the slots: a registration is refused exactly while a live waiter of the
kind waits, and then changes nothing; a resolution is answered `true` exactly when there is one, and
a slot is pending exactly then. A waiter that has not left finds the first result that went to its
kind behind its registration, whoever has registered since; its time being over it finds that result
or a timeout, and the slot is free. No waiter finishes twice. What is answered for one kind stays as
it is when all that is done for the other kinds is left out. -/
theorem waiters_finish_once (actions : List (Action α)) :
    (∀ kind,
      (Busy kind actions →
        answer actions (.begin kind) = .begun (.error (.operationInProgress kind)) ∧
          after (actions ++ [.begin kind]) = after actions) ∧
      (¬ Busy kind actions →
        ∃ ticket, ticket.kind = kind ∧ answer actions (.begin kind) = .begun (.ok ticket) ∧
          ∀ behind, ¬ Registered ticket actions behind) ∧
      (∀ result, answer actions (.resolve kind result) = .resolved true ↔ Busy kind actions) ∧
      ((after actions).slots.isPending kind = true ↔ Busy kind actions)) ∧
    (∀ ticket other, Waits ticket actions → Waits other actions → ticket.kind = other.kind →
      ticket = other) ∧
    (∀ ticket behind, Registered ticket actions behind →
      (HasLeft ticket behind →
        answer actions (.poll ticket) = .unknown ∧ answer actions (.expire ticket) = .unknown) ∧
      (¬ HasLeft ticket behind →
        answer actions (.poll ticket) = (verdict? ticket.kind behind).elim .pending .outcome ∧
        answer actions (.expire ticket) =
          .outcome ((verdict? ticket.kind behind).getD (.error .timeout)) ∧
        (verdict? ticket.kind behind = none →
          (after (actions ++ [.expire ticket])).slots.isPending ticket.kind = false))) ∧
    (∀ ticket, ((Desk.empty.transcript actions).filterMap (finish? ticket)).length ≤ 1) ∧
    (∀ kind,
      (Desk.empty.transcript actions).filter (fun entry => entry.1.concerns kind) =
        Desk.empty.transcript (actions.filter (·.concerns kind)) ∧
      (after actions).slots.isPending kind =
        (after (actions.filter (·.concerns kind))).slots.isPending kind) := by
  have hsound := sound_after actions
  refine ⟨fun kind => ⟨begin_of_busy, begin_of_not_busy, fun result => ?_, isPending_iff_busy⟩,
    fun ticket other => waits_unique, fun ticket behind hregistered => ?_, fun ticket => ?_,
    fun kind => ⟨?_, ?_⟩⟩
  · rw [answer, Desk.answer_resolve, ← isPending_iff_busy]
    simp
  · have hfate := fate?_of_registered hregistered
    have hpoll := (Desk.poll_spec hsound ticket).1
    have hexpire := (Desk.expire_spec hsound ticket).1
    rw [hfate] at hpoll hexpire
    refine ⟨fun hleft => ?_, fun hstays => ⟨?_, ?_, isPending_of_timeout hregistered hstays⟩⟩
    · rw [(fateBehind_spec ticket behind).1 hleft] at hpoll hexpire
      exact ⟨hpoll, hexpire⟩
    · rw [(fateBehind_spec ticket behind).2 hstays] at hpoll
      refine hpoll.trans ?_
      cases verdict? ticket.kind behind <;> rfl
    · rw [(fateBehind_spec ticket behind).2 hstays] at hexpire
      refine hexpire.trans ?_
      cases verdict? ticket.kind behind <;> rfl
  · exact (Desk.length_finish_le Desk.sound_empty actions).1
  · exact Desk.Agree.transcript (fun _ => rfl) Desk.sound_empty Desk.sound_empty actions
  · exact (agree_after kind actions).isPending_eq hsound (sound_after _)

/-- A waiter finds its own result although the next one of its kind is registered already. -/
example : answer [.begin .write, .resolve .write (.ok 7), .begin .write] (.poll ⟨.write, 0⟩) =
    .outcome (.ok 7) := rfl

end RadioLink.Slots
