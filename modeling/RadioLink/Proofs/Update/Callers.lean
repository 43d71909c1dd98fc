import Mathlib.Logic.Function.Basic
import RadioLink.Proofs.Update.Turns

/-!
Calls that overlap on one session. Each operation of the session is one step, and between two
operations of a call the others may take theirs. At most one call holds the session, and what it
shows is that call's. What an updater does is a sequence of such operations.
-/

set_option autoImplicit false
set_option relaxedAutoImplicit false

namespace RadioLink.Update

/-- Where a call to run an update stands. -/
inductive Call where
  | outside
  | going
  | settled (result : Except LinkError Unit)

def Call.holds : Call → Bool
  | .outside => false
  | .going | .settled _ => true

theorem Call.eq_outside {call : Call} (free : call.holds = false) : call = .outside := by
  cases call with
  | outside => rfl
  | going | settled => cases free

/-- A session, and those who call; a caller may call again and again. -/
structure Callers where
  session : Session
  calls : Nat → Call

namespace Callers

/-- An operation of a session, and the caller it is an operation of. -/
inductive Event where
  | begin (caller : Nat)
  | apply (caller : Nat) (change : Session.Change)
  | settle (caller : Nat) (message : String) (result : Except LinkError Unit)
  /-- The call ends, and returns its result. -/
  | leave (caller : Nat)
  /-- The call is dropped, wherever it stands. -/
  | giveUp (caller : Nat)
  | cancel

def initial : Callers := ⟨.initial, fun _ => .outside⟩

/-- The session as the caller leaves it, and where the caller stands then. -/
def move (c : Callers) (caller : Nat) (session : Session) (call : Call) : Callers :=
  ⟨session, Function.update c.calls caller call⟩

/-- One operation: what is left behind it, and the results that are returned. An operation that the
caller is not ready for does nothing. -/
def step (c : Callers) : Event → Callers × List (Nat × Except LinkError Unit)
  | .begin caller =>
    match c.calls caller, c.session.start with
    | .outside, .ok session => (c.move caller session .going, [])
    | .outside, .error error => (c, [(caller, .error error)])
    | _, _ => (c, [])
  | .apply caller change =>
    match c.calls caller with
    | .going => (c.move caller (c.session.apply change) .going, [])
    | _ => (c, [])
  | .settle caller message result =>
    match c.calls caller with
    | .going => (c.move caller (c.session.settle message result) (.settled result), [])
    | _ => (c, [])
  | .leave caller =>
    match c.calls caller with
    | .settled result => (c.move caller c.session.release .outside, [(caller, result)])
    | _ => (c, [])
  | .giveUp caller =>
    if (c.calls caller).holds then (c.move caller c.session.release .outside, []) else (c, [])
  | .cancel => (⟨c.session.cancel.2, c.calls⟩, [])

def after (events : List Event) : Callers × List (Nat × Except LinkError Unit) :=
  actEach step initial events

inductive Moves (c : Callers) : Event → Callers → List (Nat × Except LinkError Unit) → Prop
  | idle {event : Event} : Moves c event c []
  | refuse {caller : Nat} (outside : c.calls caller = .outside)
      (running : c.session.running = true) :
      Moves c (.begin caller) c [(caller, .error .updateInProgress)]
  | claim {caller : Nat} (outside : c.calls caller = .outside) (free : c.session.running = false) :
      Moves c (.begin caller) (c.move caller .claimed .going) []
  | apply {caller : Nat} (going : c.calls caller = .going) (change : Session.Change) :
      Moves c (.apply caller change) (c.move caller (c.session.apply change) .going) []
  | settle {caller : Nat} (going : c.calls caller = .going) (message : String)
      (result : Except LinkError Unit) :
      Moves c (.settle caller message result)
        (c.move caller (c.session.settle message result) (.settled result)) []
  | leave {caller : Nat} {result : Except LinkError Unit}
      (settled : c.calls caller = .settled result) :
      Moves c (.leave caller) (c.move caller c.session.release .outside) [(caller, result)]
  | giveUp {caller : Nat} (holds : (c.calls caller).holds = true) :
      Moves c (.giveUp caller) (c.move caller c.session.release .outside) []
  | cancel : Moves c .cancel ⟨c.session.cancel.2, c.calls⟩ []

variable {c next : Callers} {event : Event} {returned : List (Nat × Except LinkError Unit)}
  {caller : Nat}

theorem step_refused (outside : c.calls caller = .outside) (running : c.session.running = true) :
    c.step (.begin caller) = (c, [(caller, .error .updateInProgress)]) := by
  rw [step, outside, Session.start_of_running running]

theorem step_claimed (outside : c.calls caller = .outside) (free : c.session.running = false) :
    c.step (.begin caller) = (c.move caller .claimed .going, []) := by
  rw [step, outside, Session.start_of_idle free]

theorem moves_step (c : Callers) (event : Event) :
    Moves c event (c.step event).1 (c.step event).2 := by
  cases event with
  | begin caller =>
    cases hcall : c.calls caller with
    | outside =>
      cases hrunning : c.session.running with
      | true => exact step_refused hcall hrunning ▸ .refuse hcall hrunning
      | false => exact step_claimed hcall hrunning ▸ .claim hcall hrunning
    | going | settled =>
      rw [step, hcall]
      exact .idle
  | apply caller change =>
    rw [step]
    cases hcall : c.calls caller with
    | going => exact .apply hcall change
    | outside | settled => exact .idle
  | settle caller message result =>
    rw [step]
    cases hcall : c.calls caller with
    | going => exact .settle hcall message result
    | outside | settled => exact .idle
  | leave caller =>
    rw [step]
    cases hcall : c.calls caller with
    | settled result => exact .leave hcall
    | outside | going => exact .idle
  | giveUp caller =>
    rw [step]
    split_ifs with hholds
    · exact .giveUp hholds
    · exact .idle
  | cancel => exact .cancel

/-! ### Who holds the session -/

/-- The session is free and nobody holds it, or exactly one call holds it, and if that call has
settled its result is shown. -/
inductive Sound (c : Callers) : Prop
  | free (idle : c.session.running = false) (nobody : ∀ other, c.calls other = .outside)
  | held (holder : Nat) (running : c.session.running = true)
      (holds : (c.calls holder).holds = true)
      (only : ∀ other, other ≠ holder → c.calls other = .outside)
      (shown : ∀ result, c.calls holder = .settled result → c.session.Shows result)

namespace Sound

theorem eq_outside (h : c.Sound) (idle : c.session.running = false) (other : Nat) :
    c.calls other = .outside := by
  cases h with
  | free _ nobody => exact nobody other
  | held _ running =>
    rw [idle] at running
    cases running

theorem of_holds (h : c.Sound) (holds : (c.calls caller).holds = true) :
    c.session.running = true ∧ (∀ other, other ≠ caller → c.calls other = .outside) ∧
      ∀ result, c.calls caller = .settled result → c.session.Shows result := by
  cases h with
  | free _ nobody =>
    rw [nobody] at holds
    cases holds
  | held holder running _ only shown =>
    obtain rfl : caller = holder := by
      by_contra hne
      rw [only caller hne] at holds
      cases holds
    exact ⟨running, only, shown⟩

theorem running_iff (h : c.Sound) :
    c.session.running = true ↔ ∃ other, (c.calls other).holds = true := by
  constructor
  · intro running
    cases h with
    | free idle =>
      rw [running] at idle
      cases idle
    | held holder _ holds => exact ⟨holder, holds⟩
  · rintro ⟨other, holds⟩
    exact (h.of_holds holds).1

private theorem keep {session : Session} {call : Call} (h : c.Sound)
    (holds : (c.calls caller).holds = true) (holds' : call.holds = true)
    (running : session.running = c.session.running)
    (shown : ∀ result, call = .settled result → session.Shows result) :
    (c.move caller session call).Sound := by
  obtain ⟨hrunning, only, -⟩ := h.of_holds holds
  have hself : (c.move caller session call).calls caller = call := Function.update_self ..
  refine .held caller (running.trans hrunning) (by rwa [hself]) (fun other hne => ?_) ?_
  · exact (Function.update_of_ne hne _ _).trans (only other hne)
  · rwa [hself]

theorem letGo (h : c.Sound) (holds : (c.calls caller).holds = true) :
    (c.move caller c.session.release .outside).Sound := by
  obtain ⟨-, only, -⟩ := h.of_holds holds
  refine .free rfl fun other => ?_
  by_cases hne : other = caller
  · rw [hne]
    exact Function.update_self ..
  · exact (Function.update_of_ne hne _ _).trans (only other hne)

end Sound

private theorem sound_initial : initial.Sound := .free rfl fun _ => rfl

private theorem sound_of_moves (h : c.Sound) (move : Moves c event next returned) : next.Sound := by
  cases move with
  | idle | refuse => exact h
  | @claim caller outside free =>
    -- Nobody held the session, so the caller is the only one that holds it now.
    have hself : (c.move caller .claimed .going).calls caller = .going := Function.update_self ..
    refine .held caller rfl (by rw [hself]; rfl) (fun other hne => ?_) (by simp [hself])
    exact (Function.update_of_ne hne _ _).trans (h.eq_outside free other)
  | apply going =>
    exact h.keep (by rw [going]; rfl) rfl (Session.apply_running _ _) nofun
  | settle going message result =>
    refine h.keep (by rw [going]; rfl) rfl (Session.settle_running _ _ _) ?_
    rintro _ ⟨⟩
    exact Session.settle_shows _ message result
  | leave settled => exact h.letGo (by rw [settled]; rfl)
  | giveUp holds => exact h.letGo holds
  | cancel =>
    cases h with
    | free idle nobody => exact .free ((Session.cancel_running _).trans idle) nobody
    | held holder running holds only shown =>
      refine .held holder ((Session.cancel_running _).trans running) holds only ?_
      exact fun result settled => (shown result settled).of_status (Session.cancel_status _)

theorem sound_after (events : List Event) : (after events).1.Sound := by
  induction events using List.reverseRecOn with
  | nil => exact sound_initial
  | append_singleton events event ih =>
    rw [after, actEach_snoc]
    exact sound_of_moves ih (moves_step _ event)

private theorem unrequested_of_moves (move : Moves c event next returned)
    (unrequested : c.session.cancelRequested = false) (unasked : event ≠ .cancel) :
    next.session.cancelRequested = false := by
  cases move with
  | idle | refuse | leave | giveUp => exact unrequested
  | claim => rfl
  | apply => exact (Session.apply_cancelRequested _ _).trans unrequested
  | settle => exact (Session.settle_cancelRequested _ _ _).trans unrequested
  | cancel => exact absurd rfl unasked

theorem unrequested_run (unrequested : c.session.cancelRequested = false) (events : List Event)
    (unasked : .cancel ∉ events) : (actEach step c events).1.session.cancelRequested = false := by
  induction events using List.reverseRecOn with
  | nil => exact unrequested
  | append_singleton events event ih =>
    rw [List.mem_append, not_or, List.mem_singleton] at unasked
    rw [actEach_snoc]
    exact unrequested_of_moves (moves_step _ event) (ih unasked.1) (Ne.symm unasked.2)

end Callers

end RadioLink.Update
