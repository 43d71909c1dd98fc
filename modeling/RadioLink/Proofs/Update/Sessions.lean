import Mathlib.Data.List.Basic
import RadioLink.Update.Status

/-!
What both updaters share: runs, as one action behind the other, and the session that a run claims.
-/

set_option autoImplicit false
set_option relaxedAutoImplicit false

namespace RadioLink.Update

section Runs

variable {σ α ω : Type}

def actEach (step : σ → α → σ × List ω) (u : σ) : List α → σ × List ω
  | [] => (u, [])
  | action :: actions =>
    let (u, seen) := step u action
    let (u, more) := actEach step u actions
    (u, seen ++ more)

theorem actEach_cons (step : σ → α → σ × List ω) (u : σ) (action : α) (actions : List α) :
    actEach step u (action :: actions) =
      ((actEach step (step u action).1 actions).1,
        (step u action).2 ++ (actEach step (step u action).1 actions).2) :=
  rfl

theorem actEach_append (step : σ → α → σ × List ω) (u : σ) (before behind : List α) :
    actEach step u (before ++ behind) =
      ((actEach step (actEach step u before).1 behind).1,
        (actEach step u before).2 ++ (actEach step (actEach step u before).1 behind).2) := by
  induction before generalizing u with
  | nil => rfl
  | cons action before ih => simp only [List.cons_append, actEach, ih, List.append_assoc]

theorem actEach_snoc (step : σ → α → σ × List ω) (u : σ) (actions : List α) (action : α) :
    actEach step u (actions ++ [action]) =
      ((step (actEach step u actions).1 action).1,
        (actEach step u actions).2 ++ (step (actEach step u actions).1 action).2) := by
  rw [actEach_append]
  simp only [actEach, List.append_nil]

variable {run : α} {current : Option α} {motive : α → Prop}

theorem forall_of_some (now : current = some run) (holds : motive run) :
    ∀ other, current = some other → motive other := by
  intro other hother
  obtain rfl : run = other := Option.some.inj (now.symm.trans hother)
  exact holds

theorem forall_of_none (gone : current = none) : ∀ other, current = some other → motive other := by
  intro other hother
  rw [gone] at hother
  cases hother

end Runs

namespace Session

variable {session : Session}

def claimed : Session := ⟨⟨.waitingForConnection, .nothing, "Connecting...", none⟩, true, false⟩

theorem start_of_idle (idle : session.running = false) : session.start = .ok claimed := by
  rw [start, if_neg (by simp [idle])]
  rfl

theorem start_of_running (running : session.running = true) :
    session.start = .error .updateInProgress := by
  rw [start, if_pos running]

theorem cancel_accepted_iff : session.cancel.1 = .ok () ↔ session.status.phase ≠ .transferring := by
  rw [cancel]
  by_cases hphase : session.status.phase = .transferring
  · rw [if_pos hphase]
    exact iff_of_false nofun (not_not_intro hphase)
  · rw [if_neg hphase]
    split_ifs
    · exact iff_of_true rfl hphase
    · exact iff_of_true rfl hphase

@[simp] theorem cancel_running (session : Session) :
    session.cancel.2.running = session.running := by
  rw [cancel]
  split_ifs <;> rfl

@[simp] theorem cancel_status (session : Session) : session.cancel.2.status = session.status := by
  rw [cancel]
  split_ifs <;> rfl

theorem cancel_keeps (requested : session.cancelRequested = true) :
    session.cancel.2.cancelRequested = true := by
  rw [cancel]
  split_ifs
  · exact requested
  · rfl
  · exact requested

theorem cancel_refused (refused : session.cancel.1 ≠ .ok ()) : session.cancel.2 = session := by
  have hphase : session.status.phase = .transferring :=
    not_not.mp (mt cancel_accepted_iff.mpr refused)
  rw [cancel, if_pos hphase]

theorem requested_of_accepted (running : session.running = true)
    (accepted : session.cancel.1 = .ok ()) : session.cancel.2.cancelRequested = true := by
  have hphase := cancel_accepted_iff.mp accepted
  rw [cancel, if_neg hphase, if_pos running]

end Session

end RadioLink.Update
