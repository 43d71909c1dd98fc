import RadioLink.Proofs.Update.Callers

/-!
One run at a time. Whatever the callers of an updater do, a call is refused exactly while a run is
under way, and then it changes nothing; a run that is granted goes as it would on an updater that
nobody has used, and what it returns is what the status shows.
-/

set_option autoImplicit false
set_option relaxedAutoImplicit false

namespace RadioLink.Update

/-! ### Calls on a session -/

/-- What the next operation finds, whatever has been called so far. -/
structure Callers.Orderly (c : Callers) : Prop where
  /-- At most one call holds the session. -/
  one : ∀ first second, (c.calls first).holds = true → (c.calls second).holds = true →
    first = second
  /-- While it is held, another call is refused, and everything stays as it is. -/
  refused : ∀ holder caller, (c.calls holder).holds = true → c.calls caller = .outside →
    c.step (.begin caller) = (c, [(caller, .error .updateInProgress)])
  /-- While it is not, a call claims it; nothing is left of the status and of requests to stop. -/
  claimed : ∀ caller, (∀ other, (c.calls other).holds = false) →
    c.step (.begin caller) =
      (⟨⟨⟨.waitingForConnection, .nothing, "Connecting...", none⟩, true, false⟩,
        Function.update c.calls caller .going⟩, [])
  /-- Unless somebody cancels behind the claim, there is no request to stop. -/
  unasked : ∀ caller events, (∀ other, (c.calls other).holds = false) → .cancel ∉ events →
    (actEach step c (.begin caller :: events)).1.session.cancelRequested = false
  /-- Who returns a result was refused, or has shown it and leaves the session free. -/
  returned : ∀ event caller result, (caller, result) ∈ (c.step event).2 →
    (result = .error .updateInProgress ∧ (c.step event).1 = c ∧
      ∃ holder, (c.calls holder).holds = true) ∨
    (c.calls caller = .settled result ∧ (c.step event).1.session.Shows result ∧
      ∀ other, ((c.step event).1.calls other).holds = false)

namespace Callers

variable {c : Callers}

private theorem Sound.idle_of_nobody (h : c.Sound)
    (nobody : ∀ other, (c.calls other).holds = false) : c.session.running = false := by
  rw [Bool.eq_false_iff, ne_eq, h.running_iff]
  rintro ⟨other, holds⟩
  rw [nobody other] at holds
  cases holds

private theorem Sound.orderly (h : c.Sound) : c.Orderly where
  one first second holds holds' := by
    obtain ⟨-, only, -⟩ := h.of_holds holds'
    by_contra hne
    rw [only first hne] at holds
    cases holds
  refused holder caller holds outside := step_refused outside (h.of_holds holds).1
  claimed caller nobody := step_claimed (Call.eq_outside (nobody caller)) (h.idle_of_nobody nobody)
  unasked caller events nobody unasked := by
    have hbegun : (c.step (.begin caller)).1.session.cancelRequested = false := by
      rw [step_claimed (Call.eq_outside (nobody caller)) (h.idle_of_nobody nobody)]
      rfl
    exact unrequested_run hbegun events unasked
  returned event caller result returned := by
    have hmove := moves_step c event
    generalize c.step event = stepped at hmove returned ⊢
    obtain ⟨next, results⟩ := stepped
    cases hmove with
    | idle | claim | apply | settle | giveUp | cancel => cases returned
    | refuse outside running =>
      obtain ⟨rfl, rfl⟩ := Prod.mk.inj (List.mem_singleton.mp returned)
      exact .inl ⟨rfl, rfl, h.running_iff.mp running⟩
    | leave settled =>
      obtain ⟨rfl, rfl⟩ := Prod.mk.inj (List.mem_singleton.mp returned)
      obtain ⟨-, -, shown⟩ := h.of_holds (by rw [settled]; rfl)
      refine .inr ⟨settled, (shown _ settled).of_status rfl, fun other => ?_⟩
      have hfree := (h.letGo (by rw [settled]; rfl)).eq_outside rfl other
      exact congrArg Call.holds hfree

private def alone (session : Session) (call : Call) : Callers :=
  ⟨session, Function.update (fun _ => .outside) 0 call⟩

private theorem alone_session (session : Session) (call : Call) :
    (alone session call).session = session :=
  rfl

private theorem alone_calls (session : Session) (call : Call) :
    (alone session call).calls 0 = call := by
  simp only [alone, Function.update_self]

private theorem alone_others (session : Session) (call : Call) :
    (alone session call).calls 1 = .outside := by
  simp only [alone, Function.update_of_ne Nat.one_ne_zero]

private theorem alone_move (session session' : Session) (call call' : Call) :
    (alone session call).move 0 session' call' = alone session' call' := by
  rw [move, alone, alone, Function.update_idem]

private theorem alone_changes (session : Session) (changes : List Session.Change) :
    actEach step (alone session .going) (changes.map (.apply 0)) =
      (alone (changes.foldl Session.apply session) .going, []) := by
  induction changes generalizing session with
  | nil => rfl
  | cons change changes ih =>
    have hstep : (alone session .going).step (.apply 0 change) =
        (alone (session.apply change) .going, []) := by
      simp only [step, alone_calls, alone_session, alone_move]
    simp only [List.map_cons, actEach, hstep, List.foldl_cons, ih, List.append_nil]

private theorem alone_settles (session : Session) (message : String)
    (result : Except LinkError Unit) :
    actEach step (alone session .going) [.settle 0 message result, .leave 0] =
      (alone (session.settle message result).release .outside, [(0, result)]) := by
  simp only [actEach, step, alone_calls, alone_session, alone_move, List.append_nil,
    List.nil_append]

private theorem alone_claims {session : Session} (idle : session.running = false) :
    (alone session .outside).step (.begin 0) = (alone .claimed .going, []) := by
  rw [step_claimed (alone_calls _ _) idle, alone_move]

end Callers

/-- A run that is under way is a call that has not settled. -/
private def Call.ofRun : Bool → Call
  | true => .going
  | false => .outside

/-- A turn is some operations of a session, one behind the other. -/
private theorem Turn.exists_events {s s' : Session} {ask : Ask} {held held' : Bool}
    {results : List (Except LinkError Unit)} (turn : Turn s ask held s' held' results)
    (known : s.running = held) :
    ∃ events returned, actEach Callers.step (.alone s (.ofRun held)) events =
      (.alone s' (.ofRun held'), returned) ∧ returned.map Prod.snd = results := by
  cases turn with
  | refuse running =>
    refine ⟨[.begin 1], [(1, .error .updateInProgress)], ?_, rfl⟩
    rw [actEach, Callers.step_refused (Callers.alone_others s _) running]
    rfl
  | claim idle =>
    obtain rfl : false = held := idle.symm.trans known
    refine ⟨[.begin 0], [], ?_, rfl⟩
    simp only [actEach, Call.ofRun, Callers.alone_claims idle]
    rfl
  | reject idle message error =>
    obtain rfl : false = held := idle.symm.trans known
    refine ⟨[.begin 0, .settle 0 message (.error error), .leave 0], [(0, .error error)], ?_, rfl⟩
    simp only [Call.ofRun]
    rw [actEach, Callers.alone_claims idle]
    simp only [Callers.alone_settles, List.nil_append]
  | cancel => exact ⟨[.cancel], [], rfl, rfl⟩
  | drop =>
    refine ⟨[.giveUp 0], [], ?_, rfl⟩
    simp only [actEach, Callers.step, Call.ofRun, Callers.alone_calls, Callers.alone_move]
    rfl
  | absent | keep => exact ⟨[], [], rfl, rfl⟩
  | apply inner changes =>
    exact ⟨changes.map (.apply 0), [], Callers.alone_changes s changes, rfl⟩
  | settle inner message result =>
    exact ⟨_, [(0, result)], Callers.alone_settles s message result, rfl⟩

/-! ### Calls of an updater -/

namespace Turn

variable {s s' : Session} {held held' : Bool} {results : List (Except LinkError Unit)}

private theorem unrequested_of_start (turn : Turn s .start held s' held' results)
    (idle : s.running = false) : s'.cancelRequested = false := by
  cases turn with
  | refuse running =>
    rw [idle] at running
    cases running
  | claim | reject => rfl
  | keep inner | apply inner | settle inner => cases inner

private theorem refused (turn : Turn s .start held s' held' results) (running : s.running = true) :
    results = [.error .updateInProgress] := by
  cases turn with
  | refuse => rfl
  | claim idle | reject idle =>
    rw [running] at idle
    cases idle
  | keep inner | apply inner | settle inner => cases inner

private theorem granted (turn : Turn s .start held s' held' results) (idle : s.running = false) :
    (s' = .claimed ∧ held' = true ∧ results = []) ∨
      ∃ message error, s' = (Session.claimed.settle message (.error error)).release ∧
        held' = false ∧ results = [.error error] := by
  cases turn with
  | refuse running =>
    rw [idle] at running
    cases running
  | claim => exact .inl ⟨rfl, rfl, rfl⟩
  | reject _ message error => exact .inr ⟨message, error, rfl, rfl, rfl⟩
  | keep inner | apply inner | settle inner => cases inner

end Turn

namespace Interface

variable {σ α ω : Type} {m : Interface σ α ω}

/-- What the next action finds, whatever the callers of an updater have done so far. -/
structure Orderly (m : Interface σ α ω) : Prop where
  /-- The session knows whether a run is under way. -/
  known : ∀ actions, let u := (m.after actions).1
    (m.session u).running = m.isRunning u
  /-- While a run is under way, another call is refused, and the updater stays as it is. -/
  refused : ∀ actions start, m.ask start = .start → let u := (m.after actions).1
    m.isRunning u = true →
      (m.step u start).1 = u ∧ (m.step u start).2.filterMap m.result? = [.error .updateInProgress]
  /-- While none is, a call claims the session; an image that cannot be sent fails at once. -/
  granted : ∀ actions start, m.ask start = .start → let u := (m.after actions).1
    m.isRunning u = false → let next := (m.step u start).1
      let results := (m.step u start).2.filterMap m.result?
      (results = [] ∧ m.isRunning next = true ∧
        m.session next =
          ⟨⟨.waitingForConnection, .nothing, "Connecting...", none⟩, true, false⟩) ∨
      ∃ error, results = [.error error] ∧ m.isRunning next = false ∧
        m.session next = ⟨⟨.failed, .nothing, error.message, none⟩, false, false⟩
  /-- A run goes as it would on an updater that nobody has used. -/
  afresh : ∀ actions start behind, m.ask start = .start → let u := (m.after actions).1
    m.isRunning u = false → actEach m.step u (start :: behind) = m.after (start :: behind)
  /-- Unless somebody cancels behind the claim, it makes no difference that runs look whether they
  were asked to stop. -/
  unasked : ∀ actions start behind, m.ask start = .start → let u := (m.after actions).1
    m.isRunning u = false → (∀ action ∈ behind, m.ask action ≠ .cancel) →
      actEach m.step u (start :: behind) =
        actEach m.step u (start :: behind.filter fun action => m.ask action != .notice)
  /-- A result is returned to a call that is refused, or by a run that has shown it and is over. -/
  returned : ∀ actions action, let u := (m.after actions).1
    ∀ result ∈ (m.step u action).2.filterMap m.result?,
      (m.ask action = .start ∧ m.isRunning u = true ∧ result = .error .updateInProgress) ∨
      ((m.session (m.step u action).1).Shows result ∧ m.isRunning (m.step u action).1 = false)
  /-- All that happens to the session are operations of overlapping calls. -/
  played : ∀ actions, let u := (m.after actions).1
    ∃ events, let played := Callers.after events
      played.1.session = m.session u ∧
      ((∃ caller, (played.1.calls caller).holds = true) ↔ m.isRunning u = true) ∧
      played.2.map Prod.snd = (m.after actions).2.filterMap m.result?

/-- What an updater has to do for that; its settings are what it keeps from run to run. -/
structure Lawful {ρ : Type} (m : Interface σ α ω) (settings : σ → ρ) : Prop where
  turns : m.TakesTurns
  unused : m.session m.initial = .initial ∧ m.isRunning m.initial = false
  keeps : ∀ u action, settings (m.step u action).1 = settings u
  refuses : ∀ u start, m.ask start = .start → (m.session u).running = true →
    (m.step u start).1 = u
  restarts : ∀ u start, m.ask start = .start → settings u = settings m.initial →
    (m.session u).running = false → m.isRunning u = false → m.step u start = m.step m.initial start
  unnoticed : ∀ u action, m.ask action = .notice → (m.session u).cancelRequested = false →
    m.step u action = (u, [])

theorem after_snoc (m : Interface σ α ω) (actions : List α) (action : α) :
    m.after (actions ++ [action]) = ((m.step (m.after actions).1 action).1,
      (m.after actions).2 ++ (m.step (m.after actions).1 action).2) :=
  actEach_snoc m.step m.initial actions action

namespace Lawful

variable {ρ : Type} {settings : σ → ρ}

theorem known (h : m.Lawful settings) (actions : List α) :
    (m.session (m.after actions).1).running = m.isRunning (m.after actions).1 := by
  induction actions using List.reverseRecOn with
  | nil =>
    obtain ⟨hsession, hrun⟩ := h.unused
    exact (congrArg Session.running hsession).trans hrun.symm
  | append_singleton actions action ih =>
    rw [after_snoc]
    exact (h.turns _ action).running_eq ih

private theorem settings_after (h : m.Lawful settings) (actions : List α) :
    settings (m.after actions).1 = settings m.initial := by
  induction actions using List.reverseRecOn with
  | nil => rfl
  | append_singleton actions action ih =>
    rw [after_snoc]
    exact (h.keeps _ action).trans ih

private theorem unasked (h : m.Lawful settings) {u : σ}
    (unrequested : (m.session u).cancelRequested = false)
    {actions : List α} (unasked : ∀ action ∈ actions, m.ask action ≠ .cancel) :
    actEach m.step u actions =
      actEach m.step u (actions.filter fun action => m.ask action != .notice) := by
  induction actions generalizing u with
  | nil => rfl
  | cons action actions ih =>
    rw [List.forall_mem_cons] at unasked
    by_cases hnotice : m.ask action = .notice
    · have hstep := h.unnoticed u action hnotice unrequested
      rw [List.filter_cons_of_neg (by simp [hnotice])]
      simp only [actEach, hstep, ih unrequested unasked.2, List.nil_append]
    · have hnext := (h.turns u action).unrequested unrequested unasked.1
      rw [List.filter_cons_of_pos (by simp [hnotice])]
      simp only [actEach, ih hnext unasked.2]

private theorem played (h : m.Lawful settings) (actions : List α) :
    ∃ events returned, Callers.after events =
        (.alone (m.session (m.after actions).1) (.ofRun (m.isRunning (m.after actions).1)),
          returned) ∧
      returned.map Prod.snd = (m.after actions).2.filterMap m.result? := by
  induction actions using List.reverseRecOn with
  | nil =>
    obtain ⟨hsession, hrun⟩ := h.unused
    refine ⟨[], [], ?_, rfl⟩
    simp only [Interface.after, actEach, hsession, hrun, Call.ofRun, Callers.alone,
      Function.update_eq_self]
    rfl
  | append_singleton actions action ih =>
    -- Between two turns nobody has settled: the run that is under way is a call that goes on.
    obtain ⟨events, returned, hevents, hreturned⟩ := ih
    obtain ⟨more, returned', hmore, hreturned'⟩ :=
      (h.turns (m.after actions).1 action).exists_events (h.known actions)
    refine ⟨events ++ more, returned ++ returned', ?_, ?_⟩
    · rw [Callers.after] at hevents ⊢
      rw [actEach_append, hevents, after_snoc, hmore]
    · rw [List.map_append, hreturned, hreturned', after_snoc, List.filterMap_append]

private theorem orderly (h : m.Lawful settings) : m.Orderly where
  known := h.known
  refused actions start starts running := by
    have hrunning := (h.known actions).trans running
    have hturn := h.turns (m.after actions).1 start
    rw [starts] at hturn
    exact ⟨h.refuses _ start starts hrunning, hturn.refused hrunning⟩
  granted actions start starts idle := by
    have hturn := h.turns (m.after actions).1 start
    rw [starts] at hturn
    rcases hturn.granted ((h.known actions).trans idle) with
      ⟨hsession, hrun, hresults⟩ | ⟨message, error, hsession, hrun, hresults⟩
    · exact .inl ⟨hresults, hrun, hsession⟩
    · exact .inr ⟨error, hresults, hrun, hsession⟩
  afresh actions start behind starts idle := by
    have hstep := h.restarts _ start starts (h.settings_after actions)
      ((h.known actions).trans idle) idle
    change _ = actEach m.step m.initial (start :: behind)
    rw [actEach_cons, actEach_cons, hstep]
  unasked actions start behind starts idle unasked := by
    have hturn := h.turns (m.after actions).1 start
    rw [starts] at hturn
    have hstarted := hturn.unrequested_of_start ((h.known actions).trans idle)
    rw [actEach_cons, actEach_cons, h.unasked hstarted unasked]
  returned actions action result returned := by
    have hturn := h.turns (m.after actions).1 action
    rcases hturn.shows_of_result returned with ⟨starts, running, hresult⟩ | shows
    · exact .inl ⟨starts, (h.known actions).symm.trans running, hresult⟩
    · exact .inr shows
  played actions := by
    obtain ⟨events, returned, hevents, hreturned⟩ := h.played actions
    refine ⟨events, ?_⟩
    have hsound := Callers.sound_after events
    simp only [hevents] at hsound ⊢
    refine ⟨rfl, ?_, hreturned⟩
    have hiff := hsound.running_iff
    rw [Callers.alone_session, h.known actions] at hiff
    exact hiff.symm

end Lawful

end Interface

namespace BleUpdater

private theorem settings_of_moves {u next : BleUpdater} {action : Action} {note : Option Note}
    {outputs : List Output} (move : Moves u action note next outputs) :
    next.settings = u.settings := by
  cases move <;> rfl

theorem lawful (settings : Config.BleUpdate) : (calls settings).Lawful (·.settings) where
  turns := takesTurns settings
  unused := ⟨rfl, rfl⟩
  keeps u action := settings_of_moves (moves_step u action)
  refuses u start starts running := by
    cases start with
    | start image => exact congrArg Prod.fst (step_refused running image)
    | _ => cases starts
  restarts u start starts same idle gone := by
    obtain ⟨kept, session, current⟩ := u
    obtain rfl : kept = settings := same
    obtain rfl : current = none := Option.isNone_iff_eq_none.mp (by simpa [calls] using gone)
    cases start with
    | start image =>
      have hstart : session.start = .ok .claimed := Session.start_of_idle idle
      simp only [calls, step, BleUpdater.start, hstart]
      rfl
    | _ => cases starts
  unnoticed u action notices unrequested := by
    cases action with
    | noticeCancel => exact step_unnoticed unrequested
    | _ => cases notices

end BleUpdater

namespace WifiUpdater

private theorem sendNext_settings (u : WifiUpdater) (run : WifiRun) (index sent : Nat)
    (rest : List Bytes) : (u.sendNext run index sent rest).1.settings = u.settings := by
  cases rest <;> rfl

theorem settings_of_moves {u next : WifiUpdater} {action : Action} {outputs : List Output}
    (move : Moves u action next outputs) : next.settings = u.settings := by
  cases move with
  | transfer | chunkWritten => exact sendNext_settings _ _ _ _ _
  | _ => rfl

theorem lawful (settings : Config.WifiUpdate) : (calls settings).Lawful (·.settings) where
  turns := takesTurns settings
  unused := ⟨rfl, rfl⟩
  keeps u action := settings_of_moves (moves_step u action)
  refuses u start starts running := by
    cases start with
    | start host image password =>
      exact congrArg Prod.fst (step_refused running host image password)
    | _ => cases starts
  restarts u start starts same idle gone := by
    obtain ⟨kept, session, current⟩ := u
    obtain rfl : kept = settings := same
    obtain rfl : current = none := Option.isNone_iff_eq_none.mp (by simpa [calls] using gone)
    cases start with
    | start host image password =>
      have hstart : session.start = .ok .claimed := Session.start_of_idle idle
      simp only [calls, step, WifiUpdater.start, hstart]
      rfl
    | _ => cases starts
  unnoticed u action notices unrequested := by
    cases action with
    | noticeCancel => exact step_unnoticed unrequested
    | _ => cases notices

end WifiUpdater

/-- Whatever calls overlap on a session, at most one of them holds it, the others are refused and
change nothing, a claim leaves nothing of the status and of earlier requests to stop, and what a
call returns is what it has shown. So it is with both updaters: a run that is granted goes as on an
updater that nobody has used, and only a request behind its claim can stop it. -/
theorem one_run_at_a_time (events : List Callers.Event) (ble : Config.BleUpdate)
    (wifi : Config.WifiUpdate) :
    (Callers.after events).1.Orderly ∧ (BleUpdater.calls ble).Orderly ∧
      (WifiUpdater.calls wifi).Orderly :=
  ⟨(Callers.sound_after events).orderly, (BleUpdater.lawful ble).orderly,
    (WifiUpdater.lawful wifi).orderly⟩

/-- A call behind a run that was asked to stop and given up is granted, the one that overlaps with
it is refused, and the third is granted again. -/
example : (Callers.after [.begin 0, .cancel, .giveUp 0, .begin 1, .begin 2, .settle 1 "Success!"
    (.ok ()), .leave 1, .begin 2]).2 = [(2, .error .updateInProgress), (1, .ok ())] :=
  rfl

end RadioLink.Update
