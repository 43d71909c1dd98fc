import RadioLink.Proofs.Update.BleOutcome

/-!
Stopping an update over Bluetooth. The request is taken down and nothing else, and the run goes on
until it notices it where it waits. A run that takes a report of its device before that may write
chunks once more, or end well.
-/

set_option autoImplicit false
set_option relaxedAutoImplicit false

namespace RadioLink.Update

def BleStage.waits : BleStage → Bool
  | .poweringOn | .seeking | .connecting _ | .findingService | .findingCharacteristics
  | .openingNotifications | .subscribing | .listening _ => true
  | _ => false

namespace BleUpdater

variable {image : Bytes} {actions : List Action} {u now next : BleUpdater} {run : BleRun}
  {action : Action} {note : Option Note} {outputs : List Output}

/-! ### What the session shows -/

/-- A run has claimed the session, and chunks are written in the phase that refuses to stop. -/
structure Shown (u : BleUpdater) : Prop where
  claims : ∀ run, u.run = some run → u.session.running = true
  sending : ∀ run, u.run = some run → ∀ transfer rest, run.stage = .sending transfer rest →
    u.session.status.phase = .transferring

private theorem Shown.go {run' : BleRun} (h : now.Shown) (was : now.run = some run)
    (held : next.session.running = now.session.running) (current : next.run = some run')
    (sending : ∀ transfer rest, run'.stage = .sending transfer rest →
      next.session.status.phase = .transferring) : next.Shown := by
  refine ⟨forall_of_some current ?_, forall_of_some current sending⟩
  rw [held]
  exact h.claims run was

theorem shown_of_moves (h : now.Shown) (move : Moves now action note next outputs) :
    next.Shown := by
  cases move with
  | idle | refuse => exact h
  | begin => exact ⟨fun _ _ => rfl, by rintro run ⟨⟩ transfer rest ⟨⟩⟩
  | reject | drop | fail | finish => exact ⟨forall_of_none rfl, forall_of_none rfl⟩
  | cancel =>
    refine ⟨fun run current => ?_, fun run current transfer rest hstage => ?_⟩
    · exact (Session.cancel_running now.session).trans (h.claims run current)
    · have hphase := h.sending run current transfer rest hstage
      exact (congrArg Status.phase (Session.cancel_status now.session)).trans hphase
  | scan _ current | seek _ current | stopScan current | connect _ current | connected _ current
    | discover current | openNotifications current | subscribe _ current | invite _ current
    | invited _ current | sent _ current | complete current | lose current | disconnect _ current =>
    exact h.go current rfl rfl nofun
  | hear session current stage heard quiet shown =>
    have hrunning : session.running = now.session.running := by
      rcases shown with rfl | rfl | rfl <;> rfl
    exact h.go current hrunning rfl nofun
  | serve current => exact h.go current rfl rfl fun _ _ _ => rfl
  | send _ current stage =>
    have hphase := h.sending _ current _ _ stage
    exact h.go current rfl rfl fun _ _ _ => hphase

private theorem requested_of_moves (h : now.session.cancelRequested = true)
    (move : Moves now action note next outputs) (once : ∀ other, action ≠ .start other) :
    next.session.cancelRequested = true := by
  cases move with
  | begin | reject => exact absurd rfl (once _)
  | cancel => exact Session.cancel_keeps h
  | hear session current stage heard quiet shown => rcases shown with rfl | rfl | rfl <;> exact h
  | @finish run result => cases result <;> exact h
  | _ => exact h

private theorem shown_run (h : u.Shown) (actions : List Action) : (u.runEach actions).1.Shown := by
  induction actions generalizing u with
  | nil => exact h
  | cons action actions ih => exact ih (shown_of_moves h (moves_step u action))

theorem requested_run (h : u.session.cancelRequested = true) (actions : List Action)
    (once : ∀ other, .start other ∉ actions) :
    (u.runEach actions).1.session.cancelRequested = true := by
  induction actions generalizing u with
  | nil => exact h
  | cons action actions ih =>
    have hstep := requested_of_moves h (moves_step u action) fun other heq =>
      once other (heq ▸ List.mem_cons_self ..)
    exact ih hstep fun other mem => once other (List.mem_cons_of_mem _ mem)

theorem shown_begun (idle : u.session.running = false) (nonempty : image ≠ [])
    (actions : List Action) : (u.runEach (.start image :: actions)).1.Shown := by
  rw [runEach_cons, step_start idle nonempty]
  exact shown_run ⟨fun _ _ => rfl, by rintro run ⟨⟩ transfer rest ⟨⟩⟩ actions

/-! ### Behind the request -/

def IsQuiet (u : BleUpdater) : Prop :=
  ∀ run, u.run = some run → ∀ transfer rest, run.stage ≠ .sending transfer rest

theorem quiet_of_accepted (shown : u.Shown) (accepted : u.session.cancel.1 = .ok ()) :
    u.IsQuiet := by
  intro run current transfer rest hstage
  exact Session.cancel_accepted_iff.mp accepted (shown.sending run current transfer rest hstage)

private theorem quiet_of_moves (h : now.IsQuiet) (move : Moves now action note next outputs)
    (once : ∀ other, action ≠ .start other)
    (unasked : ∀ state, note = some (.heard state) → state.asks = false) :
    next.IsQuiet ∧ (written outputs = [] ∨ ∃ run, now.run = some run ∧ run.stage = .subscribing ∧
      written outputs = [invitation run.image]) := by
  cases move with
  | idle | cancel => exact ⟨h, .inl rfl⟩
  | refuse | begin | reject => exact absurd rfl (once _)
  | drop => exact ⟨forall_of_none rfl, .inl (by split_ifs <;> rfl)⟩
  | finish => exact ⟨forall_of_none rfl, .inl rfl⟩
  | fail current fails =>
    refine ⟨forall_of_none rfl, .inl ?_⟩
    cases fails <;> rfl
  | scan | seek | stopScan | connect | connected | discover | openNotifications | subscribe
    | invited | sent | hear | disconnect => exact ⟨forall_of_some rfl (by rintro _ _ ⟨⟩), .inl rfl⟩
  | invite yielded current stage =>
    exact ⟨forall_of_some rfl (by rintro _ _ ⟨⟩), .inr ⟨_, current, stage, rfl⟩⟩
  | complete => exact ⟨forall_of_some rfl (by rintro _ _ ⟨⟩), .inl (written_letGo _ _ _)⟩
  | lose current loses =>
    refine ⟨forall_of_some rfl (by rintro _ _ ⟨⟩), .inl ?_⟩
    rw [written_append, written_letGo, List.append_nil]
    cases loses <;> rfl
  | @serve run transfer n state chunk rest current stage heard window =>
    have hasks := Transfer.asks_of_send window
    rw [unasked state rfl] at hasks
    cases hasks
  | send yielded current stage => exact absurd stage (h _ current _ _)

/-- Behind an updater that has no chunks left to write, nothing but the invitation is written until
the device asks for chunks, and the invitation once. -/
theorem written_unasked (idle : u.session.running = false) (nonempty : image ≠ [])
    (before behind : List Action) (once : ∀ other, .start other ∉ before ++ behind)
    (quiet : (u.runEach (.start image :: before)).1.IsQuiet)
    (unasked : ∀ state ∈ states ((u.runEach (.start image :: before)).1.history behind),
      state.asks = false) :
    ((u.runEach (.start image :: before)).1.runEach behind).1.IsQuiet ∧
      (written ((u.runEach (.start image :: before)).1.runEach behind).2 = [] ∨
        written (u.runEach (.start image :: before)).2 = [] ∧
        written ((u.runEach (.start image :: before)).1.runEach behind).2 =
          [invitation image]) := by
  induction behind using List.reverseRecOn with
  | nil => exact ⟨quiet, .inl rfl⟩
  | append_singleton behind action ih =>
    have honce : ∀ other, .start other ∉ before ++ behind := by
      intro other mem
      apply once other
      rw [← List.append_assoc]
      exact List.mem_append_left _ mem
    have haction : ∀ other, action ≠ .start other := by
      rintro other rfl
      exact once other (by simp)
    simp only [history_snoc, states_append] at unasked
    obtain ⟨hquiet, hwritten⟩ := ih honce fun state mem =>
      unasked state (List.mem_append_left _ mem)
    obtain ⟨hnext, houtputs⟩ := quiet_of_moves hquiet (moves_step _ action) haction
      fun state hnote => unasked state (by simp [hnote])
    rw [runEach_snoc, written_append]
    refine ⟨hnext, ?_⟩
    rcases houtputs with hnone | ⟨run, current, stage, hinvited⟩
    · rw [hnone, List.append_nil]
      exact hwritten
    · -- The invitation is written at this stage only, and nothing has been written ahead of it.
      have hcourse := course_run idle nonempty (before ++ behind) honce
      rw [← List.cons_append, runEach_append] at hcourse
      obtain ⟨himage, -, hunwritten, -⟩ := hcourse.stands_at current stage
      rw [written_append, List.append_eq_nil_iff] at hunwritten
      refine .inr ⟨hunwritten.1, ?_⟩
      rw [hunwritten.2, hinvited, himage]
      rfl

theorem success_taken (idle : u.session.running = false) (nonempty : image ≠ [])
    (before behind : List Action) (once : ∀ other, .start other ∉ before ++ behind)
    (current : (u.runEach (.start image :: before)).1.run = some run)
    (ended : .finished (.ok ()) ∈ ((u.runEach (.start image :: before)).1.runEach behind).2) :
    run.stage = .unsubscribing (.ok ()) ∨ run.stage = .disconnecting (.ok ()) ∨
      .complete ∈ states ((u.runEach (.start image :: before)).1.history behind) := by
  have hwhole := course_run idle nonempty (before ++ behind) once
  have hbefore := course_run idle nonempty before fun other mem =>
    once other (List.mem_append_left _ mem)
  rw [← List.cons_append, runEach_append, history_append] at hwhole
  have hsettles := hwhole.settles (mem_results.mpr (List.mem_append_right _ ended))
  have hcomplete := hsettles.ok_iff.mp rfl
  rw [states_append] at hcomplete
  have hmem := List.mem_of_find?_eq_some hcomplete
  rcases List.mem_append.mp hmem with hearlier | hlater
  · -- The success was taken ahead of the request: the run lets the device go, with that result.
    have hover := hbefore.isOver ⟨.complete, hearlier, rfl⟩ run current
    obtain ⟨-, hstands⟩ := hbefore.stands current
    have hok {result : Except LinkError Unit}
        (settles : Settles (u.history (.start image :: before)) result) : result = .ok () := by
      refine settles.ok_iff.mpr ?_
      rw [List.find?_append] at hcomplete
      cases hfirst : (states (u.history (.start image :: before))).find? DeviceState.isFinal with
      | none => exact absurd rfl (List.find?_eq_none.mp hfirst _ hearlier)
      | some state =>
        rw [hfirst, Option.some_or] at hcomplete
        exact hcomplete
    cases hstage : run.stage with
    | unsubscribing result =>
      rw [hstage] at hstands
      exact .inl (by rw [hok hstands.1])
    | disconnecting result =>
      rw [hstage] at hstands
      exact .inr (.inl (by rw [hok hstands.1]))
    | _ => simp [hstage, BleStage.isLettingGo] at hover
  · exact .inr (.inr hlater)

theorem stops_where_it_waits (current : u.run = some run) (waits : run.stage.waits = true)
    (requested : u.session.cancelRequested = true) (first second : Gatt.Answer) :
    .finished (.error .cancelled) ∈
        (u.runEach [.noticeCancel, .answer first, .answer second]).2 ∧
      written (u.runEach [.noticeCancel, .answer first, .answer second]).2 = [] := by
  obtain ⟨settings, ⟨status, running, cancelRequested⟩, runs⟩ := u
  obtain rfl : runs = some run := current
  obtain rfl : cancelRequested = true := requested
  obtain ⟨image, writeLimit, stage⟩ := run
  have hends {seen : List Output} (outputs : List Output) (hseen : seen = outputs)
      (ended : .finished (.error .cancelled) ∈ outputs) (unwritten : written outputs = []) :
      .finished (.error .cancelled) ∈ seen ∧ written seen = [] :=
    hseen ▸ ⟨ended, unwritten⟩
  cases stage with
  | poweringOn | connecting =>
    exact hends [.giveUp, .finished (.error .cancelled)] rfl (by simp) rfl
  | seeking =>
    refine hends [.run .stopScan, .finished (.error .cancelled)] ?_ (by simp) rfl
    cases first <;> rfl
  | findingService | findingCharacteristics | openingNotifications | subscribing =>
    refine hends [.giveUp, .run (.unsubscribe Gatt.updateStatus), .run .disconnect,
      .finished (.error .cancelled)] ?_ (by simp) rfl
    cases first <;> cases second <;> rfl
  | listening =>
    refine hends [.keepAwake false, .run (.unsubscribe Gatt.updateStatus), .run .disconnect,
      .finished (.error .cancelled)] ?_ (by simp) rfl
    cases first <;> cases second <;> rfl
  | _ => cases waits

end BleUpdater

end RadioLink.Update
