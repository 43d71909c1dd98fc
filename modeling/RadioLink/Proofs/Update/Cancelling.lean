import RadioLink.Proofs.Update.BleCancelling
import RadioLink.Proofs.Update.WifiMoves

/-!
What comes of a request to stop an update that has been accepted. Over WiFi, too, the run goes on
until it notices the request where it waits, and a run that takes the connection of its device
before that sends the image.
-/

set_option autoImplicit false
set_option relaxedAutoImplicit false

namespace RadioLink.Update

def WifiStage.waits : WifiStage → Bool
  | .inviting .. | .accepting => true
  | _ => false

namespace WifiUpdater

variable {image : Bytes} {u now next : WifiUpdater} {run : WifiRun} {action : Action}
  {outputs : List Output}

private theorem sendNext_eq (u : WifiUpdater) (run : WifiRun) (index sent : Nat)
    (rest : List Bytes) :
    ∃ stage operation, stage.isTransfer = true ∧
      u.sendNext run index sent rest = (u.enter run stage, [.run operation]) := by
  cases rest with
  | nil => exact ⟨.flushing, .flush, rfl, rfl⟩
  | cons chunk rest => exact ⟨.sending chunk rest (index + 1) sent, .write chunk, rfl, rfl⟩

theorem transfer_eq (u : WifiUpdater) (run : WifiRun) :
    ∃ stage operation, stage.isTransfer = true ∧
      u.transfer run = ((u.present .transferring
        "Please stay on this screen while update completes...").enter run stage,
          [.run operation]) :=
  sendNext_eq _ _ _ _ _

theorem chunkWritten_eq (u : WifiUpdater) (run : WifiRun) (index sent : Nat) (rest : List Bytes) :
    ∃ session stage operation, stage.isTransfer = true ∧
      (session = u.session ∨ ∃ progress, session = u.session.setProgress progress) ∧
      u.chunkWritten run index sent rest =
        ({ u with session := session }.enter run stage, [.run operation]) := by
  rw [chunkWritten]
  obtain ⟨stage, operation, htransfer, heq⟩ := sendNext_eq _ run index sent rest
  refine ⟨_, stage, operation, htransfer, ?_, heq⟩
  split_ifs
  · exact .inr ⟨_, rfl⟩
  · exact .inl rfl

theorem run_of_mem_transfer {output : Output} (told : output ∈ (u.transfer run).2) :
    ∃ operation, output = .run operation := by
  obtain ⟨stage, operation, -, heq⟩ := u.transfer_eq run
  rw [heq] at told
  exact ⟨operation, List.mem_singleton.mp told⟩

theorem run_of_mem_chunkWritten {index sent : Nat} {rest : List Bytes} {output : Output}
    (told : output ∈ (u.chunkWritten run index sent rest).2) :
    ∃ operation, output = .run operation := by
  obtain ⟨session, stage, operation, -, -, heq⟩ := u.chunkWritten_eq run index sent rest
  rw [heq] at told
  exact ⟨operation, List.mem_singleton.mp told⟩

theorem cancelRequested_transfer (u : WifiUpdater) (run : WifiRun) :
    (u.transfer run).1.session.cancelRequested = u.session.cancelRequested := by
  obtain ⟨stage, operation, -, heq⟩ := u.transfer_eq run
  rw [heq]
  rfl

theorem cancelRequested_chunkWritten (u : WifiUpdater) (run : WifiRun) (index sent : Nat)
    (rest : List Bytes) : (u.chunkWritten run index sent rest).1.session.cancelRequested =
      u.session.cancelRequested := by
  obtain ⟨session, stage, operation, -, hsession, heq⟩ := u.chunkWritten_eq run index sent rest
  rw [heq]
  rcases hsession with rfl | ⟨progress, rfl⟩
  · rfl
  · rfl

/-! ### What the session shows -/

/-- A run has claimed the session, and the image is sent in the phase that refuses to stop. -/
structure Shown (u : WifiUpdater) : Prop where
  claims : ∀ run, u.run = some run → u.session.running = true
  sends : ∀ run, u.run = some run → run.stage.isTransfer = true →
    u.session.status.phase = .transferring

private theorem Shown.go {run' : WifiRun} (h : now.Shown) (was : now.run = some run)
    (held : next.session.running = now.session.running) (current : next.run = some run')
    (sends : run'.stage.isTransfer = true → next.session.status.phase = .transferring) :
    next.Shown := by
  refine ⟨forall_of_some current ?_, forall_of_some current sends⟩
  rw [held]
  exact h.claims run was

theorem shown_of_moves (h : now.Shown) (move : Moves now action next outputs) : next.Shown := by
  cases move with
  | idle | refuse => exact h
  | begin => exact ⟨fun _ _ => rfl, by rintro run ⟨⟩ ⟨⟩⟩
  | reject | drop | fail | complete => exact ⟨forall_of_none rfl, forall_of_none rfl⟩
  | cancel =>
    refine ⟨fun run current => ?_, fun run current htransfer => ?_⟩
    · exact (Session.cancel_running now.session).trans (h.claims run current)
    · have hphase := h.sends run current htransfer
      exact (congrArg Status.phase (Session.cancel_status now.session)).trans hphase
  | listen current | openDatagrams _ current | opened _ current | compose current
    | invite current | answerChallenge current | prepare current | accept current
    | connect current => exact h.go current rfl rfl nofun
  | @transfer run yielded current stage =>
    obtain ⟨behind, operation, -, heq⟩ := now.transfer_eq run
    rw [heq]
    exact h.go current rfl rfl fun _ => rfl
  | @chunkWritten run chunk rest index sent yielded current stage =>
    have hphase := h.sends run current (by rw [stage]; rfl)
    obtain ⟨session, behind, operation, -, hsession, heq⟩ :=
      now.chunkWritten_eq run index (sent + chunk.length) rest
    rw [heq]
    rcases hsession with rfl | ⟨progress, rfl⟩
    · exact h.go current rfl rfl fun _ => hphase
    · exact h.go current rfl rfl fun _ => hphase
  | imageSent _ current => exact h.go current rfl rfl fun _ => rfl
  | @close run current stage =>
    have hphase := h.sends run current (by rw [stage]; rfl)
    exact h.go current rfl rfl fun _ => hphase

theorem requested_of_moves (h : now.session.cancelRequested = true)
    (move : Moves now action next outputs)
    (once : ∀ host image password, action ≠ .start host image password) :
    next.session.cancelRequested = true := by
  cases move with
  | begin | reject => exact absurd rfl (once _ _ _)
  | cancel => exact Session.cancel_keeps h
  | transfer => exact (cancelRequested_transfer ..).trans h
  | chunkWritten => exact (cancelRequested_chunkWritten ..).trans h
  | _ => exact h

theorem shown_run (h : u.Shown) (actions : List Action) : (u.runEach actions).1.Shown := by
  induction actions generalizing u with
  | nil => exact h
  | cons action actions ih => exact ih (shown_of_moves h (moves_step u action))

private theorem requested_run (h : u.session.cancelRequested = true) (actions : List Action)
    (once : ∀ host image password, .start host image password ∉ actions) :
    (u.runEach actions).1.session.cancelRequested = true := by
  induction actions generalizing u with
  | nil => exact h
  | cons action actions ih =>
    have hstep := requested_of_moves h (moves_step u action) fun host image password heq =>
      once host image password (heq ▸ List.mem_cons_self ..)
    exact ih hstep fun host image password mem =>
      once host image password (List.mem_cons_of_mem _ mem)

theorem shown_begun (idle : u.session.running = false) (nonempty : image ≠ []) (host : String)
    (password : Option String) (actions : List Action) :
    (u.runEach (.start host image password :: actions)).1.Shown := by
  rw [runEach_cons, step_start idle host nonempty password]
  exact shown_run ⟨fun _ _ => rfl, by rintro run ⟨⟩ ⟨⟩⟩ actions

/-! ### Behind the request -/

private def IsAwaiting (u : WifiUpdater) : Prop :=
  ∀ run, u.run = some run → run.stage.isTransfer = false ∧ run.stage ≠ .tuning

/-- The run takes the connection of its device. -/
def TakesConnection (u : WifiUpdater) (actions : List Action) : Prop :=
  ∃ first rest run, actions = first ++ .accepted (.ok ()) :: rest ∧
    (u.runEach first).1.run = some run ∧ run.stage = .accepting

/-- Neither a part of the image nor a success. -/
private def Output.isVain : Output → Prop
  | .run (.write _) | .finished (.ok ()) => False
  | _ => True

private theorem awaiting_of_accepted (shown : u.Shown) (accepted : u.session.cancel.1 = .ok ())
    (current : u.run = some run) (untuned : run.stage ≠ .tuning) : u.IsAwaiting := by
  refine forall_of_some current ⟨?_, untuned⟩
  by_contra htransfer
  rw [Bool.not_eq_false] at htransfer
  exact Session.cancel_accepted_iff.mp accepted (shown.sends run current htransfer)

private theorem awaiting_of_moves (h : now.IsAwaiting) (move : Moves now action next outputs)
    (once : ∀ host image password, action ≠ .start host image password)
    (untaken : ∀ run, now.run = some run → run.stage = .accepting → action ≠ .accepted (.ok ())) :
    next.IsAwaiting ∧ ∀ output ∈ outputs, output.isVain := by
  cases move with
  | idle => exact ⟨h, nofun⟩
  | refuse | begin | reject => exact absurd rfl (once _ _ _)
  | cancel => exact ⟨h, by simp [Output.isVain]⟩
  | drop => exact ⟨forall_of_none rfl, nofun⟩
  | listen | openDatagrams | invite =>
    exact ⟨forall_of_some rfl ⟨rfl, nofun⟩, by simp [Output.isVain]⟩
  | opened | compose | answerChallenge | prepare | accept =>
    exact ⟨forall_of_some rfl ⟨rfl, nofun⟩, nofun⟩
  | connect current stage => exact absurd rfl (untaken _ current stage)
  | transfer _ current stage => exact absurd stage (h _ current).2
  | chunkWritten _ current stage | imageSent _ current stage | close current stage
    | complete _ current stage =>
    have htransfer := (h _ current).1
    simp [stage, WifiStage.isTransfer] at htransfer
  | fail current fails =>
    refine ⟨forall_of_none rfl, ?_⟩
    cases fails <;> simp [Output.isVain]

private theorem awaiting_run (awaits : u.IsAwaiting) (actions : List Action)
    (once : ∀ host image password, .start host image password ∉ actions)
    (untaken : ¬ u.TakesConnection actions) :
    ∀ output ∈ (u.runEach actions).2, output.isVain := by
  induction actions generalizing u with
  | nil => exact nofun
  | cons action actions ih =>
    obtain ⟨hnext, houtputs⟩ := awaiting_of_moves awaits (moves_step u action)
      (fun host image password heq => once host image password (heq ▸ List.mem_cons_self ..))
      (fun run current stage heq => untaken ⟨[], actions, run, by rw [heq]; rfl, current, stage⟩)
    have hrest := ih hnext
      (fun host image password mem => once host image password (List.mem_cons_of_mem _ mem))
      (fun ⟨first, rest, run, hsplit, current, stage⟩ =>
        untaken ⟨action :: first, rest, run, by rw [hsplit]; rfl, current, stage⟩)
    intro output mem
    rw [runEach_cons] at mem
    rcases List.mem_append.mp mem with mem | mem
    · exact houtputs output mem
    · exact hrest output mem

theorem stops_where_it_waits (current : u.run = some run) (waits : run.stage.waits = true)
    (requested : u.session.cancelRequested = true) :
    (u.step .noticeCancel).2 = [.finished (.error .cancelled)] := by
  obtain ⟨settings, ⟨status, running, cancelRequested⟩, runs⟩ := u
  obtain rfl : runs = some run := current
  obtain rfl : cancelRequested = true := requested
  obtain ⟨image, password, host, stage⟩ := run
  cases stage with
  | inviting | accepting => rfl
  | _ => cases waits

end WifiUpdater

/-! ### An accepted request -/

/-- What comes of a request to stop that a run over Bluetooth has been sent, from the request on:
but for the invitation nothing is written unless the run takes a call for chunks, the run ends well
only if it takes a success or has taken one, and wherever it waits it can notice the request, and
then it ends with the error that says so. -/
structure BleUpdater.Heeds (image : Bytes) (already : List BleUpdater.Output) (now : BleUpdater)
    (run : BleRun) (behind : List BleUpdater.Action) : Prop where
  unwritten : (∀ state ∈ states (now.history behind), state.asks = false) →
    written (now.runEach behind).2 = [] ∨
      written already = [] ∧ written (now.runEach behind).2 = [invitation image]
  unsuccessful : .complete ∉ states (now.history behind) →
    run.stage ≠ .unsubscribing (.ok ()) → run.stage ≠ .disconnecting (.ok ()) →
    .finished (.ok ()) ∉ (now.runEach behind).2
  stops : ∀ later, (now.runEach behind).1.run = some later → later.stage.waits = true →
    ∀ first second, let notice := [.noticeCancel, .answer first, .answer second]
      .finished (.error .cancelled) ∈ ((now.runEach behind).1.runEach notice).2 ∧
        written ((now.runEach behind).1.runEach notice).2 = []

/-- What comes of a request to stop that a run over WiFi has been sent, from the request on: unless
the run takes the connection of its device, or has just taken it, it sends no part of the image and
does not end well, and wherever it waits it can notice the request, and then it ends with the error
that says so. -/
structure WifiUpdater.Heeds (now : WifiUpdater) (run : WifiRun) (behind : List WifiUpdater.Action) :
    Prop where
  vain : ¬ now.TakesConnection behind → run.stage ≠ .tuning →
    (∀ data, .run (.write data) ∉ (now.runEach behind).2) ∧
      .finished (.ok ()) ∉ (now.runEach behind).2
  stops : ∀ later, (now.runEach behind).1.run = some later → later.stage.waits = true →
    ((now.runEach behind).1.step .noticeCancel).2 = [.finished (.error .cancelled)]

/-- A request to stop that is accepted while a run is under way stops it, unless the run takes a
report or the connection of its device instead of the request, or is letting the device go. -/
theorem accepted_request_heeded {image : Bytes} (nonempty : image ≠ []) :
    (∀ (u : BleUpdater) (before after : List BleUpdater.Action) (run : BleRun),
      u.session.running = false → (∀ other, .start other ∉ before ++ after) →
      let sofar := u.runEach (.start image :: before)
      sofar.1.run = some run → sofar.1.session.cancel.1 = .ok () →
      BleUpdater.Heeds image sofar.2 sofar.1 run (.cancel :: after)) ∧
    (∀ (u : WifiUpdater) (host : String) (password : Option String)
      (before after : List WifiUpdater.Action) (run : WifiRun), u.session.running = false →
      (∀ host image password, .start host image password ∉ before ++ after) →
      let sofar := u.runEach (.start host image password :: before)
      sofar.1.run = some run → sofar.1.session.cancel.1 = .ok () →
      WifiUpdater.Heeds sofar.1 run (.cancel :: after)) := by
  refine ⟨?_, ?_⟩
  · intro u before after run idle once sofar current accepted
    have honce : ∀ other, .start other ∉ before ++ .cancel :: after := by
      intro other mem
      apply once other
      simpa using mem
    have hshown := BleUpdater.shown_begun idle nonempty before
    have hquiet := BleUpdater.quiet_of_accepted hshown accepted
    refine ⟨fun unasked => ?_, fun hcomplete hunsubscribing hdisconnecting ended => ?_, ?_⟩
    · exact (BleUpdater.written_unasked idle nonempty before _ honce hquiet unasked).2
    · rcases BleUpdater.success_taken idle nonempty before _ honce current ended with h | h | h
      · exact hunsubscribing h
      · exact hdisconnecting h
      · exact hcomplete h
    · intro later hlater waits first second
      have hrequested : (sofar.1.runEach (.cancel :: after)).1.session.cancelRequested = true := by
        refine BleUpdater.requested_run ?_ after fun other mem => ?_
        · exact Session.requested_of_accepted (hshown.claims run current) accepted
        · exact once other (List.mem_append_right _ mem)
      exact BleUpdater.stops_where_it_waits hlater waits hrequested first second
  · intro u host password before after run idle once sofar current accepted
    have hafter : ∀ host image password, .start host image password ∉ after :=
      fun host image password mem => once host image password (List.mem_append_right _ mem)
    have hshown := WifiUpdater.shown_begun idle nonempty host password before
    refine ⟨fun untaken untuned => ?_, ?_⟩
    · have hawaits := WifiUpdater.awaiting_of_accepted hshown accepted current untuned
      have hvain := WifiUpdater.awaiting_run hawaits (.cancel :: after)
        (by simpa using hafter) untaken
      exact ⟨fun data mem => hvain _ mem, fun mem => hvain _ mem⟩
    · intro later hlater waits
      have hrequested : (sofar.1.runEach (.cancel :: after)).1.session.cancelRequested = true := by
        refine WifiUpdater.requested_run ?_ after hafter
        exact Session.requested_of_accepted (hshown.claims run current) accepted
      exact WifiUpdater.stops_where_it_waits hlater waits hrequested

def BleUpdater.listening : List BleUpdater.Action :=
  invited 8 ++ [.answer (.ok .nothing)]

def WifiUpdater.inviting : List WifiUpdater.Action :=
  [.answer (.ok .nothing), .answer (.ok (.port 50000)), .answer (.ok .nothing)]

theorem accepted_request_heeded_waiting :
    (let now := ((BleUpdater.initial {}).runEach (.start [1, 2, 3] :: BleUpdater.listening)).1
     BleUpdater.written (now.runEach [.cancel, .notification none]).2 = [] ∧
        .finished (.error .cancelled) ∈ ((now.runEach [.cancel]).1.runEach
          [.noticeCancel, .answer (.ok .nothing), .answer (.error .deviceReportedError)]).2) ∧
    (let now := ((WifiUpdater.initial {}).runEach
        (.start "radio" [1, 2, 3] none :: WifiUpdater.inviting)).1
     ((now.runEach [.cancel]).1.step .noticeCancel).2 = [.finished (.error .cancelled)] ∧
        .finished (.ok ()) ∉ (now.runEach [.cancel, .timeout]).2) := by
  obtain ⟨hble, hwifi⟩ := accepted_request_heeded (List.cons_ne_nil 1 [2, 3])
  have hlistening : ∀ other, .start other ∉ BleUpdater.listening := by
    simp [BleUpdater.listening, BleUpdater.invited]
  have hinviting : ∀ host image password, .start host image password ∉ WifiUpdater.inviting := by
    simp [WifiUpdater.inviting]
  refine ⟨⟨?_, ?_⟩, ⟨?_, ?_⟩⟩
  · have hheeds := hble (.initial {}) BleUpdater.listening [.notification none] _ rfl
      (by simpa using hlistening) rfl rfl
    rcases hheeds.unwritten (fun state mem => by cases mem) with h | ⟨h, -⟩
    · exact h
    · cases h
  · have hheeds := hble (.initial {}) BleUpdater.listening [] _ rfl
      (by simpa using hlistening) rfl rfl
    exact (hheeds.stops _ rfl rfl _ _).1
  · have hheeds := hwifi (.initial {}) "radio" none WifiUpdater.inviting [] _ rfl
      (by simpa using hinviting) rfl rfl
    exact hheeds.stops _ rfl rfl
  · have hheeds := hwifi (.initial {}) "radio" none WifiUpdater.inviting [.timeout] _ rfl
      (by simpa using hinviting) rfl rfl
    refine (hheeds.vain ?_ (by rintro ⟨⟩)).2
    rintro ⟨first, rest, run, hsplit, -⟩
    have hmem : .accepted (.ok ()) ∈ [WifiUpdater.Action.cancel, .timeout] :=
      hsplit ▸ List.mem_append_right _ (List.mem_cons_self ..)
    simp at hmem

/-- An accepted request does not stop a run that takes a report or a connection before it notices,
nor one that lets its device go. -/
theorem accepted_request_unheeded :
    (let now := ((BleUpdater.initial {}).runEach
        (.start [1, 2, 3] :: BleUpdater.listening ++
          [.notification (some ⟨Gatt.updateStatus, [4]⟩)])).1
     now.session.cancel.1 = .ok () ∧
        BleUpdater.results
          (now.runEach [.cancel, .answer (.ok .nothing), .answer (.ok .nothing)]).2 = [.ok ()]) ∧
    (let now := ((BleUpdater.initial {}).runEach (.start [1, 2, 3] :: BleUpdater.listening)).1
     now.session.cancel.1 = .ok () ∧
        BleUpdater.written
          (now.runEach [.cancel, .notification (some ⟨Gatt.updateStatus, [2]⟩)]).2 =
            [[1, 2, 3]]) ∧
    (let now := ((WifiUpdater.initial {}).runEach
        (.start "radio" [1, 2, 3] none :: WifiUpdater.inviting ++
          [.datagram (.ok [0x4f, 0x4b])])).1
     now.session.cancel.1 = .ok () ∧
        (now.runEach [.cancel, .accepted (.ok ()), .answer (.ok .nothing), .answer (.ok .nothing),
          .answer (.ok .nothing), .settled, .answer (.ok .nothing)]).2 =
        [.cancelled (.ok ()), .run .sendAtOnce, .run (.write [1, 2, 3]), .run .flush,
          .run .shutdown, .finished (.ok ())]) :=
  ⟨⟨rfl, rfl⟩, ⟨rfl, rfl⟩, ⟨rfl, rfl⟩⟩

end RadioLink.Update
