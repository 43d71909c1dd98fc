import RadioLink.Proofs.Update.Cancelling

/-!
Inviting a device over WiFi. What the device replies to an invitation is heard while the run invites
it. An invitation that is taken to be sent answers the latest challenge that has been heard by then,
and the first action that decides something ends the inviting, unless a request to stop does.
-/

set_option autoImplicit false
set_option relaxedAutoImplicit false

namespace RadioLink.Update

def Reply.nonce? : Reply → Option String
  | .challenge nonce => some nonce
  | _ => none

def lastNonce? (replies : List Reply) : Option String :=
  (replies.filterMap Reply.nonce?).getLast?

/-- The invitation with an answer to the latest challenge, if there is one to answer. -/
def Invitation.behind (base : Invitation) (password : Option String) (replies : List Reply) :
    Invitation :=
  match password, lastNonce? replies with
  | some password, some nonce => base.withAnswer (challengeAnswer password nonce)
  | _, _ => base

private theorem lastNonce?_challenge (replies : List Reply) (nonce : String) :
    lastNonce? (replies ++ [.challenge nonce]) = some nonce := by
  simp [lastNonce?, Reply.nonce?]

private theorem lastNonce?_quiet (replies : List Reply) {reply : Reply}
    (quiet : reply.nonce? = none) : lastNonce? (replies ++ [reply]) = lastNonce? replies := by
  simp [lastNonce?, quiet]

private theorem Invitation.behind_quiet (base : Invitation) (password : Option String)
    (replies : List Reply) {reply : Reply} (quiet : reply.nonce? = none) :
    base.behind password (replies ++ [reply]) = base.behind password replies := by
  simp only [Invitation.behind, lastNonce?_quiet replies quiet]

private theorem Invitation.behind_challenge (base : Invitation) (password : String)
    (replies : List Reply) (nonce : String) :
    base.behind (some password) (replies ++ [.challenge nonce]) =
      base.withAnswer (challengeAnswer password nonce) := by
  simp only [Invitation.behind, lastNonce?_challenge]

namespace WifiUpdater

variable {u now next : WifiUpdater} {run : WifiRun} {action : Action} {outputs : List Output}
  {base invitation : Invitation} {sending : Option Invitation}

theorem runEach_snoc (u : WifiUpdater) (actions : List Action) (action : Action) :
    u.runEach (actions ++ [action]) =
      (((u.runEach actions).1.step action).1,
        (u.runEach actions).2 ++ ((u.runEach actions).1.step action).2) :=
  actEach_snoc step u actions action

theorem runEach_append (u : WifiUpdater) (before behind : List Action) :
    u.runEach (before ++ behind) =
      (((u.runEach before).1.runEach behind).1,
        (u.runEach before).2 ++ ((u.runEach before).1.runEach behind).2) :=
  actEach_append step u before behind

def At (u : WifiUpdater) (stage : WifiStage) : Prop :=
  ∃ run, u.run = some run ∧ run.stage = stage

def IsInviting (u : WifiUpdater) : Prop :=
  ∃ base invitation sending, u.At (.inviting base invitation sending)

def isSending (u : WifiUpdater) : Bool :=
  u.run.any fun run => match run.stage with
    | .inviting _ _ sending => sending.isSome
    | _ => false

/-- The run is under way, and stays so all along some actions. -/
def Lasts (u : WifiUpdater) : List Action → Prop
  | [] => u.run ≠ none
  | action :: actions => u.run ≠ none ∧ (u.step action).1.Lasts actions

theorem lasts_snoc {actions : List Action} :
    u.Lasts (actions ++ [action]) ↔
      u.Lasts actions ∧ ((u.runEach actions).1.step action).1.run ≠ none := by
  induction actions generalizing u with
  | nil => rfl
  | cons first actions ih =>
    rw [List.cons_append, Lasts, ih, Lasts, and_assoc]
    rfl

private theorem lasts_cons_run {actions : List Action} (lasts : u.Lasts (action :: actions)) :
    (u.step action).1.run ≠ none := by
  cases actions with
  | nil => exact lasts.2
  | cons => exact lasts.2.1

/-! ### Replies -/

def reply? (u : WifiUpdater) : Action → Option Reply
  | .datagram (.ok data) =>
    u.run.bind fun run =>
      match run.stage with
      | .inviting .. => some (Reply.ofBytes (data.take datagramLimit))
      | _ => none
  | _ => none

def heard (u : WifiUpdater) : List Action → List Reply
  | [] => []
  | action :: actions => (u.reply? action).toList ++ (u.step action).1.heard actions

theorem heard_snoc (u : WifiUpdater) (actions : List Action) (action : Action) :
    u.heard (actions ++ [action]) =
      u.heard actions ++ ((u.runEach actions).1.reply? action).toList := by
  induction actions generalizing u with
  | nil => simp [heard, runEach, actEach]
  | cons first actions ih =>
    rw [List.cons_append, heard, ih, heard, List.append_assoc]
    rfl

theorem reply?_of_not_inviting (away : ¬ u.IsInviting) (action : Action) :
    u.reply? action = none := by
  unfold reply?
  split
  case h_1 data =>
    cases hrun : u.run with
    | none => rfl
    | some run =>
      obtain ⟨image, password, host, stage⟩ := run
      cases stage with
      | inviting base invitation sending =>
        exact absurd ⟨base, invitation, sending, _, hrun, rfl⟩ away
      | _ => rfl
  case h_2 => rfl

/-! ### Decisions -/

/-- How the inviting of a device ends. -/
inductive Verdict where
  | accepted
  | failed (error : LinkError)
  | dropped

/-- What an action decides for a run that invites its device, if it decides anything: a datagram
that accepts or that asks for a password which there is not, an error of the socket that is not a
refusal, or the time being over. A request to stop is no action of the run. -/
def verdict? (u : WifiUpdater) (password : Option String) : Action → Option Verdict
  | .datagram (.ok data) =>
    match Reply.ofBytes (data.take datagramLimit) with
    | .accepted => some .accepted
    | .challenge _ => if password.isNone then some (.failed .authenticationRequired) else none
    | _ => none
  | .datagram (.error error) => if error.isRefusal then none else some (.failed (.system error))
  | .invite (.error error) =>
    if u.isSending && !error.isRefusal then some (.failed (.system error)) else none
  | .timeout => some (.failed (.handshakeTimeout u.settings.handshakeTimeout.toMillis))
  | .drop => some .dropped
  | _ => none

/-- What is being sent behind an action. -/
def sendingBehind (invitation : Invitation) (sending : Option Invitation) :
    Action → Option Invitation
  | .compose => sending.or (some invitation)
  | .invite _ => none
  | _ => sending

/-- What becomes of a run that invites its device, by what an action decides. -/
inductive Follows (u : WifiUpdater) (run : WifiRun) (base invitation : Invitation)
    (sending : Option Invitation) (action : Action) : Option Verdict → Prop
  | undecided {run' : WifiRun} {invitation' : Invitation}
      (current : (u.step action).1.run = some run')
      (stage : run'.stage = .inviting base invitation' (sendingBehind invitation sending action))
      (image : run'.image = run.image) (password : run'.password = run.password)
      (answers : ∀ replies, invitation = base.behind run.password replies →
        invitation' = base.behind run.password (replies ++ (u.reply? action).toList)) :
      Follows u run base invitation sending action none
  | stopped (requested : u.session.cancelRequested = true)
      (gone : (u.step action).1.run = none) : Follows u run base invitation sending action none
  | accepted {run' : WifiRun} {data : Bytes} (current : (u.step action).1.run = some run')
      (stage : run'.stage = .accepting) (image : run'.image = run.image)
      (password : run'.password = run.password) (taken : action = .datagram (.ok data))
      (reply : Reply.ofBytes (data.take datagramLimit) = .accepted) :
      Follows u run base invitation sending action (some .accepted)
  | failed {error : LinkError} (gone : (u.step action).1.run = none)
      (told : .finished (.error error) ∈ (u.step action).2) :
      Follows u run base invitation sending action (some (.failed error))
  | dropped (gone : (u.step action).1.run = none) :
      Follows u run base invitation sending action (some .dropped)

private theorem follows_quiet {run' : WifiRun} (current : (u.step action).1.run = some run')
    (stage : run' =
      { run with stage := .inviting base invitation (sendingBehind invitation sending action) })
    (unheard : u.reply? action = none) : u.Follows run base invitation sending action none := by
  subst stage
  refine .undecided current rfl rfl rfl fun replies heq => ?_
  rw [unheard, Option.toList_none, List.append_nil]
  exact heq

private theorem follows_same (current : u.run = some run)
    (stage : run.stage = .inviting base invitation sending) (same : (u.step action).1.run = u.run)
    (kept : sendingBehind invitation sending action = sending) (unheard : u.reply? action = none) :
    u.Follows run base invitation sending action none := by
  refine follows_quiet (same.trans current) ?_ unheard
  rw [kept, ← stage]

private theorem follows_end {error : LinkError} (ahead : List Output)
    (step : u.step action =
      ((u.finish (.error error)).1, ahead ++ (u.finish (.error error)).2)) :
    u.Follows run base invitation sending action (some (.failed error)) := by
  refine .failed ?_ ?_
  · rw [step]
    rfl
  · rw [step]
    exact List.mem_append_right ahead (List.mem_singleton_self _)

section Datagrams

variable {data : Bytes} {reply : Reply}

private theorem reply?_datagram (current : u.run = some run)
    (stage : run.stage = .inviting base invitation sending)
    (reads : Reply.ofBytes (data.take datagramLimit) = reply) :
    u.reply? (.datagram (.ok data)) = some reply := by
  simp only [reply?, current, Option.bind_some, stage, reads]

private theorem step_datagram (current : u.run = some run)
    (stage : run.stage = .inviting base invitation sending)
    (reads : Reply.ofBytes (data.take datagramLimit) = reply) :
    u.step (.datagram (.ok data)) = u.hear run base invitation sending reply := by
  simp only [step, current, Option.elim_some, stepRun, stage, reads]

private theorem follows_unanswered {run' : WifiRun} (current : u.run = some run)
    (stage : run.stage = .inviting base invitation sending)
    (reads : Reply.ofBytes (data.take datagramLimit) = reply) (quiet : reply.nonce? = none)
    (current' : (u.step (.datagram (.ok data))).1.run = some run')
    (same : run' = { run with stage := .inviting base invitation sending }) :
    u.Follows run base invitation sending (.datagram (.ok data)) none := by
  subst same
  refine .undecided current' rfl rfl rfl fun replies heq => ?_
  rw [reply?_datagram current stage reads, Option.toList_some, Invitation.behind_quiet _ _ _ quiet]
  exact heq

private theorem follows_challenge {nonce : String} (current : u.run = some run)
    (stage : run.stage = .inviting base invitation sending)
    (reads : Reply.ofBytes (data.take datagramLimit) = .challenge nonce) :
    u.Follows run base invitation sending (.datagram (.ok data))
      (u.verdict? run.password (.datagram (.ok data))) := by
  have hstep := step_datagram current stage reads
  cases hpassword : run.password with
  | none =>
    have hverdict : u.verdict? none (.datagram (.ok data)) =
        some (.failed .authenticationRequired) := by
      simp [verdict?, reads]
    have hhear : u.hear run base invitation sending (.challenge nonce) =
        u.finish (.error .authenticationRequired) := by simp only [hear, hpassword]
    rw [hverdict]
    exact follows_end [] (hstep.trans hhear)
  | some password =>
    have hverdict : u.verdict? (some password) (.datagram (.ok data)) = none := by
      simp [verdict?, reads]
    have hhear : u.hear run base invitation sending (.challenge nonce) =
        (u.enter run
          (.inviting base (base.withAnswer (challengeAnswer password nonce)) sending), []) := by
      simp only [hear, hpassword]
    have hnow : (u.step (.datagram (.ok data))).1.run = some { run with
        stage := .inviting base (base.withAnswer (challengeAnswer password nonce)) sending } := by
      rw [hstep, hhear]
      rfl
    rw [hverdict]
    refine .undecided hnow rfl rfl rfl fun replies _ => ?_
    rw [reply?_datagram current stage reads, Option.toList_some, hpassword,
      Invitation.behind_challenge]

private theorem follows_datagram (current : u.run = some run)
    (stage : run.stage = .inviting base invitation sending) (data : Bytes) :
    u.Follows run base invitation sending (.datagram (.ok data))
      (u.verdict? run.password (.datagram (.ok data))) := by
  cases hreads : Reply.ofBytes (data.take datagramLimit) with
  | challenge nonce => exact follows_challenge current stage hreads
  | accepted =>
    have hverdict : u.verdict? run.password (.datagram (.ok data)) = some .accepted := by
      simp only [verdict?, hreads]
    have hnow : (u.step (.datagram (.ok data))).1.run = some { run with stage := .accepting } := by
      rw [step_datagram current stage hreads]
      rfl
    rw [hverdict]
    exact .accepted hnow rfl rfl rfl rfl hreads
  | erasing =>
    have hverdict : u.verdict? run.password (.datagram (.ok data)) = none := by
      simp only [verdict?, hreads]
    rw [hverdict]
    refine follows_unanswered current stage hreads rfl ?_ rfl
    rw [step_datagram current stage hreads]
    rfl
  | other text =>
    have hverdict : u.verdict? run.password (.datagram (.ok data)) = none := by
      simp only [verdict?, hreads]
    rw [hverdict]
    refine follows_unanswered current stage hreads rfl ?_ (by rw [← stage])
    rw [step_datagram current stage hreads]
    exact current

end Datagrams

private theorem follows_datagramError (current : u.run = some run)
    (stage : run.stage = .inviting base invitation sending) (error : SystemError) :
    u.Follows run base invitation sending (.datagram (.error error))
      (u.verdict? run.password (.datagram (.error error))) := by
  cases hrefusal : error.isRefusal with
  | true =>
    simp only [verdict?, hrefusal, if_true]
    refine follows_same current stage ?_ rfl rfl
    simp only [step, current, Option.elim_some, stepRun, stage, hrefusal, if_true]
  | false =>
    have hend : u.step (.datagram (.error error)) = u.failSystem error := by
      simp only [step, current, Option.elim_some, stepRun, stage, hrefusal, Bool.false_eq_true,
        if_false]
    simp only [verdict?, hrefusal, Bool.false_eq_true, if_false]
    exact follows_end [] hend

private theorem follows_compose (current : u.run = some run)
    (stage : run.stage = .inviting base invitation sending) :
    u.Follows run base invitation sending .compose none := by
  cases sending with
  | none =>
    refine follows_quiet ?_ rfl rfl
    simp only [step, current, Option.elim_some, stepRun, stage]
    rfl
  | some sending =>
    refine follows_same current stage ?_ rfl rfl
    simp only [step, current, Option.elim_some, stepRun, stage]

private theorem follows_invite (current : u.run = some run)
    (stage : run.stage = .inviting base invitation sending) (result : Except SystemError Unit) :
    u.Follows run base invitation sending (.invite result)
      (u.verdict? run.password (.invite result)) := by
  have hsending : u.isSending = sending.isSome := by
    simp only [isSending, current, Option.any_some, stage]
  cases sending with
  | none =>
    have hverdict : u.verdict? run.password (.invite result) = none := by
      cases result <;> simp [verdict?, hsending]
    rw [hverdict]
    refine follows_same current stage ?_ rfl rfl
    simp only [step, current, Option.elim_some, stepRun, stage]
  | some sending =>
    have hstep : u.step (.invite result) = u.invited run base invitation sending result := by
      simp only [step, current, Option.elim_some, stepRun, stage]
    have hwaits (waits : u.invited run base invitation sending result =
        (u.enter run (.inviting base invitation none), [.send sending.toBytes])) :
        u.Follows run base invitation (some sending) (.invite result) none := by
      refine follows_quiet ?_ rfl rfl
      rw [hstep, waits]
      rfl
    cases result with
    | ok => exact hwaits rfl
    | error error =>
      cases hrefusal : error.isRefusal with
      | true =>
        simp only [verdict?, hsending, hrefusal, Option.isSome_some, Bool.not_true, Bool.and_false,
          Bool.false_eq_true, if_false]
        refine hwaits ?_
        simp only [invited, hrefusal, if_true]
      | false =>
        have hend : u.step (.invite (.error error)) = ((u.failSystem error).1,
            [.send sending.toBytes] ++ (u.failSystem error).2) := by
          simp only [hstep, invited, hrefusal, Bool.false_eq_true, if_false, List.singleton_append]
        simp only [verdict?, hsending, hrefusal, Option.isSome_some, Bool.not_false, Bool.and_self,
          if_true]
        exact follows_end _ hend

private theorem follows_noticeCancel (current : u.run = some run)
    (stage : run.stage = .inviting base invitation sending) :
    u.Follows run base invitation sending .noticeCancel none := by
  cases hrequested : u.session.cancelRequested with
  | true =>
    refine .stopped hrequested ?_
    simp only [step, current, Option.elim_some, stepRun, stage, hrequested, if_true]
    rfl
  | false =>
    refine follows_same current stage ?_ rfl rfl
    simp only [step, current, Option.elim_some, stepRun, stage, hrequested, Bool.false_eq_true,
      if_false]

theorem follows_of_inviting (shown : u.Shown) (current : u.run = some run)
    (stage : run.stage = .inviting base invitation sending) (action : Action) :
    u.Follows run base invitation sending action (u.verdict? run.password action) := by
  cases action with
  | start host image password =>
    have hrunning := shown.claims run current
    refine follows_same current stage ?_ rfl rfl
    simp only [step, WifiUpdater.start, Session.start_of_running hrunning]
  | cancel => exact follows_same current stage rfl rfl rfl
  | drop =>
    refine .dropped ?_
    simp only [step, current, Option.elim_some, stepRun]
  | answer answer =>
    refine follows_same current stage ?_ rfl rfl
    cases answer <;> simp only [step, current, Option.elim_some, stepRun, proceed, fail, stage]
  | datagram received =>
    cases received with
    | ok data => exact follows_datagram current stage data
    | error error => exact follows_datagramError current stage error
  | compose => exact follows_compose current stage
  | invite result => exact follows_invite current stage result
  | accepted | settled =>
    refine follows_same current stage ?_ rfl rfl
    simp only [step, current, Option.elim_some, stepRun, stage]
  | timeout =>
    have hend : u.step .timeout =
        u.finish (.error (.handshakeTimeout u.settings.handshakeTimeout.toMillis)) := by
      simp only [step, current, Option.elim_some, stepRun, timeOut, stage]
    exact follows_end [] hend
  | noticeCancel => exact follows_noticeCancel current stage

/-- None of some actions decides anything, each where it is taken. -/
def Undecided (u : WifiUpdater) (password : Option String) : List Action → Prop
  | [] => True
  | action :: actions =>
    u.verdict? password action = none ∧ (u.step action).1.Undecided password actions

private theorem shown_step (shown : u.Shown) (action : Action) : (u.step action).1.Shown :=
  shown_of_moves shown (moves_step u action)

/-! ### Requests to stop -/

/-- A request to stop was accepted. -/
def Requested (seen : List Output) : Prop := .cancelled (.ok ()) ∈ seen

private theorem cancels_of_cancelled (move : Moves now action next outputs)
    {result : Except LinkError Unit}
    (told : .cancelled result ∈ outputs) : result = now.session.cancel.1 ∧
      next.session = now.session.cancel.2 := by
  cases move with
  | cancel =>
    obtain rfl : result = _ := by simpa using told
    exact ⟨rfl, rfl⟩
  | fail current fails => cases fails <;> simp at told
  | transfer => obtain ⟨operation, ⟨⟩⟩ := run_of_mem_transfer told
  | chunkWritten => obtain ⟨operation, ⟨⟩⟩ := run_of_mem_chunkWritten told
  | _ => simp at told

private theorem unrequested_of_moves (h : now.session.cancelRequested = false)
    (move : Moves now action next outputs) (unrequested : ¬ Requested outputs) :
    next.session.cancelRequested = false := by
  cases move with
  | begin | reject => rfl
  | cancel =>
    have hrefused : now.session.cancel.1 ≠ .ok () := fun accepted =>
      unrequested (accepted ▸ List.mem_singleton_self _)
    exact (congrArg Session.cancelRequested (Session.cancel_refused hrefused)).trans h
  | transfer => exact (cancelRequested_transfer ..).trans h
  | chunkWritten => exact (cancelRequested_chunkWritten ..).trans h
  | _ => exact h

theorem unrequested_run {actions : List Action} (h : u.session.cancelRequested = false)
    (unrequested : ¬ Requested (u.runEach actions).2) :
    (u.runEach actions).1.session.cancelRequested = false := by
  induction actions generalizing u with
  | nil => exact h
  | cons action actions ih =>
    rw [runEach_cons, Requested, List.mem_append, not_or] at unrequested
    exact ih (unrequested_of_moves h (moves_step u action) unrequested.1) unrequested.2

private theorem run_of_lasts {actions : List Action} (lasts : u.Lasts actions) :
    (u.runEach actions).1.run ≠ none := by
  induction actions generalizing u with
  | nil => exact lasts
  | cons action actions ih => exact ih lasts.2

theorem requested_of_lasts {actions : List Action} (shown : u.Shown) (lasts : u.Lasts actions)
    (requested : Requested (u.runEach actions).2) :
    (u.runEach actions).1.session.cancelRequested = true := by
  induction actions using List.reverseRecOn with
  | nil => cases requested
  | append_singleton actions action ih =>
    have hbefore := (lasts_snoc.mp lasts).1
    obtain ⟨run, current⟩ := Option.ne_none_iff_exists'.mp (run_of_lasts hbefore)
    have hrunning := (shown_run shown actions).claims run current
    rw [runEach_snoc] at requested ⊢
    rcases List.mem_append.mp requested with earlier | now
    · have hkept := ih hbefore earlier
      cases action with
      | start host image password =>
        simp only [step, WifiUpdater.start, Session.start_of_running hrunning]
        exact hkept
      | _ => exact requested_of_moves hkept (moves_step _ _) (by simp)
    · obtain ⟨haccepted, hnext⟩ := cancels_of_cancelled (moves_step _ action) now
      rw [hnext]
      exact Session.requested_of_accepted hrunning haccepted.symm

/-! ### How the inviting ends -/

private theorem inviting_of_undecided {actions : List Action} (shown : u.Shown)
    (current : u.run = some run) (stage : run.stage = .inviting base invitation sending)
    (quiet : u.Undecided run.password actions) (unrequested : u.session.cancelRequested = false)
    (unasked : ¬ Requested (u.runEach actions).2) :
    u.Lasts actions ∧ ∃ run' invitation' sending', (u.runEach actions).1.run = some run' ∧
      run'.stage = .inviting base invitation' sending' ∧ run'.password = run.password := by
  induction actions generalizing u run invitation sending with
  | nil =>
    have hthere : u.run ≠ none := by simp [current]
    exact ⟨hthere, run, invitation, sending, current, stage, rfl⟩
  | cons action actions ih =>
    have hfollows := follows_of_inviting shown current stage action
    rw [quiet.1] at hfollows
    rw [runEach_cons, Requested, List.mem_append, not_or] at unasked
    cases hfollows with
    | stopped requested => exact absurd (requested.symm.trans unrequested) nofun
    | undecided hrun' hstage' _ hpassword' =>
      have hrest := quiet.2
      rw [← hpassword'] at hrest ⊢
      obtain ⟨hlasts, hbehind⟩ := ih (shown_step shown action) hrun' hstage' hrest
        (unrequested_of_moves unrequested (moves_step u action) unasked.1) unasked.2
      exact ⟨⟨by simp [current], hlasts⟩, hbehind⟩

/-- The run gets through to where it waits for the connection of its device. -/
def Succeeds (u : WifiUpdater) (actions : List Action) : Prop :=
  ∃ first rest, actions = first ++ rest ∧ u.Lasts first ∧ (u.runEach first).1.At .accepting

/-- The device is heard to accept before anything else is decided. -/
def Accepts (u : WifiUpdater) (password : Option String) (actions : List Action) : Prop :=
  ∃ quiet data rest, actions = quiet ++ .datagram (.ok data) :: rest ∧
    u.Undecided password quiet ∧ Reply.ofBytes (data.take datagramLimit) = .accepted

private theorem verdict?_of_accepted (u : WifiUpdater) (password : Option String) {data : Bytes}
    (reply : Reply.ofBytes (data.take datagramLimit) = .accepted) :
    u.verdict? password (.datagram (.ok data)) = some .accepted := by
  simp only [verdict?, reply]

theorem accepts_of_succeeds {actions : List Action} (shown : u.Shown) (current : u.run = some run)
    (stage : run.stage = .inviting base invitation sending) (succeeds : u.Succeeds actions) :
    u.Accepts run.password actions := by
  obtain ⟨first, rest, rfl, hlasts, hat⟩ := succeeds
  induction first generalizing u run invitation sending with
  | nil =>
    obtain ⟨other, hother, hstage⟩ := hat
    obtain rfl : other = run := Option.some.inj (hother.symm.trans current)
    rw [stage] at hstage
    cases hstage
  | cons action first ih =>
    have hfollows := follows_of_inviting shown current stage action
    cases hverdict : u.verdict? run.password action with
    | none =>
      rw [hverdict] at hfollows
      cases hfollows with
      | stopped _ gone => exact absurd gone (lasts_cons_run hlasts)
      | undecided hrun' hstage' _ hpassword' =>
        obtain ⟨quiet, data, behind, hsplit, hquiet, hreply⟩ :=
          ih (shown_step shown action) hrun' hstage' hlasts.2 hat
        refine ⟨action :: quiet, data, behind, ?_, ⟨hverdict, hpassword' ▸ hquiet⟩, hreply⟩
        rw [List.cons_append, hsplit, List.cons_append]
    | some verdict =>
      rw [hverdict] at hfollows
      cases hfollows with
      | accepted _ _ _ _ taken reply =>
        exact ⟨[], _, first ++ rest, congrArg (· :: (first ++ rest)) taken, trivial, reply⟩
      | failed gone => exact absurd gone (lasts_cons_run hlasts)
      | dropped gone => exact absurd gone (lasts_cons_run hlasts)

section Decided

variable {quiet : List Action}

theorem succeeds_of_accepted (shown : u.Shown) (current : u.run = some run)
    (stage : run.stage = .inviting base invitation sending)
    (undecided : u.Undecided run.password quiet) (unrequested : u.session.cancelRequested = false)
    (unasked : ¬ Requested (u.runEach quiet).2) {data : Bytes}
    (reply : Reply.ofBytes (data.take datagramLimit) = .accepted) (rest : List Action) :
    u.Succeeds (quiet ++ .datagram (.ok data) :: rest) := by
  obtain ⟨hlasts, run', invitation', sending', hrun', hstage', -⟩ :=
    inviting_of_undecided shown current stage undecided unrequested unasked
  have hfollows :=
    follows_of_inviting (shown_run shown quiet) hrun' hstage' (.datagram (.ok data))
  rw [verdict?_of_accepted _ _ reply] at hfollows
  cases hfollows with
  | @accepted run'' _ hrun'' hstage'' =>
    refine ⟨quiet ++ [.datagram (.ok data)], rest, by simp, lasts_snoc.mpr ⟨hlasts, ?_⟩, ?_⟩
    · simp [hrun'']
    · rw [runEach_snoc]
      exact ⟨run'', hrun'', hstage''⟩

theorem fails_of_undecided {error : LinkError} (shown : u.Shown)
    (current : u.run = some run) (stage : run.stage = .inviting base invitation sending)
    (undecided : u.Undecided run.password quiet) (unrequested : u.session.cancelRequested = false)
    (unasked : ¬ Requested (u.runEach quiet).2)
    (decides : (u.runEach quiet).1.verdict? run.password action = some (.failed error)) :
    ((u.runEach quiet).1.step action).1.run = none ∧
      .finished (.error error) ∈ ((u.runEach quiet).1.step action).2 := by
  obtain ⟨-, run', invitation', sending', hrun', hstage', hpassword'⟩ :=
    inviting_of_undecided shown current stage undecided unrequested unasked
  have hfollows := follows_of_inviting (shown_run shown quiet) hrun' hstage' action
  rw [hpassword', decides] at hfollows
  cases hfollows with
  | failed gone told => exact ⟨gone, told⟩

end Decided

end WifiUpdater

end RadioLink.Update
