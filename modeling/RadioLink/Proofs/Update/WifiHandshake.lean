import RadioLink.Proofs.Update.WifiInviting

/-!
The gate in front of a transfer over WiFi. What a run knows at each of its stages is a fact about
the actions behind its start: the port that it listens on, what it has heard, that its device has
accepted, that a peer has connected. Nothing of the image is written at any stage ahead of the last.
-/

set_option autoImplicit false
set_option relaxedAutoImplicit false

namespace RadioLink.Update.WifiUpdater

variable {u now next : WifiUpdater} {run : WifiRun} {action : Action} {actions : List Action}
  {outputs : List Output} {image : Bytes} {password : Option String} {port : UInt16}

/-! ### What lies behind a stage -/

/-- The listener of the run was opened on a port. -/
inductive ListensOn (u : WifiUpdater) : List Action → UInt16 → Prop
  | opened {actions : List Action} {port : UInt16} (opens : (u.runEach actions).1.At .openingPort) :
      ListensOn u (actions ++ [.answer (.ok (.port port))]) port
  | later {actions : List Action} {port : UInt16} (action : Action)
      (earlier : ListensOn u actions port) : ListensOn u (actions ++ [action]) port

/-- The invitation that is being sent was taken behind the first of these actions, and no sending
has ended since. -/
inductive Composed (u : WifiUpdater) (sofar : List Action) : List Action → Prop
  | taken (invites : (u.runEach sofar).1.IsInviting)
      (idle : (u.runEach sofar).1.isSending = false) : Composed u sofar (sofar ++ [.compose])
  | later {actions : List Action} {action : Action} (earlier : Composed u sofar actions)
      (unsent : ∀ result, action ≠ .invite result) : Composed u sofar (actions ++ [action])

/-- The device was heard to accept while the run invited it, and the run has waited for its
connection since: its time was not over, and no request to stop was noticed. -/
inductive Awaited (u : WifiUpdater) : List Action → Prop
  | accepted {actions : List Action} {data : Bytes} (invites : (u.runEach actions).1.IsInviting)
      (reply : Reply.ofBytes (data.take datagramLimit) = .accepted) :
      Awaited u (actions ++ [.datagram (.ok data)])
  | wait {actions : List Action} {action : Action} (earlier : Awaited u actions)
      (waits : (u.runEach actions).1.At .accepting) (inTime : action ≠ .timeout)
      (unstopped : action = .noticeCancel →
        (u.runEach actions).1.session.cancelRequested = false) : Awaited u (actions ++ [action])

/-- A peer has connected while the run waited for it. -/
inductive Joined (u : WifiUpdater) : List Action → Prop
  | joined {actions : List Action} (awaited : Awaited u actions)
      (waits : (u.runEach actions).1.At .accepting) : Joined u (actions ++ [.accepted (.ok ())])
  | later {actions : List Action} (action : Action) (earlier : Joined u actions) :
      Joined u (actions ++ [action])

private theorem composed_snoc {sofar : List Action}
    (composed : Composed u sofar (actions ++ [action])) :
    (sofar = actions ∧ action = .compose) ∨ Composed u sofar actions := by
  generalize hsplit : actions ++ [action] = all at composed
  cases composed with
  | taken =>
    obtain ⟨rfl, hlast⟩ := List.append_inj' hsplit rfl
    exact .inl ⟨rfl, List.head_eq_of_cons_eq hlast⟩
  | later earlier =>
    obtain ⟨rfl, -⟩ := List.append_inj' hsplit rfl
    exact .inr earlier

private theorem compose_mem {sofar : List Action} (composed : Composed u sofar actions) :
    .compose ∈ actions := by
  induction composed with
  | taken => simp
  | later _ _ ih => exact List.mem_append_left _ ih

private theorem listensOn_snoc :
    ListensOn u (actions ++ [action]) port ↔ ListensOn u actions port ∨
      (u.runEach actions).1.At .openingPort ∧ action = .answer (.ok (.port port)) := by
  constructor
  · intro h
    generalize hsplit : actions ++ [action] = all at h
    cases h with
    | opened opens =>
      obtain ⟨rfl, hlast⟩ := List.append_inj' hsplit rfl
      exact .inr ⟨opens, List.head_eq_of_cons_eq hlast⟩
    | later last earlier =>
      obtain ⟨rfl, -⟩ := List.append_inj' hsplit rfl
      exact .inl earlier
  · rintro (h | ⟨hat, rfl⟩)
    · exact .later action h
    · exact .opened hat

def Listens (u : WifiUpdater) (actions : List Action) (port : UInt16) : Prop :=
  ∀ other, ListensOn u actions other ↔ other = port

private theorem Listens.later (listens : Listens u actions port)
    (away : ¬ (u.runEach actions).1.At .openingPort) : Listens u (actions ++ [action]) port := by
  intro other
  rw [listensOn_snoc, listens other]
  exact or_iff_left fun h => away h.1

def invitationTo (port : UInt16) (image : Bytes) : Invitation :=
  .flash port image.length (md5Hex image)

/-- The invitation that is being sent is as it was when it was taken. -/
private def Carried (u : WifiUpdater) (image : Bytes) (password : Option String)
    (actions : List Action) (port : UInt16) (sending : Invitation) : Prop :=
  ∃ sofar, Composed u sofar actions ∧ Listens u sofar port ∧
    sending = (invitationTo port image).behind password (u.heard sofar)

/-- What lies behind a run, stage by stage. -/
def Behind (u : WifiUpdater) (image : Bytes) (password : Option String) (actions : List Action) :
    WifiStage → Prop
  | .resolving => (∀ port, ¬ ListensOn u actions port) ∧ u.heard actions = []
  | .openingPort => (∀ port, ¬ ListensOn u actions port) ∧ u.heard actions = []
  | .openingDatagrams base => ∃ port, Listens u actions port ∧ base = invitationTo port image ∧
      u.heard actions = []
  | .inviting base invitation sending => ∃ port, Listens u actions port ∧
      base = invitationTo port image ∧ invitation = base.behind password (u.heard actions) ∧
      ∀ carried, sending = some carried → Carried u image password actions port carried
  | .accepting => Awaited u actions
  | _ => Joined u actions

/-! ### Steps -/

/-- How a run gets on from a stage. -/
inductive Advance (image : Bytes) : WifiStage → Action → WifiStage → Prop
  | stay (stage : WifiStage) (action : Action) : Advance image stage action stage
  | resolved (action : Action) : Advance image .resolving action .openingPort
  | opened (port : UInt16) :
      Advance image .openingPort (.answer (.ok (.port port)))
        (.openingDatagrams (invitationTo port image))
  | invite (base : Invitation) (action : Action) :
      Advance image (.openingDatagrams base) action (.inviting base base none)
  | heard (base invitation : Invitation) (sending : Option Invitation) (action : Action)
      (behind : WifiStage) : Advance image (.inviting base invitation sending) action behind
  | joined : Advance image .accepting (.accepted (.ok ())) .tuning
  | transfer {stage behind : WifiStage} (action : Action)
      (joined : stage = .tuning ∨ stage.isTransfer = true) (transfers : behind.isTransfer = true) :
      Advance image stage action behind

/-- What becomes of a run. -/
private def Becomes (run : WifiRun) (action : Action) (next : WifiUpdater) : Prop :=
  ∀ run', next.run = some run' → run'.image = run.image ∧ run'.password = run.password ∧
    Advance run.image run.stage action run'.stage

private theorem becomes_of_some {run' : WifiRun} (now' : next.run = some run')
    (image : run'.image = run.image) (password : run'.password = run.password)
    (advance : Advance run.image run.stage action run'.stage) : Becomes run action next :=
  forall_of_some now' ⟨image, password, advance⟩

private theorem becomes_of_moves (shown : now.Shown) (current : now.run = some run)
    (move : Moves now action next outputs) : Becomes run action next := by
  have hrunning := shown.claims run current
  cases move with
  | idle | refuse | cancel => exact becomes_of_some current rfl rfl (.stay _ _)
  | begin _ _ idle => exact absurd (idle.symm.trans hrunning) (by decide)
  | reject _ _ idle => exact absurd (idle.symm.trans hrunning) (by decide)
  | drop | fail | complete => exact forall_of_none rfl
  | listen current' stage =>
    obtain rfl := Option.some.inj (current.symm.trans current')
    exact becomes_of_some rfl rfl rfl (stage ▸ .resolved _)
  | openDatagrams port current' stage =>
    obtain rfl := Option.some.inj (current.symm.trans current')
    exact becomes_of_some rfl rfl rfl (stage ▸ .opened port)
  | opened _ current' stage =>
    obtain rfl := Option.some.inj (current.symm.trans current')
    exact becomes_of_some rfl rfl rfl (stage ▸ .invite _ _)
  | compose current' stage | invite current' stage | answerChallenge current' stage
    | prepare current' stage | accept current' stage =>
    obtain rfl := Option.some.inj (current.symm.trans current')
    refine becomes_of_some rfl rfl rfl ?_
    rw [stage]
    exact .heard _ _ _ _ _
  | connect current' stage =>
    obtain rfl := Option.some.inj (current.symm.trans current')
    exact becomes_of_some rfl rfl rfl (stage ▸ .joined)
  | @transfer other yielded current' stage =>
    obtain rfl := Option.some.inj (current.symm.trans current')
    obtain ⟨behind, operation, htransfers, heq⟩ := now.transfer_eq run
    rw [heq]
    exact becomes_of_some rfl rfl rfl (.transfer _ (.inl stage) htransfers)
  | @chunkWritten other chunk rest index sent yielded current' stage =>
    obtain rfl := Option.some.inj (current.symm.trans current')
    obtain ⟨session, behind, operation, htransfers, -, heq⟩ :=
      now.chunkWritten_eq run index (sent + chunk.length) rest
    rw [heq]
    exact becomes_of_some rfl rfl rfl (.transfer _ (.inr (by rw [stage]; rfl)) htransfers)
  | imageSent _ current' stage | close current' stage =>
    obtain rfl := Option.some.inj (current.symm.trans current')
    exact becomes_of_some rfl rfl rfl (.transfer _ (.inr (by rw [stage]; rfl)) rfl)

private theorem run_step_port (current : u.run = some run) (stage : run.stage = .openingPort)
    (port : UInt16) : ¬ (u.step (.answer (.ok (.port port)))).1.At .openingPort := by
  have hstep : (u.step (.answer (.ok (.port port)))).1.run =
      some { run with stage := .openingDatagrams (invitationTo port run.image) } := by
    simp only [step, current, Option.elim_some, stepRun, proceed, stage]
    rfl
  rintro ⟨run', hrun', hstage'⟩
  obtain rfl := Option.some.inj (hrun'.symm.trans hstep)
  cases hstage'

private theorem inTime_of_accepting (current : u.run = some run) (stage : run.stage = .accepting)
    (goes : (u.step action).1.run ≠ none) :
    action ≠ .timeout ∧ (action = .noticeCancel → u.session.cancelRequested = false) := by
  constructor
  · rintro rfl
    apply goes
    simp only [step, current, Option.elim_some, stepRun, timeOut, stage]
    rfl
  · rintro rfl
    by_contra hrequested
    rw [Bool.not_eq_false] at hrequested
    apply goes
    simp only [step, current, Option.elim_some, stepRun, stage, hrequested, if_true]
    rfl

private theorem not_at_of_stage (current : u.run = some run) {stage : WifiStage}
    (ne : run.stage ≠ stage) : ¬ u.At stage := by
  rintro ⟨other, hother, hstage⟩
  obtain rfl := Option.some.inj (hother.symm.trans current)
  exact ne hstage

private theorem not_inviting_of_stage (current : u.run = some run)
    (ne : ∀ base invitation sending, run.stage ≠ .inviting base invitation sending) :
    ¬ u.IsInviting := by
  rintro ⟨base, invitation, sending, hat⟩
  exact not_at_of_stage current (ne base invitation sending) hat

private theorem heard_of_away (away : ¬ (u.runEach actions).1.IsInviting) :
    u.heard (actions ++ [action]) = u.heard actions := by
  rw [heard_snoc, reply?_of_not_inviting away, Option.toList_none, List.append_nil]

private theorem behind_of_transfer {stage : WifiStage} (transfers : stage.isTransfer = true)
    (joined : Joined u actions) : Behind u image password actions stage := by
  cases stage with
  | sending | flushing | settling | closing => exact joined
  | _ => cases transfers

private theorem unlearnt (current : (u.runEach actions).1.run = some run)
    (closed : run.stage ≠ .openingPort)
    (away : ∀ base invitation sending, run.stage ≠ .inviting base invitation sending)
    (action : Action) :
    (∀ port, ListensOn u (actions ++ [action]) port ↔ ListensOn u actions port) ∧
      u.heard (actions ++ [action]) = u.heard actions := by
  refine ⟨fun port => ?_, heard_of_away (not_inviting_of_stage current away)⟩
  rw [listensOn_snoc]
  exact or_iff_left fun h => not_at_of_stage current closed h.1

private theorem behind_openingPort {run' : WifiRun}
    (behind : Behind u image password actions .openingPort)
    (current : (u.runEach actions).1.run = some run) (stage : run.stage = .openingPort)
    (current' : ((u.runEach actions).1.step action).1.run = some run')
    (advance : Advance image .openingPort action run'.stage) :
    Behind u image password (actions ++ [action]) run'.stage := by
  obtain ⟨hports, hheard⟩ := behind
  have hheard' : u.heard (actions ++ [action]) = [] :=
    (heard_of_away (not_inviting_of_stage current (by simp [stage]))).trans hheard
  have hat : (u.runEach actions).1.At .openingPort := ⟨run, current, stage⟩
  generalize hstage' : run'.stage = stage' at advance ⊢
  cases advance with
  | stay =>
    refine ⟨fun port hlistens => ?_, hheard'⟩
    rcases listensOn_snoc.mp hlistens with h | ⟨-, rfl⟩
    · exact hports port h
    · exact run_step_port current stage port ⟨run', current', hstage'⟩
  | opened port =>
    refine ⟨port, fun other => ?_, rfl, hheard'⟩
    rw [listensOn_snoc]
    constructor
    · rintro (h | ⟨-, heq⟩)
      · exact absurd h (hports other)
      · cases heq
        rfl
    · rintro rfl
      exact .inr ⟨hat, rfl⟩
  | transfer _ joined => rcases joined with h | h <;> cases h

private theorem sendingBehind_eq_some {invitation carried : Invitation}
    {sending : Option Invitation}
    (carries : sendingBehind invitation sending action = some carried) :
    (action = .compose ∧ sending = none ∧ carried = invitation) ∨
      (sending = some carried ∧ ∀ result, action ≠ .invite result) := by
  cases action with
  | compose =>
    cases sending with
    | none => exact .inl ⟨rfl, rfl, (Option.some.inj carries).symm⟩
    | some sending => exact .inr ⟨carries, nofun⟩
  | invite => cases carries
  | _ => exact .inr ⟨carries, nofun⟩

private theorem carried_step {base invitation carried : Invitation} {sending : Option Invitation}
    (current : (u.runEach actions).1.run = some run)
    (stage : run.stage = .inviting base invitation sending) (listens : Listens u actions port)
    (answers : invitation = (invitationTo port image).behind password (u.heard actions))
    (earlier : ∀ carried, sending = some carried → Carried u image password actions port carried)
    (carries : sendingBehind invitation sending action = some carried) :
    Carried u image password (actions ++ [action]) port carried := by
  rcases sendingBehind_eq_some carries with ⟨rfl, rfl, rfl⟩ | ⟨rfl, hunsent⟩
  · have hidle : (u.runEach actions).1.isSending = false := by
      simp only [isSending, current, Option.any_some, stage, Option.isSome_none]
    exact ⟨actions, .taken ⟨base, _, _, run, current, stage⟩ hidle, listens, answers⟩
  · obtain ⟨sofar, hcomposed, htaken⟩ := earlier carried rfl
    exact ⟨sofar, .later hcomposed hunsent, htaken⟩

private theorem behind_inviting {run' : WifiRun} {base invitation : Invitation}
    {sending : Option Invitation}
    (behind : Behind u image password actions (.inviting base invitation sending))
    (shown : (u.runEach actions).1.Shown) (current : (u.runEach actions).1.run = some run)
    (stage : run.stage = .inviting base invitation sending) (password' : run.password = password)
    (current' : ((u.runEach actions).1.step action).1.run = some run') :
    Behind u image password (actions ++ [action]) run'.stage := by
  obtain ⟨port, hlistens, rfl, hinvitation, hcarried⟩ := behind
  subst password'
  have hfollows := follows_of_inviting shown current stage action
  cases hverdict : (u.runEach actions).1.verdict? run.password action with
  | none =>
    rw [hverdict] at hfollows
    cases hfollows with
    | stopped _ gone => exact absurd (current'.symm.trans gone) nofun
    | undecided hrun hstage _ _ answers =>
      obtain rfl := Option.some.inj (current'.symm.trans hrun)
      rw [hstage]
      refine ⟨port, hlistens.later (not_at_of_stage current (by simp [stage])), rfl, ?_,
        fun carried => carried_step current stage hlistens hinvitation hcarried⟩
      rw [heard_snoc]
      exact answers _ hinvitation
  | some verdict =>
    rw [hverdict] at hfollows
    cases hfollows with
    | accepted hrun hstage _ _ taken reply =>
      obtain rfl := Option.some.inj (current'.symm.trans hrun)
      rw [hstage, taken]
      exact .accepted ⟨_, invitation, sending, run, current, stage⟩ reply
    | failed gone => exact absurd (current'.symm.trans gone) nofun
    | dropped gone => exact absurd (current'.symm.trans gone) nofun

private theorem behind_step (shown : (u.runEach actions).1.Shown)
    (current : (u.runEach actions).1.run = some run) (image' : run.image = image)
    (password' : run.password = password) (behind : Behind u image password actions run.stage)
    (goes : ((u.runEach actions).1.step action).1.run ≠ none) :
    ∃ run', ((u.runEach actions).1.step action).1.run = some run' ∧ run'.image = image ∧
      run'.password = password ∧ Behind u image password (actions ++ [action]) run'.stage := by
  obtain ⟨run', hrun'⟩ := Option.ne_none_iff_exists'.mp goes
  obtain ⟨himage, hpassword, hadvance⟩ :=
    becomes_of_moves shown current (moves_step _ action) run' hrun'
  refine ⟨run', hrun', himage.trans image', hpassword.trans password', ?_⟩
  rw [image'] at hadvance
  cases hstage : run.stage with
  | openingPort =>
    rw [hstage] at behind hadvance
    exact behind_openingPort behind current hstage hrun' hadvance
  | inviting base invitation sending =>
    rw [hstage] at behind
    exact behind_inviting behind shown current hstage password' hrun'
  | resolving =>
    obtain ⟨hports, hheard⟩ := unlearnt current (by simp [hstage]) (by simp [hstage]) action
    rw [hstage] at behind hadvance
    have hnone : (∀ port, ¬ ListensOn u (actions ++ [action]) port) ∧
        u.heard (actions ++ [action]) = [] :=
      ⟨fun port => mt (hports port).mp (behind.1 port), hheard.trans behind.2⟩
    generalize run'.stage = stage' at hadvance ⊢
    cases hadvance with
    | stay => exact hnone
    | resolved => exact hnone
    | transfer _ joined => rcases joined with h | h <;> cases h
  | openingDatagrams base =>
    obtain ⟨hports, hheard⟩ := unlearnt current (by simp [hstage]) (by simp [hstage]) action
    rw [hstage] at behind hadvance
    obtain ⟨port, hlistens, hbase, hnone⟩ := behind
    have hlistens' : Listens u (actions ++ [action]) port := fun other =>
      (hports other).trans (hlistens other)
    generalize run'.stage = stage' at hadvance ⊢
    cases hadvance with
    | stay => exact ⟨port, hlistens', hbase, hheard.trans hnone⟩
    | invite =>
      refine ⟨port, hlistens', hbase, ?_, nofun⟩
      rw [hheard, hnone]
      cases password <;> rfl
    | transfer _ joined => rcases joined with h | h <;> cases h
  | accepting =>
    obtain ⟨hinTime, hunstopped⟩ := inTime_of_accepting current hstage goes
    have hat : (u.runEach actions).1.At .accepting := ⟨run, current, hstage⟩
    rw [hstage] at behind hadvance
    generalize run'.stage = stage' at hadvance ⊢
    cases hadvance with
    | stay => exact .wait behind hat hinTime hunstopped
    | joined => exact .joined behind hat
    | transfer _ joined => rcases joined with h | h <;> cases h
  | tuning | sending | flushing | settling | closing =>
    rw [hstage] at behind hadvance
    generalize run'.stage = stage' at hadvance ⊢
    cases hadvance with
    | stay => exact .later action behind
    | transfer _ _ transfers => exact behind_of_transfer transfers (.later action behind)

/-! ### The whole run -/

variable {host : String}

def begun (u : WifiUpdater) (host : String) (image : Bytes) (password : Option String) :
    WifiUpdater :=
  (u.step (.start host image password)).1

theorem behind_of_lasts (idle : u.session.running = false) (nonempty : image ≠ [])
    (lasts : (u.begun host image password).Lasts actions) :
    ((u.begun host image password).runEach actions).1.Shown ∧
      ∃ run, ((u.begun host image password).runEach actions).1.run = some run ∧
        run.image = image ∧ run.password = password ∧
        Behind (u.begun host image password) image password actions run.stage := by
  have hshown := shown_begun idle nonempty host password
  refine ⟨hshown actions, ?_⟩
  induction actions using List.reverseRecOn with
  | nil =>
    have hbegun : u.begun host image password =
        { u with session := .claimed, run := some ⟨image, password, host, .resolving⟩ } := by
      rw [begun, step_start idle host nonempty password]
    rw [hbegun]
    refine ⟨_, rfl, rfl, rfl, fun port hlistens => ?_, rfl⟩
    generalize hempty : ([] : List Action) = all at hlistens
    cases hlistens <;> simp at hempty
  | append_singleton actions action ih =>
    obtain ⟨hbefore, hgoes⟩ := lasts_snoc.mp lasts
    obtain ⟨run, hrun, himage, hpassword, hbehind⟩ := ih hbefore
    rw [runEach_snoc]
    exact behind_step (hshown actions) hrun himage hpassword hbehind hgoes

private theorem sends_of_send (move : Moves now action next outputs) {datagram : Bytes}
    (sent : .send datagram ∈ outputs) : ∃ run base invitation sending, now.run = some run ∧
      run.stage = .inviting base invitation (some sending) ∧ datagram = sending.toBytes := by
  cases move with
  | invite current stage =>
    obtain rfl : datagram = _ := by simpa using sent
    exact ⟨_, _, _, _, current, stage, rfl⟩
  | fail current fails =>
    cases fails with
    | invitation error stage other =>
      obtain rfl : datagram = _ := by simpa using sent
      exact ⟨_, _, _, _, current, stage, rfl⟩
    | _ => simp at sent
  | transfer => obtain ⟨operation, ⟨⟩⟩ := run_of_mem_transfer sent
  | chunkWritten => obtain ⟨operation, ⟨⟩⟩ := run_of_mem_chunkWritten sent
  | _ => simp at sent

private theorem transfers_of_write (move : Moves now action next outputs) {data : Bytes}
    (written : .run (.write data) ∈ outputs) : ∃ run, now.run = some run ∧
      (run.stage = .tuning ∨ run.stage.isTransfer = true) := by
  cases move with
  | transfer _ current stage => exact ⟨_, current, .inl stage⟩
  | chunkWritten _ current stage => exact ⟨_, current, .inr (by rw [stage]; rfl)⟩
  | fail current fails => cases fails <;> simp at written
  | _ => simp at written

private theorem sent_of_lasts (idle : u.session.running = false) (nonempty : image ≠ [])
    {before : List Action} (lasts : (u.begun host image password).Lasts before) {datagram : Bytes}
    (sent : .send datagram ∈ (((u.begun host image password).runEach before).1.step action).2) :
    ∃ sofar port, Composed (u.begun host image password) sofar before ∧
      Listens (u.begun host image password) sofar port ∧
      datagram = ((invitationTo port image).behind password
        ((u.begun host image password).heard sofar)).toBytes := by
  obtain ⟨-, run, hrun, -, -, hbehind⟩ := behind_of_lasts idle nonempty lasts
  obtain ⟨other, base, invitation, sending, hother, hstage, rfl⟩ :=
    sends_of_send (moves_step _ action) sent
  obtain rfl := Option.some.inj (hother.symm.trans hrun)
  rw [hstage] at hbehind
  obtain ⟨port, -, -, -, hcarried⟩ := hbehind
  obtain ⟨sofar, hcomposed, hlistens, rfl⟩ := hcarried sending rfl
  exact ⟨sofar, port, hcomposed, hlistens, rfl⟩

private theorem joined_of_lasts (idle : u.session.running = false) (nonempty : image ≠ [])
    {before : List Action} (lasts : (u.begun host image password).Lasts before) {data : Bytes}
    (written : .run (.write data) ∈
      (((u.begun host image password).runEach before).1.step action).2) :
    Joined (u.begun host image password) before := by
  obtain ⟨-, run, hrun, -, -, hbehind⟩ := behind_of_lasts idle nonempty lasts
  obtain ⟨other, hother, hstage⟩ := transfers_of_write (moves_step _ action) written
  obtain rfl := Option.some.inj (hother.symm.trans hrun)
  obtain ⟨image', password', host', stage⟩ := other
  cases stage with
  | tuning | sending | flushing | settling | closing => exact hbehind
  | _ => rcases hstage with h | h <;> cases h

/-- How the inviting of its device gates what an update over WiFi sends. -/
structure Gated (u : WifiUpdater) (image : Bytes) (password : Option String) : Prop where
  /-- What goes out is an invitation as it was when it was taken to be sent: one to the port that
  the run listens on, with the answer to the latest challenge heard by then and to no other. -/
  sends : ∀ before action datagram, u.Lasts before →
    .send datagram ∈ ((u.runEach before).1.step action).2 →
    ∃ sofar port, Composed u sofar before ∧ Listens u sofar port ∧
      datagram = ((invitationTo port image).behind password (u.heard sofar)).toBytes
  /-- Nothing but a device that accepts lets a run through, and only ahead of all else that is
  decided. -/
  accepts : ∀ before actions, u.Lasts before → (u.runEach before).1.IsInviting →
    (u.runEach before).1.Succeeds actions → (u.runEach before).1.Accepts password actions
  /-- As long as no request to stop is accepted, the first that is decided counts: that the device
  accepts lets the run through, and anything else ends it with its own error. -/
  decides : ∀ before quiet, u.Lasts before → (u.runEach before).1.IsInviting →
    ¬ Requested (u.runEach (before ++ quiet)).2 →
    (u.runEach before).1.Undecided password quiet →
    (∀ data rest, Reply.ofBytes (data.take datagramLimit) = .accepted →
      (u.runEach before).1.Succeeds (quiet ++ .datagram (.ok data) :: rest)) ∧
    ∀ action error, (u.runEach (before ++ quiet)).1.verdict? password action =
        some (.failed error) →
      ((u.runEach (before ++ quiet)).1.step action).1.run = none ∧
        .finished (.error error) ∈ ((u.runEach (before ++ quiet)).1.step action).2
  /-- A run that was asked to stop does so where it notices. -/
  stops : ∀ before run, u.Lasts before → Requested (u.runEach before).2 →
    (u.runEach before).1.run = some run → run.stage.waits = true →
    ((u.runEach before).1.step .noticeCancel).2 = [.finished (.error .cancelled)]
  /-- Nothing of the image is written unless the run got through and a peer connected while it
  waited, in time and before it noticed a request to stop. -/
  writes : ∀ before action data, u.Lasts before →
    .run (.write data) ∈ ((u.runEach before).1.step action).2 → Joined u before

/-- An update over WiFi is gated by its handshake, whatever its device and the socket do, and
whenever the time is over or a request to stop comes in and is noticed. -/
theorem handshake_gates_transfer (idle : u.session.running = false) (nonempty : image ≠ [])
    (host : String) (password : Option String) :
    Gated (u.begun host image password) image password where
  sends before action datagram lasts sent := sent_of_lasts idle nonempty lasts sent
  accepts before actions lasts invites succeeds := by
    obtain ⟨hshown, run, hrun, -, rfl, -⟩ := behind_of_lasts idle nonempty lasts
    obtain ⟨base, invitation, sending, other, hother, hstage⟩ := invites
    obtain rfl := Option.some.inj (hother.symm.trans hrun)
    exact accepts_of_succeeds hshown hother hstage succeeds
  decides before quiet lasts invites unasked undecided := by
    obtain ⟨hshown, run, hrun, -, rfl, -⟩ := behind_of_lasts idle nonempty lasts
    obtain ⟨base, invitation, sending, other, hother, hstage⟩ := invites
    obtain rfl := Option.some.inj (hother.symm.trans hrun)
    have hbegun : (u.begun host image other.password).session.cancelRequested = false := by
      rw [begun, step_start idle host nonempty other.password]
      rfl
    rw [runEach_append, Requested, List.mem_append, not_or] at unasked
    have hunrequested := unrequested_run hbegun unasked.1
    refine ⟨fun data rest reply => ?_, fun action error decides => ?_⟩
    · exact succeeds_of_accepted hshown hother hstage undecided hunrequested unasked.2 reply rest
    · rw [runEach_append] at decides ⊢
      exact fails_of_undecided hshown hother hstage undecided hunrequested unasked.2 decides
  stops before run lasts requested current waits :=
    stops_where_it_waits current waits
      (requested_of_lasts (shown_begun idle nonempty host password []) lasts requested)
  writes before action data lasts written := joined_of_lasts idle nonempty lasts written

def challengeWith (digit : UInt8) : Action :=
  .datagram (.ok [0x41, 0x55, 0x54, 0x48, 0x20, digit])

def saysErasing : Action := .datagram (.ok [0x45, 0x52, 0x41, 0x53, 0x45])

def saysAccepted : Action := .datagram (.ok [0x4f, 0x4b])

/-- Of two challenges, with the erasing between them, an invitation that is taken behind both
answers the second one. -/
theorem handshake_gates_transfer_challenged :
    let begun := (initial {}).begun "radio" [1, 2, 3] (some "secret")
    let before := inviting ++ [challengeWith 0x31, saysErasing, challengeWith 0x32]
    (∀ datagram,
      .send datagram ∈ ((begun.runEach (before ++ [.compose])).1.step (.invite (.ok ()))).2 →
      ∃ port, Listens begun before port ∧ datagram =
        ((invitationTo port [1, 2, 3]).withAnswer (challengeAnswer "secret" "2")).toBytes) ∧
    (begun.runEach before).1.Succeeds [saysAccepted] ∧
    Joined begun (before ++ [saysAccepted, .accepted (.ok ())]) := by
  intro begun before
  have hgated : Gated begun [1, 2, 3] (some "secret") :=
    @handshake_gates_transfer (initial {}) [1, 2, 3] rfl (by simp) "radio" (some "secret")
  have hcomposing : begun.Lasts (before ++ [.compose]) := by
    refine ⟨?_, ?_, ?_, ?_, ?_, ?_, ?_, ?_⟩ <;> exact Option.some_ne_none _
  have hlasts : begun.Lasts before := (lasts_snoc.mp hcomposing).1
  have hheard : begun.heard before = [.challenge "1", .erasing, .challenge "2"] := rfl
  refine ⟨fun datagram sent => ?_, ?_, ?_⟩
  · obtain ⟨sofar, port, hcomposed, hlistens, rfl⟩ :=
      hgated.sends _ (.invite (.ok ())) datagram hcomposing sent
    have hbefore : .compose ∉ before := by
      simp [before, inviting, challengeWith, saysErasing]
    rcases composed_snoc hcomposed with ⟨rfl, -⟩ | earlier
    · refine ⟨port, hlistens, ?_⟩
      rw [hheard]
      rfl
    · exact absurd (compose_mem earlier) hbefore
  · have hunasked : ¬ Requested (begun.runEach (before ++ [])).2 := by
      have hseen : (begun.runEach (before ++ [])).2 =
          [.run (.listen (.v4 .unspecified)), .run .openDatagrams] := rfl
      rw [Requested, hseen]
      simp
    obtain ⟨hsucceeds, -⟩ :=
      hgated.decides before [] hlasts ⟨_, _, _, _, rfl, rfl⟩ hunasked trivial
    exact hsucceeds _ [] rfl
  · have hjoining : begun.Lasts (before ++ [saysAccepted, .accepted (.ok ())]) := by
      refine ⟨?_, ?_, ?_, ?_, ?_, ?_, ?_, ?_, ?_⟩ <;> exact Option.some_ne_none _
    exact hgated.writes _ (.answer (.ok .nothing)) [1, 2, 3] hjoining (.head _)

def acceptsAtFirst : Bytes := [0x4f, 0x4b] ++ List.replicate 1022 0x20 ++ [0x78]

/-- A device that accepts, and connects, before a request to stop is noticed gets the image,
although the request was accepted before. An invitation that was taken ahead of a challenge goes out
behind it without an answer. And a device is heard to accept by a datagram that says more. -/
theorem handshake_gate_gaps :
    (let begun := (initial {}).begun "radio" [1, 2, 3] none
     let asked := inviting ++ [.cancel]
     let joined := asked ++ [saysAccepted, .accepted (.ok ())]
     Requested (begun.runEach asked).2 ∧ (begun.runEach asked).1.Succeeds [saysAccepted] ∧
       ((begun.runEach joined).1.step (.answer (.ok .nothing))).2 = [.run (.write [1, 2, 3])]) ∧
    (let begun := (initial {}).begun "radio" [1, 2, 3] (some "secret")
     let before := inviting ++ [.compose, challengeWith 0x31]
     let base := invitationTo 50000 [1, 2, 3]
     begun.heard before = [.challenge "1"] ∧
       ((begun.runEach before).1.step (.invite (.ok ()))).2 = [.send base.toBytes] ∧
       base.toBytes ≠ (base.withAnswer (challengeAnswer "secret" "1")).toBytes) ∧
    (let begun := (initial {}).begun "radio" [1, 2, 3] none
     Reply.ofBytes acceptsAtFirst ≠ .accepted ∧
       (begun.runEach inviting).1.Succeeds [.datagram (.ok acceptsAtFirst)]) := by
  refine ⟨?_, ?_, ?_⟩
  · intro begun asked joined
    have hseen : (begun.runEach asked).2 =
        [.run (.listen (.v4 .unspecified)), .run .openDatagrams, .cancelled (.ok ())] := rfl
    have hlasts : (begun.runEach asked).1.Lasts [saysAccepted] :=
      ⟨Option.some_ne_none _, Option.some_ne_none _⟩
    refine ⟨?_, ⟨[saysAccepted], [], rfl, hlasts, _, rfl, rfl⟩, rfl⟩
    rw [Requested, hseen]
    simp
  · exact ⟨rfl, rfl, by decide +kernel⟩
  · intro begun
    have hshown : (begun.runEach inviting).1.Shown :=
      @shown_begun [1, 2, 3] (initial {}) rfl (by simp) "radio" none inviting
    have hheard : Reply.ofBytes (acceptsAtFirst.take datagramLimit) = .accepted := by
      decide +kernel
    have hquiet : (begun.runEach inviting).1.Undecided none [] := trivial
    have hunasked : ¬ Requested ((begun.runEach inviting).1.runEach []).2 := List.not_mem_nil
    exact ⟨by decide +kernel,
      succeeds_of_accepted hshown rfl rfl hquiet rfl hunasked hheard []⟩

end RadioLink.Update.WifiUpdater
