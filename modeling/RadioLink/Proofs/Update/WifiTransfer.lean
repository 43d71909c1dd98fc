import RadioLink.Proofs.Update.WifiAccount

/-!
How an image goes out over WiFi, operation by operation. Where a transfer stands is settled by how
many of its operations have been answered, and so is its account; what its callers do meanwhile
makes no difference to it.
-/

set_option autoImplicit false
set_option relaxedAutoImplicit false

namespace RadioLink.Update.WifiUpdater

variable {u now next : WifiUpdater} {run : WifiRun} {action : Action} {actions : List Action}
  {outputs : List Output} {settings : Config.WifiUpdate} {image : Bytes} {answers : Nat}
  {a : Account}

/-! ### Where a transfer stands -/

/-- The stage of a transfer of which so many operations have been answered. -/
inductive Reached (settings : Config.WifiUpdate) (image : Bytes) : Nat → WifiStage → Prop
  | tuning : Reached settings image 0 .tuning
  | sending {front rest : List Bytes} {chunk : Bytes}
      (cut : chunksOf settings image = front ++ chunk :: rest) :
      Reached settings image (front.length + 1)
        (.sending chunk rest (front.length + 1) front.flatten.length)
  | flushing : Reached settings image ((chunksOf settings image).length + 1) .flushing
  | settling {answers : Nat} (all : (chunksOf settings image).length + 2 ≤ answers) :
      Reached settings image answers .settling
  | closing {answers : Nat} (all : (chunksOf settings image).length + 2 ≤ answers) :
      Reached settings image answers .closing

/-- What is known of a transfer behind a number of answers. -/
structure Standing (settings : Config.WifiUpdate) (image : Bytes) (answers : Nat)
    (now : WifiUpdater) (a : Account) : Prop where
  kept : now.settings = settings
  run : ∃ run, now.run = some run ∧ run.image = image ∧ Reached settings image answers run.stage
  account : a = .behind settings image answers
  progress : now.session.status.progress = latest (Account.behind settings image answers).shown

private theorem reached_of_quiet (shown : now.Shown) (current : now.run = some run)
    (reached : Reached settings image answers run.stage) (move : Moves now action next outputs)
    (quiet : action.isAnswer = false) (held : action ≠ .drop) :
    (∃ run', next.run = some run' ∧ run'.image = run.image ∧
      Reached settings image answers run'.stage) ∧ written outputs = [] ∧
      next.session.status.progress = now.session.status.progress := by
  have hrunning := shown.claims run current
  cases move with
  | idle | refuse => exact ⟨⟨run, current, rfl, reached⟩, rfl, rfl⟩
  | begin _ _ idle | reject _ _ idle => exact absurd (idle.symm.trans hrunning) (by decide)
  | cancel =>
    exact ⟨⟨run, current, rfl, reached⟩, rfl, congrArg Status.progress (Session.cancel_status _)⟩
  | drop => exact absurd rfl held
  | listen | openDatagrams | opened | transfer | chunkWritten | imageSent | complete => cases quiet
  | fail current' fails =>
    obtain rfl := Option.some.inj (current.symm.trans current')
    cases fails with
    | operation | unresolved => cases quiet
    | invitation _ stage | datagram _ stage | challenged stage | accepted _ stage
      | unanswered stage | unconnected stage =>
      rw [stage] at reached
      cases reached
    | cancelled _ stage =>
      rcases stage with ⟨base, invitation, sending, stage⟩ | stage <;>
      · rw [stage] at reached
        cases reached
  | compose current' stage | invite current' stage | answerChallenge current' stage
    | prepare current' stage | accept current' stage | connect current' stage =>
    -- These stages lie ahead of the transfer.
    obtain rfl := Option.some.inj (current.symm.trans current')
    rw [stage] at reached
    cases reached
  | close current' stage =>
    obtain rfl := Option.some.inj (current.symm.trans current')
    rw [stage] at reached
    cases reached with
    | settling all => exact ⟨⟨_, rfl, rfl, .closing all⟩, rfl, rfl⟩

private theorem reached_sendNext (u : WifiUpdater) (run : WifiRun) {front rest : List Bytes}
    (cut : chunksOf settings image = front ++ rest) :
    (∃ run', (u.sendNext run front.length front.flatten.length rest).1.run = some run' ∧
      run'.image = run.image ∧ Reached settings image (front.length + 1) run'.stage) ∧
      written (u.sendNext run front.length front.flatten.length rest).2 = rest.take 1 := by
  cases rest with
  | nil =>
    have hlength : (chunksOf settings image).length = front.length := by
      rw [cut, List.append_nil]
    exact ⟨⟨_, rfl, rfl, hlength ▸ .flushing⟩, rfl⟩
  | cons chunk rest => exact ⟨⟨_, rfl, rfl, .sending cut⟩, rfl⟩

private theorem session_transfer (u : WifiUpdater) (run : WifiRun) :
    (u.transfer run).1.session = (u.present .transferring
      "Please stay on this screen while update completes...").session := by
  rw [transfer]
  cases chunks (max u.settings.chunkSize.toNat 1) run.image <;> rfl

private theorem session_chunkWritten (u : WifiUpdater) (run : WifiRun) (index sent : Nat)
    (rest : List Bytes) :
    (u.chunkWritten run index sent rest).1.session =
      if index % max u.settings.progressEvery.toNat 1 = 0 then
        u.session.setProgress (.sent sent run.image.length)
      else u.session := by
  cases rest <;> rfl

private theorem progress?_of_same
    (same : (u.step action).1.session.status.progress = u.session.status.progress) :
    u.progress? action = none := if_pos same

private theorem progress?_of_new {progress : Progress}
    (shows : (u.step action).1.session.status.progress = progress)
    (new : u.session.status.progress ≠ progress) : u.progress? action = some progress := by
  rw [progress?, shows, if_neg new.symm]

private theorem Account.add_of_same {a : Account} (unwritten : written (u.step action).2 = [])
    (unstored : u.stored? action = none)
    (same : (u.step action).1.session.status.progress = u.session.status.progress) :
    a.add u action = a := by
  simp only [Account.add, unwritten, unstored, progress?_of_same same, Option.toList_none,
    List.append_nil]

private theorem Standing.quiet (h : Standing settings image answers now a) (shown : now.Shown)
    (quiet : action.isAnswer = false) (held : action ≠ .drop) :
    Standing settings image answers (now.step action).1 (a.add now action) := by
  obtain ⟨run, current, himage, hreached⟩ := h.run
  obtain ⟨⟨run', hrun', himage', hreached'⟩, hwritten, hprogress⟩ :=
    reached_of_quiet shown current hreached (moves_step now action) quiet held
  have hstored : now.stored? action = none := by
    cases action with
    | answer => cases quiet
    | _ => rfl
  refine ⟨(settings_of_moves (moves_step now action)).trans h.kept,
    ⟨run', hrun', himage'.trans himage, hreached'⟩, ?_, hprogress.trans h.progress⟩
  rw [Account.add_of_same hwritten hstored hprogress]
  exact h.account

private theorem step_ok (current : now.run = some run) (yielded : NetYield) :
    now.step (.answer (.ok yielded)) = now.proceed run yielded := by
  simp only [step, current, Option.elim_some, stepRun]

private theorem stored?_ok (current : now.run = some run) (yielded : NetYield) :
    now.stored? (.answer (.ok yielded)) = run.stage.chunk? := by
  simp only [stored?, current, Option.bind_some]

private theorem Standing.tuned (h : Standing settings image 0 now a)
    (current : now.run = some run) (stage : run.stage = .tuning) (yielded : NetYield) :
    Standing settings image 1 (now.step (.answer (.ok yielded))).1
      (a.add now (.answer (.ok yielded))) := by
  obtain ⟨rfl, ⟨other, hother, rfl, -⟩, rfl, hprogress⟩ := h
  obtain rfl := Option.some.inj (current.symm.trans hother)
  have hstep : now.step (.answer (.ok yielded)) = now.transfer run := by
    simp only [step_ok current, proceed, stage]
  have hstored : now.stored? (.answer (.ok yielded)) = none := by
    rw [stored?_ok current, stage]
    rfl
  have hcut : chunksOf now.settings run.image = [] ++ chunksOf now.settings run.image := rfl
  obtain ⟨hrun, hwritten⟩ := reached_sendNext
    (now.present .transferring "Please stay on this screen while update completes...") run hcut
  have hsame : (now.step (.answer (.ok yielded))).1.session.status.progress =
      now.session.status.progress := by
    rw [hstep, session_transfer]
    rfl
  have hbehind : Account.behind now.settings run.image 1 =
      ⟨(chunksOf now.settings run.image).take 1, [], []⟩ := Account.behind_succ (Nat.zero_le _)
  refine ⟨settings_of_moves (moves_step now _), by rw [hstep]; exact hrun, ?_, ?_⟩
  · rw [Account.add, Account.behind_zero, hbehind, hstored, progress?_of_same hsame, hstep]
    exact congrArg (fun asked => Account.mk asked [] []) hwritten
  · rw [hsame, hprogress, Account.behind_zero, hbehind]

private theorem take_of_cut {α : Type} {all front rest : List α} {x : α}
    (cut : all = front ++ x :: rest) :
    front.length < all.length ∧ all.take front.length = front ∧
      all.take (front.length + 1) = front ++ [x] ∧
      all.take (front.length + 1 + 1) = front ++ [x] ++ rest.take 1 := by
  subst cut
  refine ⟨by simp, List.take_left, List.take_length_add_append 1, ?_⟩
  rw [Nat.add_assoc, List.take_length_add_append, List.append_assoc]
  rfl

private theorem countsShown_of_shows {k : Nat} (within : k < (chunksOf settings image).length)
    (before : now.session.status.progress = latest (countsShown settings image k))
    (shows : (now.step action).1.session.status.progress =
      if (k + 1) % max settings.progressEvery.toNat 1 = 0 then
        .sent (min ((k + 1) * max settings.chunkSize.toNat 1) image.length) image.length
      else now.session.status.progress) :
    countsShown settings image (k + 1) =
        countsShown settings image k ++ (now.progress? action).toList ∧
      (now.step action).1.session.status.progress =
        latest (countsShown settings image (k + 1)) := by
  rw [countsShown_succ]
  split_ifs at shows ⊢ with hdue
  · have hnew := latest_countsShown_ne within
    rw [← before] at hnew
    rw [progress?_of_new shows hnew, latest_snoc]
    exact ⟨rfl, shows⟩
  · rw [progress?_of_same shows, List.append_nil]
    exact ⟨(List.append_nil _).symm, shows.trans before⟩

private theorem Standing.wrote {front rest : List Bytes} {chunk : Bytes}
    (h : Standing settings image (front.length + 1) now a)
    (cut : chunksOf settings image = front ++ chunk :: rest) (current : now.run = some run)
    (stage : run.stage = .sending chunk rest (front.length + 1) front.flatten.length)
    (yielded : NetYield) :
    Standing settings image (front.length + 1 + 1) (now.step (.answer (.ok yielded))).1
      (a.add now (.answer (.ok yielded))) := by
  obtain ⟨rfl, ⟨other, hother, rfl, -⟩, rfl, hprogress⟩ := h
  obtain rfl := Option.some.inj (current.symm.trans hother)
  obtain ⟨hwithin, hbefore, hbehind, hasked⟩ := take_of_cut cut
  rw [Account.behind_succ (Nat.le_of_lt hwithin)] at hprogress ⊢
  have hlength : (front ++ [chunk]).length = front.length + 1 := by simp
  have hflat : (front ++ [chunk]).flatten.length = front.flatten.length + chunk.length := by simp
  have hcount := length_flatten_take (Nat.succ_le_of_lt hwithin)
  rw [Nat.succ_eq_add_one, hbehind, hflat] at hcount
  have hstep : now.step (.answer (.ok yielded)) =
      now.chunkWritten run (front.length + 1) (front.flatten.length + chunk.length) rest := by
    simp only [step_ok current, proceed, stage]
  have hstored : now.stored? (.answer (.ok yielded)) = some chunk := by
    rw [stored?_ok current, stage]
    rfl
  have hdue : (now.step (.answer (.ok yielded))).1.session.status.progress =
      if (front.length + 1) % max now.settings.progressEvery.toNat 1 = 0 then
        .sent (min ((front.length + 1) * max now.settings.chunkSize.toNat 1) run.image.length)
          run.image.length
      else now.session.status.progress := by
    rw [hstep, session_chunkWritten, ← hcount]
    split_ifs <;> rfl
  obtain ⟨hcounts, hshows⟩ := countsShown_of_shows hwithin hprogress hdue
  have hcut : chunksOf now.settings run.image = (front ++ [chunk]) ++ rest := by
    rw [cut, List.append_assoc, List.singleton_append]
  obtain ⟨hrun, hwritten⟩ := reached_sendNext
    { now with session := (now.step (.answer (.ok yielded))).1.session } run hcut
  rw [hlength, hflat, hstep, session_chunkWritten] at hrun hwritten
  refine ⟨settings_of_moves (moves_step now _), ?_, ?_, ?_⟩
  · rw [hstep]
    exact hrun
  · rw [Account.add, Account.behind_succ hwithin, hstored, hcounts, hasked, hstep]
    simp only [chunkWritten, hwritten, hbefore, hbehind, Option.toList_some]
  · rw [hshows, Account.behind_succ hwithin]

private theorem Standing.handedOver
    (h : Standing settings image ((chunksOf settings image).length + 1) now a)
    (current : now.run = some run) (stage : run.stage = .flushing) (yielded : NetYield) :
    Standing settings image ((chunksOf settings image).length + 1 + 1)
      (now.step (.answer (.ok yielded))).1 (a.add now (.answer (.ok yielded))) := by
  obtain ⟨rfl, ⟨other, hother, rfl, -⟩, rfl, hprogress⟩ := h
  obtain rfl := Option.some.inj (current.symm.trans hother)
  rw [Account.behind_succ (Nat.le_refl _)] at hprogress ⊢
  have hstep : now.step (.answer (.ok yielded)) = now.imageSent run := by
    simp only [step_ok current, proceed, stage]
  have hstored : now.stored? (.answer (.ok yielded)) = none := by
    rw [stored?_ok current, stage]
    rfl
  have hshows : (now.step (.answer (.ok yielded))).1.session.status.progress = .everything := by
    rw [hstep]
    rfl
  have hnew := (latest_countsShown_ne_everything now.settings run.image
    (chunksOf now.settings run.image).length).1
  rw [← hprogress] at hnew
  refine ⟨settings_of_moves (moves_step now _), ?_, ?_, ?_⟩
  · rw [hstep]
    exact ⟨_, rfl, rfl, .settling (Nat.le_refl _)⟩
  · have hwritten : written (now.imageSent run).2 = [] := rfl
    rw [Account.add, Account.behind_all (Nat.le_refl _), hstored, progress?_of_new hshows hnew,
      hstep, List.take_length, List.take_of_length_le (Nat.le_succ _)]
    simp only [hwritten, List.append_nil, Option.toList_none, Option.toList_some]
  · rw [hshows, Account.behind_all (Nat.le_refl _), latest_snoc]

private theorem Standing.later (h : Standing settings image answers now a)
    (all : (chunksOf settings image).length + 2 ≤ answers) (answer : Except SystemError NetYield)
    (goes : (now.step (.answer answer)).1.run ≠ none) :
    Standing settings image (answers + 1) (now.step (.answer answer)).1
      (a.add now (.answer answer)) := by
  obtain ⟨hkept, ⟨run, current, himage, hreached⟩, haccount, hprogress⟩ := h
  have hbehind : Account.behind settings image (answers + 1) = .behind settings image answers := by
    rw [Account.behind_all all, Account.behind_all (Nat.le_succ_of_le all)]
  generalize hstage : run.stage = stage at hreached
  cases hreached with
  | tuning => omega
  | sending cut =>
    have hwithin := (take_of_cut cut).1
    omega
  | flushing => omega
  | closing =>
    apply absurd _ goes
    cases answer <;>
      simp only [step, current, Option.elim_some, stepRun, fail, proceed, hstage, finish]
  | settling =>
    have hstep : now.step (.answer answer) = (now, []) := by
      cases answer <;> simp only [step, current, Option.elim_some, stepRun, fail, proceed, hstage]
    have hstored : now.stored? (.answer answer) = none := by
      cases answer with
      | error => rfl
      | ok yielded =>
        rw [stored?_ok current, hstage]
        rfl
    have hadd : a.add now (.answer answer) = a :=
      Account.add_of_same (by rw [hstep]; rfl) hstored (by rw [hstep])
    rw [hadd, hstep]
    refine ⟨hkept, ⟨run, current, himage, ?_⟩, haccount.trans hbehind.symm, hbehind ▸ hprogress⟩
    rw [hstage]
    exact .settling (Nat.le_succ_of_le all)

private theorem Standing.fails (h : Standing settings image answers now a)
    (early : answers < (chunksOf settings image).length + 2) (error : SystemError) :
    (now.step (.answer (.error error))).1.run = none ∧
      (now.step (.answer (.error error))).2 = [.finished (.error (.system error))] ∧
      a.add now (.answer (.error error)) = a := by
  obtain ⟨-, ⟨run, current, -, hreached⟩, -, -⟩ := h
  have hstep : now.step (.answer (.error error)) = now.failSystem error := by
    generalize hstage : run.stage = stage at hreached
    cases hreached with
    | tuning | sending | flushing =>
      simp only [step, current, Option.elim_some, stepRun, fail, hstage]
    | settling | closing => omega
  refine ⟨by rw [hstep]; rfl, by rw [hstep]; rfl, Account.add_of_same ?_ rfl ?_⟩
  · rw [hstep]
    rfl
  · rw [hstep]
    rfl

private theorem Standing.goesOn (h : Standing settings image answers now a)
    (early : answers < (chunksOf settings image).length + 2) (yielded : NetYield) :
    Standing settings image (answers + 1) (now.step (.answer (.ok yielded))).1
      (a.add now (.answer (.ok yielded))) := by
  obtain ⟨run, current, himage, hreached⟩ := h.run
  generalize hstage : run.stage = stage at hreached
  cases hreached with
  | tuning => exact h.tuned current hstage yielded
  | sending cut => exact h.wrote cut current hstage yielded
  | flushing => exact h.handedOver current hstage yielded
  | settling | closing => omega

private theorem answered_snoc (actions : List Action) (action : Action) :
    answered (actions ++ [action]) =
      answered actions + if action.isAnswer = true then 1 else 0 := by
  rw [answered, List.countP_append, List.countP_singleton]
  rfl

private theorem Standing.step (h : Standing settings image answers now a) (shown : now.Shown)
    (goes : (now.step action).1.run ≠ none) :
    Standing settings image (answers + if action.isAnswer = true then 1 else 0)
      (now.step action).1 (a.add now action) := by
  cases hanswer : action.isAnswer with
  | false =>
    refine h.quiet shown hanswer ?_
    rintro rfl
    apply goes
    obtain ⟨run, current, -, -⟩ := h.run
    simp only [WifiUpdater.step, current, Option.elim_some, stepRun]
  | true =>
    cases action with
    | answer answer =>
      by_cases early : answers < (chunksOf settings image).length + 2
      · cases answer with
        | ok yielded => exact h.goesOn early yielded
        | error error => exact absurd (h.fails early error).1 goes
      · exact h.later (Nat.le_of_not_lt early) answer goes
    | _ => cases hanswer

/-! ### Whole transfers -/

private theorem standing_of_lasts (h : Standing settings image 0 now (.behind settings image 0))
    (shown : now.Shown) (lasts : now.Lasts actions) :
    Standing settings image (answered actions) (now.runEach actions).1 (now.account actions) := by
  induction actions using List.reverseRecOn with
  | nil =>
    have hnone : now.account [] = .behind settings image 0 := by
      rw [Account.behind_zero]
      rfl
    rw [hnone]
    exact h
  | append_singleton actions action ih =>
    obtain ⟨hbefore, hgoes⟩ := lasts_snoc.mp lasts
    rw [account_snoc, answered_snoc, runEach_snoc]
    exact (ih hbefore).step (shown_run shown actions) hgoes

/-- Nobody gives the run up, and nothing fails. -/
def Unfailing (actions : List Action) : Prop :=
  ∀ action ∈ actions, action ≠ .drop ∧ ∀ error, action ≠ .answer (.error error)

private theorem lasts_of_unfailing (h : Standing settings image 0 now (.behind settings image 0))
    (shown : now.Shown) (unfailing : Unfailing actions)
    (early : answered actions ≤ (chunksOf settings image).length + 2) : now.Lasts actions := by
  induction actions using List.reverseRecOn with
  | nil =>
    obtain ⟨run, current, -, -⟩ := h.run
    simp [Lasts, current]
  | append_singleton actions action ih =>
    rw [answered_snoc] at early
    have hbefore := ih (fun other mem => unfailing other (List.mem_append_left _ mem)) (by omega)
    have hstanding := standing_of_lasts h shown hbefore
    obtain ⟨hheld, hfailed⟩ := unfailing action (by simp)
    have hnext : ∃ answers b, Standing settings image answers
        ((now.runEach actions).1.step action).1 b := by
      cases hanswer : action.isAnswer with
      | false => exact ⟨_, _, hstanding.quiet (shown_run shown actions) hanswer hheld⟩
      | true =>
        rw [hanswer, if_pos rfl] at early
        cases action with
        | answer answer =>
          cases answer with
          | ok yielded => exact ⟨_, _, hstanding.goesOn (by omega) yielded⟩
          | error error => exact absurd rfl (hfailed error)
        | _ => cases hanswer
    obtain ⟨answers, b, hstanding'⟩ := hnext
    obtain ⟨run, current, -, -⟩ := hstanding'.run
    exact lasts_snoc.mpr ⟨hbefore, by simp [current]⟩

/-- Ahead of a transfer no progress is shown. -/
private def Unshown (now : WifiUpdater) : Prop :=
  ∀ run, now.run = some run → run.stage.isTransfer = false →
    now.session.status.progress = .nothing

private theorem unshown_of_moves (h : now.Unshown) (move : Moves now action next outputs) :
    next.Unshown := by
  cases move with
  | idle | refuse => exact h
  | begin => exact forall_of_some rfl fun _ => rfl
  | reject | drop | fail | complete => exact forall_of_none rfl
  | cancel =>
    intro run current waits
    exact (congrArg Status.progress (Session.cancel_status _)).trans (h run current waits)
  | listen current stage | openDatagrams _ current stage | opened _ current stage
    | compose current stage | invite current stage | answerChallenge current stage
    | prepare current stage | accept current stage | connect current stage =>
    exact forall_of_some rfl fun _ => h _ current (by rw [stage]; rfl)
  | @transfer run =>
    obtain ⟨behind, operation, htransfers, heq⟩ := now.transfer_eq run
    rw [heq]
    exact forall_of_some rfl fun waits => absurd (waits.symm.trans htransfers) (by decide)
  | @chunkWritten run chunk rest index sent =>
    obtain ⟨session, behind, operation, htransfers, -, heq⟩ :=
      now.chunkWritten_eq run index (sent + chunk.length) rest
    rw [heq]
    exact forall_of_some rfl fun waits => absurd (waits.symm.trans htransfers) (by decide)
  | imageSent | close => exact forall_of_some rfl nofun

variable {host : String} {password : Option String} {before : List Action}

/-- Where a run comes to its transfer, nothing has been written or shown. -/
private theorem standing_of_tuning (idle : u.session.running = false) (nonempty : image ≠ [])
    (lasts : (u.begun host image password).Lasts before)
    (tuning : ((u.begun host image password).runEach before).1.At .tuning) :
    Standing u.settings image 0 ((u.begun host image password).runEach before).1
      (.behind u.settings image 0) := by
  obtain ⟨run, current, hstage⟩ := tuning
  have hwriting := writing_of_lasts idle lasts
  rw [runEach_cons] at hwriting
  obtain ⟨hkept, hruns⟩ := hwriting
  have hunshown : ((u.begun host image password).runEach before).1.Unshown := by
    clear lasts current hstage hkept hruns
    induction before using List.reverseRecOn with
    | nil =>
      rw [begun, step_start idle host nonempty password]
      exact forall_of_some rfl fun _ => rfl
    | append_singleton before action ih =>
      rw [runEach_snoc]
      exact unshown_of_moves ih (moves_step _ action)
  refine ⟨hkept, ⟨run, current, (hruns run current).1, hstage ▸ .tuning⟩, rfl, ?_⟩
  rw [hunshown run current (by rw [hstage]; rfl), Account.behind_zero]
  rfl

/-- How a transfer hands out an image. The chunk that a failure stops is the one behind those that
were stored. -/
structure HandsOut (settings : Config.WifiUpdate) (image : Bytes) (t : WifiUpdater) : Prop where
  /-- The chunks are the image. There are as many as there must be; all of them but the last one
  are as long as the settings say, and the last one is not empty. -/
  chunks : (chunksOf settings image).flatten = image ∧
    (chunksOf settings image).length =
      chunkCount (max settings.chunkSize.toNat 1) image.length ∧
    ∀ i (inside : i < (chunksOf settings image).length),
      0 < (chunksOf settings image)[i].length ∧
      (chunksOf settings image)[i].length ≤ max settings.chunkSize.toNat 1 ∧
      (i + 1 < (chunksOf settings image).length →
        (chunksOf settings image)[i].length = max settings.chunkSize.toNat 1)
  /-- The counts of octets that are shown go up. -/
  rises : ∀ k ≤ (chunksOf settings image).length, (counts settings image k).Pairwise (· < ·)
  /-- Behind so many chunks, while the next one is written or everything is handed over. -/
  sends : ∀ actions k, t.Lasts actions → answered actions = k + 1 →
    k ≤ (chunksOf settings image).length →
    t.account actions = ⟨(chunksOf settings image).take (k + 1), (chunksOf settings image).take k,
      countsShown settings image k⟩
  /-- Behind everything, until the run ends. -/
  sent : ∀ actions, t.Lasts actions → (chunksOf settings image).length + 2 ≤ answered actions →
    t.account actions = ⟨chunksOf settings image, chunksOf settings image,
      countsShown settings image (chunksOf settings image).length ++ [.everything]⟩
  /-- The writing of a chunk fails, or the handing over: the run is over, and everything else is as
  it was. -/
  fails : ∀ actions error k, t.Lasts actions → answered actions = k + 1 →
    k ≤ (chunksOf settings image).length →
    (t.runEach (actions ++ [.answer (.error error)])).1.run = none ∧
      .finished (.error (.system error)) ∈ (t.runEach (actions ++ [.answer (.error error)])).2 ∧
      t.account (actions ++ [.answer (.error error)]) =
        ⟨(chunksOf settings image).take (k + 1), (chunksOf settings image).take k,
          countsShown settings image k⟩ ∧
      .everything ∉ (t.account (actions ++ [.answer (.error error)])).shown
  /-- Nothing else stops it. -/
  goes : ∀ actions, Unfailing actions →
    answered actions ≤ (chunksOf settings image).length + 2 → t.Lasts actions

/-- A run that comes to its transfer hands out its image in chunks, whatever its callers do
meanwhile. Which chunks were written in full and which progress was shown is settled by the number
of answers, and a chunk that cannot be written leaves both as they are. -/
theorem transfer_hands_out (idle : u.session.running = false) (nonempty : image ≠ [])
    (lasts : (u.begun host image password).Lasts before)
    (tuning : ((u.begun host image password).runEach before).1.At .tuning) :
    HandsOut u.settings image ((u.begun host image password).runEach before).1 := by
  have hstart := standing_of_tuning idle nonempty lasts tuning
  have hshown : ((u.begun host image password).runEach before).1.Shown :=
    shown_begun idle nonempty host password before
  refine ⟨⟨flatten_chunksOf _ _, length_chunksOf _ _, fun i => length_getElem_chunksOf⟩,
    fun k => pairwise_counts, ?_, ?_, ?_, fun actions => lasts_of_unfailing hstart hshown⟩
  · intro actions k lasts hanswered within
    rw [(standing_of_lasts hstart hshown lasts).account, hanswered, Account.behind_succ within]
  · intro actions lasts all
    rw [(standing_of_lasts hstart hshown lasts).account, Account.behind_all all]
  · intro actions error k lasts hanswered within
    have hstanding := standing_of_lasts hstart hshown lasts
    obtain ⟨hgone, htold, hadd⟩ := hstanding.fails (by omega) error
    have haccount := hstanding.account
    rw [hanswered, Account.behind_succ within] at haccount
    rw [account_snoc, hadd, haccount, runEach_snoc]
    refine ⟨hgone, ?_, rfl, (latest_countsShown_ne_everything _ _ k).2⟩
    rw [htold]
    exact List.mem_append_right _ (List.mem_singleton_self _)

/-- Five octets in chunks of two, of which every second one is shown. Somebody asks to stop while
the second chunk is written. -/
theorem transfer_hands_out_shortChunk :
    let u := initial { chunkSize := 2, progressEvery := 2 }
    let before := inviting ++ [saysAccepted, .accepted (.ok ())]
    let t := ((u.begun "radio" [1, 2, 3, 4, 5] none).runEach before).1
    let taken : Action := .answer (.ok .nothing)
    let failed : Action := .answer (.error .connectionReset)
    (u.session.running = false ∧ (u.begun "radio" [1, 2, 3, 4, 5] none).Lasts before ∧
      t.At .tuning) ∧
      t.account [taken, taken, .cancel, taken, taken, taken] =
        ⟨[[1, 2], [3, 4], [5]], [[1, 2], [3, 4], [5]], [.sent 4 5, .everything]⟩ ∧
      t.account [taken, taken, .cancel, failed] = ⟨[[1, 2], [3, 4]], [[1, 2]], []⟩ ∧
      t.account [taken, taken, taken, failed] =
        ⟨[[1, 2], [3, 4], [5]], [[1, 2], [3, 4]], [.sent 4 5]⟩ := by
  intro u before t taken failed
  have hlasts : (u.begun "radio" [1, 2, 3, 4, 5] none).Lasts before :=
    ⟨nofun, nofun, nofun, nofun, nofun, nofun⟩
  have htuning : t.At .tuning := ⟨_, rfl, rfl⟩
  have hands : HandsOut u.settings [1, 2, 3, 4, 5] t :=
    transfer_hands_out rfl (by simp) hlasts htuning
  have hchunks : chunksOf u.settings [1, 2, 3, 4, 5] = [[1, 2], [3, 4], [5]] := rfl
  have hall : countsShown u.settings [1, 2, 3, 4, 5]
      (chunksOf u.settings [1, 2, 3, 4, 5]).length = [.sent 4 5] := by decide
  have htwo : countsShown u.settings [1, 2, 3, 4, 5] 2 = [.sent 4 5] := by decide
  have hsent := hands.sent [taken, taken, .cancel, taken, taken, taken]
    ⟨nofun, nofun, nofun, nofun, nofun, nofun, nofun⟩ (by decide)
  obtain ⟨-, -, hfirst, -⟩ := hands.fails [taken, taken, .cancel] .connectionReset 1
    ⟨nofun, nofun, nofun, nofun⟩ rfl (by decide)
  obtain ⟨-, -, hsecond, -⟩ := hands.fails [taken, taken, taken] .connectionReset 2
    ⟨nofun, nofun, nofun, nofun⟩ rfl (by decide)
  rw [hall, hchunks] at hsent
  rw [htwo, hchunks] at hsecond
  exact ⟨⟨rfl, hlasts, htuning⟩, hsent, hfirst, hsecond⟩

end RadioLink.Update.WifiUpdater
