import RadioLink.Proofs.Update.BleCancelling

/-!
The record of one run over Bluetooth: what it asks for and shows, and what returns to it, in order.
Of these, the scan, the link and the timer that puts the display to sleep leave marks. At every
stage of a run its marks are known exactly.
-/

set_option autoImplicit false
set_option relaxedAutoImplicit false

namespace RadioLink.Update.BleUpdater

variable {u now next : BleUpdater} {run : BleRun} {action : Action} {note : Option Note}
  {outputs : List Output}

/-! ### The record of a run -/

inductive Entry where
  | did (output : Output)
  | returned (operation : Gatt.Operation) (answer : Gatt.Answer)

/-- The operation asked for last, if nothing has come behind it. -/
def underWay? (entries : List Entry) : Option Gatt.Operation :=
  match entries.getLast? with
  | some (.did (.run operation)) => some operation
  | _ => none

/-- What an action adds to the record of a run. Another start, which is refused, and a request to
stop belong to their callers. -/
def seen (entries : List Entry) (outputs : List Output) : Action → List Entry
  | .start _ => []
  | .cancel => []
  | .answer answer => (underWay? entries).toList.map (.returned · answer) ++ outputs.map .did
  | _ => outputs.map .did

def Output.isEnd : Output → Bool
  | .finished _ => true
  | _ => false

/-- An updater, and the record of one of its runs. -/
structure Record where
  updater : BleUpdater
  entries : List Entry
  /-- The run has returned or was dropped, and what comes behind is not its own. -/
  isOver : Bool

def Record.step (r : Record) (action : Action) : Record :=
  if r.isOver then { r with updater := (r.updater.step action).1 }
  else
    ⟨(r.updater.step action).1, r.entries ++ seen r.entries (r.updater.step action).2 action,
      (r.updater.step action).1.run.isNone⟩

def record (u : BleUpdater) (image : Bytes) (actions : List Action) : Record :=
  actions.foldl Record.step
    ⟨(u.step (.start image)).1, (u.step (.start image)).2.map .did,
      (u.step (.start image)).2.any Output.isEnd⟩

theorem record_snoc (u : BleUpdater) (image : Bytes) (actions : List Action) (action : Action) :
    u.record image (actions ++ [action]) = (u.record image actions).step action := by
  simp [record]

/-! ### Marks -/

/-- What a run takes hold of and lets go, and what it writes. -/
inductive Mark where
  /-- The scan has been started: the call has returned without an error. -/
  | scanning
  | stopScan
  | connect
  /-- There is a link: the call has returned without an error. -/
  | connected
  /-- The timer that puts the display to sleep is disabled, or restored. -/
  | awake (disabled : Bool)
  | write
  | unsubscribe
  | disconnect
  /-- The run returns. -/
  | returned
  deriving DecidableEq

def Entry.mark? : Entry → Option Mark
  | .returned (.scan _) (.ok _) => some .scanning
  | .returned (.connect _) (.ok _) => some .connected
  | .returned .. => none
  | .did (.run .stopScan) => some .stopScan
  | .did (.run (.connect _)) => some .connect
  | .did (.run (.write ..)) => some .write
  | .did (.run (.unsubscribe characteristic)) =>
    if characteristic = Gatt.updateStatus then some .unsubscribe else none
  | .did (.run .disconnect) => some .disconnect
  | .did (.keepAwake disabled) => some (.awake disabled)
  | .did (.finished _) => some .returned
  | .did _ => none

def Record.marks (r : Record) : List Mark :=
  r.entries.filterMap Entry.mark?

def marksOf (outputs : List Output) : List Mark :=
  outputs.filterMap fun output => (Entry.did output).mark?

/-- The marks of what an action brings back to a run at a stage. -/
def broughtBack (stage : BleStage) : Action → List Mark
  | .answer (.ok _) =>
    match stage with
    | .startingScan => [.scanning]
    | .connecting _ => [.connected]
    | _ => []
  | _ => []

/-- The operation under way at a stage, as far as its return leaves a mark. -/
def Awaits : BleStage → Option Gatt.Operation → Prop
  | .startingScan, pending => ∃ service, pending = some (.scan service)
  | .connecting _, pending => ∃ peripheral, pending = some (.connect peripheral)
  | .seeking, pending => pending = none
  | .listening _, pending => pending = none
  | _, pending =>
    ∃ operation, pending = some operation ∧
      ∀ answer, (Entry.returned operation answer).mark? = none

/-- What holds the timer while the device is fed. -/
def work (writes : Nat) : List Mark :=
  .awake true :: List.replicate writes .write

/-- The marks of a run that has a link. -/
def linked : List Mark := [.scanning, .stopScan, .connect, .connected]

/-- What a run did with its link ahead of letting it go. -/
def Used (marks : List Mark) : Prop :=
  marks = [] ∨ ∃ writes, marks = work writes ++ [.awake false]

/-- The marks of a run at a stage. -/
def Held (marks : List Mark) : BleStage → Prop
  | .poweringOn => marks = []
  | .startingScan => marks = []
  | .seeking => marks = [.scanning]
  | .stoppingScan _ => marks = [.scanning, .stopScan]
  | .connecting _ => marks = [.scanning, .stopScan, .connect]
  | .inviting _ => ∃ writes, marks = linked ++ work writes
  | .listening _ => ∃ writes, marks = linked ++ work writes
  | .sending .. => ∃ writes, marks = linked ++ work writes
  | .unsubscribing _ => ∃ used, Used used ∧ marks = linked ++ used ++ [.unsubscribe]
  | .disconnecting _ => ∃ used, Used used ∧ marks = linked ++ used ++ [.unsubscribe, .disconnect]
  | _ => marks = linked

/-- The marks of a run that returns, ahead of its return. -/
inductive Closed : List Mark → Prop
  | unscanned : Closed []
  | unfound : Closed [.scanning, .stopScan]
  | unlinked : Closed [.scanning, .stopScan, .connect]
  | linked {used : List Mark} (h : Used used) :
      Closed (linked ++ used ++ [.unsubscribe, .disconnect])

def timer (marks : List Mark) : List Bool :=
  marks.filterMap fun mark =>
    match mark with
    | .awake disabled => some disabled
    | _ => none

/-- A run that was dropped has not returned, and has restored the timer. -/
structure Cut (marks : List Mark) : Prop where
  unreturned : .returned ∉ marks
  restored : timer marks = [] ∨ timer marks = [true, false]

private theorem marksOf_append (before behind : List Output) :
    marksOf (before ++ behind) = marksOf before ++ marksOf behind :=
  List.filterMap_append

private theorem filterMap_did (outputs : List Output) :
    (outputs.map Entry.did).filterMap Entry.mark? = marksOf outputs := by
  rw [List.filterMap_map]
  rfl

theorem marksOf_drop (stage : BleStage) :
    marksOf ((if stage.isBusy then [.giveUp] else []) ++
      (if stage.isAwake then [.keepAwake false] else [])) =
        if stage.isAwake then [.awake false] else [] := by
  cases stage.isBusy <;> cases stage.isAwake <;> rfl

private theorem marks_returned {stage : BleStage} {entries : List Entry}
    (awaits : Awaits stage (underWay? entries)) (answer : Gatt.Answer) :
    ((underWay? entries).toList.map (Entry.returned · answer)).filterMap Entry.mark? =
      broughtBack stage (.answer answer) := by
  cases stage with
  | startingScan =>
    obtain ⟨service, hpending⟩ := awaits
    rw [hpending]
    cases answer <;> rfl
  | connecting name =>
    obtain ⟨peripheral, hpending⟩ := awaits
    rw [hpending]
    cases answer <;> rfl
  | seeking | listening =>
    have hpending : underWay? entries = none := awaits
    rw [hpending]
    cases answer <;> rfl
  | _ =>
    obtain ⟨operation, hpending, hsilent⟩ := awaits
    rw [hpending]
    cases answer <;> simp [hsilent, broughtBack]

def Action.IsOwn (action : Action) : Prop :=
  (∀ image, action ≠ .start image) ∧ action ≠ .cancel

theorem own_answer (answer : Gatt.Answer) : (Action.answer answer).IsOwn := ⟨nofun, nofun⟩

theorem own_notification (notification : Option Gatt.Notification) :
    (Action.notification notification).IsOwn := ⟨nofun, nofun⟩

theorem own_drop : Action.drop.IsOwn := ⟨nofun, nofun⟩

private theorem marks_seen {entries : List Entry} {stage : BleStage}
    (awaits : Awaits stage (underWay? entries)) (outputs : List Output)
    (own : action.IsOwn) :
    (seen entries outputs action).filterMap Entry.mark? =
      broughtBack stage action ++ marksOf outputs := by
  cases action with
  | start image => exact absurd rfl (own.1 image)
  | cancel => exact absurd rfl own.2
  | answer answer =>
    simp only [seen, List.filterMap_append, marks_returned awaits, filterMap_did]
  | drop | sighting | scanTimeout | notification | noticeCancel => exact filterMap_did outputs

theorem underWay?_seen_run (own : action.IsOwn) (entries : List Entry) (outputs : List Output)
    (operation : Gatt.Operation) :
    underWay? (entries ++ seen entries (outputs ++ [.run operation]) action) = some operation := by
  cases action with
  | start image => exact absurd rfl (own.1 image)
  | cancel => exact absurd rfl own.2
  | answer | drop | sighting | scanTimeout | notification | noticeCancel => simp [seen, underWay?]

theorem underWay?_seen_answer (entries : List Entry) (answer : Gatt.Answer) :
    underWay? (entries ++ seen entries [] (.answer answer)) = none := by
  cases hpending : underWay? entries with
  | none => simp [seen, hpending]
  | some operation =>
    have hseen : seen entries [] (.answer answer) = [.returned operation answer] := by
      simp [seen, hpending]
    rw [hseen]
    simp [underWay?]

/-! ### Steps -/

def Runs (u : BleUpdater) (entries : List Entry) : Prop :=
  u.Shown ∧ ∃ run, u.run = some run ∧ Held (entries.filterMap Entry.mark?) run.stage ∧
    Awaits run.stage (underWay? entries)

/-- What holds of a record at any time. -/
structure Kept (r : Record) : Prop where
  going : r.isOver = false → Runs r.updater r.entries
  ended : r.isOver = true →
    (∃ body, Closed body ∧ r.marks = body ++ [.returned]) ∨ Cut r.marks

variable {entries : List Entry}

theorem Runs.at_stage (was : Runs now entries) (current : now.run = some run) :
    Held (entries.filterMap Entry.mark?) run.stage ∧ Awaits run.stage (underWay? entries) := by
  obtain ⟨-, other, hother, hheld, hawaits⟩ := was
  obtain rfl := Option.some.inj (hother.symm.trans current)
  exact ⟨hheld, hawaits⟩

private theorem Runs.kept (goes : Runs next entries) : Kept ⟨next, entries, next.run.isNone⟩ where
  going := fun _ => goes
  ended := by
    obtain ⟨-, run, hrun, -⟩ := goes
    rw [hrun]
    exact nofun

/-- What a step adds to the marks of a run. -/
theorem Runs.marks_step (was : Runs now entries) (current : now.run = some run)
    (own : action.IsOwn) (outputs : List Output) :
    (entries ++ seen entries outputs action).filterMap Entry.mark? =
      entries.filterMap Entry.mark? ++ (broughtBack run.stage action ++ marksOf outputs) := by
  rw [List.filterMap_append, marks_seen (was.at_stage current).2 outputs own]

section Steps

variable {run' : BleRun}

private theorem kept_perform (was : Runs now entries) (current : now.run = some run)
    (own : action.IsOwn) (shown : next.Shown) (ahead : List Output) {operation : Gatt.Operation}
    (goes : next.run = some run')
    (held : ∀ marks, Held marks run.stage →
      Held (marks ++ (broughtBack run.stage action ++ marksOf (ahead ++ [.run operation])))
        run'.stage)
    (fits : Awaits run'.stage (some operation)) :
    Kept ⟨next, entries ++ seen entries (ahead ++ [.run operation]) action,
      next.run.isNone⟩ := by
  refine Runs.kept ⟨shown, run', goes, ?_, ?_⟩
  · rw [was.marks_step current own]
    exact held _ (was.at_stage current).1
  · rw [underWay?_seen_run own]
    exact fits

private theorem kept_wait {answer : Gatt.Answer} (was : Runs now entries)
    (current : now.run = some run) (shown : next.Shown) (goes : next.run = some run')
    (held : ∀ marks, Held marks run.stage →
      Held (marks ++ broughtBack run.stage (.answer answer)) run'.stage)
    (fits : Awaits run'.stage none) :
    Kept ⟨next, entries ++ seen entries [] (.answer answer), next.run.isNone⟩ := by
  refine Runs.kept ⟨shown, run', goes, ?_, ?_⟩
  · rw [was.marks_step current (own_answer answer)]
    exact (List.append_nil _).symm ▸ held _ (was.at_stage current).1
  · rw [underWay?_seen_answer]
    exact fits

private theorem kept_same (goes : Runs next entries) (none : seen entries outputs action = []) :
    Kept ⟨next, entries ++ seen entries outputs action, next.run.isNone⟩ := by
  rw [none, List.append_nil]
  exact goes.kept

private theorem kept_over (was : Runs now entries) (current : now.run = some run)
    (own : action.IsOwn) (gone : next.run = none)
    (ended : ∀ marks, Held marks run.stage →
      (∃ body, Closed body ∧
        marks ++ (broughtBack run.stage action ++ marksOf outputs) = body ++ [.returned]) ∨
      Cut (marks ++ (broughtBack run.stage action ++ marksOf outputs))) :
    Kept ⟨next, entries ++ seen entries outputs action, next.run.isNone⟩ where
  going := by
    rw [gone]
    exact nofun
  ended := by
    intro _
    rw [Record.marks, was.marks_step current own]
    exact ended _ (was.at_stage current).1

end Steps

private def Linked (marks : List Mark) (stage : BleStage) : Prop :=
  if stage.isAwake then ∃ writes, marks = linked ++ work writes else marks = linked

private theorem linked_of_loses {before : List Output} {error : LinkError} {marks : List Mark}
    (loses : Loses now run action note error before) (held : Held marks run.stage) :
    Linked marks run.stage ∧ broughtBack run.stage action = [] ∧
      (marksOf before = [] ∨
        run.stage.isAwake = false ∧ marksOf before = work 0 ++ [.awake false]) := by
  cases loses with
  | operation error stage =>
    refine ⟨?_, rfl, .inl rfl⟩
    rcases stage with hstage | hstage | hstage | hstage | ⟨transfer, hstage⟩ |
      ⟨transfer, rest, hstage⟩ <;> rw [hstage] at held ⊢ <;> exact held
  | serviceMissing stage | characteristicMissing missing stage =>
    rw [stage] at held ⊢
    exact ⟨held, rfl, .inl rfl⟩
  | unfit stage =>
    rw [stage] at held ⊢
    exact ⟨held, rfl, .inr ⟨rfl, rfl⟩⟩
  | ended stage | reported stage | cancelledListening requested stage =>
    rw [stage] at held ⊢
    exact ⟨held, rfl, .inl rfl⟩
  | cancelledFinding requested stage =>
    refine ⟨?_, rfl, .inl rfl⟩
    rcases stage with hstage | hstage | hstage | hstage <;> rw [hstage] at held ⊢ <;> exact held

private theorem held_letGo {marks : List Mark} (was : Linked marks run.stage) {before : List Output}
    (ahead : marksOf before = [] ∨
      run.stage.isAwake = false ∧ marksOf before = work 0 ++ [.awake false])
    (result : Except LinkError Unit) :
    Held (marks ++ marksOf (before ++ (u.letGo run result).2)) (.unsubscribing result) := by
  have hletGo : marksOf (u.letGo run result).2 =
      (if run.stage.isAwake then [.awake false] else []) ++ [.unsubscribe] := by
    unfold letGo
    cases run.stage.isAwake <;> rfl
  rw [marksOf_append, hletGo]
  unfold Linked at was
  cases hawake : run.stage.isAwake with
  | true =>
    rw [hawake] at was ahead
    obtain ⟨writes, rfl⟩ := was
    have hahead : marksOf before = [] := ahead.resolve_right (by simp)
    exact ⟨work writes ++ [.awake false], .inr ⟨writes, rfl⟩, by simp [hahead]⟩
  | false =>
    rw [hawake] at was ahead
    have hmarks : marks = linked := was
    rcases ahead with hahead | ⟨-, hahead⟩
    · exact ⟨[], .inl rfl, by simp [hmarks, hahead]⟩
    · exact ⟨work 0 ++ [.awake false], .inr ⟨0, rfl⟩, by simp [hmarks, hahead]⟩

private theorem closed_of_fails {before : List Output} {error : LinkError} {marks : List Mark}
    (fails : Fails now run action note error before) (held : Held marks run.stage) :
    broughtBack run.stage action = [] ∧ marksOf before = [] ∧ Closed marks := by
  cases fails with
  | operation error stage =>
    refine ⟨rfl, rfl, ?_⟩
    rcases stage with hstage | hstage | ⟨name, hstage⟩ <;> rw [hstage] at held <;>
      obtain rfl := held
    · exact .unscanned
    · exact .unscanned
    · exact .unlinked
  | @scan answer error stage =>
    rw [stage] at held ⊢
    obtain rfl := held
    exact ⟨by cases answer <;> rfl, rfl, .unfound⟩
  | cancelled requested stage =>
    refine ⟨rfl, rfl, ?_⟩
    rcases stage with hstage | ⟨name, hstage⟩ <;> rw [hstage] at held <;> obtain rfl := held
    · exact .unscanned
    · exact .unlinked

theorem timer_append (before behind : List Mark) :
    timer (before ++ behind) = timer before ++ timer behind :=
  List.filterMap_append

private theorem timer_work (writes : Nat) : timer (work writes) = [true] := by
  have hquiet : timer (List.replicate writes .write) = [] := by
    induction writes with
    | zero => rfl
    | succ writes ih => exact ih
  exact congrArg (true :: ·) hquiet

private theorem not_mem_work (writes : Nat) : .returned ∉ work writes := by
  simp [work, List.mem_replicate]

theorem cut_used {used : List Mark} (h : Used used) : Cut used := by
  rcases h with rfl | ⟨writes, rfl⟩
  · exact ⟨by simp, .inl rfl⟩
  · refine ⟨by simp [not_mem_work], .inr ?_⟩
    rw [timer_append, timer_work]
    rfl

private theorem Cut.extend {marks before behind : List Mark} (h : Cut marks)
    (before_quiet : timer before = [] ∧ .returned ∉ before)
    (behind_quiet : timer behind = [] ∧ .returned ∉ behind) : Cut (before ++ marks ++ behind) where
  unreturned := by simp [before_quiet.2, h.unreturned, behind_quiet.2]
  restored := by
    simpa only [timer_append, before_quiet.1, behind_quiet.1, List.nil_append, List.append_nil]
      using h.restored

private theorem linked_quiet : timer linked = [] ∧ Mark.returned ∉ linked := ⟨rfl, by decide⟩

theorem cut_of_held {marks : List Mark} {stage : BleStage} (held : Held marks stage) :
    Cut (marks ++ if stage.isAwake then [.awake false] else []) := by
  cases stage with
  | inviting | listening | sending =>
    obtain ⟨writes, rfl⟩ := held
    have hused : Cut (work writes ++ [.awake false]) := cut_used (.inr ⟨writes, rfl⟩)
    simpa [BleStage.isAwake] using hused.extend linked_quiet ⟨rfl, List.not_mem_nil⟩
  | unsubscribing result | disconnecting result =>
    obtain ⟨used, hused, rfl⟩ := held
    simpa [BleStage.isAwake] using (cut_used hused).extend linked_quiet ⟨rfl, by decide⟩
  | _ =>
    obtain rfl := held
    exact ⟨by simp [linked, BleStage.isAwake], .inl rfl⟩

private theorem linked_work_succ (writes : Nat) :
    linked ++ work writes ++ [.write] = linked ++ work (writes + 1) := by
  simp [work, List.replicate_succ']

theorem ScanEnds.own {found : Except LinkError Gatt.Advertisement}
    (ends : ScanEnds u action found) :
    action.IsOwn ∧ broughtBack .seeking action = [] := by
  cases ends <;> exact ⟨⟨nofun, nofun⟩, rfl⟩

theorem Loses.own {error : LinkError} {before : List Output}
    (loses : Loses now run action note error before) : action.IsOwn := by
  cases loses <;> exact ⟨nofun, nofun⟩

theorem Fails.own {error : LinkError} {before : List Output}
    (fails : Fails now run action note error before) : action.IsOwn := by
  cases fails <;> exact ⟨nofun, nofun⟩

theorem append_letGo (before : List Output) (u : BleUpdater) (run : BleRun)
    (result : Except LinkError Unit) :
    before ++ (u.letGo run result).2 =
      (before ++ if run.stage.isAwake then [.keepAwake false] else []) ++
        [.run (.unsubscribe Gatt.updateStatus)] :=
  (List.append_assoc ..).symm

private theorem kept_letGo {result : Except LinkError Unit} (was : Runs now entries)
    (current : now.run = some run) (own : action.IsOwn)
    (shown : (now.letGo run result).1.Shown) (ahead : List Output)
    (linked : ∀ marks, Held marks run.stage → Linked marks run.stage)
    (brought : broughtBack run.stage action = [])
    (before : marksOf ahead = [] ∨
      run.stage.isAwake = false ∧ marksOf ahead = work 0 ++ [.awake false]) :
    Kept ⟨(now.letGo run result).1,
      entries ++ seen entries (ahead ++ (now.letGo run result).2) action,
      (now.letGo run result).1.run.isNone⟩ := by
  rw [append_letGo]
  refine kept_perform was current own shown _ rfl (fun marks hmarks => ?_) ⟨_, rfl, fun _ => rfl⟩
  have hheld := held_letGo (u := now) (linked marks hmarks) before result
  rw [append_letGo] at hheld
  rw [brought]
  exact hheld

private theorem isBusy_of_awaits {stage : BleStage} {pending : Option Gatt.Operation}
    (awaits : Awaits stage pending) (there : pending ≠ none) : stage.isBusy = true := by
  cases stage with
  | seeking | listening => exact absurd awaits there
  | _ => rfl

theorem Runs.seen_idle (was : Runs now entries)
    (answered : ∀ run answer, now.run = some run → action = .answer answer →
      run.stage.isBusy = true → now.run ≠ some run) : seen entries [] action = [] := by
  obtain ⟨run, hrun, -, hawaits⟩ := was.2
  cases action with
  | answer answer =>
    have hpending : underWay? entries = none := by
      by_contra hpending
      exact answered run answer hrun rfl (isBusy_of_awaits hawaits hpending) hrun
    simp [seen, hpending]
  | _ => rfl

private theorem kept_of_moves (was : Runs now entries) (move : Moves now action note next outputs)
    (answered : ∀ run answer, now.run = some run → action = .answer answer →
      run.stage.isBusy = true → next.run ≠ some run) :
    Kept ⟨next, entries ++ seen entries outputs action, next.run.isNone⟩ := by
  have hnext : next.Shown := shown_of_moves was.1 move
  obtain ⟨other, hother, hheld, hawaits⟩ := was.2
  have hrunning := was.1.claims other hother
  cases move with
  | idle => exact kept_same was (was.seen_idle answered)
  | refuse image running => exact kept_same was rfl
  | begin idle | reject idle => exact absurd (idle.symm.trans hrunning) (by decide)
  | cancel => exact kept_same ⟨hnext, other, hother, hheld, hawaits⟩ rfl
  | @drop run current =>
    refine kept_over was current own_drop rfl fun marks hmarks => .inr ?_
    rw [marksOf_drop run.stage]
    exact cut_of_held hmarks
  | scan yielded current stage =>
    refine kept_perform was current (own_answer _) hnext [] rfl ?_ ⟨_, rfl⟩
    rw [stage]
    rintro _ rfl
    rfl
  | seek yielded current stage =>
    refine kept_wait was current hnext rfl ?_ rfl
    rw [stage]
    rintro _ rfl
    rfl
  | stopScan current stage ends =>
    refine kept_perform was current ends.own.1 hnext [] rfl ?_ ⟨_, rfl, fun _ => rfl⟩
    rw [stage, ends.own.2]
    rintro _ rfl
    rfl
  | @connect run adv answer current stage =>
    refine kept_perform was current (own_answer _) hnext [] rfl ?_ ⟨_, rfl⟩
    rw [stage]
    rintro _ rfl
    cases answer <;> rfl
  | connected yielded current stage | discover current stage | openNotifications current stage
  | subscribe yielded current stage =>
    refine kept_perform was current (own_answer _) hnext [] rfl ?_ ⟨_, rfl, fun _ => rfl⟩
    rw [stage]
    rintro _ rfl
    rfl
  | invite yielded current stage =>
    refine kept_perform was current (own_answer _) hnext [.keepAwake true] rfl ?_
      ⟨_, rfl, fun _ => rfl⟩
    rw [stage]
    rintro _ rfl
    exact ⟨1, rfl⟩
  | invited yielded current stage | sent yielded current stage =>
    refine kept_wait was current hnext rfl ?_ rfl
    rw [stage]
    rintro _ ⟨writes, rfl⟩
    exact ⟨writes, List.append_nil _⟩
  | hear session current stage =>
    obtain rfl := Option.some.inj (hother.symm.trans current)
    rw [stage] at hheld hawaits
    exact kept_same ⟨hnext, _, rfl, hheld, hawaits⟩ rfl
  | serve current stage =>
    refine kept_perform was current (own_notification _) hnext [] rfl ?_ ⟨_, rfl, fun _ => rfl⟩
    rw [stage]
    rintro _ ⟨writes, rfl⟩
    exact ⟨writes + 1, linked_work_succ writes⟩
  | send yielded current stage =>
    refine kept_perform was current (own_answer _) hnext [] rfl ?_ ⟨_, rfl, fun _ => rfl⟩
    rw [stage]
    rintro _ ⟨writes, rfl⟩
    exact ⟨writes + 1, linked_work_succ writes⟩
  | complete current stage =>
    refine kept_letGo was current (own_notification _) hnext [] ?_ rfl (.inl rfl)
    rw [stage]
    exact fun _ => id
  | lose current loses =>
    obtain ⟨-, hbrought, hahead⟩ := linked_of_loses loses (was.at_stage current).1
    exact kept_letGo was current loses.own hnext _
      (fun marks hmarks => (linked_of_loses loses hmarks).1) hbrought hahead
  | fail current fails =>
    refine kept_over was current fails.own rfl fun marks hmarks => ?_
    obtain ⟨hbrought, hahead, hclosed⟩ := closed_of_fails fails hmarks
    refine .inl ⟨marks, hclosed, ?_⟩
    rw [hbrought, marksOf_append, hahead]
    rfl
  | @disconnect run result answer current stage =>
    refine kept_perform was current (own_answer _) hnext [] rfl ?_ ⟨_, rfl, fun _ => rfl⟩
    rw [stage]
    rintro _ ⟨used, hused, rfl⟩
    refine ⟨used, hused, ?_⟩
    cases answer <;> simp [broughtBack, marksOf, Entry.mark?]
  | @finish run result answer current stage =>
    refine kept_over was current (own_answer _) rfl ?_
    rw [stage]
    rintro _ ⟨used, hused, rfl⟩
    refine .inl ⟨_, .linked hused, ?_⟩
    cases answer <;> rfl

private def Left (u : BleUpdater) (stage : BleStage) : Prop :=
  ∀ run, u.run = some run → run.stage ≠ stage

private theorem left_finish (result : Except LinkError Unit) (stage : BleStage) :
    (u.finish result).1.Left stage := nofun

private theorem left_enter {stage was : BleStage} (ne : stage ≠ was) :
    (u.enter run stage).Left was :=
  forall_of_some rfl ne

private theorem left_proceed {yielded : Gatt.Yield} (busy : run.stage.isBusy = true) :
    (u.proceed run yielded).1.Left run.stage := by
  obtain ⟨image, writeLimit, stage⟩ := run
  cases stage with
  | seeking | listening => cases busy
  | stoppingScan found =>
    cases found with
    | ok adv => exact left_enter nofun
    | error error => exact left_finish _ _
  | disconnecting result => exact left_finish _ _
  | findingService =>
    unfold proceed
    dsimp only
    split_ifs <;> exact left_enter nofun
  | findingCharacteristics =>
    unfold proceed
    dsimp only
    split <;> exact left_enter nofun
  | subscribing =>
    unfold proceed BleUpdater.invite
    dsimp only
    split <;> exact left_enter nofun
  | sending transfer rest =>
    cases rest with
    | nil => exact left_enter nofun
    | cons chunk rest => exact left_enter (by simp)
  | _ => exact left_enter nofun

private theorem left_fail {error : LinkError} (busy : run.stage.isBusy = true) :
    (u.fail run error).1.Left run.stage := by
  obtain ⟨image, writeLimit, stage⟩ := run
  cases stage with
  | seeking | listening => cases busy
  | poweringOn | startingScan | connecting => exact left_finish _ _
  | stoppingScan | unsubscribing | disconnecting => exact left_proceed rfl
  | _ => exact left_enter nofun

theorem run_step_answer (current : u.run = some run) (busy : run.stage.isBusy = true)
    (answer : Gatt.Answer) : (u.step (.answer answer)).1.run ≠ some run := by
  intro hsame
  cases answer with
  | ok yielded =>
    have hstep : u.step (.answer (.ok yielded)) = u.proceed run yielded := by
      simp only [step, current]
    exact left_proceed busy run (hstep ▸ hsame) rfl
  | error error =>
    have hstep : u.step (.answer (.error error)) = u.fail run error := by
      simp only [step, current]
    exact left_fail busy run (hstep ▸ hsame) rfl

/-! ### Whole runs -/

theorem step_of_over {r : Record} (ended : r.isOver = true) (action : Action) :
    r.step action = { r with updater := (r.updater.step action).1 } := if_pos ended

theorem step_of_going {r : Record} (going : r.isOver = false) (action : Action) :
    r.step action =
      ⟨(r.updater.step action).1, r.entries ++ seen r.entries (r.updater.step action).2 action,
        (r.updater.step action).1.run.isNone⟩ := if_neg (by simp [going])

private theorem kept_step {r : Record} (h : Kept r) (action : Action) : Kept (r.step action) := by
  cases hover : r.isOver with
  | true =>
    rw [step_of_over hover]
    exact ⟨fun hgoing => absurd (hover.symm.trans hgoing) (by decide), fun _ => h.ended hover⟩
  | false =>
    rw [step_of_going hover]
    refine kept_of_moves (h.going hover) (moves_step r.updater action) ?_
    rintro run answer hrun rfl hbusy
    exact run_step_answer hrun hbusy answer

theorem record_begins (u : BleUpdater) (image : Bytes) :
    (∃ updater result, u.record image [] = ⟨updater, [.did (.finished result)], true⟩) ∨
      (u.session.running = false ∧ image ≠ [] ∧
        u.record image [] = ⟨{ u with session := .claimed, run := some ⟨image, 0, .poweringOn⟩ },
          [.did (.run .powerOn)], false⟩) := by
  by_cases hrunning : u.session.running = true
  · have hstep : u.step (.start image) = (u, [.finished (.error .updateInProgress)]) := by
      simp only [step, BleUpdater.start, Session.start_of_running hrunning]
    refine .inl ⟨u, .error .updateInProgress, ?_⟩
    simp only [record, List.foldl_nil, hstep]
    rfl
  · have hidle : u.session.running = false := by simpa using hrunning
    by_cases hempty : image = []
    · subst hempty
      have hstep : (u.step (.start [])).2 =
          [.finished (.error (.invalidFirmware "image is empty"))] := by
        simp only [step, BleUpdater.start, Session.start_of_idle hidle]
        rfl
      refine .inl ⟨(u.step (.start [])).1, .error (.invalidFirmware "image is empty"), ?_⟩
      simp only [record, List.foldl_nil, hstep]
      rfl
    · refine .inr ⟨hidle, hempty, ?_⟩
      simp only [record, List.foldl_nil, step_start hidle hempty]
      rfl

theorem kept_record (u : BleUpdater) (image : Bytes) (actions : List Action) :
    Kept (u.record image actions) := by
  induction actions using List.reverseRecOn with
  | append_singleton actions action ih =>
    rw [record_snoc]
    exact kept_step ih action
  | nil =>
    rcases u.record_begins image with ⟨updater, result, hrecord⟩ | ⟨hidle, hnonempty, hrecord⟩
    · rw [hrecord]
      exact ⟨fun hgoing => absurd hgoing.symm Bool.false_ne_true,
        fun _ => .inl ⟨[], .unscanned, rfl⟩⟩
    · have hshown := shown_begun hidle hnonempty []
      rw [runEach_cons, step_start hidle hnonempty] at hshown
      rw [hrecord]
      exact ⟨fun _ => ⟨hshown, _, rfl, rfl, ⟨_, rfl, fun _ => rfl⟩⟩,
        fun hended => absurd hended Bool.false_ne_true⟩

end RadioLink.Update.BleUpdater
