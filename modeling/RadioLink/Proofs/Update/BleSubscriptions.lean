import RadioLink.Proofs.Gatt.Traffic
import RadioLink.Proofs.Update.BleReleasing

/-!
The notifications of a run over Bluetooth. A run switches on those of the device's state alone, once
it has a link, and whichever way it loses the link it switches them off ahead of disconnecting.
-/

set_option autoImplicit false
set_option relaxedAutoImplicit false

namespace RadioLink.Update

/-- The notifications that may be on at a stage. -/
private def BleStage.bound : BleStage → List Uuid
  | .findingService | .findingCharacteristics | .openingNotifications | .subscribing | .inviting _
  | .listening _ | .sending .. => [Gatt.updateStatus]
  | _ => []

namespace BleUpdater

open Gatt (Traffic Within Undone switchedOn)

variable {now next : BleUpdater} {run run' : BleRun} {action : Action} {note : Option Note}
  {outputs : List Output} {entries : List Entry}

/-! ### The traffic of a run -/

def Output.traffic? : Output → Option Traffic
  | .run operation => some (.called operation)
  | _ => none

def Entry.traffic? : Entry → Option Traffic
  | .did output => output.traffic?
  | .returned operation answer => some (.returned operation answer)

def trafficIn (entries : List Entry) : List Traffic :=
  entries.filterMap Entry.traffic?

def Record.traffic (r : Record) : List Traffic := trafficIn r.entries

private def brought (entries : List Entry) : Action → List Traffic
  | .answer answer => (underWay? entries).toList.map (.returned · answer)
  | _ => []

private theorem trafficIn_did (outputs : List Output) :
    trafficIn (outputs.map .did) = outputs.filterMap Output.traffic? := by
  rw [trafficIn, List.filterMap_map]
  rfl

private theorem trafficIn_seen (own : action.IsOwn) (entries : List Entry) (outputs : List Output) :
    trafficIn (entries ++ seen entries outputs action) =
      trafficIn entries ++ brought entries action ++ outputs.filterMap Output.traffic? := by
  have happend : trafficIn (entries ++ seen entries outputs action) =
      trafficIn entries ++ trafficIn (seen entries outputs action) := List.filterMap_append
  rw [happend, List.append_assoc]
  congr 1
  cases action with
  | start image => exact absurd rfl (own.1 image)
  | cancel => exact absurd rfl own.2
  | answer answer =>
    have hreturned : trafficIn ((underWay? entries).toList.map (Entry.returned · answer)) =
        brought entries (.answer answer) := by
      rw [brought]
      cases underWay? entries <;> rfl
    rw [seen, trafficIn, List.filterMap_append, ← trafficIn, ← trafficIn, hreturned, trafficIn_did]
  | drop | sighting | scanTimeout | notification | noticeCancel => exact trafficIn_did outputs

private theorem within_nil : Within [] [] none := ⟨List.not_mem_nil, nofun, nofun⟩

private theorem within_brought {bound : List Uuid}
    (within : Within bound (trafficIn entries) (underWay? entries)) (action : Action) :
    Within bound (trafficIn entries ++ brought entries action) none := by
  cases action with
  | answer answer => exact within.settle answer
  | _ => exact (List.append_nil (trafficIn entries)).symm ▸ within.abandon

/-! ### Stages -/

variable {traffic : List Traffic}

/-- The traffic of a run at a stage. -/
private def Lit (traffic : List Traffic) (pending : Option Gatt.Operation) : BleStage → Prop
  | .disconnecting _ =>
    pending = some .disconnect ∧
      ∃ front, Within [] front none ∧ traffic = front ++ [.called .disconnect]
  | stage => Within stage.bound traffic pending

/-- What holds of the notifications at any time. -/
structure Undoes (r : Record) : Prop where
  going : r.isOver = false → ∃ run, r.updater.run = some run ∧
    Lit r.traffic (underWay? r.entries) run.stage
  undone : r.isOver = true → Undone r.traffic
  dark : r.isOver = true → .returned ∈ r.marks → switchedOn r.traffic = []

private theorem undoes_going (goes : next.run = some run)
    (lit : Lit (trafficIn entries) (underWay? entries) run.stage) :
    Undoes ⟨next, entries, next.run.isNone⟩ where
  going := fun _ => ⟨run, goes, lit⟩
  undone := by
    rw [goes]
    exact nofun
  dark := by
    rw [goes]
    exact nofun

private theorem undoes_perform (own : action.IsOwn) (ahead : List Output)
    {operation : Gatt.Operation} (goes : next.run = some run')
    (quiet : ahead.filterMap Output.traffic? = [])
    (lit : Lit (trafficIn entries ++ brought entries action ++ [.called operation])
      (some operation) run'.stage) :
    Undoes ⟨next, entries ++ seen entries (ahead ++ [.run operation]) action,
      next.run.isNone⟩ := by
  refine undoes_going goes ?_
  rw [underWay?_seen_run own, trafficIn_seen own, List.filterMap_append, quiet]
  exact lit

private theorem undoes_wait {answer : Gatt.Answer} (goes : next.run = some run')
    (lit : Lit (trafficIn entries ++ brought entries (.answer answer)) none run'.stage) :
    Undoes ⟨next, entries ++ seen entries [] (.answer answer), next.run.isNone⟩ := by
  refine undoes_going goes ?_
  rw [underWay?_seen_answer, trafficIn_seen (own_answer answer)]
  exact (List.append_nil _).symm ▸ lit

private theorem undoes_same (goes : next.run = some run)
    (lit : Lit (trafficIn entries) (underWay? entries) run.stage)
    (none : seen entries outputs action = []) :
    Undoes ⟨next, entries ++ seen entries outputs action, next.run.isNone⟩ := by
  rw [none, List.append_nil]
  exact undoes_going goes lit

private theorem undoes_over (own : action.IsOwn) (gone : next.run = none)
    (quiet : outputs.filterMap Output.traffic? = [])
    (undone : Undone (trafficIn entries ++ brought entries action))
    (dark : .returned ∈ (entries ++ seen entries outputs action).filterMap Entry.mark? →
      switchedOn (trafficIn entries ++ brought entries action) = []) :
    Undoes ⟨next, entries ++ seen entries outputs action, next.run.isNone⟩ := by
  have htraffic : trafficIn (entries ++ seen entries outputs action) =
      trafficIn entries ++ brought entries action := by
    rw [trafficIn_seen own, quiet, List.append_nil]
  refine ⟨?_, fun _ => ?_, fun _ hreturned => ?_⟩
  · rw [gone]
    exact nofun
  · rw [Record.traffic, htraffic]
    exact undone
  · rw [Record.traffic, htraffic]
    exact dark hreturned

private theorem undone_of_lit {pending : Option Gatt.Operation} {stage : BleStage}
    (lit : Lit traffic pending stage) : Undone traffic := by
  cases stage with
  | disconnecting result =>
    obtain ⟨-, front, hfront, rfl⟩ := lit
    exact Gatt.undone_of_split hfront.dark hfront.whole List.not_mem_nil
  | _ => exact Gatt.undone_of_notMem lit.whole

private theorem within_of_loses {before : List Output} {error : LinkError}
    (loses : Loses now run action note error before) {pending : Option Gatt.Operation}
    (lit : Lit traffic pending run.stage) :
    Within [Gatt.updateStatus] traffic pending ∧ before.filterMap Output.traffic? = [] := by
  cases loses with
  | operation error stage =>
    refine ⟨?_, rfl⟩
    rcases stage with hstage | hstage | hstage | hstage | ⟨transfer, hstage⟩ |
      ⟨transfer, rest, hstage⟩ <;> rw [hstage] at lit <;> exact lit
  | cancelledFinding requested stage =>
    refine ⟨?_, rfl⟩
    rcases stage with hstage | hstage | hstage | hstage <;> rw [hstage] at lit <;> exact lit
  | serviceMissing stage | characteristicMissing missing stage | unfit stage | ended stage
    | reported stage | cancelledListening requested stage =>
    rw [stage] at lit
    exact ⟨lit, rfl⟩

private theorem within_of_fails {before : List Output} {error : LinkError}
    (fails : Fails now run action note error before) {pending : Option Gatt.Operation}
    (lit : Lit traffic pending run.stage) :
    Within [] traffic pending ∧ before.filterMap Output.traffic? = [] := by
  cases fails with
  | operation error stage =>
    rcases stage with hstage | hstage | ⟨name, hstage⟩ <;> rw [hstage] at lit <;>
      exact ⟨lit, rfl⟩
  | scan stage =>
    rw [stage] at lit
    exact ⟨lit, rfl⟩
  | cancelled requested stage =>
    rcases stage with hstage | ⟨name, hstage⟩ <;> rw [hstage] at lit <;> exact ⟨lit, rfl⟩

/-! ### Steps -/

private theorem undoes_letGo {result : Except LinkError Unit} (own : action.IsOwn)
    (ahead : List Output) (quiet : ahead.filterMap Output.traffic? = [])
    (within : Within [Gatt.updateStatus] (trafficIn entries) (underWay? entries)) :
    Undoes ⟨(now.letGo run result).1,
      entries ++ seen entries (ahead ++ (now.letGo run result).2) action,
      (now.letGo run result).1.run.isNone⟩ := by
  rw [append_letGo]
  refine undoes_perform own _ rfl ?_ (within_brought within action).unsubscribe
  rw [List.filterMap_append, quiet]
  cases run.stage.isAwake <;> rfl

private theorem undoes_drop (was : Runs now entries) (current : now.run = some run)
    (lit : Lit (trafficIn entries) (underWay? entries) run.stage) (gone : next.run = none) :
    Undoes ⟨next, entries ++ seen entries ((if run.stage.isBusy then [.giveUp] else []) ++
      (if run.stage.isAwake then [.keepAwake false] else [])) .drop, next.run.isNone⟩ := by
  refine undoes_over own_drop gone ?_ ?_ fun hreturned => absurd hreturned ?_
  · cases run.stage.isBusy <;> cases run.stage.isAwake <;> rfl
  · exact (List.append_nil (trafficIn entries)).symm ▸ undone_of_lit lit
  · rw [was.marks_step current own_drop, marksOf_drop run.stage]
    exact (cut_of_held (was.at_stage current).1).unreturned

private theorem undoes_fail {before : List Output} {error : LinkError}
    (lit : Lit (trafficIn entries) (underWay? entries) run.stage)
    (fails : Fails now run action note error before) :
    Undoes ⟨(now.finish (.error error)).1,
      entries ++ seen entries (before ++ [.finished (.error error)]) action,
      (now.finish (.error error)).1.run.isNone⟩ := by
  obtain ⟨hwithin, hquiet⟩ := within_of_fails fails lit
  have hback := within_brought hwithin action
  refine undoes_over fails.own rfl ?_ (Gatt.undone_of_notMem hback.whole) fun _ => hback.dark
  rw [List.filterMap_append, hquiet]
  rfl

private theorem undoes_finish {result : Except LinkError Unit} (answer : Gatt.Answer)
    (lit : Lit (trafficIn entries) (underWay? entries) (.disconnecting result)) :
    Undoes ⟨(now.finish result).1, entries ++ seen entries [.finished result] (.answer answer),
      (now.finish result).1.run.isNone⟩ := by
  obtain ⟨hpending, front, hfront, hsplit⟩ := lit
  have hback : trafficIn entries ++ brought entries (.answer answer) =
      front ++ [.called .disconnect, .returned .disconnect answer] := by
    simp [brought, hpending, hsplit]
  have hdark :
      switchedOn (front ++ [.called .disconnect, .returned .disconnect answer]) = [] := by
    rw [Gatt.switchedOn_append, hfront.dark]
    rfl
  refine undoes_over (own_answer _) rfl rfl ?_ fun _ => ?_
  · rw [hback]
    exact Gatt.undone_of_split hfront.dark hfront.whole (by simp)
  · rw [hback]
    exact hdark

private theorem undoes_of_moves (was : Runs now entries) (current : now.run = some run)
    (lit : Lit (trafficIn entries) (underWay? entries) run.stage)
    (move : Moves now action note next outputs)
    (answered : ∀ run answer, now.run = some run → action = .answer answer →
      run.stage.isBusy = true → next.run ≠ some run) :
    Undoes ⟨next, entries ++ seen entries outputs action, next.run.isNone⟩ := by
  have hrunning := was.1.claims run current
  have hstage {other : BleRun} (hother : now.run = some other) : other = run :=
    Option.some.inj (hother.symm.trans current)
  cases move with
  | idle => exact undoes_same current lit (was.seen_idle answered)
  | refuse image running => exact undoes_same current lit rfl
  | begin idle | reject idle => exact absurd (idle.symm.trans hrunning) (by decide)
  | cancel => exact undoes_same current lit rfl
  | drop hcurrent =>
    obtain rfl := hstage hcurrent
    exact undoes_drop was current lit rfl
  | scan yielded hcurrent stage | connect answer hcurrent stage | discover hcurrent stage
    | openNotifications hcurrent stage | send yielded hcurrent stage =>
    obtain rfl := hstage hcurrent
    rw [stage] at lit
    exact undoes_perform (own_answer _) [] rfl rfl ((within_brought lit _).call rfl)
  | seek yielded hcurrent stage | invited yielded hcurrent stage | sent yielded hcurrent stage =>
    obtain rfl := hstage hcurrent
    rw [stage] at lit
    exact undoes_wait rfl (within_brought lit _)
  | stopScan hcurrent stage ends =>
    obtain rfl := hstage hcurrent
    rw [stage] at lit
    exact undoes_perform ends.own.1 [] rfl rfl ((within_brought lit _).call rfl)
  | connected yielded hcurrent stage =>
    obtain rfl := hstage hcurrent
    rw [stage] at lit
    exact undoes_perform (own_answer _) [] rfl rfl ((within_brought lit _).widen.call rfl)
  | subscribe yielded hcurrent stage =>
    obtain rfl := hstage hcurrent
    rw [stage] at lit
    exact undoes_perform (own_answer _) [] rfl rfl
      ((within_brought lit _).subscribe (List.mem_cons_self ..))
  | invite yielded hcurrent stage =>
    obtain rfl := hstage hcurrent
    rw [stage] at lit
    exact undoes_perform (own_answer _) [.keepAwake true] rfl rfl
      ((within_brought lit _).call rfl)
  | hear session hcurrent stage =>
    obtain rfl := hstage hcurrent
    rw [stage] at lit
    exact undoes_same rfl lit rfl
  | serve hcurrent stage =>
    obtain rfl := hstage hcurrent
    rw [stage] at lit
    exact undoes_perform (own_notification _) [] rfl rfl ((within_brought lit _).call rfl)
  | complete hcurrent stage =>
    obtain rfl := hstage hcurrent
    rw [stage] at lit
    exact undoes_letGo (own_notification _) [] rfl lit
  | lose hcurrent loses =>
    obtain rfl := hstage hcurrent
    obtain ⟨hwithin, hquiet⟩ := within_of_loses loses lit
    exact undoes_letGo loses.own _ hquiet hwithin
  | fail hcurrent fails =>
    obtain rfl := hstage hcurrent
    exact undoes_fail lit fails
  | disconnect answer hcurrent stage =>
    obtain rfl := hstage hcurrent
    rw [stage] at lit
    exact undoes_perform (own_answer _) [] rfl rfl ⟨rfl, _, within_brought lit _, rfl⟩
  | finish answer hcurrent stage =>
    obtain rfl := hstage hcurrent
    rw [stage] at lit
    exact undoes_finish answer lit

private theorem undoes_step {r : Record} (kept : Kept r) (h : Undoes r) (action : Action) :
    Undoes (r.step action) := by
  cases hover : r.isOver with
  | true =>
    rw [step_of_over hover]
    exact ⟨fun hgoing => absurd (hover.symm.trans hgoing) (by decide), fun _ => h.undone hover,
      fun _ => h.dark hover⟩
  | false =>
    rw [step_of_going hover]
    obtain ⟨run, hrun, hlit⟩ := h.going hover
    refine undoes_of_moves (kept.going hover) hrun hlit (moves_step r.updater action) ?_
    rintro other answer hother rfl hbusy
    exact run_step_answer hother hbusy answer

private theorem undoes_of_empty {r : Record} (ended : r.isOver = true) (empty : r.traffic = []) :
    Undoes r where
  going := fun hgoing => absurd (ended.symm.trans hgoing) (by decide)
  undone := fun _ => empty ▸ Gatt.undone_of_notMem List.not_mem_nil
  dark := fun _ _ => empty ▸ rfl

private theorem undoes_record (u : BleUpdater) (image : Bytes) (actions : List Action) :
    Undoes (u.record image actions) := by
  induction actions using List.reverseRecOn with
  | append_singleton actions action ih =>
    rw [record_snoc]
    exact undoes_step (kept_record u image actions) ih action
  | nil =>
    rcases u.record_begins image with ⟨updater, result, hrecord⟩ | ⟨-, -, hrecord⟩
    · rw [hrecord]
      exact undoes_of_empty rfl rfl
    · rw [hrecord]
      exact undoes_going rfl (within_nil.call rfl)

/-- A run at any time has switched off what it has switched on, where it disconnects. -/
theorem undone_record (u : BleUpdater) (image : Bytes) (actions : List Action) :
    Undone (u.record image actions).traffic := by
  cases hover : (u.record image actions).isOver with
  | true => exact (undoes_record u image actions).undone hover
  | false =>
    obtain ⟨run, -, hlit⟩ := (undoes_record u image actions).going hover
    exact undone_of_lit hlit

theorem dark_of_result {u : BleUpdater} {image : Bytes} {actions : List Action}
    {result : Except LinkError Unit} (returned : (u.record image actions).result? = some result) :
    switchedOn (u.record image actions).traffic = [] := by
  have hreturned := returned_mem_of_result returned
  cases hover : (u.record image actions).isOver with
  | true => exact (undoes_record u image actions).dark hover hreturned
  | false =>
    obtain ⟨-, run, -, hheld, -⟩ := (kept_record u image actions).going hover
    exact absurd (List.mem_append_left _ hreturned) (cut_of_held hheld).unreturned

end BleUpdater

end RadioLink.Update
