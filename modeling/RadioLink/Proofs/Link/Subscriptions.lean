import RadioLink.Proofs.Gatt.Traffic
import RadioLink.Proofs.Link.Releasing
import RadioLink.Proofs.Link.Setup

/-!
The notifications of a link over Bluetooth, from the attempt that switches them on to the task that
switches them off. An attempt that fails switches off nothing itself, so that those of the packet
counter stay on if it fails behind them; a task switches off all that the attempt has switched on.
-/

set_option autoImplicit false
set_option relaxedAutoImplicit false

namespace RadioLink.Link

variable {M : Type}

namespace Ble

open Gatt (Traffic switchedOn)

/-! ### Attempts -/

def Progress.passes (peripheral : String) (answer : Gatt.Answer) : Progress → List Traffic
  | .next setup =>
    [.called (setup.operation peripheral), .returned (setup.operation peripheral) answer]
  | .opened _ | .failed _ => []

def Progress.traffic (peripheral : String) (progress : Progress) : List Gatt.Answer → List Traffic
  | [] => []
  | answer :: answers =>
    progress.passes peripheral answer ++ (progress.take answer).traffic peripheral answers

def Setup.traffic (peripheral : String) (answers : List Gatt.Answer) : List Traffic :=
  (Progress.next .connecting).traffic peripheral answers

private theorem Progress.traffic_snoc (peripheral : String) (progress : Progress)
    (answers : List Gatt.Answer) (answer : Gatt.Answer) :
    progress.traffic peripheral (answers ++ [answer]) =
      progress.traffic peripheral answers ++
        (answers.foldl Progress.take progress).passes peripheral answer := by
  induction answers generalizing progress with
  | nil => simp [traffic]
  | cons first answers ih =>
    simp only [List.cons_append, traffic, ih, List.foldl_cons, List.append_assoc]

private theorem Setup.traffic_snoc (peripheral : String) (answers : List Gatt.Answer)
    (answer : Gatt.Answer) :
    Setup.traffic peripheral (answers ++ [answer]) =
      Setup.traffic peripheral answers ++ (follow answers).passes peripheral answer :=
  Progress.traffic_snoc peripheral _ answers answer

/-- Nothing is on, and neither the log's notifications nor an end have been asked for. -/
structure Dark (traffic : List Traffic) : Prop where
  whole : .called .disconnect ∉ traffic
  unasked : .called (.subscribe Gatt.logLine) ∉ traffic
  dark : switchedOn traffic = []

/-- What is on when an attempt gives up: the notifications of the packet counter, if those of the
log have been asked for. -/
structure GivesUp (traffic : List Traffic) : Prop where
  whole : .called .disconnect ∉ traffic
  left_on : switchedOn traffic =
    if .called (.subscribe Gatt.logLine) ∈ traffic then [Gatt.packetCounter] else []

/-- What is on, by where an attempt has got. -/
private def Lights (traffic : List Traffic) : Progress → Prop
  | .next (.givingUp _) => GivesUp traffic
  | .next .subscribingLog =>
    .called .disconnect ∉ traffic ∧ .called (.subscribe Gatt.logLine) ∉ traffic ∧
      switchedOn traffic = [Gatt.packetCounter]
  | .next _ => Dark traffic
  | .opened hasLog =>
    .called .disconnect ∉ traffic ∧
      switchedOn traffic = (if hasLog then [Gatt.logLine] else []) ++ [Gatt.packetCounter]
  | .failed _ =>
    .called .disconnect ∉ traffic ∨
      ∃ before answer, GivesUp before ∧
        traffic = before ++ [.called .disconnect, .returned .disconnect answer]

variable {traffic : List Traffic}

private theorem Dark.givesUp (h : Dark traffic) : GivesUp traffic :=
  ⟨h.whole, by rw [if_neg h.unasked, h.dark]⟩

private theorem Dark.exchange (h : Dark traffic) (operation : Gatt.Operation)
    (plain : operation.isPlain = true) (answer : Gatt.Answer) :
    Dark (traffic ++ [.called operation, .returned operation answer]) where
  whole := by simp [h.whole, (Gatt.ne_disconnect_of_isPlain plain).symm]
  unasked := by simp [h.unasked, (Gatt.ne_subscribe_of_isPlain plain Gatt.logLine).symm]
  dark := by
    have hsplit : traffic ++ [.called operation, .returned operation answer] =
        traffic ++ [.called operation] ++ [.returned operation answer] := by simp
    rw [hsplit, Gatt.switchedOn_returned plain, Gatt.switchedOn_called plain, h.dark]

private theorem Dark.counter (h : Dark traffic) (answer : Gatt.Answer) :
    let later := traffic ++ [.called (.subscribe Gatt.packetCounter),
      .returned (.subscribe Gatt.packetCounter) answer]
    .called .disconnect ∉ later ∧ .called (.subscribe Gatt.logLine) ∉ later ∧
      switchedOn later = if answer.isOk then [Gatt.packetCounter] else [] := by
  have hother : Gatt.logLine ≠ Gatt.packetCounter := by decide
  refine ⟨by simp [h.whole], by simp [h.unasked, hother], ?_⟩
  rw [Gatt.switchedOn_subscribe, h.dark]

private theorem Lights.take {progress : Progress} (lights : Lights traffic progress)
    (peripheral : String) (answer : Gatt.Answer) :
    Lights (traffic ++ progress.passes peripheral answer) (progress.take answer) := by
  cases progress with
  | opened hasLog | failed error =>
    rw [Progress.passes, List.append_nil]
    exact lights
  | next setup =>
    cases setup with
    | connecting =>
      have hdark := Dark.exchange lights (.connect peripheral) rfl answer
      cases answer with
      | error error => exact .inl hdark.whole
      | ok yielded => exact hdark
    | findingService =>
      have hdark := Dark.exchange lights .discoverServices rfl answer
      cases answer with
      | error error => exact hdark.givesUp
      | ok yielded =>
        simp only [Progress.take, Setup.step, Setup.proceed]
        split_ifs
        · exact hdark
        · exact hdark.givesUp
    | findingCharacteristics =>
      have hdark := Dark.exchange lights (.discoverCharacteristics Gatt.radioService) rfl answer
      cases answer with
      | error error => exact hdark.givesUp
      | ok yielded =>
        simp only [Progress.take, Setup.step, Setup.proceed]
        cases required.find? (· ∉ yielded.uuids) with
        | some missing => exact hdark.givesUp
        | none => exact hdark
    | openingNotifications hasLog =>
      have hdark := Dark.exchange lights .openNotifications rfl answer
      cases answer with
      | error error => exact hdark.givesUp
      | ok yielded => exact hdark
    | subscribingCounter hasLog =>
      obtain ⟨hwhole, hunasked, hon⟩ := Dark.counter lights answer
      cases answer with
      | error error => exact (⟨hwhole, hunasked, hon⟩ : Dark _).givesUp
      | ok yielded =>
        cases hasLog with
        | true => exact ⟨hwhole, hunasked, hon⟩
        | false => exact ⟨hwhole, hon⟩
    | subscribingLog =>
      obtain ⟨hwhole, hunasked, hon⟩ := lights
      have hwhole' : .called .disconnect ∉ traffic ++
          [.called (.subscribe Gatt.logLine), .returned (.subscribe Gatt.logLine) answer] := by
        simp [hwhole]
      have hon' := Gatt.switchedOn_subscribe traffic Gatt.logLine answer
      rw [hon] at hon'
      cases answer with
      | error error =>
        exact ⟨hwhole', hon'.trans (if_pos (by simp [Progress.passes, Setup.operation])).symm⟩
      | ok yielded => exact ⟨hwhole', hon'⟩
    | givingUp error => cases answer <;> exact .inr ⟨traffic, _, lights, rfl⟩

private theorem lights_traffic (peripheral : String) (answers : List Gatt.Answer) :
    Lights (Setup.traffic peripheral answers) (Setup.follow answers) := by
  induction answers using List.reverseRecOn with
  | nil => exact (⟨List.not_mem_nil, List.not_mem_nil, rfl⟩ : Dark [])
  | append_singleton answers answer ih =>
    rw [Setup.traffic_snoc, Setup.follow_snoc]
    exact ih.take peripheral answer

theorem left_on_of_failed {peripheral : String} {answers : List Gatt.Answer} {error : LinkError}
    (failed : Setup.follow answers = .failed error) {before behind : List Traffic}
    (split : Setup.traffic peripheral answers = before ++ .called .disconnect :: behind) :
    switchedOn before =
      if .called (.subscribe Gatt.logLine) ∈ before then [Gatt.packetCounter] else [] := by
  have hlights := lights_traffic peripheral answers
  rw [failed] at hlights
  rcases hlights with hnever | ⟨front, answer, hgivesUp, htraffic⟩
  · exact absurd (by simp [split]) hnever
  · have hsame : front ++ .called .disconnect :: [.returned .disconnect answer] =
        before ++ .called .disconnect :: behind := htraffic.symm.trans split
    obtain ⟨rfl, -⟩ := (List.append_cons_inj_of_notMem hgivesUp.whole (by simp)).mp hsame
    exact hgivesUp.left_on

end Ble

/-! ### Tasks -/

variable {p : Protocol M}

private def Sign.run? : Sign p → Option p.Op
  | .showed (.run operation) => some operation
  | _ => none

private def runsIn (signs : List (Sign p)) : List p.Op := signs.filterMap Sign.run?

private theorem runsIn_append (before behind : List (Sign p)) :
    runsIn (before ++ behind) = runsIn before ++ runsIn behind := List.filterMap_append

private theorem runsIn_exchanges (done : List (p.Op × p.Answer)) :
    runsIn (exchanges done) = done.map Prod.fst := by
  induction done with
  | nil => rfl
  | cons exchange done ih => exact congrArg (exchange.1 :: ·) ih

private theorem runsIn_closing (cause : Cause) (told : Bool) :
    runsIn ((closing p cause told).map Sign.showed) = [] := by
  cases told <;> rfl

private theorem runsIn_replies (callers : List Caller) (result : Except LinkError Unit) :
    runsIn (callers.map fun caller => (.showed (.reply caller result) : Sign p)) = [] := by
  induction callers with
  | nil => rfl
  | cons caller callers ih => exact ih

private theorem runsIn_late {calls : List Command} {outputs : List (Output p)}
    (late : ∀ output ∈ outputs, Late calls output) : runsIn (outputs.map Sign.showed) = [] := by
  induction outputs with
  | nil => rfl
  | cons output outputs ih =>
    obtain ⟨hfirst, hrest⟩ := List.forall_mem_cons.mp late
    cases output with
    | reply caller result => exact ih hrest
    | _ => exact hfirst.elim

private theorem Parting.exists_runs {calls : List Command} {heard : Bool} {ops : List p.Op}
    {phase : Phase M p.Op} {tail : List (Sign p)} (parting : Parting calls heard ops phase tail) :
    ∃ rest, runsIn tail ++ rest = ops ∧ (phase = .ended → rest = []) := by
  cases parting with
  | @live phase live =>
    refine ⟨ops, rfl, ?_⟩
    rintro rfl
    exact live.elim
  | @releasing _ _ done op rest all =>
    refine ⟨rest, ?_, nofun⟩
    rw [runsIn_append, runsIn_exchanges, ← all]
    simp [runsIn, Sign.run?]
  | released asked all => exact ⟨[], by simp [runsIn_exchanges, all], nofun⟩
  | marked asked all =>
    refine ⟨[], ?_, nofun⟩
    rw [runsIn_append, runsIn_exchanges, all]
    simp [runsIn, Sign.run?]
  | announced asked all =>
    exact ⟨[], by simp [runsIn_append, runsIn_exchanges, runsIn_closing, all], nofun⟩
  | answered asked all =>
    exact ⟨[], by simp [runsIn_append, runsIn_exchanges, runsIn_closing, runsIn_replies, all],
      nofun⟩
  | ended asked all hears answers =>
    refine ⟨[], ?_, fun _ => rfl⟩
    simp [runsIn_append, runsIn_exchanges, runsIn_closing, runsIn_replies, runsIn_late answers, all]

namespace Ble

open Gatt (Traffic switchedOn)

variable {format : Format M}

/-- What passes between a task and a peripheral, with an operation under way or none. -/
def trafficOf (underWay : Option Gatt.Operation) :
    List (Sign (Ble.protocol format)) → List Traffic
  | [] => []
  | .took answer :: signs => underWay.toList.map (.returned · answer) ++ trafficOf none signs
  | .showed (.run operation) :: signs => .called operation :: trafficOf (some operation) signs
  | .showed _ :: signs => trafficOf underWay signs

private theorem callsIn_trafficOf (underWay : Option Gatt.Operation)
    (signs : List (Sign (Ble.protocol format))) :
    Gatt.callsIn (trafficOf underWay signs) = runsIn signs := by
  induction signs generalizing underWay with
  | nil => rfl
  | cons sign signs ih =>
    cases sign with
    | took answer => cases underWay <;> exact ih none
    | showed output =>
      cases output with
      | run operation => exact congrArg (operation :: ·) (ih (some operation))
      | _ => exact ih underWay

private theorem mem_runsIn_of_returned {underWay : Option Gatt.Operation}
    {signs : List (Sign (Ble.protocol format))} {operation : Gatt.Operation} {answer : Gatt.Answer}
    (mem : .returned operation answer ∈ trafficOf underWay signs) :
    underWay = some operation ∨ operation ∈ runsIn signs := by
  induction signs generalizing underWay with
  | nil => cases mem
  | cons sign signs ih =>
    cases sign with
    | took other =>
      rcases List.mem_append.mp mem with mem | mem
      · obtain ⟨pending, hpending, hreturned⟩ := List.mem_map.mp mem
        obtain ⟨rfl, -⟩ := Traffic.returned.inj hreturned
        exact .inl (Option.mem_toList.mp hpending)
      · exact .inr ((ih mem).resolve_left nofun)
    | showed output =>
      cases output with
      | run asked =>
        rcases List.mem_cons.mp mem with hcalled | mem
        · cases hcalled
        · rcases ih mem with hsame | hlater
          · exact .inr (Option.some.inj hsame ▸ List.mem_cons_self ..)
          · exact .inr (List.mem_cons_of_mem _ hlater)
      | _ => exact ih mem

/-- The operations of a task: work, and then what releases the link. -/
private theorem exists_runsIn (connection : Connection (Ble.protocol format)) (hasLog : Bool)
    (actions : List (Action (Ble.protocol format))) :
    let l : Opening (Ble.protocol format) := ⟨connection, hasLog, actions⟩
    ∃ work ending rest : List Gatt.Operation, runsIn l.passed = work ++ ending ∧
      (∀ op ∈ work, Works op) ∧ ending ++ rest = releaseOf hasLog ∧
      (l.session.phase = .ended → rest = []) := by
  intro l
  obtain ⟨early, tail, hpassed, hearly, hparting⟩ :=
    (parts_run (mild_ble format) (trades format) l.memory l.actions).split
  obtain ⟨rest, hrest, hended⟩ := hparting.exists_runs
  refine ⟨runsIn early, runsIn tail, rest, ?_, ?_, hrest, hended⟩
  · exact (congrArg runsIn hpassed).trans (runsIn_append early tail)
  · intro op hop
    obtain ⟨sign, hsign, hrun⟩ := List.mem_filterMap.mp hop
    match sign, hrun with
    | .showed (.run operation), hrun =>
      obtain rfl : operation = op := Option.some.inj hrun
      exact (hearly _ hsign).2 operation rfl

private theorem foldl_darken_work {work : List Gatt.Operation} (works : ∀ op ∈ work, Works op)
    (on : List Uuid) : work.foldl Gatt.Operation.darken on = on := by
  induction work with
  | nil => rfl
  | cons op work ih =>
    obtain ⟨hfirst, hrest⟩ := List.forall_mem_cons.mp works
    rcases hfirst with rfl | ⟨bytes, rfl⟩ <;> exact ih hrest

private def switchingOff (hasLog : Bool) : List Gatt.Operation :=
  .unsubscribe Gatt.packetCounter :: if hasLog then [.unsubscribe Gatt.logLine] else []

private theorem foldl_darken_switchingOff (hasLog : Bool) :
    (switchingOff hasLog).foldl Gatt.Operation.darken
      ((if hasLog then [Gatt.logLine] else []) ++ [Gatt.packetCounter]) = [] := by
  cases hasLog <;> decide

private theorem subscribe_notMem_releaseOf (hasLog : Bool) (characteristic : Uuid) :
    .subscribe characteristic ∉ releaseOf hasLog := by
  cases hasLog <;> simp [releaseOf]

private theorem disconnect_notMem {work : List Gatt.Operation} (works : ∀ op ∈ work, Works op)
    (hasLog : Bool) : .disconnect ∉ work ++ switchingOff hasLog := by
  intro hmem
  rcases List.mem_append.mp hmem with hmem | hmem
  · rcases works _ hmem with hread | ⟨bytes, hwrite⟩
    · cases hread
    · cases hwrite
  · cases hasLog <;> simp [switchingOff] at hmem

theorem undone_of_opened {peripheral : String} {answers : List Gatt.Answer} {hasLog : Bool}
    (opened : Setup.follow answers = .opened hasLog)
    (connection : Connection (Ble.protocol format))
    (actions : List (Action (Ble.protocol format))) :
    let l : Opening (Ble.protocol format) := ⟨connection, hasLog, actions⟩
    let traffic := Setup.traffic peripheral answers ++ trafficOf none l.passed
    Gatt.Undone traffic ∧ (l.session.phase = .ended → switchedOn traffic = []) := by
  intro l traffic
  have hlights := lights_traffic peripheral answers
  rw [opened] at hlights
  obtain ⟨hwhole, hon⟩ := hlights
  obtain ⟨work, ending, rest, hruns, hworks, hending, hended⟩ :=
    exists_runsIn connection hasLog actions
  have hcalls : Gatt.callsIn (trafficOf none l.passed) = work ++ ending :=
    (callsIn_trafficOf none l.passed).trans hruns
  have hsteady : ∀ characteristic answer,
      .returned (.subscribe characteristic) answer ∉ trafficOf none l.passed := by
    intro characteristic answer hmem
    have hrun := (mem_runsIn_of_returned hmem).resolve_left nofun
    rw [hruns] at hrun
    rcases List.mem_append.mp hrun with hrun | hrun
    · rcases hworks _ hrun with hread | ⟨bytes, hwrite⟩
      · cases hread
      · cases hwrite
    · exact subscribe_notMem_releaseOf hasLog characteristic
        (hending ▸ List.mem_append_left _ hrun)
  have hdark : (work ++ switchingOff hasLog).foldl Gatt.Operation.darken
      (switchedOn (Setup.traffic peripheral answers)) = [] := by
    rw [List.foldl_append, foldl_darken_work hworks, hon, foldl_darken_switchingOff]
  refine ⟨fun before behind split => ?_, fun hphase => ?_⟩
  · obtain ⟨more, rfl, htask⟩ := Gatt.exists_of_split hwhole split
    have hsame : (work ++ switchingOff hasLog) ++ .disconnect :: [] =
        Gatt.callsIn more ++ .disconnect :: (Gatt.callsIn behind ++ rest) := by
      have hrelease :
          (work ++ switchingOff hasLog) ++ [.disconnect] = work ++ (ending ++ rest) := by
        rw [hending, List.append_assoc]
        rfl
      rw [hrelease, ← List.append_assoc, ← hcalls, htask]
      simp [Gatt.callsIn, Traffic.call?]
    obtain ⟨hmore, -⟩ :=
      (List.append_cons_inj_of_notMem (disconnect_notMem hworks hasLog) (by simp)).mp hsame
    have hsteady' : ∀ characteristic answer,
        .returned (.subscribe characteristic) answer ∉ more := fun characteristic answer hmem =>
      hsteady characteristic answer (htask ▸ List.mem_append_left _ hmem)
    rw [Gatt.switchedOn_append, Gatt.foldl_switch_eq _ more hsteady', ← hmore, hdark]
  · obtain rfl : rest = [] := hended hphase
    have hall : ending = switchingOff hasLog ++ [.disconnect] :=
      (List.append_nil ending).symm.trans hending
    rw [Gatt.switchedOn_append, Gatt.foldl_switch_eq _ _ hsteady, hcalls, hall,
      ← List.append_assoc, List.foldl_append, hdark]
    rfl

end Ble

end RadioLink.Link
