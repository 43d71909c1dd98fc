import Mathlib.Data.List.Induction
import RadioLink.Proofs.Update.Sessions
import RadioLink.Update.BleUpdater

/-!
What an updater over Bluetooth does, said once. Every step is one of a list of moves; what a step
tells beside its outputs (the longest write of the peripheral, a state that the device reports, an
operation that fails and ends the run) is noted, and the notes of some actions are their history.
-/

set_option autoImplicit false
set_option relaxedAutoImplicit false

namespace RadioLink.Update

/-- A failure of the operation under way ends the run. What only lets something go may fail. -/
def BleStage.breaks : BleStage → Bool
  | .poweringOn | .startingScan | .connecting _ | .findingService | .findingCharacteristics
  | .openingNotifications | .subscribing | .inviting _ | .sending .. => true
  | _ => false

def BleStage.isLettingGo : BleStage → Bool
  | .unsubscribing _ | .disconnecting _ => true
  | _ => false

namespace BleUpdater

inductive Note where
  | connected (writeLimit : Nat)
  /-- The run takes a state that the device reports. -/
  | heard (state : DeviceState)
  /-- An operation fails and ends the run. -/
  | broke (error : LinkError)
  deriving DecidableEq

def answerNote? (stage : BleStage) : Gatt.Answer → Option Note
  | .ok yielded =>
    match stage with
    | .connecting _ => some (.connected yielded.writeLimit)
    | _ => none
  | .error error => if stage.breaks then some (.broke error) else none

def note? (u : BleUpdater) : Action → Option Note
  | .answer answer => u.run.bind fun run => answerNote? run.stage answer
  | .notification (some n) =>
    u.run.bind fun run =>
      match run.stage with
      | .listening _ => (reported? n).map .heard
      | _ => none
  | _ => none

def runEach (u : BleUpdater) (actions : List Action) : BleUpdater × List Output :=
  actEach step u actions

def history (u : BleUpdater) : List Action → List Note
  | [] => []
  | action :: actions => (u.note? action).toList ++ (u.step action).1.history actions

/-- How a scan ends, and what it has found. -/
inductive ScanEnds (u : BleUpdater) : Action → Except LinkError Gatt.Advertisement → Prop
  | sighted (adv : Gatt.Advertisement) : ScanEnds u (.sighting (some adv)) (.ok adv)
  | gone : ScanEnds u (.sighting none) (.error (.bluetooth "scan ended unexpectedly"))
  | timedOut :
    ScanEnds u .scanTimeout (.error (.scanTimeout u.settings.scanTimeout.toMillis))
  | cancelled (requested : u.session.cancelRequested = true) :
    ScanEnds u .noticeCancel (.error .cancelled)

inductive Fails (u : BleUpdater) (run : BleRun) :
    Action → Option Note → LinkError → List Output → Prop
  | operation (error : LinkError)
      (stage : run.stage = .poweringOn ∨ run.stage = .startingScan ∨
        ∃ name, run.stage = .connecting name) :
      Fails u run (.answer (.error error)) (some (.broke error)) error []
  | scan {answer : Gatt.Answer} {error : LinkError}
      (stage : run.stage = .stoppingScan (.error error)) :
      Fails u run (.answer answer) none error []
  | cancelled (requested : u.session.cancelRequested = true)
      (stage : run.stage = .poweringOn ∨ ∃ name, run.stage = .connecting name) :
      Fails u run .noticeCancel none .cancelled [.giveUp]

/-- Why a connected run lets the device go with an error: what it tells, the error, and what is seen
ahead of it. -/
inductive Loses (u : BleUpdater) (run : BleRun) :
    Action → Option Note → LinkError → List Output → Prop
  | operation (error : LinkError)
      (stage : run.stage = .findingService ∨ run.stage = .findingCharacteristics ∨
        run.stage = .openingNotifications ∨ run.stage = .subscribing ∨
        (∃ transfer, run.stage = .inviting transfer) ∨
        ∃ transfer rest, run.stage = .sending transfer rest) :
      Loses u run (.answer (.error error)) (some (.broke error)) error []
  | serviceMissing {yielded : Gatt.Yield} (stage : run.stage = .findingService) :
      Loses u run (.answer (.ok yielded)) none (.serviceMissing (toString Gatt.updateService)) []
  | characteristicMissing {yielded : Gatt.Yield} (missing : Uuid)
      (stage : run.stage = .findingCharacteristics) :
      Loses u run (.answer (.ok yielded)) none (.characteristicMissing (toString missing)) []
  /-- The peripheral takes no chunk. -/
  | unfit {yielded : Gatt.Yield} {error : LinkError} (stage : run.stage = .subscribing)
      (unfit : Transfer.start run.image (run.writeLimit - Config.writeOverhead)
        u.settings.chunksPerAck.toNat = .error error) :
      Loses u run (.answer (.ok yielded)) none error [.keepAwake true, .keepAwake false]
  | ended {transfer : Transfer} (stage : run.stage = .listening transfer) :
      Loses u run (.notification none) none
        (.disconnected "status notifications ended before completion") []
  | reported {transfer : Transfer} {n : Gatt.Notification} {state : DeviceState}
      (stage : run.stage = .listening transfer) (heard : reported? n = some state)
      (failed : (transfer.report state).1 = .failed) :
      Loses u run (.notification (some n)) (some (.heard state)) .deviceReportedError []
  | cancelledFinding (requested : u.session.cancelRequested = true)
      (stage : run.stage = .findingService ∨ run.stage = .findingCharacteristics ∨
        run.stage = .openingNotifications ∨ run.stage = .subscribing) :
      Loses u run .noticeCancel none .cancelled [.giveUp]
  | cancelledListening {transfer : Transfer} (requested : u.session.cancelRequested = true)
      (stage : run.stage = .listening transfer) : Loses u run .noticeCancel none .cancelled []

theorem Fails.isLettingGo {u : BleUpdater} {run : BleRun} {action : Action} {note : Option Note}
    {error : LinkError} {before : List Output} (fails : Fails u run action note error before) :
    run.stage.isLettingGo = false := by
  cases fails with
  | operation error stage =>
    rcases stage with hstage | hstage | ⟨name, hstage⟩ <;> rw [hstage] <;> rfl
  | scan stage =>
    rw [stage]
    rfl
  | cancelled requested stage =>
    rcases stage with hstage | ⟨name, hstage⟩ <;> rw [hstage] <;> rfl

theorem Loses.isLettingGo {u : BleUpdater} {run : BleRun} {action : Action} {note : Option Note}
    {error : LinkError} {before : List Output} (loses : Loses u run action note error before) :
    run.stage.isLettingGo = false := by
  cases loses with
  | operation error stage =>
    rcases stage with hstage | hstage | hstage | hstage | ⟨transfer, hstage⟩ |
      ⟨transfer, rest, hstage⟩ <;> rw [hstage] <;> rfl
  | cancelledFinding requested stage =>
    rcases stage with hstage | hstage | hstage | hstage <;> rw [hstage] <;> rfl
  | serviceMissing stage | characteristicMissing missing stage | unfit stage | ended stage
    | reported stage | cancelledListening requested stage =>
    rw [stage]
    rfl

/-- All that a step of an updater can be. -/
inductive Moves : BleUpdater → Action → Option Note → BleUpdater → List Output → Prop
  | idle (u : BleUpdater) (action : Action) : Moves u action none u []
  | refuse {u : BleUpdater} (image : Bytes) (running : u.session.running = true) :
      Moves u (.start image) none u [.finished (.error .updateInProgress)]
  | begin {u : BleUpdater} {image : Bytes} (idle : u.session.running = false)
      (nonempty : image ≠ []) :
      Moves u (.start image) none
        { u with session := .claimed, run := some ⟨image, 0, .poweringOn⟩ } [.run .powerOn]
  | reject {u : BleUpdater} (idle : u.session.running = false) :
      Moves u (.start []) none
        ({ u with session := .claimed }.finish (.error (.invalidFirmware "image is empty"))).1
        [.finished (.error (.invalidFirmware "image is empty"))]
  | cancel (u : BleUpdater) :
      Moves u .cancel none { u with session := u.session.cancel.2 } [.cancelled u.session.cancel.1]
  | drop {u : BleUpdater} {run : BleRun} (current : u.run = some run) :
      Moves u .drop none { u with session := u.session.release, run := none }
        ((if run.stage.isBusy then [.giveUp] else [])
          ++ (if run.stage.isAwake then [.keepAwake false] else []))
  | scan {u : BleUpdater} {run : BleRun} (yielded : Gatt.Yield) (current : u.run = some run)
      (stage : run.stage = .poweringOn) :
      Moves u (.answer (.ok yielded)) none (u.enter run .startingScan)
        [.run (.scan Gatt.updateService)]
  | seek {u : BleUpdater} {run : BleRun} (yielded : Gatt.Yield) (current : u.run = some run)
      (stage : run.stage = .startingScan) :
      Moves u (.answer (.ok yielded)) none (u.enter run .seeking) []
  | stopScan {u : BleUpdater} {run : BleRun} {action : Action}
      {found : Except LinkError Gatt.Advertisement} (current : u.run = some run)
      (stage : run.stage = .seeking) (ends : ScanEnds u action found) :
      Moves u action none (u.enter run (.stoppingScan found)) [.run .stopScan]
  | connect {u : BleUpdater} {run : BleRun} {adv : Gatt.Advertisement} (answer : Gatt.Answer)
      (current : u.run = some run) (stage : run.stage = .stoppingScan (.ok adv)) :
      Moves u (.answer answer) none
        ({ u with session := u.session.setDeviceName (adv.name.getD "unknown") }.enter run
          (.connecting (adv.name.getD "unknown"))) [.run (.connect adv.id)]
  | connected {u : BleUpdater} {run : BleRun} {name : String} (yielded : Gatt.Yield)
      (current : u.run = some run) (stage : run.stage = .connecting name) :
      Moves u (.answer (.ok yielded)) (some (.connected yielded.writeLimit))
        ((u.present .connected ("Connected to " ++ name)).enter
          { run with writeLimit := yielded.writeLimit } .findingService) [.run .discoverServices]
  | discover {u : BleUpdater} {run : BleRun} {yielded : Gatt.Yield} (current : u.run = some run)
      (stage : run.stage = .findingService) (present : Gatt.updateService ∈ yielded.uuids) :
      Moves u (.answer (.ok yielded)) none (u.enter run .findingCharacteristics)
        [.run (.discoverCharacteristics Gatt.updateService)]
  | openNotifications {u : BleUpdater} {run : BleRun} {yielded : Gatt.Yield}
      (current : u.run = some run) (stage : run.stage = .findingCharacteristics)
      (present : ∀ characteristic ∈ required, characteristic ∈ yielded.uuids) :
      Moves u (.answer (.ok yielded)) none (u.enter run .openingNotifications)
        [.run .openNotifications]
  | subscribe {u : BleUpdater} {run : BleRun} (yielded : Gatt.Yield) (current : u.run = some run)
      (stage : run.stage = .openingNotifications) :
      Moves u (.answer (.ok yielded)) none (u.enter run .subscribing)
        [.run (.subscribe Gatt.updateStatus)]
  | invite {u : BleUpdater} {run : BleRun} {transfer : Transfer} (yielded : Gatt.Yield)
      (current : u.run = some run) (stage : run.stage = .subscribing)
      (fit : Transfer.start run.image (run.writeLimit - Config.writeOverhead)
        u.settings.chunksPerAck.toNat = .ok transfer) :
      Moves u (.answer (.ok yielded)) none (u.enter run (.inviting transfer))
        [.keepAwake true, .run (writeData (invitation run.image))]
  | invited {u : BleUpdater} {run : BleRun} {transfer : Transfer} (yielded : Gatt.Yield)
      (current : u.run = some run) (stage : run.stage = .inviting transfer) :
      Moves u (.answer (.ok yielded)) none (u.enter run (.listening transfer)) []
  /-- The device reports a state that has nothing written. -/
  | hear {u : BleUpdater} {run : BleRun} {transfer : Transfer} {n : Gatt.Notification}
      {state : DeviceState} (session : Session) (current : u.run = some run)
      (stage : run.stage = .listening transfer) (heard : reported? n = some state)
      (quiet : (transfer.report state).1 = .wait ∨ (transfer.report state).1 = .preparing ∨
        (transfer.report state).1 = .stalled ∨ (transfer.report state).1 = .send [])
      (shown : session = u.session ∨
        session = u.session.setPhase .waitingForConnection "About to start..." ∨
        session = u.session.setPhase .preparing "Preparing flash partition...") :
      Moves u (.notification (some n)) (some (.heard state))
        ({ u with session := session }.enter run (.listening (transfer.report state).2)) []
  /-- The device asks for chunks, and the first of them is written. -/
  | serve {u : BleUpdater} {run : BleRun} {transfer : Transfer} {n : Gatt.Notification}
      {state : DeviceState} {chunk : Bytes} {rest : List Bytes} (current : u.run = some run)
      (stage : run.stage = .listening transfer) (heard : reported? n = some state)
      (window : (transfer.report state).1 = .send (chunk :: rest)) :
      Moves u (.notification (some n)) (some (.heard state))
        ((u.present .transferring "Transfer in progress...").enter run
          (.sending (transfer.report state).2 rest)) [.run (writeData chunk)]
  | send {u : BleUpdater} {run : BleRun} {transfer : Transfer} {chunk : Bytes} {rest : List Bytes}
      (yielded : Gatt.Yield) (current : u.run = some run)
      (stage : run.stage = .sending transfer (chunk :: rest)) :
      Moves u (.answer (.ok yielded)) none (u.enter run (.sending transfer rest))
        [.run (writeData chunk)]
  | sent {u : BleUpdater} {run : BleRun} {transfer : Transfer} (yielded : Gatt.Yield)
      (current : u.run = some run) (stage : run.stage = .sending transfer []) :
      Moves u (.answer (.ok yielded)) none
        ({ u with session := u.session.setProgress transfer.progress }.enter run
          (.listening transfer)) []
  | complete {u : BleUpdater} {run : BleRun} {transfer : Transfer} {n : Gatt.Notification}
      {state : DeviceState} (current : u.run = some run)
      (stage : run.stage = .listening transfer) (heard : reported? n = some state)
      (complete : (transfer.report state).1 = .complete) :
      Moves u (.notification (some n)) (some (.heard state)) (u.letGo run (.ok ())).1
        (u.letGo run (.ok ())).2
  | lose {u : BleUpdater} {run : BleRun} {action : Action} {note : Option Note} {error : LinkError}
      {before : List Output} (current : u.run = some run)
      (loses : Loses u run action note error before) :
      Moves u action note (u.letGo run (.error error)).1 (before ++ (u.letGo run (.error error)).2)
  | fail {u : BleUpdater} {run : BleRun} {action : Action} {note : Option Note} {error : LinkError}
      {before : List Output} (current : u.run = some run)
      (fails : Fails u run action note error before) :
      Moves u action note (u.finish (.error error)).1 (before ++ [.finished (.error error)])
  | disconnect {u : BleUpdater} {run : BleRun} {result : Except LinkError Unit}
      (answer : Gatt.Answer) (current : u.run = some run)
      (stage : run.stage = .unsubscribing result) :
      Moves u (.answer answer) none (u.enter run (.disconnecting result)) [.run .disconnect]
  | finish {u : BleUpdater} {run : BleRun} {result : Except LinkError Unit} (answer : Gatt.Answer)
      (current : u.run = some run) (stage : run.stage = .disconnecting result) :
      Moves u (.answer answer) none (u.finish result).1 [.finished result]

private theorem moves_failure (settings : Config.BleUpdate) (session : Session) (image : Bytes)
    (writeLimit : Nat) (stage : BleStage) (error : LinkError) :
    let u : BleUpdater := ⟨settings, session, some ⟨image, writeLimit, stage⟩⟩
    Moves u (.answer (.error error)) (u.note? (.answer (.error error)))
      (u.step (.answer (.error error))).1 (u.step (.answer (.error error))).2 := by
  intro u
  have current : u.run = some ⟨image, writeLimit, stage⟩ := rfl
  cases stage with
  | poweringOn => exact (Moves.fail current (.operation error (.inl rfl)) :)
  | startingScan => exact (Moves.fail current (.operation error (.inr (.inl rfl))) :)
  | connecting name => exact (Moves.fail current (.operation error (.inr (.inr ⟨name, rfl⟩))) :)
  | seeking => exact .idle _ _
  | listening transfer => exact .idle _ _
  | stoppingScan found =>
    cases found with
    | ok adv => exact .connect _ current rfl
    | error reason => exact (Moves.fail current (.scan rfl) :)
  | unsubscribing result => exact .disconnect _ current rfl
  | disconnecting result => exact .finish _ current rfl
  | findingService => exact (Moves.lose current (.operation error (.inl rfl)) :)
  | findingCharacteristics => exact (Moves.lose current (.operation error (.inr (.inl rfl))) :)
  | openingNotifications =>
    exact (Moves.lose current (.operation error (.inr (.inr (.inl rfl)))) :)
  | subscribing =>
    exact (Moves.lose current (.operation error (.inr (.inr (.inr (.inl rfl))))) :)
  | inviting transfer =>
    exact (Moves.lose current
      (.operation error (.inr (.inr (.inr (.inr (.inl ⟨transfer, rfl⟩)))))) :)
  | sending transfer rest =>
    exact (Moves.lose current
      (.operation error (.inr (.inr (.inr (.inr (.inr ⟨transfer, rest, rfl⟩)))))) :)

private theorem moves_yield (settings : Config.BleUpdate) (session : Session) (image : Bytes)
    (writeLimit : Nat) (stage : BleStage) (yielded : Gatt.Yield) :
    let u : BleUpdater := ⟨settings, session, some ⟨image, writeLimit, stage⟩⟩
    Moves u (.answer (.ok yielded)) (u.note? (.answer (.ok yielded)))
      (u.step (.answer (.ok yielded))).1 (u.step (.answer (.ok yielded))).2 := by
  intro u
  have current : u.run = some ⟨image, writeLimit, stage⟩ := rfl
  cases stage with
  | poweringOn => exact .scan yielded current rfl
  | startingScan => exact .seek yielded current rfl
  | seeking | listening => exact .idle _ _
  | connecting name => exact .connected yielded current rfl
  | stoppingScan found =>
    cases found with
    | ok adv => exact .connect _ current rfl
    | error reason => exact (Moves.fail current (.scan rfl) :)
  | findingService =>
    by_cases hservice : Gatt.updateService ∈ yielded.uuids
    · simp only [u, step, proceed, if_pos hservice]
      exact .discover current rfl hservice
    · simp only [u, step, proceed, if_neg hservice]
      exact (Moves.lose current (.serviceMissing rfl) :)
  | findingCharacteristics =>
    rcases hmissing : required.find? (· ∉ yielded.uuids) with _ | missing
    · simp only [u, step, proceed, hmissing]
      refine .openNotifications current rfl fun characteristic mem => ?_
      simpa using List.find?_eq_none.mp hmissing characteristic mem
    · simp only [u, step, proceed, hmissing]
      exact (Moves.lose current (.characteristicMissing missing rfl) :)
  | openingNotifications => exact .subscribe yielded current rfl
  | subscribing =>
    rcases hstart : Transfer.start image (writeLimit - Config.writeOverhead)
      settings.chunksPerAck.toNat with error | transfer
    · simp only [u, step, proceed, BleUpdater.invite, hstart]
      exact (Moves.lose current (.unfit rfl hstart) :)
    · simp only [u, step, proceed, BleUpdater.invite, hstart]
      exact .invite yielded current rfl hstart
  | inviting transfer => exact .invited yielded current rfl
  | sending transfer rest =>
    cases rest with
    | nil => exact .sent yielded current rfl
    | cons chunk rest => exact .send yielded current rfl
  | unsubscribing result => exact .disconnect _ current rfl
  | disconnecting result => exact .finish _ current rfl

private theorem moves_notification (settings : Config.BleUpdate) (session : Session) (image : Bytes)
    (writeLimit : Nat) (transfer : Transfer) (n : Gatt.Notification) :
    let u : BleUpdater := ⟨settings, session, some ⟨image, writeLimit, .listening transfer⟩⟩
    Moves u (.notification (some n)) (u.note? (.notification (some n)))
      (u.step (.notification (some n))).1 (u.step (.notification (some n))).2 := by
  intro u
  have current : u.run = some ⟨image, writeLimit, .listening transfer⟩ := rfl
  rcases hreported : reported? n with _ | state
  · simp only [u, step, note?, listen, hreported, Option.bind_some, Option.map_none]
    exact .idle _ _
  · simp only [u, step, note?, listen, hreported, hear, Option.bind_some, Option.map_some]
    cases hreport : (transfer.report state).1 with
    | wait =>
      by_cases hsize : state = .waitingForSize
      · simp only [if_pos hsize]
        exact .hear _ current rfl hreported (.inl hreport) (.inr (.inl rfl))
      · simp only [if_neg hsize]
        exact .hear _ current rfl hreported (.inl hreport) (.inl rfl)
    | preparing => exact .hear _ current rfl hreported (.inr (.inl hreport)) (.inr (.inr rfl))
    | stalled => exact .hear _ current rfl hreported (.inr (.inr (.inl hreport))) (.inl rfl)
    | complete => exact .complete current rfl hreported hreport
    | failed => exact (Moves.lose current (.reported rfl hreported hreport) :)
    | send chunks =>
      cases chunks with
      | nil => exact .hear _ current rfl hreported (.inr (.inr (.inr hreport))) (.inl rfl)
      | cons chunk rest => exact .serve current rfl hreported hreport

private theorem moves_cancel (settings : Config.BleUpdate) (session : Session) (image : Bytes)
    (writeLimit : Nat) (stage : BleStage) (requested : session.cancelRequested = true) :
    let u : BleUpdater := ⟨settings, session, some ⟨image, writeLimit, stage⟩⟩
    Moves u .noticeCancel none (u.step .noticeCancel).1 (u.step .noticeCancel).2 := by
  intro u
  have current : u.run = some ⟨image, writeLimit, stage⟩ := rfl
  simp only [u, step, requested, if_true]
  cases stage with
  | poweringOn => exact (Moves.fail current (.cancelled requested (.inl rfl)) :)
  | connecting name => exact (Moves.fail current (.cancelled requested (.inr ⟨name, rfl⟩)) :)
  | seeking => exact .stopScan current rfl (.cancelled requested)
  | findingService => exact (Moves.lose current (.cancelledFinding requested (.inl rfl)) :)
  | findingCharacteristics =>
    exact (Moves.lose current (.cancelledFinding requested (.inr (.inl rfl))) :)
  | openingNotifications =>
    exact (Moves.lose current (.cancelledFinding requested (.inr (.inr (.inl rfl)))) :)
  | subscribing =>
    exact (Moves.lose current (.cancelledFinding requested (.inr (.inr (.inr rfl)))) :)
  | listening transfer => exact (Moves.lose current (.cancelledListening requested rfl) :)
  | _ => exact .idle _ _

theorem moves_step (u : BleUpdater) (action : Action) :
    Moves u action (u.note? action) (u.step action).1 (u.step action).2 := by
  obtain ⟨settings, session, current⟩ := u
  cases action with
  | start image =>
    cases hrunning : session.running with
    | true =>
      have hstart := Session.start_of_running hrunning
      simp only [step, BleUpdater.start, hstart]
      exact .refuse image hrunning
    | false =>
      have hstart := Session.start_of_idle hrunning
      simp only [step, BleUpdater.start, hstart]
      cases image with
      | nil => exact .reject hrunning
      | cons octet octets => exact .begin hrunning (List.cons_ne_nil _ _)
  | cancel => exact .cancel _
  | drop =>
    cases current with
    | none => exact .idle _ _
    | some run => exact @Moves.drop ⟨settings, session, some run⟩ run rfl
  | answer answer =>
    cases current with
    | none => exact .idle _ _
    | some run =>
      cases answer with
      | ok yielded => exact moves_yield _ _ _ _ _ yielded
      | error error => exact moves_failure _ _ _ _ _ error
  | sighting adv =>
    cases current with
    | none => exact .idle _ _
    | some run =>
      obtain ⟨image, writeLimit, stage⟩ := run
      cases stage with
      | seeking =>
        cases adv with
        | none => exact .stopScan rfl rfl .gone
        | some adv => exact .stopScan rfl rfl (.sighted adv)
      | _ => exact .idle _ _
  | scanTimeout =>
    cases current with
    | none => exact .idle _ _
    | some run =>
      obtain ⟨image, writeLimit, stage⟩ := run
      cases stage with
      | seeking => exact .stopScan rfl rfl .timedOut
      | _ => exact .idle _ _
  | notification n =>
    cases current with
    | none => cases n <;> exact .idle _ _
    | some run =>
      obtain ⟨image, writeLimit, stage⟩ := run
      cases stage with
      | listening transfer =>
        cases n with
        | none =>
          let u : BleUpdater := ⟨settings, session, some ⟨image, writeLimit, .listening transfer⟩⟩
          have current : u.run = some ⟨image, writeLimit, .listening transfer⟩ := rfl
          exact (Moves.lose current (.ended rfl) :)
        | some n => exact moves_notification _ _ _ _ transfer n
      | _ => cases n <;> exact .idle _ _
  | noticeCancel =>
    cases current with
    | none => exact .idle _ _
    | some run =>
      cases hrequested : session.cancelRequested with
      | false =>
        simp only [step, note?, hrequested]
        exact .idle _ _
      | true => exact moves_cancel _ _ _ _ _ hrequested

theorem step_start {u : BleUpdater} (idle : u.session.running = false) {image : Bytes}
    (nonempty : image ≠ []) :
    u.step (.start image) =
      ({ u with session := .claimed, run := some ⟨image, 0, .poweringOn⟩ }, [.run .powerOn]) := by
  have hempty : image.isEmpty = false := by simpa using nonempty
  simp only [step, BleUpdater.start, Session.start_of_idle idle, hempty]
  rfl

theorem runEach_cons (u : BleUpdater) (action : Action) (actions : List Action) :
    u.runEach (action :: actions) =
      (((u.step action).1.runEach actions).1,
        (u.step action).2 ++ ((u.step action).1.runEach actions).2) :=
  rfl

theorem runEach_append (u : BleUpdater) (before behind : List Action) :
    u.runEach (before ++ behind) =
      (((u.runEach before).1.runEach behind).1,
        (u.runEach before).2 ++ ((u.runEach before).1.runEach behind).2) :=
  actEach_append step u before behind

theorem runEach_snoc (u : BleUpdater) (actions : List Action) (action : Action) :
    u.runEach (actions ++ [action]) =
      (((u.runEach actions).1.step action).1,
        (u.runEach actions).2 ++ ((u.runEach actions).1.step action).2) :=
  actEach_snoc step u actions action

theorem history_append (u : BleUpdater) (before behind : List Action) :
    u.history (before ++ behind) = u.history before ++ (u.runEach before).1.history behind := by
  induction before generalizing u with
  | nil => rfl
  | cons action before ih =>
    simp only [List.cons_append, history, runEach_cons, ih, List.append_assoc]

theorem history_snoc (u : BleUpdater) (actions : List Action) (action : Action) :
    u.history (actions ++ [action]) =
      u.history actions ++ ((u.runEach actions).1.note? action).toList := by
  rw [history_append]
  simp only [history, List.append_nil]

end BleUpdater

end RadioLink.Update
