import RadioLink.Proofs.Update.BleMoves
import RadioLink.Proofs.Update.WifiMoves

/-!
What a step of an updater does to its session, said once for both updaters: a run claims the session
or is refused, a request to stop is taken down, the run shows how it stands, and when it ends it
shows its result and lets the session go. Everything about sessions follows from this list.
-/

set_option autoImplicit false
set_option relaxedAutoImplicit false

namespace RadioLink.Update

/-! ### Sessions -/

namespace Session

/-- What a run can show of itself. -/
inductive Change where
  | phase (phase : Phase) (message : String)
  | progress (progress : Progress)
  | deviceName (name : String)

def apply (s : Session) : Change → Session
  | .phase phase message => s.setPhase phase message
  | .progress progress => s.setProgress progress
  | .deviceName name => s.setDeviceName name

/-- The status is that of a run that has ended with this result. -/
def Shows (s : Session) : Except LinkError Unit → Prop
  | .ok () => s.status.phase = .completed
  | .error error => s.status.phase = .failed ∧ s.status.message = error.message

variable {s : Session}

@[simp] theorem apply_running (s : Session) (change : Change) :
    (s.apply change).running = s.running := by
  cases change <;> rfl

@[simp] theorem apply_cancelRequested (s : Session) (change : Change) :
    (s.apply change).cancelRequested = s.cancelRequested := by
  cases change <;> rfl

@[simp] theorem foldl_apply_running (s : Session) (changes : List Change) :
    (changes.foldl apply s).running = s.running := by
  induction changes generalizing s with
  | nil => rfl
  | cons change changes ih => rw [List.foldl_cons, ih, apply_running]

@[simp] theorem foldl_apply_cancelRequested (s : Session) (changes : List Change) :
    (changes.foldl apply s).cancelRequested = s.cancelRequested := by
  induction changes generalizing s with
  | nil => rfl
  | cons change changes ih => rw [List.foldl_cons, ih, apply_cancelRequested]

@[simp] theorem settle_running (s : Session) (message : String) (result : Except LinkError Unit) :
    (s.settle message result).running = s.running := by
  cases result <;> rfl

@[simp] theorem settle_cancelRequested (s : Session) (message : String)
    (result : Except LinkError Unit) :
    (s.settle message result).cancelRequested = s.cancelRequested := by
  cases result <;> rfl

theorem settle_shows (s : Session) (message : String) (result : Except LinkError Unit) :
    (s.settle message result).Shows result := by
  cases result with
  | ok => rfl
  | error error => exact ⟨rfl, rfl⟩

theorem Shows.of_status {s' : Session} {result : Except LinkError Unit} (shows : s.Shows result)
    (same : s'.status = s.status) : s'.Shows result := by
  cases result with
  | ok => exact (congrArg Status.phase same).trans shows
  | error error =>
    exact ⟨(congrArg Status.phase same).trans shows.1,
      (congrArg Status.message same).trans shows.2⟩

theorem Shows.phase_ne {result : Except LinkError Unit} (shows : s.Shows result) :
    s.status.phase ≠ .transferring := by
  cases result with
  | ok => simp [show s.status.phase = .completed from shows]
  | error error => simp [shows.1]

end Session

/-! ### Turns -/

/-- What an action asks for. -/
inductive Ask where
  | start
  | cancel
  | drop
  /-- The run looks whether it was asked to stop. -/
  | notice
  | other
  deriving DecidableEq

def Ask.isInner : Ask → Bool
  | .notice | .other => true
  | _ => false

/-- All that a step of an updater can do to its session, and the results that are returned with it.
The flags say whether a run is under way. -/
inductive Turn (s : Session) : Ask → Bool → Session → Bool → List (Except LinkError Unit) → Prop
  | refuse {held : Bool} (running : s.running = true) :
      Turn s .start held s held [.error .updateInProgress]
  | claim {held : Bool} (idle : s.running = false) : Turn s .start held .claimed true []
  /-- The image cannot be sent, and the run ends as it begins. -/
  | reject {held : Bool} (idle : s.running = false) (message : String) (error : LinkError) :
      Turn s .start held (Session.claimed.settle message (.error error)).release false
        [.error error]
  | cancel {held : Bool} : Turn s .cancel held s.cancel.2 held []
  | drop : Turn s .drop true s.release false []
  | absent : Turn s .drop false s false []
  | keep {ask : Ask} {held : Bool} (inner : ask.isInner = true) : Turn s ask held s held []
  | apply {ask : Ask} (inner : ask.isInner = true) (changes : List Session.Change) :
      Turn s ask true (changes.foldl Session.apply s) true []
  | settle {ask : Ask} (inner : ask.isInner = true) (message : String)
      (result : Except LinkError Unit) :
      Turn s ask true (s.settle message result).release false [result]

namespace Turn

variable {s s' : Session} {ask : Ask} {held held' : Bool} {results : List (Except LinkError Unit)}

theorem running_eq (turn : Turn s ask held s' held' results) (known : s.running = held) :
    s'.running = held' := by
  cases turn with
  | refuse | keep | absent => exact known
  | claim | reject | drop | settle => rfl
  | cancel => rw [Session.cancel_running, known]
  | apply => rw [Session.foldl_apply_running, known]

theorem unrequested (turn : Turn s ask held s' held' results)
    (unrequested : s.cancelRequested = false) (unasked : ask ≠ .cancel) :
    s'.cancelRequested = false := by
  cases turn with
  | refuse | keep | absent | drop => exact unrequested
  | claim | reject => rfl
  | cancel => exact absurd rfl unasked
  | apply => rw [Session.foldl_apply_cancelRequested, unrequested]
  | settle _ message result =>
    exact (Session.settle_cancelRequested s message result).trans unrequested

theorem shows_of_result (turn : Turn s ask held s' held' results) {result : Except LinkError Unit}
    (returned : result ∈ results) :
    (ask = .start ∧ s.running = true ∧ result = .error .updateInProgress) ∨
      (s'.Shows result ∧ held' = false) := by
  cases turn with
  | refuse running => exact .inl ⟨rfl, running, List.mem_singleton.mp returned⟩
  | reject idle message error =>
    rw [List.mem_singleton.mp returned]
    exact .inr ⟨(Session.settle_shows _ message (.error error)).of_status rfl, rfl⟩
  | settle inner message result' =>
    rw [List.mem_singleton.mp returned]
    exact .inr ⟨(Session.settle_shows s message result').of_status rfl, rfl⟩
  | claim | cancel | drop | absent | keep | apply => cases returned

end Turn

/-! ### Both updaters -/

/-- An updater as its callers see it. -/
structure Interface (σ α ω : Type) where
  initial : σ
  step : σ → α → σ × List ω
  session : σ → Session
  isRunning : σ → Bool
  ask : α → Ask
  result? : ω → Option (Except LinkError Unit)

def Interface.after {σ α ω : Type} (m : Interface σ α ω) (actions : List α) : σ × List ω :=
  actEach m.step m.initial actions

/-- Every step of the updater is a turn. -/
def Interface.TakesTurns {σ α ω : Type} (m : Interface σ α ω) : Prop :=
  ∀ u action, Turn (m.session u) (m.ask action) (m.isRunning u) (m.session (m.step u action).1)
    (m.isRunning (m.step u action).1) ((m.step u action).2.filterMap m.result?)

namespace BleUpdater

def Action.ask : Action → Ask
  | .start _ => .start
  | .cancel => .cancel
  | .drop => .drop
  | .noticeCancel => .notice
  | _ => .other

def Output.result? : Output → Option (Except LinkError Unit)
  | .finished result => some result
  | _ => none

def calls (settings : Config.BleUpdate) : Interface BleUpdater Action Output :=
  ⟨initial settings, step, (·.session), (·.run.isSome), Action.ask, Output.result?⟩

theorem step_refused {u : BleUpdater} (running : u.session.running = true) (image : Bytes) :
    u.step (.start image) = (u, [.finished (.error .updateInProgress)]) := by
  rw [step, BleUpdater.start, Session.start_of_running running]

theorem step_rejected {u : BleUpdater} (idle : u.session.running = false) :
    u.step (.start []) = ({ u with session := .claimed } : BleUpdater).finish
      (.error (.invalidFirmware "image is empty")) := by
  simp only [step, BleUpdater.start, Session.start_of_idle idle]
  rfl

private theorem result?_letGo (u : BleUpdater) (run : BleRun) (result : Except LinkError Unit) :
    (u.letGo run result).2.filterMap Output.result? = [] := by
  rw [letGo]
  split_ifs <;> rfl

private theorem turn_of_moves {u next : BleUpdater} {action : Action} {note : Option Note}
    {outputs : List Output} (move : Moves u action note next outputs)
    (inner : action.ask.isInner = true) :
    Turn u.session action.ask u.run.isSome next.session next.run.isSome
      (outputs.filterMap Output.result?) := by
  cases move with
  | refuse | begin | reject | cancel | drop => cases inner
  | idle => exact .keep inner
  | scan _ current | seek _ current | stopScan current | discover current
    | openNotifications current | subscribe _ current | invite _ current | invited _ current
    | send _ current | disconnect _ current =>
    rw [current]
    exact .keep inner
  | connect _ current =>
    rw [current]
    exact .apply inner [.deviceName _]
  | connected _ current =>
    rw [current]
    exact .apply inner [.phase _ _]
  | serve current =>
    rw [current]
    exact .apply inner [.phase _ _]
  | sent _ current =>
    rw [current]
    exact .apply inner [.progress _]
  | hear session current _ _ _ shown =>
    rw [current]
    rcases shown with rfl | rfl | rfl
    · exact .keep inner
    · exact .apply inner [.phase _ _]
    · exact .apply inner [.phase _ _]
  | complete current =>
    rw [current, result?_letGo]
    exact .keep inner
  | lose current loses =>
    rw [current, List.filterMap_append, result?_letGo, List.append_nil]
    cases loses <;> exact .keep rfl
  | @fail run action note error before current fails =>
    have hbefore : before.filterMap Output.result? = [] := by cases fails <;> rfl
    rw [current, List.filterMap_append, hbefore]
    exact .settle inner _ _
  | finish _ current =>
    rw [current]
    exact .settle inner _ _

theorem takesTurns (settings : Config.BleUpdate) : (calls settings).TakesTurns := by
  intro u action
  change Turn u.session action.ask u.run.isSome (u.step action).1.session
    (u.step action).1.run.isSome ((u.step action).2.filterMap Output.result?)
  cases action with
  | start image =>
    cases hrunning : u.session.running with
    | true =>
      rw [step_refused hrunning]
      exact .refuse hrunning
    | false =>
      cases image with
      | nil =>
        rw [step_rejected hrunning]
        exact .reject hrunning _ _
      | cons octet image =>
        rw [step_start hrunning (List.cons_ne_nil octet image)]
        exact .claim hrunning
  | cancel => exact .cancel
  | drop =>
    obtain ⟨settings, session, current⟩ := u
    cases current with
    | none => exact .absent
    | some run =>
      have hsilent :
          (step ⟨settings, session, some run⟩ .drop).2.filterMap Output.result? = [] := by
        simp only [step, Option.elim_some, BleUpdater.drop]
        split_ifs <;> rfl
      exact hsilent ▸ .drop
  | answer | sighting | scanTimeout | notification | noticeCancel =>
    exact turn_of_moves (moves_step u _) rfl

theorem step_unnoticed {u : BleUpdater} (unrequested : u.session.cancelRequested = false) :
    u.step .noticeCancel = (u, []) := by
  rw [step]
  cases u.run with
  | none => rfl
  | some run => simp [unrequested]

end BleUpdater

namespace WifiUpdater

def Action.ask : Action → Ask
  | .start .. => .start
  | .cancel => .cancel
  | .drop => .drop
  | .noticeCancel => .notice
  | _ => .other

def Output.result? : Output → Option (Except LinkError Unit)
  | .finished result => some result
  | _ => none

def calls (settings : Config.WifiUpdate) : Interface WifiUpdater Action Output :=
  ⟨initial settings, step, (·.session), (·.run.isSome), Action.ask, Output.result?⟩

theorem step_refused {u : WifiUpdater} (running : u.session.running = true) (host : String)
    (image : Bytes) (password : Option String) :
    u.step (.start host image password) = (u, [.finished (.error .updateInProgress)]) := by
  rw [step, WifiUpdater.start, Session.start_of_running running]

theorem step_rejected {u : WifiUpdater} (idle : u.session.running = false) (host : String)
    (password : Option String) :
    u.step (.start host [] password) = ({ u with session := .claimed } : WifiUpdater).finish
      (.error (.invalidFirmware "image is empty")) := by
  simp only [step, WifiUpdater.start, Session.start_of_idle idle]
  rfl

private theorem turn_sendNext (u : WifiUpdater) (run : WifiRun) (index sent : Nat)
    (rest : List Bytes) :
    (u.sendNext run index sent rest).1.session = u.session ∧
      (u.sendNext run index sent rest).1.run.isSome = true ∧
      (u.sendNext run index sent rest).2.filterMap Output.result? = [] := by
  cases rest <;> exact ⟨rfl, rfl, rfl⟩

private theorem turn_of_moves {u next : WifiUpdater} {action : Action} {outputs : List Output}
    (move : Moves u action next outputs) (inner : action.ask.isInner = true) :
    Turn u.session action.ask u.run.isSome next.session next.run.isSome
      (outputs.filterMap Output.result?) := by
  cases move with
  | refuse | begin | reject | cancel | drop => cases inner
  | idle => exact .keep inner
  | listen current | opened _ current | compose current | invite current | answerChallenge current
    | connect current | close current =>
    rw [current]
    exact .keep inner
  | openDatagrams _ current | prepare current | accept current =>
    rw [current]
    exact .apply inner [.phase _ _]
  | @transfer run _ current =>
    obtain ⟨hsession, hrun, hsilent⟩ := turn_sendNext (u.present .transferring
      "Please stay on this screen while update completes...") run 0 0
      (chunks (max u.settings.chunkSize.toNat 1) run.image)
    rw [current, WifiUpdater.transfer, hsession, hrun, hsilent]
    exact .apply inner [.phase _ _]
  | @chunkWritten run chunk rest index sent _ current =>
    rw [current, WifiUpdater.chunkWritten]
    split_ifs
    · obtain ⟨hsession, hrun, hsilent⟩ := turn_sendNext
        { u with session := u.session.setProgress (.sent (sent + chunk.length) run.image.length) }
        run index (sent + chunk.length) rest
      rw [hsession, hrun, hsilent]
      exact .apply inner [.progress _]
    · obtain ⟨hsession, hrun, hsilent⟩ := turn_sendNext u run index (sent + chunk.length) rest
      rw [hsession, hrun, hsilent]
      exact .keep inner
  | imageSent _ current =>
    rw [current]
    exact .apply inner [.progress _, .phase _ _]
  | complete _ current =>
    rw [current]
    exact .settle inner _ _
  | @fail run action error before current fails =>
    have hbefore : before.filterMap Output.result? = [] := by cases fails <;> rfl
    rw [current, List.filterMap_append, hbefore]
    exact .settle inner _ _

theorem takesTurns (settings : Config.WifiUpdate) : (calls settings).TakesTurns := by
  intro u action
  change Turn u.session action.ask u.run.isSome (u.step action).1.session
    (u.step action).1.run.isSome ((u.step action).2.filterMap Output.result?)
  cases action with
  | start host image password =>
    cases hrunning : u.session.running with
    | true =>
      rw [step_refused hrunning]
      exact .refuse hrunning
    | false =>
      cases image with
      | nil =>
        rw [step_rejected hrunning]
        exact .reject hrunning _ _
      | cons octet image =>
        rw [step_start hrunning host (List.cons_ne_nil octet image) password]
        exact .claim hrunning
  | cancel => exact .cancel
  | drop =>
    obtain ⟨settings, session, current⟩ := u
    cases current with
    | none => exact .absent
    | some run => exact .drop
  | answer | compose | invite | datagram | accepted | timeout | settled | noticeCancel =>
    exact turn_of_moves (moves_step u _) rfl

theorem step_unnoticed {u : WifiUpdater} (unrequested : u.session.cancelRequested = false) :
    u.step .noticeCancel = (u, []) := by
  obtain ⟨settings, ⟨status, running, cancelRequested⟩, current⟩ := u
  obtain rfl : cancelRequested = false := unrequested
  cases current with
  | none => rfl
  | some run =>
    simp only [step, Option.elim_some, stepRun]
    cases run.stage <;> rfl

end WifiUpdater

end RadioLink.Update
