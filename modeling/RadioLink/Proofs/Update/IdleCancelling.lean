import RadioLink.Proofs.Update.BleOutcome
import RadioLink.Proofs.Update.Running
import RadioLink.Proofs.Update.WifiHandshake

/-!
Cancelling while nothing runs. Whatever has happened to a session, that changes nothing, but it is
not always accepted: a run that is given up while the image is on its way leaves the status as it
is, and a session with that status refuses to cancel until another run begins.
-/

set_option autoImplicit false
set_option relaxedAutoImplicit false

namespace RadioLink.Update

namespace Session

/-- What can be done with a session, from wherever it is. -/
inductive Act where
  | start
  | setPhase (phase : Phase) (message : String)
  | setProgress (progress : Progress)
  | setDeviceName (name : String)
  | fail (error : LinkError)
  | cancel
  /-- A run ends, or is given up. -/
  | release

def perform (s : Session) : Act → Session
  | .start => match s.start with
    | .ok session => session
    | .error _ => s
  | .setPhase phase message => s.setPhase phase message
  | .setProgress progress => s.setProgress progress
  | .setDeviceName name => s.setDeviceName name
  | .fail error => s.fail error
  | .cancel => s.cancel.2
  | .release => s.release

def after (acts : List Act) : Session := acts.foldl perform initial

/-- No run is given up while the image is on its way, and only a run says that it is. -/
structure Tidy (acts : List Act) : Prop where
  released : ∀ before rest, acts = before ++ .release :: rest →
    (after before).status.phase ≠ .transferring
  held : ∀ before message rest, acts = before ++ .setPhase .transferring message :: rest →
    (after before).running = true

variable {s : Session} {acts : List Act} {act : Act}

private theorem after_snoc (acts : List Act) (act : Act) :
    after (acts ++ [act]) = (after acts).perform act := by
  rw [after, List.foldl_append]
  rfl

private theorem Tidy.front (tidy : Tidy (acts ++ [act])) : Tidy acts where
  released before rest hsplit := tidy.released before (rest ++ [act]) (by simp [hsplit])
  held before message rest hsplit := tidy.held before message (rest ++ [act]) (by simp [hsplit])

private theorem Tidy.phase_ne (tidy : Tidy acts) (idle : (after acts).running = false) :
    (after acts).status.phase ≠ .transferring := by
  induction acts using List.reverseRecOn with
  | nil => nofun
  | append_singleton acts act ih =>
    rw [after_snoc] at idle ⊢
    cases act with
    | start =>
      cases hrunning : (after acts).running with
      | true =>
        rw [perform, start_of_running hrunning, hrunning] at idle
        cases idle
      | false =>
        rw [perform, start_of_idle hrunning] at idle
        cases idle
    | setPhase phase message =>
      rintro rfl
      have hrunning := tidy.held acts message [] rfl
      exact Bool.false_ne_true (idle.symm.trans hrunning)
    | setProgress | setDeviceName => exact ih tidy.front idle
    | fail => nofun
    | cancel =>
      rw [perform, cancel_running] at idle
      rw [perform, cancel_status]
      exact ih tidy.front idle
    | release => exact tidy.released acts [] rfl

private theorem cancel_idle (idle : s.running = false) : s.cancel.2 = s := by
  rw [cancel]
  split_ifs with _ hrunning
  · rfl
  · rw [idle] at hrunning
    cases hrunning
  · rfl

end Session

private theorem Ask.ne_of_isInner {ask : Ask} (inner : ask.isInner = true) :
    ask ≠ .start ∧ ask ≠ .drop := by
  cases ask with
  | notice | other => exact ⟨nofun, nofun⟩
  | start | cancel | drop => cases inner

/-- The session shows that the image is on its way without a run exactly if the last one was given
up then: one step. -/
private theorem Turn.givenUp {s s' : Session} {ask : Ask} {held held' : Bool}
    {results : List (Except LinkError Unit)} (turn : Turn s ask held s' held' results)
    (known : s.running = held) {was : Prop} (going : held = true → ¬ was)
    (gone : held = false → (s.status.phase = .transferring ↔ was)) :
    let now := (was ∧ ask ≠ .start) ∨
      (ask = .drop ∧ held = true ∧ s.status.phase = .transferring)
    (held' = true → ¬ now) ∧ (held' = false → (s'.status.phase = .transferring ↔ now)) := by
  intro now
  cases turn with
  | refuse running =>
    obtain rfl : held = true := known.symm.trans running
    exact ⟨fun _ => by simp [now], nofun⟩
  | claim => exact ⟨fun _ => by simp [now], nofun⟩
  | reject => exact ⟨nofun, fun _ => iff_of_false nofun (by simp [now])⟩
  | cancel =>
    have hnow : now ↔ was := by simp [now]
    rw [hnow, Session.cancel_status]
    exact ⟨going, gone⟩
  | drop =>
    have hnow : now ↔ s.status.phase = .transferring := by simp [now, going rfl]
    exact ⟨nofun, fun _ => hnow.symm⟩
  | absent =>
    have hnow : now ↔ was := by simp [now]
    exact ⟨nofun, fun _ => (gone rfl).trans hnow.symm⟩
  | keep inner =>
    have hnow : now ↔ was := by simp [now, Ask.ne_of_isInner inner]
    rw [hnow]
    exact ⟨going, gone⟩
  | apply inner =>
    have hnow : ¬ now := by simp [now, Ask.ne_of_isInner inner, going rfl]
    exact ⟨fun _ => hnow, nofun⟩
  | settle inner message result =>
    have hnow : ¬ now := by simp [now, Ask.ne_of_isInner inner, going rfl]
    exact ⟨nofun, fun _ => iff_of_false (Session.settle_shows s message result).phase_ne hnow⟩

namespace Interface

variable {σ α ω : Type} {m : Interface σ α ω} {actions : List α} {action : α}

/-- The run that there was last has been given up while the image was on its way. -/
def GivenUpSending (m : Interface σ α ω) (actions : List α) : Prop :=
  ∃ before action rest, actions = before ++ action :: rest ∧ m.ask action = .drop ∧
    m.isRunning (m.after before).1 = true ∧
    (m.session (m.after before).1).status.phase = .transferring ∧
    ∀ later ∈ rest, m.ask later ≠ .start

private theorem givenUpSending_snoc : m.GivenUpSending (actions ++ [action]) ↔
    (m.GivenUpSending actions ∧ m.ask action ≠ .start) ∨
      (m.ask action = .drop ∧ m.isRunning (m.after actions).1 = true ∧
        (m.session (m.after actions).1).status.phase = .transferring) := by
  constructor
  · rintro ⟨before, drop, rest, hsplit, drops, running, sending, quiet⟩
    rcases List.eq_nil_or_concat rest with rfl | ⟨rest, last, rfl⟩
    · obtain ⟨rfl, hlast⟩ := List.append_inj' hsplit rfl
      obtain rfl : action = drop := List.singleton_inj.mp hlast
      exact .inr ⟨drops, running, sending⟩
    · have hsplit' : actions ++ [action] = (before ++ drop :: rest) ++ [last] := by simp [hsplit]
      obtain ⟨rfl, hlast⟩ := List.append_inj' hsplit' rfl
      obtain rfl : action = last := List.singleton_inj.mp hlast
      refine .inl ⟨⟨before, drop, rest, rfl, drops, running, sending, ?_⟩, ?_⟩
      · exact fun later mem => quiet later (by simp [mem])
      · exact quiet action (by simp)
  · rintro (⟨⟨before, drop, rest, rfl, drops, running, sending, quiet⟩, once⟩ |
      ⟨drops, running, sending⟩)
    · refine ⟨before, drop, rest ++ [action], by simp, drops, running, sending, ?_⟩
      intro later mem
      rcases List.mem_append.mp mem with mem | mem
      · exact quiet later mem
      · rwa [List.mem_singleton.mp mem]
    · exact ⟨actions, action, [], rfl, drops, running, sending, nofun⟩

private theorem Lawful.givenUpSending_iff {ρ : Type} {settings : σ → ρ} (h : m.Lawful settings)
    (actions : List α) :
    (m.isRunning (m.after actions).1 = true → ¬ m.GivenUpSending actions) ∧
      (m.isRunning (m.after actions).1 = false →
        ((m.session (m.after actions).1).status.phase = .transferring ↔
          m.GivenUpSending actions)) := by
  induction actions using List.reverseRecOn with
  | nil =>
    have hnever : ¬ m.GivenUpSending [] := by
      rintro ⟨before, action, rest, hsplit, -⟩
      simp at hsplit
    refine ⟨fun _ => hnever, fun _ => iff_of_false ?_ hnever⟩
    rw [show (m.after []).1 = m.initial from rfl, h.unused.1]
    nofun
  | append_singleton actions action ih =>
    obtain ⟨going, gone⟩ := ih
    have hturn := h.turns (m.after actions).1 action
    have hknown := h.known actions
    rw [givenUpSending_snoc, after_snoc]
    exact hturn.givenUp hknown going gone

end Interface

/-- What a call to cancel finds of an updater without a run: it changes nothing, and it is accepted
unless the last run was given up while the image was on its way. -/
structure Interface.CancelsIdle {σ α ω : Type} (m : Interface σ α ω) : Prop where
  unchanged : ∀ actions, let u := (m.after actions).1
    m.isRunning u = false → (m.session u).cancel.2 = m.session u
  accepted_iff : ∀ actions, let u := (m.after actions).1
    m.isRunning u = false →
      ((m.session u).cancel.1 = .ok () ↔ ¬ m.GivenUpSending actions)

private theorem Interface.Lawful.cancelsIdle {σ α ω ρ : Type} {m : Interface σ α ω}
    {settings : σ → ρ} (h : m.Lawful settings) : m.CancelsIdle where
  unchanged actions idle := Session.cancel_idle ((h.known actions).trans idle)
  accepted_iff actions idle := by
    rw [Session.cancel_accepted_iff, ne_eq, (h.givenUpSending_iff actions).2 idle]

/-- Cancelling while nothing runs changes nothing, whatever has happened to the session. It is
accepted if no run has been given up while the image was on its way; both updaters accept it exactly
if the last run was not. -/
theorem idle_cancel (acts : List Session.Act) (ble : Config.BleUpdate) (wifi : Config.WifiUpdate) :
    ((Session.after acts).running = false →
      (Session.after acts).cancel.2 = Session.after acts ∧
        (Session.Tidy acts → (Session.after acts).cancel.1 = .ok ())) ∧
    (BleUpdater.calls ble).CancelsIdle ∧ (WifiUpdater.calls wifi).CancelsIdle := by
  refine ⟨fun idle => ⟨Session.cancel_idle idle, fun tidy => ?_⟩,
    (BleUpdater.lawful ble).cancelsIdle, (WifiUpdater.lawful wifi).cancelsIdle⟩
  exact Session.cancel_accepted_iff.mpr (tidy.phase_ne idle)

theorem idle_cancel_ended :
    let acts : List Session.Act :=
      [.start, .setPhase .transferring "Done...", .setPhase .completed "Success!", .release]
    let ble := (BleUpdater.calls {}).after []
    (Session.after acts).cancel = (.ok (), Session.after acts) ∧
      ble.1.session.cancel.2 = ble.1.session ∧
      ¬ (WifiUpdater.calls {}).GivenUpSending [.start "radio" [1] none, .drop] := by
  intro acts ble
  obtain ⟨hacts, hble, hwifi⟩ := idle_cancel acts {} {}
  have htidy : Session.Tidy acts := by
    constructor
    · intro before rest hsplit
      obtain ⟨rfl, -⟩ : before =
          [.start, .setPhase .transferring "Done...", .setPhase .completed "Success!"] ∧ _ := by
        simpa [acts, List.cons_eq_append_iff] using hsplit
      nofun
    · intro before message rest hsplit
      obtain ⟨rfl, -⟩ : before = [.start] ∧ _ := by
        simpa [acts, List.cons_eq_append_iff] using hsplit
      rfl
  obtain ⟨hunchanged, haccepted⟩ := hacts rfl
  exact ⟨Prod.ext (haccepted htidy) hunchanged, hble.unchanged [] rfl,
    (hwifi.accepted_iff _ rfl).mp rfl⟩

def BleUpdater.sendingFirst : List BleUpdater.Action :=
  .start [1, 2, 3] :: BleUpdater.invited 8 ++
    [.answer (.ok .nothing), .notification (some ⟨Gatt.updateStatus, [2]⟩)]

def WifiUpdater.sendingFirst : List WifiUpdater.Action :=
  .start "radio" [1, 2, 3] none :: WifiUpdater.inviting ++
    [WifiUpdater.saysAccepted, .accepted (.ok ()), .answer (.ok .nothing)]

/-- A run that is given up while the image is on its way leaves a session that refuses to cancel,
with nothing to cancel. -/
theorem idle_cancel_refused :
    let acts := [.start, .setPhase .transferring "Transfer in progress...", .release]
    let ble := (BleUpdater.initial {}).runEach (BleUpdater.sendingFirst ++ [.drop])
    let wifi := (WifiUpdater.initial {}).runEach (WifiUpdater.sendingFirst ++ [.drop])
    ((Session.after acts).running = false ∧
      (Session.after acts).cancel = (.error .transferInFlight, Session.after acts)) ∧
    (ble.1.run.isSome = false ∧
      (ble.1.step .cancel).2 = [.cancelled (.error .transferInFlight)]) ∧
    (wifi.1.run.isSome = false ∧
      (wifi.1.step .cancel).2 = [.cancelled (.error .transferInFlight)]) :=
  ⟨⟨rfl, rfl⟩, ⟨rfl, rfl⟩, ⟨rfl, rfl⟩⟩

end RadioLink.Update
