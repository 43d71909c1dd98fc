import Mathlib.Data.List.Induction
import RadioLink.Link.Session

/-!
What a session does, said once. Every step is one of a list of moves; what a step tells beside its
outputs (a command handed in, something taken from the medium, a cause met) is noted, and the notes
of a run are its history. Invariants of runs follow by looking at the moves.
-/

set_option autoImplicit false
set_option relaxedAutoImplicit false

namespace RadioLink.Link

variable {M : Type} {p : Protocol M}

/-- What a step tells beside what the others see of it. -/
inductive Note (p : Protocol M) where
  /-- A command is handed to the task, or to the place that the task has left. -/
  | handed (command : Command)
  /-- The task takes what came in unasked. -/
  | took (signal : p.Signal)
  | met (cause : Cause)

namespace Session

def note? (s : Session p) : Action p → Option (Note p)
  | .submit command =>
    match s.phase with
    | .ended => some (.handed command)
    | _ => if s.commanded then some (.handed command) else none
  | .take =>
    match s.phase, s.queue with
    | .waiting, .disconnect _ cause :: _ => some (.met cause)
    | _, _ => none
  | .noticeAbandoned =>
    match s.phase, s.queue with
    | .waiting, [] => if s.commanded then none else some (.met .abandoned)
    | _, _ => none
  | .noticeUnheard =>
    match s.phase with
    | .waiting => if s.heard then none else some (.met .unheard)
    | _ => none
  | .signal signal =>
    match s.phase with
    | .waiting => some (.took signal)
    | _ => none
  | .answer answer =>
    match s.phase with
    | .writing _ => (p.failure? answer).map fun failure => .met failure.2
    | _ => none
  | .advance =>
    match s.phase with
    | .reacting ⟨[], .stop cause⟩ => some (.met cause)
    | .reacting ⟨_ :: _, _⟩ => if s.heard then none else some (.met .unheard)
    | _ => none
  | _ => none

def history (s : Session p) : List (Action p) → List (Note p)
  | [] => []
  | action :: actions => (s.note? action).toList ++ (s.step action).1.history actions

/-- A phase that ends the link, with nothing of it to be released next but what is given. -/
def releasing (ending : Ending) : List p.Op → Phase M p.Op
  | [] => .released ending
  | _ :: rest => .releasing rest ending

def starting : List p.Op → List (Output p)
  | [] => []
  | op :: _ => [.run op]

theorem release_eq (s : Session p) (ending : Ending) (ops : List p.Op) :
    s.release ending ops = (s.enter (releasing ending ops), starting ops) := by
  cases ops with
  | nil => rfl
  | cons op rest => rfl

/-- All that a step of a session can be. -/
inductive Moves : Session p → Action p → Option (Note p) → Session p → List (Output p) → Prop
  | idle (s : Session p) (action : Action p) : Moves s action none s []
  | queue {s : Session p} (command : Command) (live : s.phase ≠ .ended) :
      Moves s (.submit command) (some (.handed command))
        { s with queue := s.queue ++ [command] } []
  | late {s : Session p} (command : Command) (phase : s.phase = .ended) :
      Moves s (.submit command) (some (.handed command)) s [turnAway p command]
  | abandon (s : Session p) : Moves s .abandon none { s with commanded := false } []
  | unhear (s : Session p) : Moves s .unhear none { s with heard := false } []
  | write {s : Session p} {caller : Caller} {bytes : Bytes} {queue : List Command}
      (phase : s.phase = .waiting) (oldest : s.queue = .send caller bytes :: queue) :
      Moves s .take none { s with phase := .writing caller, queue := queue } [.run (p.write bytes)]
  | obey {s : Session p} {caller : Caller} {cause : Cause} {queue : List Command}
      (phase : s.phase = .waiting) (oldest : s.queue = .disconnect caller cause :: queue) :
      Moves s .take (some (.met cause))
        { s with phase := releasing ⟨cause, some caller⟩ (p.release s.memory), queue := queue }
        (starting (p.release s.memory))
  | abandoned {s : Session p} (phase : s.phase = .waiting) (empty : s.queue = [])
      (alone : s.commanded = false) :
      Moves s .noticeAbandoned (some (.met .abandoned))
        (s.enter (releasing ⟨.abandoned, none⟩ (p.release s.memory)))
        (starting (p.release s.memory))
  | unheard {s : Session p} (phase : s.phase = .waiting) (alone : s.heard = false) :
      Moves s .noticeUnheard (some (.met .unheard))
        (s.enter (releasing ⟨.unheard, none⟩ (p.release s.memory)))
        (starting (p.release s.memory))
  | receive {s : Session p} (signal : p.Signal) (phase : s.phase = .waiting) :
      Moves s (.signal signal) (some (.took signal)) (s.react (p.receive s.memory signal)) []
  | resume {s : Session p} (answer : p.Answer) (phase : s.phase = .working) :
      Moves s (.answer answer) none (s.react (p.resume s.memory answer)) []
  | wrote {s : Session p} {caller : Caller} {answer : p.Answer} (phase : s.phase = .writing caller)
      (well : p.failure? answer = none) :
      Moves s (.answer answer) none (s.enter .waiting) [.reply caller (.ok ())]
  | failed {s : Session p} {caller : Caller} {answer : p.Answer} {error : LinkError} {cause : Cause}
      (phase : s.phase = .writing caller) (failure : p.failure? answer = some (error, cause)) :
      Moves s (.answer answer) (some (.met cause))
        (s.enter (releasing ⟨cause, none⟩ (p.release s.memory)))
        (.reply caller (.error error) :: starting (p.release s.memory))
  | deliver {s : Session p} {event : LinkEvent M} {events : List (LinkEvent M)} {next : Next p.Op}
      (phase : s.phase = .reacting ⟨event :: events, next⟩) (heard : s.heard = true) :
      Moves s .advance none (s.enter (.reacting ⟨events, next⟩)) [.deliver event]
  | lose {s : Session p} {event : LinkEvent M} {events : List (LinkEvent M)} {next : Next p.Op}
      (phase : s.phase = .reacting ⟨event :: events, next⟩) (alone : s.heard = false) :
      Moves s .advance (some (.met .unheard))
        (s.enter (releasing ⟨.unheard, none⟩ (p.release s.memory)))
        (starting (p.release s.memory))
  | settle {s : Session p} (phase : s.phase = .reacting ⟨[], .wait⟩) :
      Moves s .advance none (s.enter .waiting) []
  | work {s : Session p} {op : p.Op} (phase : s.phase = .reacting ⟨[], .run op⟩) :
      Moves s .advance none (s.enter .working) [.run op]
  | stop {s : Session p} {cause : Cause} (phase : s.phase = .reacting ⟨[], .stop cause⟩) :
      Moves s .advance (some (.met cause))
        (s.enter (releasing ⟨cause, none⟩ (p.release s.memory)))
        (starting (p.release s.memory))
  | release {s : Session p} {rest : List p.Op} {ending : Ending} (answer : p.Answer)
      (phase : s.phase = .releasing rest ending) :
      Moves s (.answer answer) none (s.enter (releasing ending rest)) (starting rest)
  | mark {s : Session p} {ending : Ending} (phase : s.phase = .released ending) :
      Moves s .advance none (s.enter (.marked ending)) [.markDisconnected]
  /-- The terminal event reaches a consumer who listens, and the stream ends. -/
  | announce {s : Session p} {ending : Ending} (phase : s.phase = .marked ending) :
      Moves s .advance none (s.enter (.announced ending))
        ((if s.heard then [.deliver ending.cause.event] else []) ++ [.endStream])
  | acknowledge {s : Session p} {ending : Ending} (phase : s.phase = .announced ending) :
      Moves s .advance none (s.enter .answered)
        (ending.requester.toList.map fun caller => .reply caller (.ok ()))
  | close {s : Session p} (phase : s.phase = .answered) :
      Moves s .advance none { s with phase := .ended, queue := [] } (s.queue.map (turnAway p))

theorem moves_step (s : Session p) (action : Action p) :
    Moves s action (s.note? action) (s.step action).1 (s.step action).2 := by
  obtain ⟨phase, memory, queue, commanded, heard⟩ := s
  cases action with
  | submit command =>
    cases phase with
    | ended => exact .late command rfl
    | _ =>
      cases commanded with
      | false => exact .idle _ _
      | true => exact .queue command (by nofun)
  | abandon => exact .abandon _
  | unhear => exact .unhear _
  | take =>
    cases phase with
    | waiting =>
      match queue with
      | [] => exact .idle _ _
      | .send caller bytes :: rest => exact .write rfl rfl
      | .disconnect caller cause :: rest =>
        simp only [step, note?, obey, stop, release_eq]
        exact .obey rfl rfl
    | _ => exact .idle _ _
  | noticeAbandoned =>
    cases phase with
    | waiting =>
      match queue, commanded with
      | _ :: _, _ => exact .idle _ _
      | [], true => exact .idle _ _
      | [], false =>
        simp only [step, note?, stop, release_eq]
        exact .abandoned rfl rfl rfl
    | _ => exact .idle _ _
  | noticeUnheard =>
    cases phase with
    | waiting =>
      cases heard with
      | true => exact .idle _ _
      | false =>
        simp only [step, note?, stop, release_eq]
        exact .unheard rfl rfl
    | _ => exact .idle _ _
  | signal signal =>
    cases phase with
    | waiting => exact .receive signal rfl
    | _ => exact .idle _ _
  | answer answer =>
    cases phase with
    | working => exact .resume answer rfl
    | writing caller =>
      rcases hfailure : p.failure? answer with _ | ⟨error, cause⟩
      · simp only [step, note?, wrote, hfailure]
        exact .wrote rfl hfailure
      · simp only [step, note?, wrote, hfailure, stop, release_eq]
        exact .failed rfl hfailure
    | releasing rest ending =>
      simp only [step, note?, release_eq]
      exact .release answer rfl
    | _ => exact .idle _ _
  | advance =>
    cases phase with
    | reacting reaction =>
      match reaction, heard with
      | ⟨[], .wait⟩, _ => exact .settle rfl
      | ⟨[], .run op⟩, _ => exact .work rfl
      | ⟨[], .stop cause⟩, _ =>
        simp only [step, note?, Session.deliver, proceed, stop, release_eq]
        exact .stop rfl
      | ⟨event :: events, next⟩, true => exact .deliver rfl rfl
      | ⟨event :: events, next⟩, false =>
        simp only [step, note?, Session.deliver, stop, release_eq]
        exact .lose rfl rfl
    | released ending => exact .mark rfl
    | marked ending => exact .announce rfl
    | announced ending => exact .acknowledge rfl
    | answered => exact .close rfl
    | _ => exact .idle _ _

theorem run_append (s : Session p) (before behind : List (Action p)) :
    s.run (before ++ behind) =
      (((s.run before).1.run behind).1, (s.run before).2 ++ ((s.run before).1.run behind).2) := by
  induction before generalizing s with
  | nil => rfl
  | cons action before ih =>
    simp only [List.cons_append, run, ih, List.append_assoc]

private theorem history_append (s : Session p) (before behind : List (Action p)) :
    s.history (before ++ behind) = s.history before ++ (s.run before).1.history behind := by
  induction before generalizing s with
  | nil => rfl
  | cons action before ih =>
    simp only [List.cons_append, history, run, ih, List.append_assoc]

theorem run_snoc (s : Session p) (actions : List (Action p)) (action : Action p) :
    s.run (actions ++ [action]) =
      (((s.run actions).1.step action).1,
        (s.run actions).2 ++ ((s.run actions).1.step action).2) := by
  rw [run_append]
  simp only [run, List.append_nil]

theorem history_snoc (s : Session p) (actions : List (Action p)) (action : Action p) :
    s.history (actions ++ [action]) =
      s.history actions ++ ((s.run actions).1.note? action).toList := by
  rw [history_append]
  simp only [history, List.append_nil]

/-- What holds before any action, and of a move's outcome whenever it held before the move, holds
behind all runs: of the actions, the session, its history, and what the others have seen. -/
theorem run_induction {s : Session p}
    {motive : List (Action p) → Session p → List (Note p) → List (Output p) → Prop}
    (start : motive [] s [] [])
    (move : ∀ (actions : List (Action p)) (now next : Session p) (action : Action p)
      (note : Option (Note p)) (notes : List (Note p)) (seen outputs : List (Output p)),
      motive actions now notes seen → Moves now action note next outputs →
      motive (actions ++ [action]) next (notes ++ note.toList) (seen ++ outputs))
    (actions : List (Action p)) :
    motive actions (s.run actions).1 (s.history actions) (s.run actions).2 := by
  induction actions using List.reverseRecOn with
  | nil => exact start
  | append_singleton actions action ih =>
    rw [run_snoc, history_snoc]
    exact move _ _ _ _ _ _ _ _ ih (moves_step _ _)

theorem heard_run {s : Session p} (h : s.heard = true) {actions : List (Action p)}
    (stays : .unhear ∉ actions) : (s.run actions).1.heard = true := by
  refine run_induction (s := s)
    (motive := fun actions now _ _ => .unhear ∉ actions → now.heard = true) (fun _ => h) ?_
    actions stays
  intro actions now next action note notes seen outputs ih move hstays
  have hheard := ih fun hmem => hstays (List.mem_append_left _ hmem)
  cases move with
  | unhear => exact absurd (List.mem_append_right _ (List.mem_singleton_self _)) hstays
  | _ => exact hheard

end Session

end RadioLink.Link
