import RadioLink.Proofs.Link.History

/-!
What the others see of a session: the events that reach the consumer, and the answers that callers
get. Every call is answered once, or the caller is still owed an answer.
-/

set_option autoImplicit false
set_option relaxedAutoImplicit false

namespace RadioLink.Link

variable {M : Type} {p : Protocol M}

/-! ### What is read off a run -/

@[simp] def handed : List (Note p) → List Command
  | [] => []
  | .handed command :: notes => command :: handed notes
  | .took _ :: notes | .met _ :: notes => handed notes

@[simp] def causes : List (Note p) → List Cause
  | [] => []
  | .met cause :: notes => cause :: causes notes
  | .handed _ :: notes | .took _ :: notes => causes notes

@[simp] def delivered : List (Output p) → List (LinkEvent M)
  | [] => []
  | .deliver event :: seen => event :: delivered seen
  | .endStream :: seen | .run _ :: seen | .reply .. :: seen | .markDisconnected :: seen =>
    delivered seen

@[simp] def answered : List (Output p) → List Caller
  | [] => []
  | .reply caller _ :: seen => caller :: answered seen
  | .deliver _ :: seen | .endStream :: seen | .run _ :: seen | .markDisconnected :: seen =>
    answered seen

@[simp] theorem handed_append (before behind : List (Note p)) :
    handed (before ++ behind) = handed before ++ handed behind := by
  induction before with
  | nil => rfl
  | cons note before ih => cases note <;> simp [ih]

@[simp] theorem causes_append (before behind : List (Note p)) :
    causes (before ++ behind) = causes before ++ causes behind := by
  induction before with
  | nil => rfl
  | cons note before ih => cases note <;> simp [ih]

@[simp] theorem delivered_append (before behind : List (Output p)) :
    delivered (before ++ behind) = delivered before ++ delivered behind := by
  induction before with
  | nil => rfl
  | cons output before ih => cases output <;> simp [ih]

@[simp] theorem answered_append (before behind : List (Output p)) :
    answered (before ++ behind) = answered before ++ answered behind := by
  induction before with
  | nil => rfl
  | cons output before ih => cases output <;> simp [ih]

@[simp] theorem answered_starting (ops : List p.Op) : answered (Session.starting ops) = [] := by
  cases ops <;> rfl

@[simp] theorem answered_map_turnAway (commands : List Command) :
    answered (commands.map (Session.turnAway p)) = commands.map Command.caller := by
  induction commands with
  | nil => rfl
  | cons command commands ih => exact congrArg (command.caller :: ·) ih

@[simp] theorem delivered_map_reply (callers : List Caller) (result : Except LinkError Unit) :
    delivered (callers.map fun caller => (.reply caller result : Output p)) = [] := by
  induction callers with
  | nil => rfl
  | cons caller callers ih => exact ih

@[simp] theorem delivered_map_turnAway (commands : List Command) :
    delivered (commands.map (Session.turnAway p)) = [] := by
  induction commands with
  | nil => rfl
  | cons command commands ih => exact ih

def told (seen : List (Output p)) : List (LinkEvent M) :=
  (delivered seen).filter fun event => !event.isTerminal

@[simp] theorem told_append (before behind : List (Output p)) :
    told (before ++ behind) = told before ++ told behind := by
  simp [told]

/-! ### Every call is answered once -/

private def Phase.owed {Op : Type} : Phase M Op → List Caller
  | .writing caller => [caller]
  | .releasing _ ending | .released ending | .marked ending | .announced ending =>
    ending.requester.toList
  | _ => []

private theorem owed_releasing (ending : Ending) (ops : List p.Op) :
    (Session.releasing ending ops).owed = ending.requester.toList := by
  cases ops <;> rfl

private theorem releasing_ne_ended (ending : Ending) (ops : List p.Op) :
    Session.releasing ending ops ≠ .ended := by
  cases ops <;> nofun

private def Session.owed (s : Session p) : List Caller := s.phase.owed ++ s.queue.map Command.caller

private theorem count_answered_of_moves {now next : Session p} {action : Action p}
    {note : Option (Note p)} {outputs : List (Output p)} (caller : Caller)
    (move : Session.Moves now action note next outputs) :
    (answered outputs).count caller + next.owed.count caller =
      now.owed.count caller + ((handed note.toList).map Command.caller).count caller := by
  cases move with
  | idle => simp
  | queue command live =>
    simp [Session.owed]
    omega
  | late command phase =>
    simp [Session.owed, Session.turnAway]
    omega
  | abandon => simp [Session.owed]
  | unhear => simp [Session.owed]
  | write phase oldest =>
    simp [Session.owed, phase, oldest, Phase.owed, Command.caller, List.count_cons]
  | obey phase oldest =>
    simp only [Session.owed, owed_releasing, phase, oldest, answered_starting]
    simp [Phase.owed, Command.caller, List.count_cons]
  | abandoned phase | unheard phase | lose phase | stop phase =>
    simp only [Session.owed, Session.enter, owed_releasing, phase, answered_starting]
    simp [Phase.owed]
  | receive signal phase | resume answer phase =>
    simp [Session.owed, Session.react, phase, Phase.owed]
  | settle phase | deliver phase | work phase | mark phase =>
    simp [Session.owed, Session.enter, phase, Phase.owed]
  | wrote phase well =>
    simp [Session.owed, Session.enter, phase, Phase.owed, List.count_cons, Nat.add_comm]
  | failed phase failure =>
    simp only [Session.owed, Session.enter, owed_releasing, phase, answered, answered_starting]
    simp [Phase.owed, List.count_cons, Nat.add_comm]
  | release answer phase =>
    simp only [Session.owed, Session.enter, owed_releasing, phase, answered_starting]
    simp [Phase.owed]
  | announce phase =>
    simp only [Session.owed, Session.enter, phase, answered_append]
    split_ifs <;> simp [Phase.owed]
  | @acknowledge ending phase =>
    obtain ⟨cause, requester⟩ := ending
    simp only [Session.owed, Session.enter, phase]
    cases requester <;> simp [Phase.owed, List.count_cons, Nat.add_comm]
  | close phase => simp [Session.owed, phase, Phase.owed]

/-- Callers who have been answered and callers who have not are together those who have called, each
as often as they called. -/
private theorem count_answered_add_owed (memory : p.Memory) (actions : List (Action p))
    (caller : Caller) :
    (answered ((Session.start p memory).run actions).2).count caller +
        ((Session.start p memory).run actions).1.owed.count caller =
      ((handed ((Session.start p memory).history actions)).map Command.caller).count caller := by
  refine Session.run_induction
    (motive := fun _ now notes seen => (answered seen).count caller + now.owed.count caller =
      ((handed notes).map Command.caller).count caller) rfl ?_ actions
  intro actions now next action note notes seen outputs ih move
  have hmove := count_answered_of_moves caller move
  rw [answered_append, handed_append, List.map_append, List.count_append, List.count_append, ← ih]
  omega

private theorem queue_of_ended (memory : p.Memory) (actions : List (Action p))
    (ended : ((Session.start p memory).run actions).1.phase = .ended) :
    ((Session.start p memory).run actions).1.queue = [] := by
  refine Session.run_induction (motive := fun _ now _ _ => now.phase = .ended → now.queue = [])
    (by simp [Session.start]) ?_ actions ended
  intro _ now next action note notes seen outputs ih move hended
  cases move with
  | queue command live => exact absurd hended live
  | idle | late | abandon | unhear => exact ih hended
  | close => rfl
  | obey | abandoned | unheard | lose | stop | failed =>
    exact absurd hended (releasing_ne_ended _ _)
  | release => exact absurd hended (releasing_ne_ended _ _)
  | _ => simp [Session.enter, Session.react] at hended

theorem count_answered_of_ended (memory : p.Memory) (actions : List (Action p)) (caller : Caller)
    (ended : ((Session.start p memory).run actions).1.phase = .ended) :
    (answered ((Session.start p memory).run actions).2).count caller =
      ((handed ((Session.start p memory).history actions)).map Command.caller).count caller := by
  have hqueue := queue_of_ended memory actions ended
  have hbalance := count_answered_add_owed memory actions caller
  rw [Session.owed, ended, hqueue] at hbalance
  simpa [Phase.owed] using hbalance

end RadioLink.Link
