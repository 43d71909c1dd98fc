import RadioLink.Proofs.Link.Calls
import RadioLink.Proofs.Link.Stages

/-!
What a medium sees of a session: operations that it is asked for, and its answers that the task
takes. They alternate, so nothing is asked for while anything else is under way.
-/

set_option autoImplicit false
set_option relaxedAutoImplicit false

namespace RadioLink.Link

variable {M : Type} {p : Protocol M}

inductive Exchange (p : Protocol M) where
  | asked (op : p.Op)
  | answered (answer : p.Answer)

def Phase.isBusy {Op : Type} : Phase M Op → Bool
  | .working | .writing _ | .releasing .. => true
  | _ => false

@[simp] def asks : List (Output p) → List p.Op
  | [] => []
  | .run op :: seen => op :: asks seen
  | .deliver _ :: seen | .endStream :: seen | .reply .. :: seen | .markDisconnected :: seen =>
    asks seen

@[simp] theorem asks_append (before behind : List (Output p)) :
    asks (before ++ behind) = asks before ++ asks behind := by
  induction before with
  | nil => rfl
  | cons output before ih => cases output <;> simp [ih]

@[simp] theorem asks_starting (ops : List p.Op) :
    asks (Session.starting ops) = ops.head?.toList := by
  cases ops <;> rfl

@[simp] theorem asks_map_reply (callers : List Caller) (result : Except LinkError Unit) :
    asks (callers.map fun caller => (.reply caller result : Output p)) = [] := by
  induction callers with
  | nil => rfl
  | cons caller callers ih => exact ih

@[simp] theorem asks_map_turnAway (commands : List Command) :
    asks (commands.map (Session.turnAway p)) = [] := by
  induction commands with
  | nil => rfl
  | cons command commands ih => exact ih

@[simp] theorem isBusy_releasing (ending : Ending) (ops : List p.Op) :
    (Session.releasing ending ops : Phase M p.Op).isBusy = ops.head?.isSome := by
  cases ops <;> rfl

namespace Session

/-- The answer that an action brings to a task that waits for one. -/
def heeds? (s : Session p) : Action p → Option p.Answer
  | .answer answer => if s.phase.isBusy then some answer else none
  | _ => none

/-- What the medium sees of an action: an answer that is taken, and then what it is asked for. -/
def exchanged (s : Session p) (action : Action p) : List (Exchange p) :=
  (s.heeds? action).toList.map .answered ++ (asks (s.step action).2).map .asked

def wire (s : Session p) : List (Action p) → List (Exchange p)
  | [] => []
  | action :: actions => s.exchanged action ++ (s.step action).1.wire actions

theorem heeds?_answer {s : Session p} (busy : s.phase.isBusy = true) (answer : p.Answer) :
    s.heeds? (.answer answer) = some answer := if_pos busy

theorem heeds?_of_idle {s : Session p} {action : Action p} (idle : s.step action = (s, [])) :
    s.heeds? action = none := by
  obtain ⟨phase, memory, queue, commanded, heard⟩ := s
  cases action with
  | answer answer =>
    cases phase with
    | working => simp [step, react] at idle
    | writing caller =>
      rcases hfailure : p.failure? answer with _ | ⟨error, cause⟩ <;>
        simp [step, wrote, hfailure] at idle
    | releasing rest ending =>
      simp only [step, release_eq] at idle
      cases rest <;> simp [enter, releasing, starting] at idle
    | _ => rfl
  | _ => rfl

end Session

/-- Every operation is answered before the next one is asked for; the last one may be under way. -/
inductive Alternating : Bool → List (Exchange p) → Prop
  | nil : Alternating false []
  | ask {wire : List (Exchange p)} (op : p.Op) (rest : Alternating false wire) :
      Alternating true (wire ++ [.asked op])
  | answer {wire : List (Exchange p)} (answer : p.Answer) (rest : Alternating true wire) :
      Alternating false (wire ++ [.answered answer])

variable {wire : List (Exchange p)}

private theorem Alternating.asks (alternating : Alternating false wire) (op? : Option p.Op) :
    Alternating op?.isSome (wire ++ op?.toList.map .asked) := by
  cases op? with
  | none => simpa using alternating
  | some op => exact .ask op alternating

end RadioLink.Link
