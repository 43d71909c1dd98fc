import RadioLink.Proofs.Link.Stages

/-!
How a session gets to its end. Once the task has met a cause, its own steps end it whatever the
medium answers; a wish to end the link is met as soon as the task is through with the commands ahead
of it.
-/

set_option autoImplicit false
set_option relaxedAutoImplicit false

namespace RadioLink.Link

variable {M : Type} {p : Protocol M}

/-- The task moves, or the medium answers it. -/
def Action.IsOwn : Action p → Prop
  | .take | .answer _ | .advance => True
  | _ => False

def Phase.inHand {Op : Type} : Phase M Op → List (LinkEvent M)
  | .reacting reaction => reaction.events
  | _ => []

@[simp] theorem inHand_releasing (ending : Ending) (ops : List p.Op) :
    (Session.releasing ending ops : Phase M p.Op).inHand = [] := by
  cases ops <;> rfl

/-- The task can get to its end without the help of callers, the consumer or the peer. -/
def Session.CanEnd (s : Session p) : Prop :=
  ∃ actions : List (Action p), (∀ action ∈ actions, action.IsOwn) ∧
    (s.run actions).1.phase = .ended

/-- Some answer leads the task back to waiting, or to the end. -/
def Protocol.Restful (p : Protocol M) : Prop :=
  ∃ answer, ∀ memory op, (p.resume memory answer).1.next ≠ .run op

namespace Session

private theorem CanEnd.of_step {s : Session p} (action : Action p) (own : action.IsOwn)
    (h : (s.step action).1.CanEnd) : s.CanEnd := by
  obtain ⟨actions, howns, hended⟩ := h
  exact ⟨action :: actions, List.forall_mem_cons.mpr ⟨own, howns⟩, hended⟩

private theorem CanEnd.of_ended {s : Session p} (h : s.phase = .ended) : s.CanEnd :=
  ⟨[], by simp, h⟩

theorem run_inHand {s : Session p} (hears : s.heard = true) :
    (s.run (List.replicate s.phase.inHand.length .advance)).2 = s.phase.inHand.map .deliver := by
  obtain ⟨phase, memory, queue, commanded, heard⟩ := s
  obtain rfl : heard = true := hears
  cases phase with
  | reacting reaction =>
    obtain ⟨events, next⟩ := reaction
    induction events with
    | nil => rfl
    | cons event events ih => exact congrArg (.deliver event :: ·) ih
  | _ => rfl

private theorem canEnd_released (ending : Ending) (memory : p.Memory) (queue : List Command)
    (commanded heard : Bool) :
    CanEnd (p := p) ⟨.released ending, memory, queue, commanded, heard⟩ := by
  have hsteps : ∀ action ∈ List.replicate 4 (Action.advance (p := p)), action.IsOwn := by
    intro action ha
    rw [List.eq_of_mem_replicate ha]
    trivial
  exact ⟨List.replicate 4 .advance, hsteps, rfl⟩

private theorem canEnd_releasing (answer : p.Answer) (ending : Ending) (memory : p.Memory)
    (queue : List Command) (commanded heard : Bool) (ops : List p.Op) :
    CanEnd (p := p) ⟨releasing ending ops, memory, queue, commanded, heard⟩ := by
  induction ops with
  | nil => exact canEnd_released ending memory queue commanded heard
  | cons op rest ih =>
    have hstep : (step (p := p) ⟨.releasing rest ending, memory, queue, commanded, heard⟩
        (.answer answer)).1 = ⟨releasing ending rest, memory, queue, commanded, heard⟩ := by
      simp only [step, release_eq, enter]
    refine CanEnd.of_step (.answer answer) trivial ?_
    rw [releasing, hstep]
    exact ih

/-- A task that has met a cause gets to its end, whatever the medium answers. -/
theorem canEnd_of_not_live (answer : p.Answer) {s : Session p} (h : ¬ s.phase.IsLive) :
    s.CanEnd := by
  obtain ⟨phase, memory, queue, commanded, heard⟩ := s
  cases phase with
  | reacting | waiting | working | writing => exact absurd trivial h
  | releasing rest ending =>
    refine CanEnd.of_step (.answer answer) trivial ?_
    simp only [step, release_eq]
    exact canEnd_releasing answer ending memory queue commanded heard rest
  | released ending => exact canEnd_released ending memory queue commanded heard
  | marked ending =>
    exact ⟨[.advance, .advance, .advance], by simp [Action.IsOwn], rfl⟩
  | announced ending => exact ⟨[.advance, .advance], by simp [Action.IsOwn], rfl⟩
  | answered => exact ⟨[.advance], by simp [Action.IsOwn], rfl⟩
  | ended => exact CanEnd.of_ended rfl

private theorem canEnd_stop (answer : p.Answer) (s : Session p) (cause : Cause)
    (requester : Option Caller) : (s.stop cause requester).1.CanEnd := by
  refine canEnd_of_not_live answer ?_
  rw [stop, release_eq]
  cases p.release s.memory <;> exact id

private theorem canEnd_waiting (answer : p.Answer) (memory : p.Memory) (queue : List Command)
    (commanded heard : Bool) (h : ∃ caller cause, .disconnect caller cause ∈ queue) :
    CanEnd (p := p) ⟨.waiting, memory, queue, commanded, heard⟩ := by
  induction queue with
  | nil => simp at h
  | cons command queue ih =>
    refine CanEnd.of_step .take trivial ?_
    cases command with
    | disconnect caller cause => exact canEnd_stop answer _ cause (some caller)
    | send caller bytes =>
      have hrest : ∃ caller cause, .disconnect caller cause ∈ queue := by
        obtain ⟨caller', cause, hmem⟩ := h
        exact ⟨caller', cause, by simpa using hmem⟩
      refine CanEnd.of_step (.answer answer) trivial ?_
      simp only [step, obey, enter, wrote]
      cases p.failure? answer with
      | none => exact ih hrest
      | some failure => exact canEnd_stop answer _ failure.2 none

private theorem canEnd_reacting (answer : p.Answer) (memory : p.Memory) (queue : List Command)
    (commanded heard : Bool) (events : List (LinkEvent M)) (next : Next p.Op)
    (h : (proceed (p := p) ⟨.reacting ⟨[], next⟩, memory, queue, commanded, heard⟩ next).1.CanEnd) :
    CanEnd (p := p) ⟨.reacting ⟨events, next⟩, memory, queue, commanded, heard⟩ := by
  induction events with
  | nil => exact CanEnd.of_step .advance trivial h
  | cons event events ih =>
    refine CanEnd.of_step .advance trivial ?_
    cases heard with
    | true => exact ih
    | false => exact canEnd_stop answer _ .unheard none

theorem canEnd_of_stopping (answer : p.Answer) {s : Session p} {events : List (LinkEvent M)}
    {cause : Cause} (h : s.phase = .reacting ⟨events, .stop cause⟩) : s.CanEnd := by
  obtain ⟨phase, memory, queue, commanded, heard⟩ := s
  obtain rfl : phase = .reacting ⟨events, .stop cause⟩ := h
  exact canEnd_reacting answer memory queue commanded heard events (.stop cause)
    (canEnd_stop answer _ cause none)

private theorem canEnd_of_mem_queue (restful : p.Restful) {s : Session p}
    (h : ∃ caller cause, .disconnect caller cause ∈ s.queue) : s.CanEnd := by
  obtain ⟨answer, hrests⟩ := restful
  obtain ⟨phase, memory, queue, commanded, heard⟩ := s
  have hworking : CanEnd (p := p) ⟨.working, memory, queue, commanded, heard⟩ := by
    refine CanEnd.of_step (.answer answer) trivial ?_
    have hrest := hrests memory
    rcases hresume : p.resume memory answer with ⟨⟨events, next⟩, memory'⟩
    simp only [step, react, hresume]
    rw [hresume] at hrest
    refine canEnd_reacting answer memory' queue commanded heard events next ?_
    cases next with
    | wait => exact canEnd_waiting answer memory' queue commanded heard h
    | run op => exact absurd rfl (hrest op)
    | stop cause => exact canEnd_stop answer _ cause none
  cases phase with
  | waiting => exact canEnd_waiting answer memory queue commanded heard h
  | working => exact hworking
  | reacting reaction =>
    obtain ⟨events, next⟩ := reaction
    refine canEnd_reacting answer memory queue commanded heard events next ?_
    cases next with
    | wait => exact canEnd_waiting answer memory queue commanded heard h
    | run op => exact hworking
    | stop cause => exact canEnd_stop answer _ cause none
  | writing caller =>
    refine CanEnd.of_step (.answer answer) trivial ?_
    simp only [step, wrote]
    cases p.failure? answer with
    | none => exact canEnd_waiting answer memory queue commanded heard h
    | some failure => exact canEnd_stop answer _ failure.2 none
  | _ => exact canEnd_of_not_live answer id

private theorem mem_queue_or_not_live (memory : p.Memory) (actions : List (Action p))
    {caller : Caller} {cause : Cause}
    (h : .disconnect caller cause ∈ handed ((start p memory).history actions)) :
    .disconnect caller cause ∈ ((start p memory).run actions).1.queue ∨
      ¬ ((start p memory).run actions).1.phase.IsLive := by
  refine run_induction (motive := fun _ now notes _ =>
    .disconnect caller cause ∈ handed notes →
      .disconnect caller cause ∈ now.queue ∨ ¬ now.phase.IsLive) (by simp) ?_ actions h
  intro _ now next action note notes seen outputs ih move hmem
  cases move with
  | idle | abandon | unhear => exact ih (by simpa using hmem)
  | queue command live =>
    rw [Option.toList_some, handed_append] at hmem
    rcases List.mem_append.mp hmem with hmem | hmem
    · exact (ih hmem).imp_left (List.mem_append_left _)
    · exact Or.inl (List.mem_append_right _ hmem)
  | late command phase => exact Or.inr (by simp [phase, Phase.IsLive])
  | write phase oldest =>
    rcases ih (by simpa using hmem) with hqueue | hlive
    · exact Or.inl (by simpa [oldest] using hqueue)
    · exact absurd (phase ▸ trivial) hlive
  | obey | abandoned | unheard | lose | stop | failed =>
    refine Or.inr ?_
    cases p.release now.memory <;> exact id
  | receive signal phase | resume answer phase | wrote phase | deliver phase | settle phase
  | work phase =>
    rcases ih (by simpa using hmem) with hqueue | hlive
    · exact Or.inl hqueue
    · exact absurd (phase ▸ trivial) hlive
  | @release rest =>
    refine Or.inr ?_
    cases rest <;> exact id
  | mark | announce | acknowledge | close => exact Or.inr id

theorem canEnd_of_handed (restful : p.Restful) (memory : p.Memory) (actions : List (Action p))
    {caller : Caller} {cause : Cause}
    (h : .disconnect caller cause ∈ handed ((start p memory).history actions)) :
    ((start p memory).run actions).1.CanEnd := by
  rcases mem_queue_or_not_live memory actions h with hqueue | hlive
  · exact canEnd_of_mem_queue restful ⟨caller, cause, hqueue⟩
  · obtain ⟨answer, -⟩ := restful
    exact canEnd_of_not_live answer hlive

end Session

end RadioLink.Link
