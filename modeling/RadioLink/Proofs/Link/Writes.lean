import RadioLink.Proofs.Link.Sends

/-!
What the medium gets of the sends. An account of what the medium sees follows the ledger of the
sends if it follows it over the beginning of a write, over an answer, and over every operation that
writes nothing; it then follows it over all runs.
-/

set_option autoImplicit false
set_option relaxedAutoImplicit false

namespace RadioLink.Link

variable {M : Type} {p : Protocol M} {isWrite : p.Op → Prop}

/-- Only sends write: nothing that the task does on its own account is a write. -/
structure Protocol.Apart (p : Protocol M) (isWrite : p.Op → Prop) : Prop where
  opening : ∀ op, p.opening = .run op → ¬ isWrite op
  receive : ∀ memory signal op, (p.receive memory signal).1.next = .run op → ¬ isWrite op
  resume : ∀ memory answer op, (p.resume memory answer).1.next = .run op → ¬ isWrite op
  release : ∀ memory, ∀ op ∈ p.release memory, ¬ isWrite op

private def Phase.Apart {Op : Type} (isWrite : Op → Prop) : Phase M Op → Prop
  | .reacting reaction => ∀ op, reaction.next = .run op → ¬ isWrite op
  | .releasing rest _ => ∀ op ∈ rest, ¬ isWrite op
  | _ => True

/-- An account of what the medium sees, told exchange by exchange, that follows the ledger. -/
structure Follows {State : Type} (isWrite : p.Op → Prop) (meet : State → Exchange p → State)
    (fits : Ledger p → State → Prop) : Prop where
  other : ∀ {ledger state} op, fits ledger state → ledger.current = none → ¬ isWrite op →
    fits ledger (meet state (.asked op))
  write : ∀ {ledger state} sending, fits ledger state → ledger.current = none →
    ledger.failed = none → fits (ledger.begin sending) (meet state (.asked (p.write sending.bytes)))
  answer : ∀ {ledger state} answer, fits ledger state →
    (ledger.current.isSome → ledger.failed = none) →
    fits (ledger.finish answer) (meet state (.answered answer))

variable {State : Type} {meet : State → Exchange p → State} {fits : Ledger p → State → Prop}
  {ledger : Ledger p} {state : State}

private theorem Follows.asks (follows : Follows isWrite meet fits) (h : fits ledger state)
    (free : ledger.current = none) {op? : Option p.Op} (apart : ∀ op ∈ op?, ¬ isWrite op) :
    fits ledger ((op?.toList.map .asked).foldl meet state) := by
  cases op? with
  | none => exact h
  | some op => exact follows.other op h free (apart op rfl)

end RadioLink.Link
