import RadioLink.Error

/-!
Pending operations: a slot for each kind of operation, held by one waiter at a time at most. A
waiter is answered at most once, by the first resolution of its kind behind its registration.
-/

set_option autoImplicit false

namespace RadioLink

inductive Delivery (α : Type) where
  | pending
  | outcome (result : Except LinkError α)
  | abandoned

structure Waiter (α : Type) where
  number : Nat
  kind : OperationKind
  delivery : Delivery α

structure Slots (α : Type) where
  /-- The number of the waiter registered last in a slot and not resolved. -/
  holder : OperationKind → Option Nat
  waiters : List (Waiter α)
  next : Nat

namespace Slots

variable {α : Type}

def empty : Slots α := ⟨fun _ => none, [], 0⟩

instance : Inhabited (Slots α) := ⟨empty⟩

/-- The waiter of a number, unless it has left. -/
def find? (s : Slots α) (number : Nat) : Option (Waiter α) :=
  s.waiters.find? (·.number = number)

/-- Whether a waiter that has not left holds the slot. -/
def isPending (s : Slots α) (kind : OperationKind) : Bool :=
  (s.holder kind).any fun number => (s.find? number).isSome

def setHolder (s : Slots α) (kind : OperationKind) (holder : Option Nat) : Slots α :=
  { s with holder := fun k => if k = kind then holder else s.holder k }

/-- Registers a waiter; refused while another one holds the slot. Answers the waiter's number. -/
def begin (s : Slots α) (kind : OperationKind) : Except LinkError (Nat × Slots α) :=
  if s.isPending kind then .error (.operationInProgress kind)
  else
    let waiters := s.waiters ++ [⟨s.next, kind, .pending⟩]
    .ok (s.next, { s.setHolder kind (some s.next) with waiters := waiters, next := s.next + 1 })

def tell (s : Slots α) (number : Nat) (delivery : Delivery α) : Slots α :=
  { s with
    waiters := s.waiters.map fun w =>
      if w.number = number then { w with delivery := delivery } else w }

/-- Resolves the operation of a kind: whether a waiter was there to be told. -/
def resolve (s : Slots α) (kind : OperationKind) (result : Except LinkError α) : Bool × Slots α :=
  match s.holder kind with
  | none => (false, s)
  | some number =>
    let freed := s.setHolder kind none
    if (s.find? number).isSome then (true, freed.tell number (.outcome result)) else (false, freed)

def failAll (s : Slots α) (error : LinkError) : Slots α :=
  OperationKind.all.foldl (fun s kind => (s.resolve kind (.error error)).2) s

def leave (s : Slots α) (number : Nat) : Slots α :=
  { s with waiters := s.waiters.filter (·.number ≠ number) }

/-- What a waiter finds; one that finds an answer leaves with it. -/
def poll (s : Slots α) (number : Nat) : Option (Except LinkError α) × Slots α :=
  match s.find? number with
  | none => (none, s)
  | some w =>
    match w.delivery with
    | .pending => (none, s)
    | .outcome result => (some result, s.leave number)
    | .abandoned => (some (.error .channelClosed), s.leave number)

/-- The end of a bounded wait: the answer that has come, or a timeout. Either way the waiter
leaves. -/
def expire (s : Slots α) (number : Nat) : Except LinkError α × Slots α :=
  match s.poll number with
  | (some result, s) => (result, s)
  | (none, s) => (.error .timeout, s.leave number)

/-- The slots go away: whoever waits in one learns that nobody will answer. -/
def drop (s : Slots α) : Slots α :=
  OperationKind.all.foldl
    (fun s kind => match s.holder kind with
      | none => s
      | some number => (s.setHolder kind none).tell number .abandoned) s

def pendingKinds (s : Slots α) : List OperationKind :=
  OperationKind.all.filter s.isPending

end Slots

end RadioLink
