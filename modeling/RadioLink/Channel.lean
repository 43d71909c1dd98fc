/-!
Channels between one sender and one receiver. Either end may leave: a receiver that has left takes
nothing more, and a receiver whose sender has left still drains what is queued.
-/

set_option autoImplicit false

namespace RadioLink

structure Channel (α : Type) where
  queue : List α
  /-- How many values fit, if that is bounded. -/
  capacity : Option Nat
  senderGone : Bool
  receiverGone : Bool
  deriving DecidableEq, Repr

inductive Receipt (α : Type) where
  | value (a : α)
  | pending
  | ended
  deriving DecidableEq, Repr

namespace Channel

variable {α : Type}

/-- A channel with both ends present and room for any number of values. -/
def unbounded : Channel α := ⟨[], none, false, false⟩

/-- A channel with both ends present and room for so many values. -/
def bounded (capacity : Nat) : Channel α := ⟨[], some capacity, false, false⟩

private def accepts (c : Channel α) : Bool :=
  !c.receiverGone && c.capacity.all (c.queue.length < ·)

def send (c : Channel α) (a : α) : Bool × Channel α :=
  if c.accepts then (true, { c with queue := c.queue ++ [a] }) else (false, c)

def receive (c : Channel α) : Receipt α × Channel α :=
  match c.queue with
  | a :: rest => (.value a, { c with queue := rest })
  | [] => (if c.senderGone || c.receiverGone then .ended else .pending, c)

def dropSender (c : Channel α) : Channel α :=
  { c with senderGone := true }

/-- The receiver takes no more values but drains what is queued. -/
def close (c : Channel α) : Channel α :=
  { c with receiverGone := true }

/-- The receiver leaves, and what is queued with it. -/
def dropReceiver (c : Channel α) : Channel α :=
  { c with queue := [], receiverGone := true }

/-- Whether nothing is queued and nothing will be. -/
def isEnded (c : Channel α) : Bool :=
  c.queue.isEmpty && (c.senderGone || c.receiverGone)

end Channel

end RadioLink
