/-!
The operations of a radio stack that report completion later, of which each kind may be outstanding
once.
-/

set_option autoImplicit false

namespace RadioLink

/-- Kinds of operations with at most one outstanding waiter. -/
inductive OperationKind where
  | powerOn
  | scan
  | connect
  | discoverServices
  | discoverCharacteristics
  | setNotify
  | write
  deriving DecidableEq, Repr

namespace OperationKind

def all : List OperationKind :=
  [.powerOn, .scan, .connect, .discoverServices, .discoverCharacteristics, .setNotify, .write]

def name : OperationKind → String
  | .powerOn => "power_on"
  | .scan => "scan"
  | .connect => "connect"
  | .discoverServices => "discover_services"
  | .discoverCharacteristics => "discover_characteristics"
  | .setNotify => "set_notify"
  | .write => "write"

def ofName? (name : String) : Option OperationKind :=
  all.find? (·.name = name)

theorem mem_all (kind : OperationKind) : kind ∈ all := by
  cases kind <;> decide

end OperationKind

end RadioLink
