/-!
The life of a connection, as its owner sees it.
-/

set_option autoImplicit false

namespace RadioLink.Link

inductive State where
  | idle
  | connecting
  | streaming
  | disconnected
  deriving DecidableEq, Repr

def State.all : List State :=
  [.idle, .connecting, .streaming, .disconnected]

def State.title : State → String
  | .idle => "idle"
  | .connecting => "connecting"
  | .streaming => "streaming"
  | .disconnected => "disconnected"

end RadioLink.Link
