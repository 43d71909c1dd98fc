import RadioLink.Link.Session

/-!
A connection: what its owner holds over one or many openings of a link. Each opening starts a
session; the connection commands the latest one, while earlier ones may still be finishing.
-/

set_option autoImplicit false

namespace RadioLink.Link

variable {M : Type}

inductive Request where
  | send (payload : Bytes)
  | disconnect (cause : Cause)

structure Connection (p : Protocol M) where
  state : State
  /-- The sessions of its openings, oldest first. -/
  sessions : List (Session p)
  /-- The session that it commands. -/
  current : Option Nat

namespace Connection

variable {p : Protocol M}

def initial (p : Protocol M) : Connection p := ⟨.idle, [], none⟩

def isConnected (c : Connection p) : Bool :=
  c.current.isSome && c.state = .streaming

/-- Marks the connection as disconnected if a session says so. -/
def heed (c : Connection p) (outputs : List (Output p)) : Connection p :=
  let marks : Output p → Bool
    | .markDisconnected => true
    | _ => false
  if outputs.any marks then { c with state := .disconnected } else c

def act (c : Connection p) (index : Nat) (action : Action p) : Connection p × List (Output p) :=
  match c.sessions[index]? with
  | none => (c, [])
  | some session =>
    let (session, outputs) := session.step action
    ({ c with sessions := c.sessions.set index session }.heed outputs, outputs)

/-- Leaves the session that the connection commands. -/
def letGo (c : Connection p) : Connection p :=
  match c.current with
  | none => c
  | some index => { (c.act index .abandon).1 with current := none }

/-- Starts to open the link; refused while it is open. -/
def open? (c : Connection p) : Except LinkError (Connection p) :=
  if c.isConnected then .error (.connectionFailed "already connected")
  else .ok { c.letGo with state := .connecting }

def failed (c : Connection p) : Connection p :=
  { c with state := .idle }

/-- The link is open, and a new session owns it. -/
def opened (c : Connection p) (memory : p.Memory) : Connection p :=
  { c with
    state := .streaming
    sessions := c.sessions ++ [.start p memory]
    current := some c.sessions.length }

def send (c : Connection p) (caller : Caller) (payload : Bytes) :
    Connection p × List (Output p) :=
  match c.current with
  | none => (c, [.reply caller (.error .notConnected)])
  | some index =>
    match p.pack payload with
    | .error error => (c, [.reply caller (.error error)])
    | .ok bytes => c.act index (.submit (.send caller bytes))

def disconnect (c : Connection p) (caller : Caller) (cause : Cause) :
    Connection p × List (Output p) :=
  match c.current with
  | none => (c, [.reply caller (.ok ())])
  | some index => c.act index (.submit (.disconnect caller cause))

def ask (c : Connection p) (caller : Caller) : Request → Connection p × List (Output p)
  | .send payload => c.send caller payload
  | .disconnect cause => c.disconnect caller cause

end Connection

end RadioLink.Link
