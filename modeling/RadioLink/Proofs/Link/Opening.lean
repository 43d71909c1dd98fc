import RadioLink.Link.Connection
import RadioLink.Proofs.Link.Calls

/-!
A link that was opened on a connection, and all that has happened to it since. What the others see
of the connection is what they see of the session, and the mark that the session sets stays.
-/

set_option autoImplicit false
set_option relaxedAutoImplicit false

namespace RadioLink.Link

variable {M : Type} {p : Protocol M}

namespace Connection

def actEach (c : Connection p) (index : Nat) : List (Action p) → Connection p × List (Output p)
  | [] => (c, [])
  | action :: actions =>
    let (c, seen) := c.act index action
    let (c, more) := c.actEach index actions
    (c, seen ++ more)

theorem sessions_heed (c : Connection p) (outputs : List (Output p)) :
    (c.heed outputs).sessions = c.sessions := by
  simp only [heed]
  split_ifs <;> rfl

theorem heed_of_mem {c : Connection p} {outputs : List (Output p)}
    (h : .markDisconnected ∈ outputs) : c.heed outputs = { c with state := .disconnected } := by
  rw [heed, if_pos (List.any_eq_true.mpr ⟨_, h, rfl⟩)]

theorem heed_of_not_mem {c : Connection p} {outputs : List (Output p)}
    (still : .markDisconnected ∉ outputs) : c.heed outputs = c := by
  rw [heed, if_neg]
  simp only [List.any_eq_true, not_exists, not_and]
  intro output hmem hmarks
  cases output with
  | markDisconnected => exact still hmem
  | _ => cases hmarks

private theorem state_heed_of_mem {c : Connection p} {outputs : List (Output p)}
    (h : .markDisconnected ∈ outputs) : (c.heed outputs).state = .disconnected := by
  rw [heed_of_mem h]

private theorem state_heed_of_disconnected {c : Connection p} (outputs : List (Output p))
    (h : c.state = .disconnected) : (c.heed outputs).state = .disconnected := by
  simp only [heed]
  split_ifs
  · rfl
  · exact h

theorem act_of_session {c : Connection p} {index : Nat} {s : Session p}
    (h : c.sessions[index]? = some s) (action : Action p) :
    c.act index action =
      ({ c with sessions := c.sessions.set index (s.step action).1 }.heed (s.step action).2,
        (s.step action).2) := by
  simp only [act, h]

theorem sessions_act {c : Connection p} {index : Nat} {s : Session p}
    (h : c.sessions[index]? = some s) (action : Action p) :
    (c.act index action).1.sessions[index]? = some (s.step action).1 := by
  have hlt : index < c.sessions.length := (List.getElem?_eq_some_iff.mp h).1
  rw [act_of_session h, sessions_heed]
  simp [hlt]

private theorem actEach_outputs {c : Connection p} {index : Nat} {s : Session p}
    (h : c.sessions[index]? = some s) (actions : List (Action p)) :
    (c.actEach index actions).2 = (s.run actions).2 := by
  induction actions generalizing c s with
  | nil => rfl
  | cons action actions ih =>
    have hrest := ih (sessions_act h action)
    simp only [actEach, Session.run, hrest]
    rw [act_of_session h]

private theorem state_actEach_of_disconnected {c : Connection p} {index : Nat} {s : Session p}
    (h : c.sessions[index]? = some s) (hstate : c.state = .disconnected)
    (actions : List (Action p)) : (c.actEach index actions).1.state = .disconnected := by
  induction actions generalizing c s with
  | nil => exact hstate
  | cons action actions ih =>
    have hstep : (c.act index action).1.state = .disconnected := by
      rw [act_of_session h]
      exact state_heed_of_disconnected _ hstate
    exact ih (sessions_act h action) hstep

private theorem state_actEach_of_mem {c : Connection p} {index : Nat} {s : Session p}
    (h : c.sessions[index]? = some s) (actions : List (Action p))
    (hmark : .markDisconnected ∈ (s.run actions).2) :
    (c.actEach index actions).1.state = .disconnected := by
  induction actions generalizing c s with
  | nil => simp [Session.run] at hmark
  | cons action actions ih =>
    rcases List.mem_append.mp hmark with hmark | hmark
    · have hstep : (c.act index action).1.state = .disconnected := by
        rw [act_of_session h]
        exact state_heed_of_mem hmark
      exact state_actEach_of_disconnected (sessions_act h action) hstep actions
    · exact ih (sessions_act h action) hmark

theorem session_opened (c : Connection p) (memory : p.Memory) :
    (c.opened memory).sessions[c.sessions.length]? = some (.start p memory) := by
  simp [opened]

end Connection

/-- A link that was opened on a connection, and what has happened to it since. -/
structure Opening (p : Protocol M) where
  connection : Connection p
  memory : p.Memory
  actions : List (Action p)

namespace Opening

variable (l : Opening p)

def session : Session p := ((Session.start p l.memory).run l.actions).1

def history : List (Note p) := (Session.start p l.memory).history l.actions

def outcome : Connection p × List (Output p) :=
  (l.connection.opened l.memory).actEach l.connection.sessions.length l.actions

def seen : List (Output p) := l.outcome.2

def state : State := l.outcome.1.state

def next (action : Action p) : Opening p := { l with actions := l.actions ++ [action] }

theorem seen_eq : l.seen = ((Session.start p l.memory).run l.actions).2 :=
  Connection.actEach_outputs (l.connection.session_opened l.memory) l.actions

theorem state_of_mem (h : .markDisconnected ∈ l.seen) : l.state = .disconnected := by
  rw [seen_eq] at h
  exact Connection.state_actEach_of_mem (l.connection.session_opened l.memory) l.actions h

end Opening

end RadioLink.Link
