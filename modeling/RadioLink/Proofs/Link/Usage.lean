import Mathlib.Data.List.Nodup
import RadioLink.Proofs.Link.Opening
import RadioLink.Proofs.Link.Sends

/-!
An open connection and those who use it. A call hands a command to the session of the link, but for
a payload that is refused at once; what callers hear is what the session answers, and the refusals.
-/

set_option autoImplicit false
set_option relaxedAutoImplicit false

namespace RadioLink.Link

variable {M : Type} {p : Protocol M}

/-- What happens to an open connection: a caller asks for something, or its session moves. -/
inductive Happening (p : Protocol M) where
  | call (caller : Caller) (request : Request)
  | move (action : Action p)

namespace Happening

/-- What the session gets of it, if anything. Commands come in by calls alone, and a payload that is
refused at once makes none. -/
def action? : Happening p → Option (Action p)
  | .call caller (.send payload) =>
    (p.pack payload).toOption.map fun bytes => .submit (.send caller bytes)
  | .call caller (.disconnect cause) => some (.submit (.disconnect caller cause))
  | .move (.submit _) => none
  | .move action => some action

/-- The answer to a payload that is refused at once. -/
private def refusal : Happening p → List (Output p)
  | .call caller (.send payload) =>
    match p.pack payload with
    | .ok _ => []
    | .error error => [.reply caller (.error error)]
  | _ => []

def caller? : Happening p → Option Caller
  | .call caller _ => some caller
  | .move _ => none

end Happening

namespace Connection

def meet (c : Connection p) (index : Nat) : Happening p → Connection p × List (Output p)
  | .call caller request => c.ask caller request
  | .move (.submit _) => (c, [])
  | .move action => c.act index action

def meetEach (c : Connection p) (index : Nat) :
    List (Happening p) → Connection p × List (Output p)
  | [] => (c, [])
  | happening :: happenings =>
    let (c, seen) := c.meet index happening
    let (c, more) := c.meetEach index happenings
    (c, seen ++ more)

private theorem current_act (c : Connection p) (index : Nat) (action : Action p) :
    (c.act index action).1.current = c.current := by
  simp only [act]
  split
  · rfl
  · simp only [heed]
    split_ifs <;> rfl

variable {c : Connection p} {index : Nat}

private theorem meet_of_action {happening : Happening p} (current : c.current = some index)
    {action : Action p} (h : happening.action? = some action) :
    c.meet index happening = c.act index action ∧ happening.refusal = [] := by
  match happening with
  | .call caller (.disconnect cause) =>
    cases h
    simp [meet, ask, disconnect, current, Happening.refusal]
  | .call caller (.send payload) =>
    simp only [Happening.action?] at h
    rcases hpack : p.pack payload with error | bytes
    · simp [hpack, Except.toOption] at h
    · simp only [hpack, Except.toOption, Option.map_some, Option.some.injEq] at h
      simp [meet, ask, send, current, hpack, ← h, Happening.refusal]
  | .move other =>
    cases other with
    | submit => cases h
    | _ => obtain rfl := Option.some.inj h; exact ⟨rfl, rfl⟩

private theorem meet_of_no_action {happening : Happening p} (current : c.current = some index)
    (h : happening.action? = none) : c.meet index happening = (c, happening.refusal) := by
  match happening with
  | .call caller (.disconnect cause) => cases h
  | .call caller (.send payload) =>
    simp only [Happening.action?] at h
    rcases hpack : p.pack payload with error | bytes
    · simp [meet, ask, send, current, hpack, Happening.refusal]
    · simp [hpack, Except.toOption] at h
  | .move action =>
    cases action with
    | submit => rfl
    | _ => cases h

/-- A connection in use goes where its session goes, and the others see refusals beside what they
see of the session. -/
private theorem meetEach_eq (current : c.current = some index) (happenings : List (Happening p)) :
    (c.meetEach index happenings).1 =
        (c.actEach index (happenings.filterMap Happening.action?)).1 ∧
      ∀ output, output ∈ (c.meetEach index happenings).2 ↔
        output ∈ (c.actEach index (happenings.filterMap Happening.action?)).2 ∨
          output ∈ happenings.flatMap Happening.refusal := by
  induction happenings generalizing c with
  | nil => exact ⟨rfl, by simp [meetEach, actEach]⟩
  | cons happening happenings ih =>
    rcases haction : happening.action? with _ | action
    · obtain ⟨hconnection, houtputs⟩ := ih current
      simp only [meetEach, meet_of_no_action current haction, List.filterMap_cons, haction,
        List.flatMap_cons]
      refine ⟨hconnection, fun output => ?_⟩
      rw [List.mem_append, List.mem_append, houtputs]
      tauto
    · obtain ⟨hmeet, hrefusal⟩ := meet_of_action current haction
      have hcurrent : (c.act index action).1.current = some index := by rw [current_act, current]
      obtain ⟨hconnection, houtputs⟩ := ih hcurrent
      simp only [meetEach, hmeet, List.filterMap_cons, haction, List.flatMap_cons,
        hrefusal, actEach,
        List.nil_append]
      refine ⟨hconnection, fun output => ?_⟩
      rw [List.mem_append, List.mem_append, houtputs]
      tauto

end Connection

/-- A link that was opened on a connection, and all that has happened to the connection since. -/
structure Usage (p : Protocol M) where
  connection : Connection p
  memory : p.Memory
  happenings : List (Happening p)

namespace Usage

variable (u : Usage p)

/-- The link as its session sees it. -/
def opening : Opening p :=
  ⟨u.connection, u.memory, u.happenings.filterMap Happening.action?⟩

def outcome : Connection p × List (Output p) :=
  (u.connection.opened u.memory).meetEach u.connection.sessions.length u.happenings

def now : Connection p := u.outcome.1

def seen : List (Output p) := u.outcome.2

def ledger : Ledger p := (Session.start p u.memory).ledger .empty u.opening.actions

def wire : List (Exchange p) := (Session.start p u.memory).wire u.opening.actions

def callers : List Caller := u.happenings.filterMap Happening.caller?

private theorem mem_seen_iff (output : Output p) :
    output ∈ u.seen ↔
      output ∈ u.opening.seen ∨ output ∈ u.happenings.flatMap Happening.refusal :=
  (Connection.meetEach_eq rfl u.happenings).2 output

theorem served : Served (handed u.opening.history) u.opening.session u.ledger u.opening.seen := by
  rw [Opening.seen_eq]
  exact served_run u.memory u.opening.actions

end Usage

/-! ### One call -/

private theorem submit_of_moves {now next : Session p} {action : Action p} {note : Option (Note p)}
    {outputs : List (Output p)} {command : Command}
    (move : Session.Moves now action note next outputs) (mem : command ∈ handed note.toList) :
    action = .submit command := by
  cases move with
  | queue other | late other =>
    obtain rfl : command = other := by simpa using mem
    rfl
  | _ => simp at mem

private theorem submit_mem_of_handed {s : Session p} {actions : List (Action p)} {command : Command}
    (mem : command ∈ handed (s.history actions)) : .submit command ∈ actions := by
  induction actions generalizing s with
  | nil => simp [Session.history] at mem
  | cons action actions ih =>
    rw [Session.history, handed_append] at mem
    rcases List.mem_append.mp mem with mem | mem
    · rw [submit_of_moves (Session.moves_step s action) mem]
      exact List.mem_cons_self ..
    · exact List.mem_cons_of_mem _ (ih mem)

private theorem request_eq_of_caller {happenings : List (Happening p)}
    (distinct : (happenings.filterMap Happening.caller?).Nodup) {caller : Caller}
    {request other : Request} (mem : .call caller request ∈ happenings)
    (mem' : .call caller other ∈ happenings) : request = other := by
  have hcaller {request : Request} {happenings : List (Happening p)}
      (mem : .call caller request ∈ happenings) :
      caller ∈ happenings.filterMap Happening.caller? :=
    List.mem_filterMap.mpr ⟨_, mem, rfl⟩
  induction happenings with
  | nil => simp at mem
  | cons happening happenings ih =>
    cases happening with
    | move action =>
      exact ih distinct (by simpa using mem) (by simpa using mem')
    | call caller' request' =>
      obtain ⟨hfresh, hrest⟩ := List.nodup_cons.mp distinct
      rcases List.mem_cons.mp mem with mem | mem <;> rcases List.mem_cons.mp mem' with mem' | mem'
      · injection mem with _ hrequest
        injection mem' with _ hother
        exact hrequest.trans hother.symm
      · injection mem with hsame
        exact absurd (hcaller mem') (hsame ▸ hfresh)
      · injection mem' with hsame
        exact absurd (hcaller mem) (hsame ▸ hfresh)
      · exact ih hrest mem mem'

namespace Usage

variable {u : Usage p}

theorem call_of_send {sending : Sending}
    (mem : .send sending.caller sending.bytes ∈ handed u.opening.history) :
    ∃ payload, .call sending.caller (.send payload) ∈ u.happenings ∧
      p.pack payload = .ok sending.bytes := by
  obtain ⟨happening, hmem, haction⟩ := List.mem_filterMap.mp (submit_mem_of_handed mem)
  match happening with
  | .call caller (.disconnect cause) => cases haction
  | .move action => cases action <;> cases haction
  | .call caller (.send payload) =>
    simp only [Happening.action?] at haction
    rcases hpack : p.pack payload with error | bytes
    · simp [hpack, Except.toOption] at haction
    · simp only [hpack, Except.toOption, Option.map_some, Option.some.injEq, Action.submit.injEq,
        Command.send.injEq] at haction
      obtain ⟨hcaller, hbytes⟩ := haction
      exact ⟨payload, hcaller ▸ hmem, hbytes ▸ hpack⟩

private theorem call_of_disconnect {caller : Caller} {cause : Cause}
    (mem : .disconnect caller cause ∈ handed u.opening.history) :
    .call caller (.disconnect cause) ∈ u.happenings := by
  obtain ⟨happening, hmem, haction⟩ := List.mem_filterMap.mp (submit_mem_of_handed mem)
  match happening with
  | .call other (.disconnect cause') =>
    simp only [Happening.action?, Option.some.injEq, Action.submit.injEq,
      Command.disconnect.injEq] at haction
    obtain ⟨rfl, rfl⟩ := haction
    exact hmem
  | .move action => cases action <;> cases haction
  | .call other (.send payload) =>
    simp only [Happening.action?] at haction
    rcases hpack : p.pack payload with error | bytes <;> simp [hpack, Except.toOption] at haction

variable {caller : Caller} {payload bytes : Bytes} {result : Except LinkError Unit}

private theorem eq_of_taken (distinct : u.callers.Nodup)
    (call : .call caller (.send payload) ∈ u.happenings) (packed : p.pack payload = .ok bytes)
    {sending : Sending} (mem : sending ∈ u.ledger.taken) (same : sending.caller = caller) :
    sending = ⟨caller, bytes⟩ := by
  obtain ⟨payload', hcall, hpacked⟩ := call_of_send (u.served.mem_calls_of_taken mem)
  have hrequest := request_eq_of_caller distinct call (same ▸ hcall)
  injection hrequest with hpayload
  rw [← hpayload, packed] at hpacked
  injection hpacked with hbytes
  rw [← same, hbytes]

private theorem tells_of_seen (distinct : u.callers.Nodup)
    (call : .call caller (.send payload) ∈ u.happenings) (packed : p.pack payload = .ok bytes)
    (reply : .reply caller result ∈ u.seen) :
    Tells (handed u.opening.history) u.ledger (u.opening.session.phase = .ended) caller result := by
  rcases (u.mem_seen_iff _).mp reply with hreply | hrefusal
  · exact u.served.replies caller result hreply
  · obtain ⟨happening, hmem, hrefused⟩ := List.mem_flatMap.mp hrefusal
    match happening with
    | .call other (.disconnect cause) => simp [Happening.refusal] at hrefused
    | .move action => simp [Happening.refusal] at hrefused
    | .call other (.send payload') =>
      rcases hpack : p.pack payload' with error | bytes'
      · simp only [Happening.refusal, hpack, List.mem_singleton] at hrefused
        injection hrefused with hcaller
        have hrequest := request_eq_of_caller distinct call (hcaller ▸ hmem)
        injection hrequest with hpayload
        rw [← hpayload, packed] at hpack
        cases hpack
      · simp [Happening.refusal, hpack] at hrefused

theorem ok_iff (distinct : u.callers.Nodup) (call : .call caller (.send payload) ∈ u.happenings)
    (packed : p.pack payload = .ok bytes) :
    .reply caller (.ok ()) ∈ u.seen ↔ ⟨caller, bytes⟩ ∈ u.ledger.written := by
  constructor
  · intro hreply
    have htells := tells_of_seen distinct call packed hreply
    generalize hresult : (.ok () : Except LinkError Unit) = result at htells
    cases htells with
    | written mem =>
      exact eq_of_taken distinct call packed (u.ledger.written_subset_taken mem) rfl ▸ mem
    | failed => cases hresult
    | turnedAway => cases hresult
    | done mem => cases request_eq_of_caller distinct call (call_of_disconnect mem)
  · intro hwritten
    exact (u.mem_seen_iff _).mpr (Or.inl (u.served.confirmed _ hwritten))

end Usage

end RadioLink.Link
