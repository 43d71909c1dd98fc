import RadioLink.Proofs.Link.Dialling
import RadioLink.Proofs.Link.Opening

/-!
Where a connection stands. A task marks the connection when it has let go of the medium, and touches
nothing but its own stream and its own callers from then on. Only then can the owner's next attempt
start, so that at most one task holds the medium, and the state of the connection says whether one
does.
-/

set_option autoImplicit false
set_option relaxedAutoImplicit false

namespace RadioLink.Link

variable {M : Type} {p : Protocol M}

/-! ### What a task does to the connection -/

/-- The task has marked the connection as disconnected. -/
def Phase.IsMarked {Op : Type} : Phase M Op → Prop
  | .marked _ | .announced _ | .answered | .ended => True
  | _ => False

/-- It works on the medium, or on the state of the connection. -/
def Output.IsDeed : Output p → Prop
  | .run _ | .markDisconnected => True
  | .deliver _ | .endStream | .reply .. => False

/-- It tells the consumer that the link is over. -/
def Output.IsFinal : Output p → Prop
  | .deliver event => event.isTerminal = true
  | .endStream => True
  | .run _ | .reply .. | .markDisconnected => False

def Session.Quiet (s : Session p) : Prop := ∀ event ∈ s.phase.inHand, event.isTerminal = false

private theorem not_isMarked_releasing (ending : Ending) (ops : List p.Op) :
    ¬ (Session.releasing ending ops).IsMarked := by
  cases ops <;> exact id

private theorem mem_starting {ops : List p.Op} {output : Output p}
    (mem : output ∈ Session.starting ops) : ∃ op, output = .run op := by
  cases ops with
  | nil => simp [Session.starting] at mem
  | cons op rest => exact ⟨op, List.mem_singleton.mp mem⟩

private theorem mark_not_mem_starting (ops : List p.Op) :
    .markDisconnected ∉ Session.starting ops := by
  intro hmem
  obtain ⟨op, hop⟩ := mem_starting hmem
  cases hop

theorem isReleased_of_isMarked {s : Session p} (marked : s.phase.IsMarked) :
    s.isReleased = true := by
  unfold Session.isReleased
  cases hphase : s.phase with
  | released | marked | announced | answered | ended => rfl
  | _ =>
    rw [hphase] at marked
    exact marked.elim

theorem exists_released {s : Session p} (released : s.isReleased = true)
    (unmarked : ¬ s.phase.IsMarked) : ∃ ending, s.phase = .released ending := by
  unfold Session.isReleased at released
  cases hphase : s.phase with
  | released ending => exact ⟨ending, rfl⟩
  | marked | announced | answered | ended =>
    rw [hphase] at unmarked
    exact absurd trivial unmarked
  | _ =>
    rw [hphase] at released
    cases released

namespace Session

variable {now next : Session p} {action : Action p} {note : Option (Note p)}
  {outputs : List (Output p)}

theorem Moves.isMarked_iff (move : Moves now action note next outputs) :
    next.phase.IsMarked ↔ now.phase.IsMarked ∨ .markDisconnected ∈ outputs := by
  cases move with
  | idle | queue | abandon | unhear => simp
  | late command phase => simp [turnAway]
  | write phase | receive _ phase | wrote phase | deliver phase | resume _ phase | settle phase
  | work phase => simp [phase, Phase.IsMarked, react, enter]
  | obey phase | abandoned phase | unheard phase | lose phase | stop phase | release _ phase =>
    refine iff_of_false (not_isMarked_releasing _ _) ?_
    rw [phase]
    exact not_or_intro id (mark_not_mem_starting _)
  | failed phase =>
    refine iff_of_false (not_isMarked_releasing _ _) ?_
    rw [phase]
    exact not_or_intro id (by simp [mark_not_mem_starting])
  | mark | announce phase | acknowledge phase | close phase => simp [*, Phase.IsMarked, enter]

private theorem Moves.eq_advance (move : Moves now action note next outputs)
    (mark : .markDisconnected ∈ outputs) : action = .advance := by
  cases move with
  | idle | queue | abandon | unhear | write | receive | resume | wrote => simp at mark
  | late => simp [turnAway] at mark
  | failed => simp [mark_not_mem_starting] at mark
  | obey | abandoned | unheard | release => exact absurd mark (mark_not_mem_starting _)
  | deliver | lose | settle | work | stop | mark | announce | acknowledge | close => rfl

theorem Moves.eq_mark (move : Moves now action note next outputs) {ending : Ending}
    (released : now.phase = .released ending) {output : Output p} (mem : output ∈ outputs) :
    output = .markDisconnected := by
  cases move with
  | idle | queue | abandon | unhear | receive | resume | settle => simp at mem
  | mark => exact List.mem_singleton.mp mem
  | late _ phase | write phase | wrote phase | failed phase | deliver phase | work phase
  | obey phase | abandoned phase | unheard phase | lose phase | stop phase | release _ phase
  | announce phase | acknowledge phase | close phase => cases phase.symm.trans released

private theorem Moves.not_isDeed (move : Moves now action note next outputs)
    (marked : now.phase.IsMarked)
    {output : Output p} (mem : output ∈ outputs) : ¬ output.IsDeed := by
  cases move with
  | idle | queue | abandon | unhear | receive | resume | settle => simp at mem
  | late =>
    rw [List.mem_singleton.mp mem]
    exact id
  | write phase | wrote phase | failed phase | deliver phase | work phase | obey phase
  | abandoned phase | unheard phase | lose phase | stop phase | release _ phase | mark phase =>
    rw [phase] at marked
    exact marked.elim
  | announce =>
    rcases List.mem_append.mp mem with mem | mem
    · split_ifs at mem
      · rw [List.mem_singleton.mp mem]
        exact id
      · cases mem
    · rw [List.mem_singleton.mp mem]
      exact id
  | acknowledge =>
    obtain ⟨caller, -, rfl⟩ := List.mem_map.mp mem
    exact id
  | close =>
    obtain ⟨command, -, rfl⟩ := List.mem_map.mp mem
    exact id

theorem Moves.isMarked_of_isFinal (mild : p.Mild) (move : Moves now action note next outputs)
    (quiet : now.Quiet) :
    next.Quiet ∧ ∀ output ∈ outputs, output.IsFinal → next.phase.IsMarked := by
  have hquiet : ∀ {s : Session p}, s.phase.inHand = [] → s.Quiet := fun h => by simp [Quiet, h]
  have hstarting : ∀ (ops : List p.Op), ∀ output ∈ starting ops, ¬ output.IsFinal := by
    intro ops output hmem
    obtain ⟨op, rfl⟩ := mem_starting hmem
    exact id
  cases move with
  | idle | queue | abandon | unhear => exact ⟨quiet, by simp⟩
  | late => exact ⟨quiet, by simp [turnAway, Output.IsFinal]⟩
  | receive signal => exact ⟨mild.1 now.memory signal, by simp⟩
  | resume answer => exact ⟨mild.2 now.memory answer, by simp⟩
  | settle => exact ⟨hquiet rfl, by simp⟩
  | write | work | wrote | mark | acknowledge => exact ⟨hquiet rfl, by simp [Output.IsFinal]⟩
  | deliver phase =>
    rw [Quiet, phase] at quiet
    obtain ⟨hevent, hevents⟩ := List.forall_mem_cons.mp quiet
    exact ⟨hevents, by simp [Output.IsFinal, hevent]⟩
  | obey | abandoned | unheard | lose | stop | release =>
    exact ⟨hquiet (inHand_releasing _ _), fun output hmem hfinal =>
      absurd hfinal (hstarting _ output hmem)⟩
  | failed =>
    refine ⟨hquiet (inHand_releasing _ _), fun output hmem hfinal => ?_⟩
    rcases List.mem_cons.mp hmem with rfl | hmem
    · exact hfinal.elim
    · exact absurd hfinal (hstarting _ output hmem)
  | announce => exact ⟨hquiet rfl, fun _ _ _ => trivial⟩
  | close => exact ⟨hquiet rfl, fun _ _ _ => trivial⟩

end Session

/-! ### Where a connection stands -/

namespace Connection

variable {c : Connection p} {index : Nat} {action : Action p} {output : Output p}
  {sessions : List (Session p)} {holder : Option Nat}

def stepAt (sessions : List (Session p)) (index : Nat) (action : Action p) : List (Session p) :=
  sessions.modify index fun s => (s.step action).1

/-- All sessions have marked the connection, but for the one that holds the medium. -/
def MarkedBut (holder : Option Nat) (sessions : List (Session p)) : Prop :=
  ∀ index s, sessions[index]? = some s → (s.phase.IsMarked ↔ holder ≠ some index)

theorem getElem?_stepAt (other : Nat) :
    (stepAt sessions index action)[other]? =
      sessions[other]?.map fun s => if index = other then (s.step action).1 else s := by
  rw [stepAt, List.getElem?_modify]
  rfl

theorem mem_act (mem : output ∈ (c.act index action).2) :
    ∃ s, c.sessions[index]? = some s ∧ output ∈ (s.step action).2 := by
  rcases hsession : c.sessions[index]? with _ | s
  · simp [act, hsession] at mem
  · rw [act_of_session hsession] at mem
    exact ⟨s, rfl, mem⟩

private theorem mem_act_of_session {s : Session p} (session : c.sessions[index]? = some s)
    (mem : output ∈ (s.step action).2) : output ∈ (c.act index action).2 := by
  rw [act_of_session session]
  exact mem

private theorem act_eq (c : Connection p) (index : Nat) (action : Action p) :
    (c.act index action).1 =
      { c with sessions := stepAt c.sessions index action }.heed (c.act index action).2 := by
  rcases hsession : c.sessions[index]? with _ | s
  · have hstep : stepAt c.sessions index action = c.sessions :=
      List.modify_eq_self (List.getElem?_eq_none_iff.mp hsession)
    simp [act, hsession, hstep, heed]
  · have hstep : c.sessions.set index (s.step action).1 = stepAt c.sessions index action := by
      refine List.ext_getElem? fun other => ?_
      rw [getElem?_stepAt, List.getElem?_set]
      split_ifs with hsame hlt
      · rw [← hsame, hsession]
        rfl
      · rw [List.getElem?_eq_none_iff.mpr (hsame ▸ Nat.le_of_not_lt hlt), Option.map_none]
      · exact Option.map_id'.symm
    rw [act_of_session hsession, hstep]

theorem sessions_act_eq (c : Connection p) (index : Nat) (action : Action p) :
    (c.act index action).1.sessions = stepAt c.sessions index action := by
  rw [act_eq, sessions_heed]

theorem act_of_still (still : .markDisconnected ∉ (c.act index action).2) :
    (c.act index action).1 = { c with sessions := stepAt c.sessions index action } := by
  rw [act_eq, heed_of_not_mem still]

theorem act_of_mark (mark : .markDisconnected ∈ (c.act index action).2) :
    (c.act index action).1 =
      { c with state := .disconnected, sessions := stepAt c.sessions index action } := by
  rw [act_eq, heed_of_mem mark]

theorem unmarked_act (own : action ≠ .advance) : .markDisconnected ∉ (c.act index action).2 := by
  intro hmark
  obtain ⟨s, -, hmark⟩ := mem_act hmark
  exact own ((s.moves_step action).eq_advance hmark)

private theorem MarkedBut.stepAt_of_still (marked : MarkedBut holder c.sessions)
    (still : .markDisconnected ∉ (c.act index action).2) :
    MarkedBut holder (stepAt c.sessions index action) := by
  intro other s' hs'
  rw [getElem?_stepAt] at hs'
  obtain ⟨s, hs, rfl⟩ := Option.map_eq_some_iff.mp hs'
  split_ifs with hsame
  · subst hsame
    rw [(s.moves_step action).isMarked_iff, ← marked index s hs]
    exact or_iff_left fun hmark => still (mem_act_of_session hs hmark)
  · exact marked other s hs

private theorem MarkedBut.stepAt_of_mark (marked : MarkedBut holder c.sessions)
    (mark : .markDisconnected ∈ (c.act index action).2) :
    holder = some index ∧ MarkedBut none (stepAt c.sessions index action) := by
  obtain ⟨s, hs, hmark⟩ := mem_act mark
  have hholder : holder = some index := by
    by_contra hother
    exact (s.moves_step action).not_isDeed ((marked index s hs).mpr hother) hmark trivial
  refine ⟨hholder, fun other s' hs' => iff_of_true ?_ nofun⟩
  rw [getElem?_stepAt] at hs'
  obtain ⟨before, hbefore, rfl⟩ := Option.map_eq_some_iff.mp hs'
  split_ifs with hsame
  · obtain rfl : before = s := Option.some.inj ((hsame ▸ hbefore).symm.trans hs)
    exact (before.moves_step action).isMarked_iff.mpr (.inr hmark)
  · refine (marked other before hbefore).mpr fun hother => hsame ?_
    exact Option.some.inj (hholder.symm.trans hother)

theorem act_of_marked (c : Connection p) (index : Nat) (action : Action p)
    (marked : ∀ s, c.sessions[index]? = some s → s.phase.IsMarked) :
    (c.act index action).1 = { c with sessions := stepAt c.sessions index action } ∧
      ∀ output ∈ (c.act index action).2, ¬ output.IsDeed := by
  have hdeeds : ∀ output ∈ (c.act index action).2, ¬ output.IsDeed := by
    intro output hmem
    obtain ⟨s, hs, hmem⟩ := mem_act hmem
    exact (s.moves_step action).not_isDeed (marked s hs) hmem
  exact ⟨act_of_still fun hmark => hdeeds _ hmark trivial, hdeeds⟩

theorem length_stepAt : (stepAt sessions index action).length = sessions.length :=
  List.length_modify _ _ _

theorem letGo_eq (c : Connection p) :
    c.letGo = ⟨c.state, c.current.elim c.sessions (stepAt c.sessions · .abandon), none⟩ := by
  rcases hcurrent : c.current with _ | index
  · obtain ⟨state, sessions, current⟩ := c
    obtain rfl : current = none := hcurrent
    rfl
  · have hstill : .markDisconnected ∉ (c.act index .abandon).2 := unmarked_act nofun
    simp only [letGo, hcurrent, act_of_still hstill]
    rfl

private theorem MarkedBut.letGo (marked : MarkedBut holder c.sessions) :
    MarkedBut holder c.letGo.sessions := by
  rw [letGo_eq]
  rcases c.current with _ | index
  · exact marked
  · exact marked.stepAt_of_still (unmarked_act nofun)

private theorem MarkedBut.opened (marked : MarkedBut none sessions) (memory : p.Memory) :
    MarkedBut (some sessions.length) (sessions ++ [.start p memory]) := by
  intro index s hs
  rcases Nat.lt_or_ge index sessions.length with hlt | hge
  · rw [List.getElem?_append_left hlt] at hs
    refine iff_of_true ((marked index s hs).mpr nofun) fun hsame => ?_
    have hindex := Option.some.inj hsame
    omega
  · rw [List.getElem?_append_right hge, List.getElem?_singleton] at hs
    split_ifs at hs with hzero
    obtain rfl := Option.some.inj hs
    refine iff_of_false id fun hother => hother ?_
    rw [show sessions.length = index by omega]

theorem ask_eq (c : Connection p) (caller : Caller) (request : Request) :
    (c.ask caller request).1 = c ∨
      ∃ index command, (c.ask caller request).1 = (c.act index (.submit command)).1 := by
  rcases hcurrent : c.current with _ | index
  · cases request <;> simp [ask, send, disconnect, hcurrent]
  · cases request with
    | disconnect cause =>
      exact .inr ⟨index, .disconnect caller cause, by simp [ask, disconnect, hcurrent]⟩
    | send payload =>
      rcases hpack : p.pack payload with error | bytes
      · exact .inl (by simp [ask, send, hcurrent, hpack])
      · exact .inr ⟨index, .send caller bytes, by simp [ask, send, hcurrent, hpack]⟩

end Connection

namespace Owner

open Connection

variable {d : Dial p} {o : Owner d}

/-- Where a connection stands: what its state says of an attempt, and of who holds the medium. -/
inductive Standing : Owner d → Prop
  | idle {c : Connection p} (state : c.state = .idle) (current : c.current = none)
      (marked : MarkedBut none c.sessions) : Standing ⟨c, none⟩
  | connecting {c : Connection p} {stage : d.Stage} (state : c.state = .connecting)
      (current : c.current = none) (marked : MarkedBut none c.sessions) : Standing ⟨c, some stage⟩
  | streaming {c : Connection p} {holder : Nat} (state : c.state = .streaming)
      (current : c.current = some holder) (latest : holder + 1 = c.sessions.length)
      (marked : MarkedBut (some holder) c.sessions) : Standing ⟨c, none⟩
  | disconnected {c : Connection p} (state : c.state = .disconnected)
      (marked : MarkedBut none c.sessions) : Standing ⟨c, none⟩

theorem standing_initial (d : Dial p) : Standing (initial d) :=
  .idle rfl rfl (by simp [MarkedBut, Connection.initial])

private theorem Standing.act {c : Connection p} {attempt : Option d.Stage}
    (standing : Standing (d := d) ⟨c, attempt⟩) (index : Nat) (action : Action p) :
    Standing (d := d) ⟨(c.act index action).1, attempt⟩ := by
  by_cases hmark : .markDisconnected ∈ (c.act index action).2
  · rw [act_of_mark hmark]
    cases standing with
    | streaming _ _ _ marked => exact .disconnected rfl (marked.stepAt_of_mark hmark).2
    | idle _ _ marked | connecting _ _ marked | disconnected _ marked =>
      cases (marked.stepAt_of_mark hmark).1
  · rw [act_of_still hmark]
    cases standing with
    | idle state current marked => exact .idle state current (marked.stepAt_of_still hmark)
    | connecting state current marked =>
      exact .connecting state current (marked.stepAt_of_still hmark)
    | streaming state current latest marked =>
      exact .streaming state current (latest.trans length_stepAt.symm)
        (marked.stepAt_of_still hmark)
    | disconnected state marked => exact .disconnected state (marked.stepAt_of_still hmark)

private theorem Standing.marked_of_down (standing : Standing o)
    (state : o.connection.state ≠ .streaming) : MarkedBut none o.connection.sessions := by
  cases standing with
  | idle _ _ marked | connecting _ _ marked | disconnected _ marked => exact marked
  | streaming other => exact absurd other state

theorem Standing.isConnected_iff (standing : Standing o) :
    o.connection.isConnected = true ↔ o.connection.state = .streaming := by
  cases standing with
  | idle state | connecting state | disconnected state => simp [isConnected, state]
  | streaming state current => simp [isConnected, state, current]

theorem Standing.step_connect_of_streaming (standing : Standing o)
    (state : o.connection.state = .streaming) :
    o.step .connect = (o, [.connected (.error (.connectionFailed "already connected"))]) := by
  have hconnected := standing.isConnected_iff.mpr state
  cases standing with
  | streaming => simp [step, open?, hconnected]
  | idle other | connecting other | disconnected other => cases other.symm.trans state

theorem Standing.step_connect_of_down (standing : Standing o)
    (state : o.connection.state ≠ .streaming) (attempt : o.attempt = none) :
    o.step .connect =
      (⟨{ o.connection.letGo with state := .connecting }, some d.first⟩, []) := by
  have hdown : o.connection.isConnected = false :=
    Bool.eq_false_iff.mpr (mt standing.isConnected_iff.mp state)
  simp [step, attempt, open?, hdown]

theorem step_connect_of_attempt {stage : d.Stage} (attempt : o.attempt = some stage) :
    o.step .connect = (o, []) := by
  simp [step, attempt]

theorem Standing.not_refused (standing : Standing o) (state : o.connection.state ≠ .streaming) :
    (o.step .connect).1.connection.state = .connecting ∧
      (o.step .connect).1.attempt.isSome = true ∧ (o.step .connect).2 = [] := by
  rcases hattempt : o.attempt with _ | stage
  · rw [standing.step_connect_of_down state hattempt]
    exact ⟨rfl, rfl, rfl⟩
  · rw [step_connect_of_attempt hattempt]
    cases standing with
    | connecting other => exact ⟨other, rfl, rfl⟩
    | idle | streaming | disconnected => cases hattempt

/-- A task that has not let go of the medium is the latest one, and the connection streams. -/
theorem Standing.of_unreleased (standing : Standing o) {index : Nat} {s : Session p}
    (session : o.connection.sessions[index]? = some s) (unreleased : s.isReleased = false) :
    o.connection.state = .streaming ∧ o.attempt = none ∧ o.connection.current = some index ∧
      index + 1 = o.connection.sessions.length := by
  have hunmarked : ¬ s.phase.IsMarked := fun hmarked => by
    cases unreleased.symm.trans (isReleased_of_isMarked hmarked)
  cases standing with
  | idle _ _ marked | connecting _ _ marked | disconnected _ marked =>
    exact absurd ((marked index s session).mpr nofun) hunmarked
  | @streaming c holder state current latest marked =>
    have hsame : some holder = some index := by
      by_contra hother
      exact hunmarked ((marked index s session).mpr hother)
    obtain rfl := Option.some.inj hsame
    exact ⟨state, rfl, current, latest⟩

theorem Standing.latest_of_streaming (standing : Standing o)
    (state : o.connection.state = .streaming) :
    ∃ s, o.connection.sessions.getLast? = some s ∧ ¬ s.phase.IsMarked := by
  cases standing with
  | idle other | connecting other | disconnected other => cases other.symm.trans state
  | @streaming c holder _ _ latest marked =>
    have hlt : holder < c.sessions.length := by omega
    have hlast : c.sessions.getLast? = some c.sessions[holder] := by
      rw [List.getLast?_eq_getElem?, ← latest, Nat.add_sub_cancel, List.getElem?_eq_getElem hlt]
    refine ⟨c.sessions[holder], hlast, fun hmarked => ?_⟩
    exact (marked holder _ (List.getElem?_eq_getElem hlt)).mp hmarked rfl

theorem Standing.marked_of_stale (standing : Standing o) {index : Nat}
    (stale : o.connection.state ≠ .streaming ∨ index + 1 ≠ o.connection.sessions.length)
    {s : Session p} (session : o.connection.sessions[index]? = some s) : s.phase.IsMarked := by
  cases standing with
  | idle _ _ marked | connecting _ _ marked | disconnected _ marked =>
    exact (marked index s session).mpr nofun
  | streaming state _ latest marked =>
    refine (marked index s session).mpr fun hsame => ?_
    obtain rfl := Option.some.inj hsame
    exact stale.elim (· state) (· latest)

theorem standing_step (standing : Standing o) (doing : Doing d) : Standing (o.step doing).1 := by
  cases doing with
  | connect =>
    rcases hattempt : o.attempt with _ | stage
    · by_cases hstate : o.connection.state = .streaming
      · rw [standing.step_connect_of_streaming hstate]
        exact standing
      · rw [standing.step_connect_of_down hstate hattempt]
        exact .connecting rfl (by rw [letGo_eq]) (standing.marked_of_down hstate).letGo
    · rw [step_connect_of_attempt hattempt]
      exact standing
  | dialled answer =>
    cases standing with
    | idle state current marked => exact .idle state current marked
    | streaming state current latest marked => exact .streaming state current latest marked
    | disconnected state marked => exact .disconnected state marked
    | @connecting c stage state current marked =>
      simp only [step]
      rcases d.proceed stage answer with next | memory | error
      · exact .connecting state current marked
      · exact .streaming rfl rfl (by simp [Connection.opened]) (marked.opened memory)
      · exact .idle rfl current marked
  | move index action =>
    obtain ⟨c, attempt⟩ := o
    exact standing.act index action
  | call caller request =>
    obtain ⟨c, attempt⟩ := o
    cases attempt with
    | some stage => exact standing
    | none =>
      simp only [step]
      rcases c.ask_eq caller request with hask | ⟨index, command, hask⟩
      · rw [hask]
        exact standing
      · rw [hask]
        exact standing.act index _

end Owner

end RadioLink.Link
