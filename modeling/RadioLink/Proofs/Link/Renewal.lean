import RadioLink.Proofs.Link.Standing

/-!
A connection whose tasks have all marked it, beside one that is new. What is left of the old tasks
touches nothing but itself, so the two go on alike: whatever is done to both shows the same, but for
the numbers of their sessions.
-/

set_option autoImplicit false
set_option relaxedAutoImplicit false

namespace RadioLink.Link

variable {M : Type} {p : Protocol M}

def recentIndex? (old index : Nat) : Option Nat :=
  if index < old then none else some (index - old)

private theorem recentIndex?_add (old index : Nat) :
    recentIndex? old (old + index) = some index := by
  rw [recentIndex?, if_neg (by omega), Nat.add_sub_cancel_left]

def Doing.recent? {d : Dial p} (old : Nat) : Doing d → Option (Doing d)
  | .connect => some .connect
  | .dialled answer => some (.dialled answer)
  | .call caller request => some (.call caller request)
  | .move index action => (recentIndex? old index).map (.move · action)

def Notice.recent? (old : Nat) : Notice p → Option (Notice p)
  | .connected result => some (.connected result)
  | .called output => some (.called output)
  | .moved index output => (recentIndex? old index).map (.moved · output)

namespace Connection

/-- A connection, beside one without its first sessions; these have marked it. -/
structure Renews (old : Nat) (c fresh : Connection p) : Prop where
  state : c.state = fresh.state
  current : c.current = fresh.current.map (old + ·)
  sessions : ∃ front, c.sessions = front ++ fresh.sessions ∧ front.length = old ∧
    ∀ s ∈ front, s.phase.IsMarked

variable {old index : Nat} {c fresh : Connection p} {action : Action p}

private theorem Renews.getElem?_sessions (renews : Renews old c fresh) (index : Nat) :
    c.sessions[old + index]? = fresh.sessions[index]? := by
  obtain ⟨front, hsessions, rfl, -⟩ := renews.sessions
  rw [hsessions, List.getElem?_append_right (by omega), Nat.add_sub_cancel_left]

private theorem Renews.length_sessions (renews : Renews old c fresh) :
    c.sessions.length = old + fresh.sessions.length := by
  obtain ⟨front, hsessions, rfl, -⟩ := renews.sessions
  rw [hsessions, List.length_append]

theorem Renews.isMarked_of_past (renews : Renews old c fresh) (past : index < old) {s : Session p}
    (session : c.sessions[index]? = some s) : s.phase.IsMarked := by
  obtain ⟨front, hsessions, rfl, hmarked⟩ := renews.sessions
  rw [hsessions, List.getElem?_append_left past] at session
  exact hmarked s (List.mem_of_getElem? session)

private theorem stepAt_append_right (front sessions : List (Session p)) (index : Nat)
    (action : Action p) :
    stepAt (front ++ sessions) (front.length + index) action =
      front ++ stepAt sessions index action := by
  refine List.ext_getElem? fun other => ?_
  rcases Nat.lt_or_ge other front.length with hlt | hge
  · rw [getElem?_stepAt, List.getElem?_append_left hlt, List.getElem?_append_left hlt]
    have hother : front.length + index ≠ other := by omega
    simp [hother]
  · obtain ⟨other, rfl⟩ := Nat.exists_eq_add_of_le hge
    simp [getElem?_stepAt, List.getElem?_append_right]

private theorem stepAt_append_left {front : List (Session p)} (sessions : List (Session p))
    (past : index < front.length) (action : Action p) :
    stepAt (front ++ sessions) index action = stepAt front index action ++ sessions := by
  have hlength : (stepAt front index action).length = front.length := length_stepAt
  refine List.ext_getElem? fun other => ?_
  rcases Nat.lt_or_ge other front.length with hlt | hge
  · rw [getElem?_stepAt, List.getElem?_append_left hlt, List.getElem?_append_left (by omega),
      getElem?_stepAt]
  · rw [getElem?_stepAt, List.getElem?_append_right hge, List.getElem?_append_right (by omega),
      hlength]
    have hother : index ≠ other := by omega
    simp [hother]

private theorem isMarked_stepAt {sessions : List (Session p)}
    (marked : ∀ s ∈ sessions, s.phase.IsMarked)
    (index : Nat) (action : Action p) : ∀ s ∈ stepAt sessions index action, s.phase.IsMarked := by
  intro s' hs'
  obtain ⟨other, hother⟩ := List.mem_iff_getElem?.mp hs'
  rw [getElem?_stepAt] at hother
  obtain ⟨s, hs, rfl⟩ := Option.map_eq_some_iff.mp hother
  have hmarked : s.phase.IsMarked := marked s (List.mem_of_getElem? hs)
  split_ifs
  · exact (s.moves_step action).isMarked_iff.mpr (.inl hmarked)
  · exact hmarked

/-- A session that both have moves alike on both. -/
private theorem Renews.act (renews : Renews old c fresh) (index : Nat) (action : Action p) :
    Renews old (c.act (old + index) action).1 (fresh.act index action).1 ∧
      (c.act (old + index) action).2 = (fresh.act index action).2 := by
  have houtputs : (c.act (old + index) action).2 = (fresh.act index action).2 := by
    simp only [Connection.act, renews.getElem?_sessions]
    cases fresh.sessions[index]? <;> rfl
  obtain ⟨front, hsessions, rfl, hmarked⟩ := renews.sessions
  have hmoved : stepAt c.sessions (front.length + index) action =
      front ++ stepAt fresh.sessions index action := by
    rw [hsessions, stepAt_append_right]
  refine ⟨?_, houtputs⟩
  by_cases hmark : .markDisconnected ∈ (fresh.act index action).2
  · rw [act_of_mark (houtputs ▸ hmark), act_of_mark hmark]
    exact ⟨rfl, renews.current, front, hmoved, rfl, hmarked⟩
  · rw [act_of_still (houtputs ▸ hmark), act_of_still hmark]
    exact ⟨renews.state, renews.current, front, hmoved, rfl, hmarked⟩

private theorem Renews.act_old (renews : Renews old c fresh) (index : Nat) (past : index < old)
    (action : Action p) : Renews old (c.act index action).1 fresh := by
  obtain ⟨front, hsessions, hlength, hmarked⟩ := renews.sessions
  rw [(c.act_of_marked index action fun s => renews.isMarked_of_past past).1]
  refine ⟨renews.state, renews.current, stepAt front index action, ?_, ?_, ?_⟩
  · rw [hsessions]
    exact stepAt_append_left _ (by omega) action
  · rw [length_stepAt, hlength]
  · exact isMarked_stepAt hmarked index action

theorem Renews.isConnected (renews : Renews old c fresh) : c.isConnected = fresh.isConnected := by
  rw [Connection.isConnected, Connection.isConnected, renews.state, renews.current,
    Option.isSome_map]

private theorem Renews.open? (renews : Renews old c fresh) :
    (∃ error, c.open? = .error error ∧ fresh.open? = .error error) ∨
      ∃ now now', c.open? = .ok now ∧ fresh.open? = .ok now' ∧ Renews old now now' := by
  simp only [Connection.open?, renews.isConnected]
  split_ifs
  · exact .inl ⟨_, rfl, rfl⟩
  · refine .inr ⟨_, _, rfl, rfl, ?_⟩
    rcases hcurrent : fresh.current with _ | index
    · have hnone : c.current = none := by rw [renews.current, hcurrent, Option.map_none]
      simp only [Connection.letGo, hcurrent, hnone]
      exact ⟨rfl, rfl, renews.sessions⟩
    · have hsome : c.current = some (old + index) := by rw [renews.current, hcurrent]; rfl
      have hact := (renews.act index .abandon).1
      simp only [Connection.letGo, hcurrent, hsome]
      exact ⟨rfl, rfl, hact.sessions⟩

private theorem Renews.opened (renews : Renews old c fresh) (memory : p.Memory) :
    Renews old (c.opened memory) (fresh.opened memory) := by
  have hlength := renews.length_sessions
  obtain ⟨front, hsessions, hold, hmarked⟩ := renews.sessions
  refine ⟨rfl, congrArg some hlength, front, ?_, hold, hmarked⟩
  simp [Connection.opened, hsessions]

private theorem Renews.ask (renews : Renews old c fresh) (caller : Caller) (request : Request) :
    Renews old (c.ask caller request).1 (fresh.ask caller request).1 ∧
      (c.ask caller request).2 = (fresh.ask caller request).2 := by
  rcases hcurrent : fresh.current with _ | index
  · have hnone : c.current = none := by rw [renews.current, hcurrent, Option.map_none]
    cases request <;>
      simpa [Connection.ask, Connection.send, Connection.disconnect, hcurrent, hnone] using renews
  · have hsome : c.current = some (old + index) := by rw [renews.current, hcurrent]; rfl
    cases request with
    | disconnect cause =>
      simpa [Connection.ask, Connection.disconnect, hcurrent, hsome] using renews.act index _
    | send payload =>
      rcases hpack : p.pack payload with error | bytes
      · simpa [Connection.ask, Connection.send, hcurrent, hsome, hpack] using renews
      · simpa [Connection.ask, Connection.send, hcurrent, hsome, hpack] using renews.act index _

end Connection

namespace Owner

open Connection

variable {d : Dial p} {o fresh : Owner d} {old : Nat}

/-- An owner, beside one without the first sessions; these have marked the connection. -/
structure Renews (old : Nat) (o fresh : Owner d) : Prop where
  connection : o.connection.Renews old fresh.connection
  attempt : o.attempt = fresh.attempt

private theorem Renews.dialled {c c' : Connection p} (renews : c.Renews old c')
    (course : Course d.Stage p.Memory) :
    Renews old (dialled c course : Owner d × List (Notice p)).1 (Owner.dialled c' course).1 ∧
      (dialled c course : Owner d × List (Notice p)).2.filterMap (Notice.recent? old) =
        (dialled c' course : Owner d × List (Notice p)).2 := by
  cases course with
  | next stage => exact ⟨⟨renews, rfl⟩, rfl⟩
  | opened memory => exact ⟨⟨renews.opened memory, rfl⟩, rfl⟩
  | failed error => exact ⟨⟨⟨rfl, renews.current, renews.sessions⟩, rfl⟩, rfl⟩

private theorem filterMap_recent?_called (old : Nat) (outputs : List (Output p)) :
    (outputs.map Notice.called).filterMap (Notice.recent? old) = outputs.map .called := by
  rw [List.filterMap_map]
  exact List.filterMap_eq_map ▸ rfl

private theorem filterMap_recent?_moved (old index : Nat) (outputs : List (Output p)) :
    (outputs.map (Notice.moved (old + index))).filterMap (Notice.recent? old) =
      outputs.map (.moved index) := by
  rw [List.filterMap_map, ← List.filterMap_eq_map]
  congr 1
  funext output
  simp [Notice.recent?, recentIndex?_add]

private theorem filterMap_recent?_past {old index : Nat} (past : index < old)
    (outputs : List (Output p)) :
    (outputs.map (Notice.moved index)).filterMap (Notice.recent? old) = [] := by
  simp [Notice.recent?, recentIndex?, past]

theorem Renews.step (renews : Renews old o fresh) (doing : Doing d) :
    Renews old (o.step doing).1 (fresh.run (doing.recent? old).toList).1 ∧
      (o.step doing).2.filterMap (Notice.recent? old) =
        (fresh.run (doing.recent? old).toList).2 := by
  obtain ⟨c, attempt⟩ := o
  obtain ⟨c', attempt'⟩ := fresh
  obtain ⟨hconnection, rfl : attempt = attempt'⟩ := renews
  cases doing with
  | connect =>
    simp only [Doing.recent?, Option.toList_some, Owner.run, Owner.step, List.append_nil]
    rcases attempt with _ | stage
    · rcases hconnection.open? with ⟨error, hopen, hopen'⟩ | ⟨now, now', hopen, hopen', hnow⟩
      · simp only [hopen, hopen']
        exact ⟨⟨hconnection, rfl⟩, rfl⟩
      · simp only [hopen, hopen']
        exact ⟨⟨hnow, rfl⟩, rfl⟩
    · exact ⟨⟨hconnection, rfl⟩, rfl⟩
  | dialled answer =>
    simp only [Doing.recent?, Option.toList_some, Owner.run, Owner.step, List.append_nil]
    rcases attempt with _ | stage
    · exact ⟨⟨hconnection, rfl⟩, rfl⟩
    · exact Renews.dialled hconnection _
  | call caller request =>
    simp only [Doing.recent?, Option.toList_some, Owner.run, Owner.step, List.append_nil]
    rcases attempt with _ | stage
    · obtain ⟨hask, houtputs⟩ := hconnection.ask caller request
      simp only [filterMap_recent?_called, houtputs]
      exact ⟨⟨hask, rfl⟩, trivial⟩
    · exact ⟨⟨hconnection, rfl⟩, rfl⟩
  | move index action =>
    rcases Nat.lt_or_ge index old with hpast | hrecent
    · have hnone : recentIndex? old index = none := if_pos hpast
      simp only [Doing.recent?, hnone, Option.map_none, Option.toList_none, Owner.run, Owner.step,
        filterMap_recent?_past hpast]
      exact ⟨⟨hconnection.act_old index hpast action, rfl⟩, trivial⟩
    · obtain ⟨index, rfl⟩ := Nat.exists_eq_add_of_le hrecent
      obtain ⟨hact, houtputs⟩ := hconnection.act index action
      simp only [Doing.recent?, recentIndex?_add, Option.map_some, Option.toList_some, Owner.run,
        Owner.step, List.append_nil, filterMap_recent?_moved, houtputs]
      exact ⟨⟨hact, rfl⟩, trivial⟩

theorem run_append (o : Owner d) (before behind : List (Doing d)) :
    o.run (before ++ behind) =
      (((o.run before).1.run behind).1, (o.run before).2 ++ ((o.run before).1.run behind).2) := by
  induction before generalizing o with
  | nil => rfl
  | cons doing before ih => simp only [List.cons_append, run, ih, List.append_assoc]

/-- The two go on alike, whatever happens. -/
theorem Renews.run (renews : Renews old o fresh) (doings : List (Doing d)) :
    Renews old (o.run doings).1 (fresh.run (doings.filterMap (Doing.recent? old))).1 ∧
      (o.run doings).2.filterMap (Notice.recent? old) =
        (fresh.run (doings.filterMap (Doing.recent? old))).2 := by
  induction doings generalizing o fresh with
  | nil => exact ⟨renews, rfl⟩
  | cons doing doings ih =>
    obtain ⟨hstep, hnotices⟩ := renews.step doing
    obtain ⟨hrun, hmore⟩ := ih hstep
    have hsplit : (doing :: doings).filterMap (Doing.recent? old) =
        (doing.recent? old).toList ++ doings.filterMap (Doing.recent? old) := by
      rw [List.filterMap_cons]
      cases doing.recent? old <;> rfl
    rw [hsplit, run_append]
    refine ⟨hrun, ?_⟩
    simp only [Owner.run, List.filterMap_append, hnotices, hmore]

theorem renews_initial {c : Connection p} (state : c.state = .idle) (current : c.current = none)
    (marked : MarkedBut none c.sessions) :
    Renews c.sessions.length (⟨c, none⟩ : Owner d) (initial d) := by
  refine ⟨⟨state, current, c.sessions, (List.append_nil _).symm, rfl, fun s hs => ?_⟩, rfl⟩
  obtain ⟨index, hindex⟩ := List.mem_iff_getElem?.mp hs
  exact (marked index s hindex).mpr nofun

end Owner

end RadioLink.Link
