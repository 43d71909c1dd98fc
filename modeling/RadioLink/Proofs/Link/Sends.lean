import RadioLink.Proofs.Link.Exchanges

/-!
What becomes of the sends. The task takes them in the order in which they came, writes one at a
time, and answers each by how its write went; those that it does not take any more are turned away.
-/

set_option autoImplicit false
set_option relaxedAutoImplicit false

namespace RadioLink.Link

variable {M : Type} {p : Protocol M}

/-- A send as the task gets it: who asks, and the bytes to write. -/
structure Sending where
  caller : Caller
  bytes : Bytes

@[simp] def sends : List Command → List Sending
  | [] => []
  | .send caller bytes :: commands => ⟨caller, bytes⟩ :: sends commands
  | .disconnect .. :: commands => sends commands

@[simp] theorem sends_append (before behind : List Command) :
    sends (before ++ behind) = sends before ++ sends behind := by
  induction before with
  | nil => rfl
  | cons command before ih => cases command <;> simp [ih]

private theorem mem_sends {sending : Sending} {commands : List Command} :
    sending ∈ sends commands ↔ .send sending.caller sending.bytes ∈ commands := by
  obtain ⟨caller, bytes⟩ := sending
  induction commands with
  | nil => simp
  | cons command commands ih => cases command <;> simp [ih]

/-- What has become of the sends that the task has taken. -/
structure Ledger (p : Protocol M) where
  /-- Those whose writes went well, oldest first. -/
  written : List Sending
  /-- The one whose write failed, and the answer that it got. -/
  failed : Option (Sending × p.Answer)
  /-- The one whose write is under way. -/
  current : Option Sending

namespace Ledger

def empty : Ledger p := ⟨[], none, none⟩

def taken (l : Ledger p) : List Sending :=
  l.written ++ (l.failed.map Prod.fst).toList ++ l.current.toList

def begin (l : Ledger p) (sending : Sending) : Ledger p := { l with current := some sending }

/-- An answer of the medium, which ends the write that is under way, if any is. -/
def finish (l : Ledger p) (answer : p.Answer) : Ledger p :=
  match l.current with
  | none => l
  | some sending =>
    match p.failure? answer with
    | none => ⟨l.written ++ [sending], l.failed, none⟩
    | some _ => ⟨l.written, some (sending, answer), none⟩

variable {l : Ledger p} {sending : Sending} {answer : p.Answer} {error : LinkError} {cause : Cause}

theorem finish_of_none (idle : l.current = none) (answer : p.Answer) : l.finish answer = l := by
  simp only [finish, idle]

theorem finish_well (writing : l.current = some sending) (well : p.failure? answer = none) :
    l.finish answer = ⟨l.written ++ [sending], l.failed, none⟩ := by
  simp only [finish, writing, well]

theorem finish_badly (writing : l.current = some sending)
    (failure : p.failure? answer = some (error, cause)) :
    l.finish answer = ⟨l.written, some (sending, answer), none⟩ := by
  simp only [finish, writing, failure]

theorem taken_begin (faultless : l.failed = none) (idle : l.current = none) :
    (l.begin sending).taken = l.taken ++ [sending] := by
  simp [taken, begin, faultless, idle]

theorem taken_finish (faultless : l.failed = none) (answer : p.Answer) :
    (l.finish answer).taken = l.taken := by
  cases hcurrent : l.current with
  | none => rw [finish_of_none hcurrent]
  | some sending =>
    cases hfailure : p.failure? answer with
    | none => simp [finish_well hcurrent hfailure, taken, faultless, hcurrent]
    | some failure => simp [finish_badly hcurrent hfailure, taken, faultless, hcurrent]

theorem written_subset_taken (l : Ledger p) : l.written ⊆ l.taken :=
  List.subset_append_of_subset_left _ (List.subset_append_left _ _)

end Ledger

namespace Session

def begins? (s : Session p) : Action p → Option Sending
  | .take =>
    match s.phase, s.queue with
    | .waiting, .send caller bytes :: _ => some ⟨caller, bytes⟩
    | _, _ => none
  | _ => none

def keep (s : Session p) (l : Ledger p) (action : Action p) : Ledger p :=
  let l := (s.heeds? action).elim l l.finish
  (s.begins? action).elim l l.begin

def ledger (s : Session p) (l : Ledger p) : List (Action p) → Ledger p
  | [] => l
  | action :: actions => (s.step action).1.ledger (s.keep l action) actions

theorem ledger_snoc (s : Session p) (l : Ledger p) (actions : List (Action p))
    (action : Action p) :
    s.ledger l (actions ++ [action]) = (s.run actions).1.keep (s.ledger l actions) action := by
  induction actions generalizing s l with
  | nil => rfl
  | cons first actions ih => simp only [List.cons_append, ledger, run, ih]

private theorem begins?_of_idle {s : Session p} {action : Action p}
    (idle : s.step action = (s, [])) : s.begins? action = none := by
  obtain ⟨phase, memory, queue, commanded, heard⟩ := s
  cases action with
  | take =>
    cases phase with
    | waiting =>
      match queue with
      | [] => rfl
      | .disconnect caller cause :: rest => rfl
      | .send caller bytes :: rest => simp [step, obey, enter] at idle
    | _ => rfl
  | _ => rfl

theorem keep_of_idle {s : Session p} {action : Action p} (l : Ledger p)
    (idle : s.step action = (s, [])) : s.keep l action = l := by
  simp [keep, heeds?_of_idle idle, begins?_of_idle idle]

theorem keep_write {s : Session p} {caller : Caller} {bytes : Bytes} {queue : List Command}
    (l : Ledger p) (phase : s.phase = .waiting) (oldest : s.queue = .send caller bytes :: queue) :
    s.keep l .take = l.begin ⟨caller, bytes⟩ := by
  simp [keep, heeds?, begins?, phase, oldest]

theorem keep_obey {s : Session p} {caller : Caller} {cause : Cause} {queue : List Command}
    (l : Ledger p) (oldest : s.queue = .disconnect caller cause :: queue) :
    s.keep l .take = l := by
  simp [keep, heeds?, begins?, oldest]

theorem keep_answer {s : Session p} (l : Ledger p) (busy : s.phase.isBusy = true)
    (answer : p.Answer) : s.keep l (.answer answer) = l.finish answer := by
  simp [keep, heeds?_answer busy, begins?]

end Session

/-- The send whose write is under way is the one that the task writes. -/
private def Phase.Writes {Op : Type} : Phase M Op → Option Sending → Prop
  | .writing caller, current => ∃ bytes, current = some ⟨caller, bytes⟩
  | _, current => current = none

private def Phase.requester? {Op : Type} : Phase M Op → Option Caller
  | .releasing _ ending | .released ending | .marked ending | .announced ending => ending.requester
  | _ => none

@[simp] theorem writes_releasing (ending : Ending) (ops : List p.Op) (current : Option Sending) :
    (Session.releasing ending ops : Phase M p.Op).Writes current ↔ current = none := by
  cases ops <;> rfl

@[simp] theorem isLive_releasing (ending : Ending) (ops : List p.Op) :
    ¬ (Session.releasing ending ops : Phase M p.Op).IsLive := by
  cases ops <;> exact id

@[simp] theorem requester?_releasing (ending : Ending) (ops : List p.Op) :
    (Session.releasing ending ops : Phase M p.Op).requester? = ending.requester := by
  cases ops <;> rfl

/-- What an answer tells a caller of how things stand. -/
inductive Tells (calls : List Command) (ledger : Ledger p) (shut : Prop) :
    Caller → Except LinkError Unit → Prop
  | written {sending : Sending} (mem : sending ∈ ledger.written) :
      Tells calls ledger shut sending.caller (.ok ())
  | failed {sending : Sending} {answer : p.Answer} {error : LinkError} {cause : Cause}
      (failed : ledger.failed = some (sending, answer))
      (failure : p.failure? answer = some (error, cause)) :
      Tells calls ledger shut sending.caller (.error error)
  | turnedAway {sending : Sending} {rest : List Sending} (hshut : shut)
      (order : sends calls = ledger.taken ++ rest) (mem : sending ∈ rest) :
      Tells calls ledger shut sending.caller (.error .notConnected)
  | done {caller : Caller} {cause : Cause} (mem : .disconnect caller cause ∈ calls) :
      Tells calls ledger shut caller (.ok ())

variable {calls : List Command} {ledger : Ledger p} {shut : Prop} {caller : Caller}
  {result : Except LinkError Unit} {seen outputs : List (Output p)} {now next : Session p}

private theorem Tells.extend (h : Tells calls ledger shut caller result) (more : List Command) :
    Tells (calls ++ more) ledger shut caller result := by
  cases h with
  | written mem => exact .written mem
  | failed failed failure => exact .failed failed failure
  | @turnedAway sending rest hshut order mem =>
    have horder : sends (calls ++ more) = ledger.taken ++ (rest ++ sends more) := by
      rw [sends_append, order, List.append_assoc]
    exact .turnedAway hshut horder (List.mem_append_left _ mem)
  | done mem => exact .done (List.mem_append_left _ mem)

private theorem Tells.advance {ledger' : Ledger p} {shut' : Prop}
    (h : Tells calls ledger shut caller result)
    (live : ¬ shut) (written : ledger.written ⊆ ledger'.written)
    (failed : ledger.failed.isSome → ledger'.failed = ledger.failed) :
    Tells calls ledger' shut' caller result := by
  cases h with
  | written mem => exact .written (written mem)
  | failed hfailed failure =>
    exact .failed ((failed (by rw [hfailed]; rfl)).trans hfailed) failure
  | turnedAway hshut => exact absurd hshut live
  | done mem => exact .done mem

/-- What every run keeps: the sends are taken in order, and answered by what the ledger says. -/
structure Served (calls : List Command) (now : Session p) (ledger : Ledger p)
    (seen : List (Output p)) : Prop where
  current : now.phase.Writes ledger.current
  faultless : now.phase.IsLive → ledger.failed = none
  order : ∃ rest, sends calls = ledger.taken ++ rest ∧ (now.phase ≠ .ended → rest = sends now.queue)
  queued : now.queue ⊆ calls
  requested : ∀ caller, now.phase.requester? = some caller →
    ∃ cause, .disconnect caller cause ∈ calls
  replies : ∀ caller result, .reply caller result ∈ seen →
    Tells calls ledger (now.phase = .ended) caller result
  confirmed : ∀ sending ∈ ledger.written, .reply sending.caller (.ok ()) ∈ seen

theorem Served.current_of_not_writing (h : Served calls now ledger seen)
    (phase : ∀ caller, now.phase ≠ .writing caller) : ledger.current = none := by
  have hcurrent := h.current
  cases hphase : now.phase with
  | writing caller => exact absurd hphase (phase caller)
  | _ => rwa [hphase] at hcurrent

private theorem Served.order_of_not_ended (h : Served calls now ledger seen)
    (phase : now.phase ≠ .ended) : sends calls = ledger.taken ++ sends now.queue := by
  obtain ⟨rest, horder, hrest⟩ := h.order
  rw [horder, hrest phase]

private theorem Served.exists_writing (h : Served calls now ledger seen)
    (phase : now.phase = .writing caller) : ∃ bytes, ledger.current = some ⟨caller, bytes⟩ := by
  have hcurrent := h.current
  rwa [phase] at hcurrent

private theorem Served.requested_append (h : Served calls now ledger seen) (more : List Command)
    (hcaller : now.phase.requester? = some caller) :
    ∃ cause, .disconnect caller cause ∈ calls ++ more := by
  obtain ⟨cause, hcause⟩ := h.requested caller hcaller
  exact ⟨cause, List.mem_append_left _ hcause⟩

private theorem Served.move {ledger' : Ledger p} (h : Served calls now ledger seen)
    (started : now.phase ≠ .ended) (written : ledger.written ⊆ ledger'.written)
    (failed : ledger.failed.isSome → ledger'.failed = ledger.failed)
    (hcurrent : next.phase.Writes ledger'.current)
    (faultless : next.phase.IsLive → ledger'.failed = none)
    (order : ∃ rest, sends calls = ledger'.taken ++ rest ∧
      (next.phase ≠ .ended → rest = sends next.queue))
    (queued : next.queue ⊆ now.queue)
    (requested : ∀ caller, next.phase.requester? = some caller →
      ∃ cause, .disconnect caller cause ∈ calls)
    (tells : ∀ caller result, .reply caller result ∈ outputs →
      Tells calls ledger' (next.phase = .ended) caller result)
    (confirmed : ∀ sending ∈ ledger'.written, sending ∈ ledger.written ∨
      .reply sending.caller (.ok ()) ∈ outputs) :
    Served calls next ledger' (seen ++ outputs) where
  current := hcurrent
  faultless := faultless
  order := order
  queued := List.Subset.trans queued h.queued
  requested := requested
  replies caller result mem := by
    rcases List.mem_append.mp mem with mem | mem
    · exact (h.replies caller result mem).advance started written failed
    · exact tells caller result mem
  confirmed sending mem := by
    rcases confirmed sending mem with mem | mem
    · exact List.mem_append_left _ (h.confirmed sending mem)
    · exact List.mem_append_right _ mem

private theorem Served.quiet (h : Served calls now ledger seen) (started : now.phase ≠ .ended)
    (hcurrent : next.phase.Writes ledger.current) (hlive : next.phase.IsLive → now.phase.IsLive)
    (hqueue : sends next.queue = sends now.queue) (hsub : next.queue ⊆ now.queue)
    (hrequested : ∀ caller, next.phase.requester? = some caller →
      ∃ cause, .disconnect caller cause ∈ calls)
    (silent : ∀ caller result, .reply caller result ∉ outputs) :
    Served calls next ledger (seen ++ outputs) :=
  h.move started (List.Subset.refl _) (fun _ => rfl) hcurrent
    (fun live => h.faultless (hlive live))
    ⟨sends now.queue, h.order_of_not_ended started, fun _ => hqueue.symm⟩ hsub hrequested
    (fun caller result mem => absurd mem (silent caller result)) (fun _ mem => .inl mem)

private theorem silent_starting (ops : List p.Op) (caller : Caller)
    (result : Except LinkError Unit) : .reply caller result ∉ Session.starting ops := by
  cases ops <;> simp [Session.starting]

private theorem tells_turnAway {command : Command} {rest : List Sending} (hshut : shut)
    (order : sends calls = ledger.taken ++ rest) (mem : command ∈ calls)
    (left : ∀ sending, command = .send sending.caller sending.bytes → sending ∈ rest)
    (reply : .reply caller result = Session.turnAway p command) :
    Tells calls ledger shut caller result := by
  injection reply with hcaller hresult
  subst hcaller hresult
  cases command with
  | send caller bytes => exact .turnedAway hshut order (left ⟨caller, bytes⟩ rfl)
  | disconnect caller cause => exact .done mem

private theorem Served.queue (h : Served calls now ledger seen) (command : Command)
    (started : now.phase ≠ .ended) :
    Served (calls ++ [command]) { now with queue := now.queue ++ [command] } ledger seen where
  current := h.current
  faultless := h.faultless
  order := by
    refine ⟨sends (now.queue ++ [command]), ?_, fun _ => rfl⟩
    rw [sends_append, sends_append, h.order_of_not_ended started, List.append_assoc]
  queued := List.append_subset.mpr
    ⟨List.subset_append_of_subset_left _ h.queued, List.subset_append_right _ _⟩
  requested _ hcaller := h.requested_append [command] hcaller
  replies caller result mem := (h.replies caller result mem).extend [command]
  confirmed := h.confirmed

private theorem Served.turnAway (h : Served calls now ledger seen) (command : Command)
    (phase : now.phase = .ended) :
    Served (calls ++ [command]) now ledger (seen ++ [Session.turnAway p command]) := by
  obtain ⟨rest, horder, -⟩ := h.order
  have horder' : sends (calls ++ [command]) = ledger.taken ++ (rest ++ sends [command]) := by
    rw [sends_append, horder, List.append_assoc]
  refine ⟨h.current, h.faultless, ⟨_, horder', fun live => absurd phase live⟩,
    List.subset_append_of_subset_left _ h.queued, fun _ => h.requested_append [command], ?_,
    fun sending mem => List.mem_append_left _ (h.confirmed sending mem)⟩
  intro caller result mem
  rcases List.mem_append.mp mem with mem | mem
  · exact (h.replies caller result mem).extend [command]
  · refine tells_turnAway phase horder' (List.mem_append_right _ (List.mem_singleton_self _)) ?_
      (List.mem_singleton.mp mem)
    intro sending hsend
    exact List.mem_append_right _ (mem_sends.mpr (by simp [hsend]))

private theorem Served.write {bytes : Bytes} {queue : List Command} {op : p.Op}
    (h : Served calls now ledger seen) (phase : now.phase = .waiting)
    (oldest : now.queue = .send caller bytes :: queue) :
    Served calls { now with phase := .writing caller, queue := queue }
      (ledger.begin ⟨caller, bytes⟩) (seen ++ [.run op]) := by
  have hnone := h.current_of_not_writing (by simp [phase])
  have hfaultless := h.faultless (phase ▸ trivial)
  have horder : sends calls = (ledger.begin ⟨caller, bytes⟩).taken ++ sends queue := by
    rw [h.order_of_not_ended (by simp [phase]), oldest, Ledger.taken_begin hfaultless hnone,
      List.append_assoc]
    rfl
  exact h.move (by simp [phase]) (List.Subset.refl _) (fun _ => rfl) ⟨bytes, rfl⟩
    (fun _ => hfaultless) ⟨sends queue, horder, fun _ => rfl⟩ (oldest ▸ List.subset_cons_self _ _)
    (by rintro _ ⟨⟩) (by simp) (fun _ mem => .inl mem)

private theorem Served.order_finish (h : Served calls now ledger seen) (answer : p.Answer)
    (phase : now.phase = .writing caller) :
    sends calls = (ledger.finish answer).taken ++ sends now.queue := by
  rw [Ledger.taken_finish (h.faultless (phase ▸ trivial))]
  exact h.order_of_not_ended (by simp [phase])

private theorem Served.wrote {answer : p.Answer} (h : Served calls now ledger seen)
    (phase : now.phase = .writing caller) (well : p.failure? answer = none) :
    Served calls (now.enter .waiting) (ledger.finish answer)
      (seen ++ [.reply caller (.ok ())]) := by
  obtain ⟨bytes, hbytes⟩ := h.exists_writing phase
  have hfaultless := h.faultless (phase ▸ trivial)
  have horder := h.order_finish answer phase
  have hfinish := Ledger.finish_well hbytes well
  have hmem : ⟨caller, bytes⟩ ∈ (ledger.finish answer).written := by simp [hfinish]
  refine h.move (by simp [phase]) (by simp [hfinish]) (by simp [hfaultless]) (by rw [hfinish]; rfl)
    (fun _ => by rw [hfinish]; exact hfaultless) ⟨_, horder, fun _ => rfl⟩ (List.Subset.refl _)
    (by rintro _ ⟨⟩) ?_ ?_
  · intro other result mem
    obtain ⟨rfl, rfl⟩ : other = caller ∧ result = .ok () := by simpa using mem
    exact .written hmem
  · intro sending mem
    rw [hfinish] at mem
    rcases List.mem_append.mp mem with mem | mem
    · exact .inl mem
    · exact .inr (by simp [List.mem_singleton.mp mem])

private theorem Served.failed {answer : p.Answer} {error : LinkError} {cause : Cause}
    {ops : List p.Op} (h : Served calls now ledger seen) (phase : now.phase = .writing caller)
    (failure : p.failure? answer = some (error, cause)) :
    Served calls (now.enter (Session.releasing ⟨cause, none⟩ ops)) (ledger.finish answer)
      (seen ++ .reply caller (.error error) :: Session.starting ops) := by
  obtain ⟨bytes, hbytes⟩ := h.exists_writing phase
  have hfaultless := h.faultless (phase ▸ trivial)
  have horder := h.order_finish answer phase
  have hfinish := Ledger.finish_badly hbytes failure
  have hfailed : (ledger.finish answer).failed = some (⟨caller, bytes⟩, answer) := by rw [hfinish]
  refine h.move (by simp [phase]) (by simp [hfinish]) (by simp [hfaultless])
    (by simp [Session.enter, hfinish]) (by simp [Session.enter]) ⟨_, horder, fun _ => rfl⟩
    (List.Subset.refl _) (by simp [Session.enter]) ?_ ?_
  · intro other result mem
    rcases List.mem_cons.mp mem with mem | mem
    · obtain ⟨rfl, rfl⟩ : other = caller ∧ result = .error error := by simpa using mem
      exact .failed hfailed failure
    · exact absurd mem (silent_starting _ _ _)
  · intro sending mem
    exact .inl (by simpa only [hfinish] using mem)

private theorem Served.acknowledge {ending : Ending} (h : Served calls now ledger seen)
    (phase : now.phase = .announced ending) :
    Served calls (now.enter .answered) ledger
      (seen ++ ending.requester.toList.map fun caller => .reply caller (.ok ())) := by
  refine h.move (by simp [phase]) (List.Subset.refl _) (fun _ => rfl)
    (h.current_of_not_writing (by simp [phase])) (by rintro ⟨⟩)
    ⟨_, h.order_of_not_ended (by simp [phase]), fun _ => rfl⟩ (List.Subset.refl _)
    (by rintro _ ⟨⟩) ?_ (fun _ mem => .inl mem)
  intro caller result mem
  obtain ⟨other, hother, hreply⟩ := List.mem_map.mp mem
  injection hreply with hcaller hresult
  subst hcaller hresult
  obtain ⟨cause, hcause⟩ := h.requested other (by simpa [phase, Phase.requester?] using hother)
  exact .done hcause

private theorem Served.close (h : Served calls now ledger seen) (phase : now.phase = .answered) :
    Served calls { now with phase := .ended, queue := [] } ledger
      (seen ++ now.queue.map (Session.turnAway p)) := by
  have horder := h.order_of_not_ended (by simp [phase])
  refine h.move (by simp [phase]) (List.Subset.refl _) (fun _ => rfl)
    (h.current_of_not_writing (by simp [phase])) (by rintro ⟨⟩) ⟨_, horder, by simp⟩ (by simp)
    (by rintro _ ⟨⟩) ?_ (fun _ mem => .inl mem)
  intro caller result mem
  obtain ⟨command, hcommand, hreply⟩ := List.mem_map.mp mem
  refine tells_turnAway rfl horder (h.queued hcommand) ?_ hreply.symm
  intro sending hsend
  exact mem_sends.mpr (hsend ▸ hcommand)

private theorem served_of_moves {action : Action p} {note : Option (Note p)} {notes : List (Note p)}
    (h : Served (handed notes) now ledger seen) (hstep : now.step action = (next, outputs))
    (move : Session.Moves now action note next outputs) :
    Served (handed (notes ++ note.toList)) next (now.keep ledger action) (seen ++ outputs) := by
  cases move with
  | idle => simpa [Session.keep_of_idle ledger hstep] using h
  | abandon | unhear =>
    simpa using ⟨h.current, h.faultless, h.order, h.queued, h.requested, h.replies, h.confirmed⟩
  | queue command live =>
    rw [Option.toList_some, handed_append, List.append_nil]
    exact h.queue command live
  | late command phase =>
    rw [Option.toList_some, handed_append]
    exact h.turnAway command phase
  | write phase oldest =>
    rw [Session.keep_write ledger phase oldest, Option.toList_none, List.append_nil]
    exact h.write phase oldest
  | @obey caller cause queue phase oldest =>
    have hnone := h.current_of_not_writing (by simp [phase])
    have hmem : .disconnect caller cause ∈ handed notes := h.queued (oldest ▸ List.mem_cons_self ..)
    rw [Session.keep_obey ledger oldest]
    simp only [Option.toList_some, handed_append, handed, List.append_nil]
    refine h.quiet (by simp [phase]) (by simpa using hnone) (by simp) (by simp [oldest])
      (oldest ▸ List.subset_cons_self _ _) ?_ (silent_starting _)
    intro other hrequester
    rw [requester?_releasing, Option.some.injEq] at hrequester
    exact ⟨cause, hrequester ▸ hmem⟩
  | abandoned phase | unheard phase | lose phase | stop phase =>
    have hnone := h.current_of_not_writing (by simp [phase])
    simp only [Option.toList_some, handed_append, handed, List.append_nil]
    exact h.quiet (by simp [phase]) (by simpa [Session.enter] using hnone) (by simp [Session.enter])
      rfl (List.Subset.refl _) (by simp [Session.enter]) (silent_starting _)
  | receive signal phase =>
    have hnone := h.current_of_not_writing (by simp [phase])
    rw [Option.toList_some, handed_append, handed, handed, List.append_nil]
    exact h.quiet (by simp [phase]) hnone (fun _ => phase ▸ trivial) rfl (List.Subset.refl _)
      (by rintro _ ⟨⟩) (by simp)
  | resume answer phase =>
    have hnone := h.current_of_not_writing (by simp [phase])
    rw [Session.keep_answer ledger (by rw [phase]; rfl), Ledger.finish_of_none hnone,
      Option.toList_none, List.append_nil]
    exact h.quiet (by simp [phase]) hnone (fun _ => phase ▸ trivial) rfl (List.Subset.refl _)
      (by rintro _ ⟨⟩) (by simp)
  | deliver phase | settle phase | work phase =>
    have hnone := h.current_of_not_writing (by simp [phase])
    rw [Option.toList_none, List.append_nil]
    exact h.quiet (by simp [phase]) hnone (fun _ => phase ▸ trivial) rfl (List.Subset.refl _)
      (by rintro _ ⟨⟩) (by simp)
  | wrote phase well =>
    rw [Session.keep_answer ledger (by rw [phase]; rfl), Option.toList_none, List.append_nil]
    exact h.wrote phase well
  | failed phase failure =>
    rw [Session.keep_answer ledger (by rw [phase]; rfl)]
    simp only [Option.toList_some, handed_append, handed, List.append_nil]
    exact h.failed phase failure
  | @release rest ending answer phase =>
    have hnone := h.current_of_not_writing (by simp [phase])
    rw [Session.keep_answer ledger (by rw [phase]; rfl), Ledger.finish_of_none hnone,
      Option.toList_none, List.append_nil]
    refine h.quiet (by simp [phase]) (by simpa [Session.enter] using hnone)
      (by simp [Session.enter]) rfl (List.Subset.refl _) ?_ (silent_starting _)
    intro caller hrequester
    simp only [Session.enter, requester?_releasing] at hrequester
    exact h.requested caller (phase ▸ hrequester)
  | mark phase =>
    have hnone := h.current_of_not_writing (by simp [phase])
    rw [Option.toList_none, List.append_nil]
    refine h.quiet (by simp [phase]) hnone (by rintro ⟨⟩) rfl (List.Subset.refl _) ?_ (by simp)
    simpa [Session.enter, phase, Phase.requester?] using h.requested
  | announce phase =>
    have hnone := h.current_of_not_writing (by simp [phase])
    rw [Option.toList_none, List.append_nil]
    refine h.quiet (by simp [phase]) hnone (by rintro ⟨⟩) rfl (List.Subset.refl _) ?_ ?_
    · simpa [Session.enter, phase, Phase.requester?] using h.requested
    · intro caller result
      split_ifs <;> simp
  | acknowledge phase =>
    rw [Option.toList_none, List.append_nil]
    exact h.acknowledge phase
  | close phase =>
    rw [Option.toList_none, List.append_nil]
    exact h.close phase

/-- Whatever happens to a session, its ledger accounts for the sends and for their answers. -/
theorem served_run (memory : p.Memory) (actions : List (Action p)) :
    Served (handed ((Session.start p memory).history actions))
      ((Session.start p memory).run actions).1 ((Session.start p memory).ledger .empty actions)
      ((Session.start p memory).run actions).2 := by
  induction actions using List.reverseRecOn with
  | nil =>
    exact ⟨rfl, fun _ => rfl, ⟨[], rfl, fun _ => rfl⟩, List.Subset.refl _, by nofun, by nofun,
      by nofun⟩
  | append_singleton actions action ih =>
    rw [Session.run_snoc, Session.history_snoc, Session.ledger_snoc]
    exact served_of_moves ih rfl (Session.moves_step _ _)

theorem Served.mem_calls_of_taken (h : Served calls now ledger seen) {sending : Sending}
    (mem : sending ∈ ledger.taken) : .send sending.caller sending.bytes ∈ calls := by
  obtain ⟨rest, horder, -⟩ := h.order
  exact mem_sends.mp (horder ▸ List.mem_append_left _ mem)

end RadioLink.Link
