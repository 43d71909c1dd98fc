import RadioLink.Proofs.Link.Media
import RadioLink.Proofs.Link.Opening

/-!
How a link ends, over either medium. The consumer gets one event that ends the link, made of the
first cause that the task met; and who asks for the end is told that all is well, but only once the
connection is marked and the stream has ended.
-/

set_option autoImplicit false
set_option relaxedAutoImplicit false

namespace RadioLink.Link

variable {M : Type} {p : Protocol M}

private theorem not_reply_mem_starting (ops : List p.Op) (caller : Caller)
    (result : Except LinkError Unit) : .reply caller result ∉ Session.starting ops := by
  cases ops <;> simp [Session.starting]

private theorem ok_of_turnAway {calls : List Command} {command : Command} {caller : Caller}
    {result : Except LinkError Unit} (h : .reply caller result = Session.turnAway p command)
    (mem : command ∈ calls) (hsends : ¬ Sends calls caller) : result = .ok () := by
  cases command with
  | disconnect other cause =>
    injection h
  | send other bytes =>
    injection h with hcaller hresult
    exact absurd ⟨bytes, hcaller ▸ mem⟩ hsends

private theorem ok_of_moves {now next : Session p} {action : Action p} {note : Option (Note p)}
    {notes : List (Note p)} {seen outputs : List (Output p)} {caller : Caller}
    {result : Except LinkError Unit} (orderly : Orderly now notes seen)
    (move : Session.Moves now action note next outputs) (mem : .reply caller result ∈ outputs)
    (hsends : ¬ Sends (handed (notes ++ note.toList)) caller) :
    result = .ok () ∧ now.phase.IsAnnounced := by
  have hwriter : now.phase ≠ .writing caller := by
    intro hphase
    have hfits := orderly.fits
    rw [hphase] at hfits
    obtain ⟨bytes, hbytes⟩ := hfits
    rw [handed_append] at hsends
    exact hsends ⟨bytes, List.mem_append_left _ hbytes⟩
  cases move with
  | idle | queue | abandon | unhear | receive | resume | settle => simp at mem
  | write | deliver | work | mark => simp at mem
  | obey | abandoned | unheard | lose | stop | release =>
    exact absurd mem (not_reply_mem_starting _ _ _)
  | announce =>
    split_ifs at mem <;> simp at mem
  | late command phase =>
    have hmem : command ∈ handed (notes ++ [.handed command]) := by simp
    exact ⟨ok_of_turnAway (List.mem_singleton.mp mem) hmem hsends, phase ▸ trivial⟩
  | wrote phase =>
    obtain ⟨rfl, -⟩ : caller = _ ∧ result = _ := by simpa using mem
    exact absurd phase hwriter
  | failed phase =>
    rcases List.mem_cons.mp mem with mem | mem
    · injection mem with hcaller
      exact absurd (hcaller ▸ phase) hwriter
    · exact absurd mem (not_reply_mem_starting _ _ _)
  | acknowledge phase =>
    obtain ⟨other, -, hreply⟩ := List.mem_map.mp mem
    injection hreply with hcaller hresult
    exact ⟨hresult.symm, phase ▸ trivial⟩
  | close phase =>
    obtain ⟨command, hcommand, hreply⟩ := List.mem_map.mp mem
    rw [Option.toList_none, List.append_nil] at hsends
    exact ⟨ok_of_turnAway hreply.symm (orderly.queued hcommand) hsends, phase ▸ trivial⟩

namespace Opening

private theorem orderly {p : Protocol M} (mild : p.Mild) (l : Opening p) :
    Orderly l.session l.history l.seen := by
  rw [seen_eq]
  exact orderly_run mild l.memory l.actions

private theorem heard_session {l : Opening p} (stays : .unhear ∉ l.actions) :
    l.session.heard = true :=
  Session.heard_run rfl stays

/-- A link over either medium ends once. The consumer gets messages and log lines, and then at most
one event that ends the link, made of the first cause that the task met, and it does get one before
the task ends unless it leaves. Who asks for nothing but the end is told that all is well, behind
the mark, the terminal event and the end of the stream; nobody is left without an answer by a task
that has ended, and a task that was asked to end can always get there. -/
theorem one_terminal_event (format : Format M) (medium : Medium)
    (l : Opening (protocolOver format medium)) :
    (∃ body : List (LinkEvent M), (∀ event ∈ body, event.isTerminal = false) ∧
      (delivered l.seen = body ∨
        ∃ cause, (causes l.history).head? = some cause ∧
          delivered l.seen = body ++ [cause.event])) ∧
    (l.session.phase = .ended → .unhear ∉ l.actions →
      ∃ (body : List (LinkEvent M)) (cause : Cause),
        (∀ event ∈ body, event.isTerminal = false) ∧ (causes l.history).head? = some cause ∧
          delivered l.seen = body ++ [cause.event]) ∧
    (∀ action caller result, .reply caller result ∈ (l.session.step action).2 →
      ¬ Sends (handed (l.next action).history) caller →
        result = .ok () ∧ l.state = .disconnected ∧ .endStream ∈ l.seen ∧
          (.unhear ∉ l.actions →
            ∃ cause, (causes l.history).head? = some cause ∧ .deliver cause.event ∈ l.seen)) ∧
    (l.session.phase = .ended → ∀ caller,
      (answered l.seen).count caller = ((handed l.history).map Command.caller).count caller) ∧
    (∀ caller cause, .disconnect caller cause ∈ handed l.history → l.session.CanEnd) ∧
    ∀ (c : Connection (protocolOver format medium)) (caller : Caller) (cause : Cause),
      c.current = none → c.disconnect caller cause = (c, [.reply caller (.ok ())]) := by
  have horderly := l.orderly (mild_protocolOver format medium)
  refine ⟨horderly.staged.stream, ?_, ?_, ?_, ?_, ?_⟩
  · intro hended hstays
    have hstaged := horderly.staged
    rw [heard_session hstays] at hstaged
    obtain ⟨cause, hmet, hdelivered⟩ := hstaged.delivered_of_announced (hended ▸ trivial)
    exact ⟨told l.seen, cause, fun _ => isTerminal_of_mem_told, by rw [hmet]; rfl, hdelivered⟩
  · intro action caller result hreply hsends
    have hhistory : (l.next action).history = l.history ++ (l.session.note? action).toList :=
      Session.history_snoc _ l.actions action
    obtain ⟨hok, hannounced⟩ := ok_of_moves horderly (Session.moves_step l.session action) hreply
      (hhistory ▸ hsends)
    obtain ⟨early, late, cause, told, hseen, hmet, hears, -, -⟩ :=
      horderly.staged.of_announced hannounced
    refine ⟨hok, l.state_of_mem ?_, ?_, ?_⟩
    · simp [hseen, closing]
    · simp [hseen, closing]
    · intro hstays
      exact ⟨cause, by simp [hmet], by simp [hseen, closing, hears (heard_session hstays)]⟩
  · intro hended caller
    rw [seen_eq]
    exact count_answered_of_ended l.memory l.actions caller hended
  · intro caller cause hmem
    exact Session.canEnd_of_handed (restful_protocolOver format medium) l.memory l.actions hmem
  · intro c caller cause hcurrent
    simp only [Connection.disconnect, hcurrent]

def twoDisconnects : Opening (protocolOver Format.raw .tcp) where
  connection := .initial _
  memory := Frame.Decoder.empty
  actions :=
    [.advance, .submit (.disconnect 1 ⟨none, false⟩), .submit (.disconnect 2 ⟨some .timeout, true⟩),
      .take, .answer (Except.ok ()), .advance, .advance, .advance]

/-- The second caller is answered by the last step of the task; by then the consumer has got the
event of the first. -/
theorem one_terminal_event_twoDisconnects :
    ((.ok () : Except LinkError Unit) = .ok () ∧ twoDisconnects.state = .disconnected ∧
      .endStream ∈ twoDisconnects.seen ∧
        ∃ cause, (causes twoDisconnects.history).head? = some cause ∧
          .deliver cause.event ∈ twoDisconnects.seen) ∧
    (∃ (body : List (LinkEvent Bytes)) (cause : Cause),
      (∀ event ∈ body, event.isTerminal = false) ∧
        (causes (twoDisconnects.next .advance).history).head? = some cause ∧
          delivered (twoDisconnects.next .advance).seen = body ++ [cause.event]) ∧
    (answered (twoDisconnects.next .advance).seen).count 2 = 1 ∧
    twoDisconnects.session.CanEnd := by
  have hstays : .unhear ∉ twoDisconnects.actions := by simp [twoDisconnects]
  have hstays' : .unhear ∉ (twoDisconnects.next .advance).actions := by
    simp [next, twoDisconnects]
  have hsends : ¬ Sends (handed (twoDisconnects.next .advance).history) 2 := by
    rintro ⟨bytes, hbytes⟩
    have hhanded : handed (twoDisconnects.next .advance).history =
        [.disconnect 1 ⟨none, false⟩, .disconnect 2 ⟨some .timeout, true⟩] := rfl
    simp [hhanded] at hbytes
  obtain ⟨-, -, hreply, -, hcan, -⟩ := one_terminal_event Format.raw .tcp twoDisconnects
  obtain ⟨-, hends, -, hcount, -⟩ :=
    one_terminal_event Format.raw .tcp (twoDisconnects.next .advance)
  obtain ⟨hok, hstate, hstream, hevent⟩ :=
    hreply .advance 2 (.ok ()) (List.mem_singleton_self _) hsends
  exact ⟨⟨hok, hstate, hstream, hevent hstays⟩, hends rfl hstays', hcount rfl 2,
    hcan 1 ⟨none, false⟩ (List.mem_cons_self ..)⟩

end Opening

end RadioLink.Link
