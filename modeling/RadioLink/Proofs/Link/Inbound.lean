import RadioLink.Proofs.Frame.Cuts
import RadioLink.Proofs.Link.Media

/-!
What comes in over TCP. The consumer gets the messages of the leftmost parse of all octets that were
read, up to the first payload that is no message, however the octets came; a payload that is no
message ends the link, and so does the end of the peer's octets.
-/

set_option autoImplicit false
set_option relaxedAutoImplicit false

namespace RadioLink.Link

variable {M : Type} {format : Format M}

/-- The messages that payloads hold up to the first that holds none, and why it holds none. -/
inductive Decodes (format : Format M) : List Bytes → List M → Option LinkError → Prop
  | nil : Decodes format [] [] none
  | message {payload : Bytes} {payloads : List Bytes} {m : M} {ms : List M}
      {fault : Option LinkError} (decoded : format.decode payload = .ok m)
      (rest : Decodes format payloads ms fault) :
      Decodes format (payload :: payloads) (m :: ms) fault
  | fault {payload : Bytes} {payloads : List Bytes} {error : LinkError}
      (refused : format.decode payload = .error error) :
      Decodes format (payload :: payloads) [] (some error)

private theorem exists_decodes (format : Format M) (payloads : List Bytes) :
    ∃ ms fault, Decodes format payloads ms fault := by
  induction payloads with
  | nil => exact ⟨[], none, .nil⟩
  | cons payload payloads ih =>
    obtain ⟨ms, fault, hrest⟩ := ih
    rcases hdecode : format.decode payload with error | m
    · exact ⟨[], some error, .fault hdecode⟩
    · exact ⟨m :: ms, fault, .message hdecode hrest⟩

private theorem Decodes.messages_eq {payloads : List Bytes} {ms : List M} {fault : Option LinkError}
    (decodes : Decodes format payloads ms fault) :
    Tcp.messages format payloads = (ms.map .message, fault) := by
  induction decodes with
  | nil => rfl
  | message decoded rest ih => simp only [Tcp.messages, decoded, ih, List.map_cons]
  | fault refused => simp only [Tcp.messages, refused, List.map_nil]

private theorem messages_append {before : List Bytes} (h : (Tcp.messages format before).2 = none)
    (behind : List Bytes) :
    Tcp.messages format (before ++ behind) =
      ((Tcp.messages format before).1 ++ (Tcp.messages format behind).1,
        (Tcp.messages format behind).2) := by
  induction before with
  | nil => rfl
  | cons payload before ih =>
    rcases hdecode : format.decode payload with error | m
    · simp [Tcp.messages, hdecode] at h
    · simp only [Tcp.messages, hdecode] at h
      simp only [List.cons_append, Tcp.messages, hdecode, ih h]

/-! ### What is read off a run -/

@[simp] def octetsRead : List (Note (Tcp.protocol format)) → Bytes
  | [] => []
  | .took (.octets data) :: notes => data ++ octetsRead notes
  | .took _ :: notes | .handed _ :: notes | .met _ :: notes => octetsRead notes

@[simp] theorem octetsRead_append (before behind : List (Note (Tcp.protocol format))) :
    octetsRead (before ++ behind) = octetsRead before ++ octetsRead behind := by
  induction before with
  | nil => rfl
  | cons note before ih =>
    cases note with
    | took incoming => cases incoming <;> simp [ih]
    | _ => simp [ih]

/-! ### Reading on -/

/-- The decoder is where a fresh one is that is fed all octets at once. -/
private def Synced (decoder : Frame.Decoder) (read : Bytes) : Prop :=
  decoder = (Frame.Decoder.empty.feed read).drain.2

private theorem synced_empty : Synced Frame.Decoder.empty [] := rfl

private theorem Synced.feed {decoder : Frame.Decoder} {read : Bytes} (synced : Synced decoder read)
    (data : Bytes) : Synced (decoder.feed data).drain.2 (read ++ data) := by
  have hsound := Frame.Decoder.sound_empty.feed read
  rw [Synced, ← Frame.Decoder.feed_feed, Frame.Decoder.drain_feed hsound, synced]

private theorem Synced.parse_append {decoder : Frame.Decoder} {read : Bytes}
    (synced : Synced decoder read) (data : Bytes) :
    Frame.parse (read ++ data) = Frame.parse read ++ (decoder.feed data).drain.1 := by
  have hsound := Frame.Decoder.sound_empty.feed read
  rw [Frame.parse_eq_drain, ← Frame.Decoder.feed_feed, Frame.Decoder.drain_feed hsound,
    Frame.parse_eq_drain, synced]

/-- What the consumer is to get of the octets read, and the fault that they hold, if any. -/
private def expected (format : Format M) (notes : List (Note (Tcp.protocol format))) :
    List (LinkEvent M) × Option LinkError :=
  Tcp.messages format (Frame.parse (octetsRead notes))

/-- The end of the peer's octets ends the link. -/
private def closedByPeer : Cause := ⟨some (.disconnected "connection closed by peer"), true⟩

/-- Nothing that was read ends the link. -/
structure Calm (decoder : Frame.Decoder) (notes : List (Note (Tcp.protocol format))) : Prop where
  synced : Synced decoder (octetsRead notes)
  faultless : (expected format notes).2 = none
  unclosed : .took Tcp.Incoming.ended ∉ notes

/-- What was read tells why the link ends, if it holds a reason. -/
structure Explains (cause : Cause) (notes : List (Note (Tcp.protocol format))) : Prop where
  fault : ∀ error, (expected format notes).2 = some error → cause = ⟨some error, true⟩
  closed : .took Tcp.Incoming.ended ∈ notes →
    (expected format notes).2 = none ∧ cause = closedByPeer

/-- What the phases stand for: nothing that was read ends the link, or the task has found a cause,
or it has met one. -/
private def Standing (decoder : Frame.Decoder) (notes : List (Note (Tcp.protocol format))) :
    Phase M (Tcp.protocol format).Op → Prop
  | .reacting ⟨_, .wait⟩ | .waiting | .working | .writing _ => Calm decoder notes
  | .reacting ⟨_, .run _⟩ => False
  | .reacting ⟨_, .stop cause⟩ => Explains cause notes
  | .releasing .. | .released _ | .marked _ | .announced _ | .answered | .ended =>
    ∀ cause ∈ causes notes, Explains cause notes

/-- What every run keeps while the consumer listens. -/
structure Inbound (now : Session (Tcp.protocol format)) (notes : List (Note (Tcp.protocol format)))
    (seen : List (Output (Tcp.protocol format))) : Prop where
  delivers : told seen ++ now.phase.inHand = (expected format notes).1
  standing : Standing now.memory notes now.phase

variable {decoder : Frame.Decoder} {notes : List (Note (Tcp.protocol format))}

private theorem expected_append {more : List (Note (Tcp.protocol format))}
    (hread : octetsRead more = []) : expected format (notes ++ more) = expected format notes := by
  rw [expected, octetsRead_append, hread, List.append_nil, expected]

private theorem Calm.append {more : List (Note (Tcp.protocol format))} (calm : Calm decoder notes)
    (hread : octetsRead more = []) (hopen : .took Tcp.Incoming.ended ∉ more) :
    Calm decoder (notes ++ more) := by
  refine ⟨?_, ?_, ?_⟩
  · rw [octetsRead_append, hread, List.append_nil]
    exact calm.synced
  · rw [expected_append hread]
    exact calm.faultless
  · intro hmem
    rcases List.mem_append.mp hmem with hmem | hmem
    · exact calm.unclosed hmem
    · exact hopen hmem

private theorem Explains.append {cause : Cause} {more : List (Note (Tcp.protocol format))}
    (explains : Explains cause notes) (hread : octetsRead more = [])
    (hopen : .took Tcp.Incoming.ended ∉ more) : Explains cause (notes ++ more) := by
  have hexpected : expected format (notes ++ more) = expected format notes :=
    expected_append hread
  refine ⟨?_, ?_⟩
  · intro error hfault
    exact explains.fault error (hexpected ▸ hfault)
  · intro hmem
    rcases List.mem_append.mp hmem with hmem | hmem
    · rw [hexpected]
      exact explains.closed hmem
    · exact absurd hmem hopen

private theorem Calm.explains (calm : Calm decoder notes) (cause : Cause) :
    Explains cause notes := by
  constructor
  · intro error hfault
    rw [calm.faultless] at hfault
    cases hfault
  · intro hclosed
    exact absurd hclosed calm.unclosed

private theorem Calm.expected_octets (calm : Calm decoder notes) (data : Bytes) :
    expected format (notes ++ [.took (.octets data)]) =
      ((expected format notes).1 ++ (Tcp.messages format (decoder.feed data).drain.1).1,
        (Tcp.messages format (decoder.feed data).drain.1).2) := by
  have hread : octetsRead (notes ++ [.took (.octets data)]) = octetsRead notes ++ data := by simp
  rw [expected, hread, calm.synced.parse_append, messages_append calm.faultless]
  rfl

private theorem Calm.receive_octets (calm : Calm decoder notes) (data : Bytes)
    {reaction : Reaction M Tcp.Operation} {decoder' : Frame.Decoder}
    (received : Tcp.receive format decoder (.octets data) = (reaction, decoder')) :
    (expected format notes).1 ++ reaction.events =
        (expected format (notes ++ [.took (.octets data)])).1 ∧
      ((reaction.next = .wait ∧ Calm decoder' (notes ++ [.took (.octets data)])) ∨
        ∃ cause, reaction.next = .stop cause ∧
          Explains cause (notes ++ [.took (.octets data)])) := by
  have hexpected := calm.expected_octets data
  have hunclosed : .took Tcp.Incoming.ended ∉ notes ++ [.took (.octets data)] := by
    intro hmem
    rcases List.mem_append.mp hmem with hmem | hmem
    · exact calm.unclosed hmem
    · cases List.mem_singleton.mp hmem
  simp only [Tcp.receive] at received
  rcases hmessages : Tcp.messages format (decoder.feed data).drain.1 with ⟨events, fault⟩
  rw [hmessages] at hexpected received
  cases fault with
  | none =>
    obtain ⟨rfl, rfl⟩ := Prod.mk.inj received
    refine ⟨by rw [hexpected], Or.inl ⟨rfl, ?_, by rw [hexpected], hunclosed⟩⟩
    simpa using calm.synced.feed data
  | some error =>
    obtain ⟨rfl, rfl⟩ := Prod.mk.inj received
    refine ⟨by rw [hexpected], Or.inr ⟨⟨some error, true⟩, rfl, ?_, ?_⟩⟩
    · intro error' hfault
      rw [hexpected] at hfault
      cases hfault
      rfl
    · intro hclosed
      exact absurd hclosed hunclosed

private theorem Calm.receive (calm : Calm decoder notes) (incoming : Tcp.Incoming)
    {reaction : Reaction M Tcp.Operation} {decoder' : Frame.Decoder}
    (received : Tcp.receive format decoder incoming = (reaction, decoder')) :
    (expected format notes).1 ++ reaction.events =
        (expected format (notes ++ [.took incoming])).1 ∧
      ((reaction.next = .wait ∧ Calm decoder' (notes ++ [.took incoming])) ∨
        ∃ cause, reaction.next = .stop cause ∧ Explains cause (notes ++ [.took incoming])) := by
  cases incoming with
  | octets data => exact calm.receive_octets data received
  | ended =>
    have hexpected : expected format (notes ++ [.took .ended]) = expected format notes :=
      expected_append rfl
    obtain ⟨rfl, rfl⟩ := Prod.mk.inj received
    refine ⟨by simp [hexpected], Or.inr ⟨closedByPeer, rfl, ?_, ?_⟩⟩
    · intro error hfault
      rw [hexpected, calm.faultless] at hfault
      cases hfault
    · intro _
      exact ⟨by rw [hexpected, calm.faultless], rfl⟩
  | failed error =>
    have hexpected : expected format (notes ++ [.took (.failed error)]) = expected format notes :=
      expected_append rfl
    have hcalm : Calm decoder (notes ++ [.took (.failed error)]) :=
      calm.append rfl fun hmem => by cases List.mem_singleton.mp hmem
    obtain ⟨rfl, rfl⟩ := Prod.mk.inj received
    exact ⟨by simp [hexpected], Or.inr ⟨⟨some (.system error), true⟩, rfl, hcalm.explains _⟩⟩

private theorem Standing.append {phase : Phase M (Tcp.protocol format).Op}
    {more : List (Note (Tcp.protocol format))}
    (standing : Standing decoder notes phase) (hread : octetsRead more = [])
    (hopen : .took Tcp.Incoming.ended ∉ more) (hcauses : causes more = []) :
    Standing decoder (notes ++ more) phase := by
  cases phase with
  | reacting reaction =>
    obtain ⟨events, next⟩ := reaction
    cases next with
    | wait => exact Calm.append standing hread hopen
    | run op => exact standing
    | stop cause => exact Explains.append standing hread hopen
  | waiting | working | writing => exact Calm.append standing hread hopen
  | _ =>
    intro cause hmem
    rw [causes_append, hcauses, List.append_nil] at hmem
    exact (standing cause hmem).append hread hopen

variable {now next : Session (Tcp.protocol format)}
  {seen outputs : List (Output (Tcp.protocol format))}

private theorem told_starting (ops : List (Tcp.protocol format).Op) :
    told (Session.starting ops) = [] := by
  cases ops <;> rfl

private theorem standing_releasing (ending : Ending) (ops : List (Tcp.protocol format).Op)
    (h : ∀ cause ∈ causes notes, Explains cause notes) :
    Standing decoder notes (Session.releasing ending ops) := by
  cases ops <;> exact h

private theorem Inbound.stay {more : List (Note (Tcp.protocol format))}
    (h : Inbound now notes seen) (hphase : next.phase = now.phase)
    (hmemory : next.memory = now.memory) (hread : octetsRead more = [])
    (hopen : .took Tcp.Incoming.ended ∉ more) (hcauses : causes more = [])
    (htold : told outputs = []) : Inbound next (notes ++ more) (seen ++ outputs) := by
  refine ⟨?_, ?_⟩
  · rw [hphase, told_append, htold, List.append_nil, expected_append hread]
    exact h.delivers
  · rw [hphase, hmemory]
    exact h.standing.append hread hopen hcauses

private theorem Inbound.rest (h : Inbound now notes seen) (hhand : now.phase.inHand = [])
    (hhand' : next.phase.inHand = []) (hstanding : Standing next.memory notes next.phase)
    (htold : told outputs = []) : Inbound next (notes ++ []) (seen ++ outputs) := by
  rw [List.append_nil]
  refine ⟨?_, hstanding⟩
  rw [hhand', told_append, htold, List.append_nil, ← h.delivers, hhand]

private theorem Inbound.stopped {cause : Cause} {requester : Option Caller}
    (h : Inbound now notes seen) (hhand : now.phase.inHand = []) (hmet : causes notes = [])
    (explains : Explains cause notes)
    (hphase : next.phase =
      Session.releasing ⟨cause, requester⟩ ((Tcp.protocol format).release now.memory))
    (htold : told outputs = []) :
    Inbound next (notes ++ [.met cause]) (seen ++ outputs) := by
  have hopen : .took Tcp.Incoming.ended ∉ [(.met cause : Note (Tcp.protocol format))] := by
    intro hmem
    cases List.mem_singleton.mp hmem
  refine ⟨?_, ?_⟩
  · rw [hphase, inHand_releasing, told_append, htold, List.append_nil, List.append_nil,
      expected_append rfl, ← h.delivers, hhand, List.append_nil]
  · rw [hphase]
    refine standing_releasing _ _ ?_
    intro cause' hmem
    rw [causes_append, hmet] at hmem
    obtain rfl : cause' = cause := List.mem_singleton.mp hmem
    exact explains.append rfl hopen

private theorem inbound_of_moves {action : Action (Tcp.protocol format)}
    {note : Option (Note (Tcp.protocol format))} (orderly : Orderly now notes seen)
    (h : Inbound now notes seen) (hears : now.heard = true)
    (move : Session.Moves now action note next outputs) :
    Inbound next (notes ++ note.toList) (seen ++ outputs) := by
  have hstanding := h.standing
  have hmet (live : now.phase.IsLive) : causes notes = [] := orderly.staged.met_of_live live
  cases move with
  | idle | abandon | unhear => exact h.stay rfl rfl rfl (by simp) rfl rfl
  | queue | late =>
    refine h.stay rfl rfl rfl ?_ rfl rfl
    intro hmem
    cases List.mem_singleton.mp hmem
  | write phase | resume answer phase | wrote phase | settle phase =>
    rw [phase] at hstanding
    exact h.rest (by rw [phase]; rfl) rfl hstanding rfl
  | obey phase | abandoned phase | failed phase =>
    rw [phase] at hstanding
    exact h.stopped (by rw [phase]; rfl) (hmet (phase ▸ trivial)) (hstanding.explains _) rfl rfl
  | unheard phase alone | lose phase alone => simp [hears] at alone
  | receive signal phase =>
    rw [phase] at hstanding
    rcases hreceive : Tcp.receive format now.memory signal with ⟨⟨events, following⟩, decoder'⟩
    obtain ⟨hevents, hnext⟩ := Calm.receive hstanding signal hreceive
    have hdelivers : told seen = (expected format notes).1 := by
      simpa [phase, Phase.inHand] using h.delivers
    have hreact : now.react ((Tcp.protocol format).receive now.memory signal) =
        { now with phase := .reacting ⟨events, following⟩, memory := decoder' } := by
      simp only [Session.react, Tcp.protocol, hreceive]
    rw [hreact, List.append_nil]
    refine ⟨by rw [hdelivers]; exact hevents, ?_⟩
    rcases hnext with ⟨rfl, hcalm⟩ | ⟨cause, rfl, hexplains⟩
    · exact hcalm
    · exact hexplains
  | @deliver event events following phase =>
    rw [phase] at hstanding
    have hdelivers : told seen ++ event :: events = (expected format notes).1 := by
      simpa [phase, Phase.inHand] using h.delivers
    have hfits := orderly.fits
    rw [phase] at hfits
    have htold : told [(.deliver event : Output (Tcp.protocol format))] = [event] := by
      simp [told, hfits event (List.mem_cons_self ..)]
    refine ⟨?_, ?_⟩
    · simpa [Session.enter, Phase.inHand, htold] using hdelivers
    · rw [Option.toList_none, List.append_nil]
      cases following with
      | wait => exact hstanding
      | run op => exact hstanding
      | stop cause => exact hstanding
  | work phase =>
    rw [phase] at hstanding
    exact hstanding.elim
  | stop phase =>
    rw [phase] at hstanding
    exact h.stopped (by rw [phase]; rfl) (hmet (phase ▸ trivial)) hstanding rfl rfl
  | release answer phase =>
    rw [phase] at hstanding
    exact h.rest (by rw [phase]; rfl) (inHand_releasing _ _)
      (standing_releasing _ _ hstanding) (told_starting _)
  | mark phase | announce phase | acknowledge phase | close phase =>
    rw [phase] at hstanding
    exact h.rest (by rw [phase]; rfl) rfl hstanding (by simp [told, hears, Cause.event])

private theorem inbound_start :
    Inbound (Session.start (Tcp.protocol format) Frame.Decoder.empty) [] [] := by
  have hexpected : expected format [] = ([], none) := by
    simp [expected, Frame.parse, Frame.parseUpTo, Tcp.messages]
  exact ⟨by rw [hexpected]; rfl, synced_empty, by rw [hexpected], by simp⟩

/-- Every run of a link over TCP keeps to what was read, while the consumer listens. -/
private theorem inbound_run {actions : List (Action (Tcp.protocol format))}
    (stays : .unhear ∉ actions) :
    Inbound ((Session.start (Tcp.protocol format) Frame.Decoder.empty).run actions).1
      ((Session.start (Tcp.protocol format) Frame.Decoder.empty).history actions)
      ((Session.start (Tcp.protocol format) Frame.Decoder.empty).run actions).2 := by
  induction actions using List.reverseRecOn with
  | nil => exact inbound_start
  | append_singleton actions action ih =>
    have hstays : .unhear ∉ actions := fun hmem => stays (List.mem_append_left _ hmem)
    have horderly := orderly_run (mild_tcp format) Frame.Decoder.empty actions
    have hears := Session.heard_run (s := Session.start (Tcp.protocol format) Frame.Decoder.empty)
      rfl hstays
    rw [Session.run_snoc, Session.history_snoc]
    exact inbound_of_moves horderly (ih hstays) hears (Session.moves_step _ _)

/-- The task waits for nothing any more, can get to its end, and by then the consumer has got just
these events. -/
def EndsWith {p : Protocol M} (s : Session p) (seen : List (Output p))
    (events : List (LinkEvent M)) : Prop :=
  s.isWaiting = false ∧ s.CanEnd ∧ (s.phase = .ended → delivered seen = events)

private theorem Standing.stopping_or_not_live {phase : Phase M (Tcp.protocol format).Op}
    (standing : Standing decoder notes phase) (restless : ¬ Calm decoder notes) :
    (∃ events cause, phase = .reacting ⟨events, .stop cause⟩) ∨ ¬ phase.IsLive := by
  cases phase with
  | reacting reaction =>
    obtain ⟨events, next⟩ := reaction
    cases next with
    | wait => exact absurd standing restless
    | run op => exact standing.elim
    | stop cause => exact Or.inl ⟨events, cause, rfl⟩
  | waiting | working | writing => exact absurd standing restless
  | _ => exact Or.inr id

private theorem Standing.explains_of_not_live {phase : Phase M (Tcp.protocol format).Op}
    (standing : Standing decoder notes phase) (ending : ¬ phase.IsLive) {cause : Cause}
    (mem : cause ∈ causes notes) : Explains cause notes := by
  cases phase with
  | reacting | waiting | working | writing => exact absurd trivial ending
  | _ => exact standing cause mem

private theorem Inbound.exists_explains (h : Inbound now notes seen)
    (orderly : Orderly now notes seen)
    (restless : ¬ Calm now.memory notes) : ∃ cause, Explains cause notes := by
  have hstanding := h.standing
  rcases hstanding.stopping_or_not_live restless with ⟨events, cause, hphase⟩ | hlive
  · rw [hphase] at hstanding
    exact ⟨cause, hstanding⟩
  · obtain ⟨cause, hmet⟩ := orderly.staged.exists_met hlive
    exact ⟨cause, hstanding.explains_of_not_live hlive (by simp [hmet])⟩

private theorem Inbound.endsWith (h : Inbound now notes seen) (orderly : Orderly now notes seen)
    (hears : now.heard = true) (restless : ¬ Calm now.memory notes) {cause : Cause}
    (reason : ∀ other, Explains other notes → other = cause) :
    EndsWith now seen ((expected format notes).1 ++ [cause.event]) := by
  have hended : now.phase = .ended →
      delivered seen = (expected format notes).1 ++ [cause.event] := by
    intro hphase
    have hstaged := orderly.staged
    rw [hears] at hstaged
    obtain ⟨met, hmet, hdelivered⟩ := hstaged.delivered_of_announced (hphase ▸ trivial)
    have hexplains : Explains met notes :=
      h.standing.explains_of_not_live (hphase ▸ id) (by simp [hmet])
    rw [hdelivered, ← h.delivers, hphase, reason met hexplains]
    simp [Phase.inHand]
  rcases h.standing.stopping_or_not_live restless with ⟨events, stop, hphase⟩ | hlive
  · exact ⟨by rw [Session.isWaiting, hphase], Session.canEnd_of_stopping (Except.ok ()) hphase,
      hended⟩
  · refine ⟨?_, Session.canEnd_of_not_live (Except.ok ()) hlive, hended⟩
    rw [Session.isWaiting]
    split
    · rename_i hphase
      exact absurd (hphase ▸ trivial) hlive
    · rfl

/-- The octets that a peer sends decide what the consumer gets of them, however they are read. It
gets the messages of the leftmost parse up to the first payload that is no message. Such a payload
ends the link with its error, and so does the end of the peer's octets, behind all of the messages
that came in ahead of it. -/
theorem delivered_of_octetsRead (format : Format M) (read : Bytes) :
    ∃ (payloads : List Bytes) (ms : List M) (fault : Option LinkError),
      Frame.Leftmost read payloads ∧ Decodes format payloads ms fault ∧
        ∀ actions : List (Action (Tcp.protocol format)), .unhear ∉ actions →
          let start := Session.start (Tcp.protocol format) Frame.Decoder.empty
          let now := (start.run actions).1
          let seen := (start.run actions).2
          octetsRead (start.history actions) = read →
            told seen ++ now.phase.inHand = ms.map .message ∧
            (now.run (List.replicate now.phase.inHand.length .advance)).2 =
              now.phase.inHand.map .deliver ∧
            (∀ error, fault = some error →
              EndsWith now seen (ms.map .message ++ [.failed error])) ∧
            (.took Tcp.Incoming.ended ∈ start.history actions →
              fault = none ∧
                EndsWith now seen (ms.map .message ++
                  [.failed (.disconnected "connection closed by peer")])) := by
  obtain ⟨ms, fault, hdecodes⟩ := exists_decodes format (Frame.parse read)
  refine ⟨Frame.parse read, ms, fault, Frame.leftmost_iff.mpr rfl, hdecodes, ?_⟩
  intro actions hstays start now seen hread
  have hinbound : Inbound now (start.history actions) seen := inbound_run hstays
  have horderly : Orderly now (start.history actions) seen :=
    orderly_run (mild_tcp format) Frame.Decoder.empty actions
  have hears : now.heard = true := Session.heard_run rfl hstays
  have hexpected : expected format (start.history actions) = (ms.map .message, fault) := by
    rw [expected, hread, hdecodes.messages_eq]
  refine ⟨?_, Session.run_inHand hears, ?_, ?_⟩
  · rw [hinbound.delivers, hexpected]
  · intro error hfault
    have hfault' : (expected format (start.history actions)).2 = some error := by
      rw [hexpected, hfault]
    have hends := hinbound.endsWith horderly hears
      (fun calm => by simp [calm.faultless] at hfault')
      (fun other explains => explains.fault error hfault')
    rwa [hexpected] at hends
  · intro hclosed
    have hrestless : ¬ Calm now.memory (start.history actions) :=
      fun calm => calm.unclosed hclosed
    obtain ⟨cause, hexplains⟩ := hinbound.exists_explains horderly hrestless
    have hfaultless := (hexplains.closed hclosed).1
    have hends := hinbound.endsWith horderly hears hrestless
      (fun other explains => (explains.closed hclosed).2)
    rw [hexpected] at hfaultless hends
    exact ⟨hfaultless, hends⟩

def reportsAndFault : Bytes :=
  [0x94, 0xC3, 0, 2, 0x08, 0x40, 0x94, 0xC3, 0, 3, 0x08, 0xFF, 0xFF, 0x94, 0xC3, 0, 2, 0x08, 1]

def readInTwo (read : Bytes) : List (Action (Tcp.protocol Telemetry.format)) :=
  [.advance, .signal (Tcp.Incoming.octets (read.take 5)), .advance,
    .signal (Tcp.Incoming.octets (read.drop 5))]

theorem delivered_of_octetsRead_reports :
    let start := Session.start (Tcp.protocol Telemetry.format) Frame.Decoder.empty
    let faulty := readInTwo reportsAndFault
    let closed := readInTwo (reportsAndFault.take 6) ++
      [.advance, .advance, .signal Tcp.Incoming.ended]
    EndsWith (start.run faulty).1 (start.run faulty).2
        [.message ⟨64⟩, .failed (.decode
          "failed to decode Protobuf message: Telemetry.battery: invalid varint")] ∧
      EndsWith (start.run closed).1 (start.run closed).2
        [.message ⟨64⟩, .failed (.disconnected "connection closed by peer")] := by
  intro start faulty closed
  refine ⟨?_, ?_⟩
  · obtain ⟨payloads, ms, fault, hleftmost, hdecodes, h⟩ :=
      delivered_of_octetsRead Telemetry.format reportsAndFault
    have hmessages := hdecodes.messages_eq
    rw [Frame.leftmost_iff.mp hleftmost] at hmessages
    have hvalue : Tcp.messages Telemetry.format (Frame.parse reportsAndFault) =
        ([.message ⟨64⟩], some (.decode
          "failed to decode Protobuf message: Telemetry.battery: invalid varint")) := by
      decide +kernel
    obtain ⟨hms, hfault⟩ := Prod.mk.inj (hmessages.symm.trans hvalue)
    obtain ⟨-, -, hends, -⟩ := h faulty (by simp [faulty, readInTwo]) rfl
    rw [hms] at hends
    exact hends _ hfault
  · obtain ⟨payloads, ms, fault, hleftmost, hdecodes, h⟩ :=
      delivered_of_octetsRead Telemetry.format (reportsAndFault.take 6)
    have hmessages := hdecodes.messages_eq
    rw [Frame.leftmost_iff.mp hleftmost] at hmessages
    have hvalue : Tcp.messages Telemetry.format (Frame.parse (reportsAndFault.take 6)) =
        ([.message ⟨64⟩], none) := by
      decide +kernel
    obtain ⟨hms, -⟩ := Prod.mk.inj (hmessages.symm.trans hvalue)
    obtain ⟨-, -, -, hends⟩ := h closed (by simp [closed, readInTwo]) rfl
    have hhistory : start.history closed =
        [.took (Tcp.Incoming.octets [0x94, 0xC3, 0, 2, 0x08]), .took (Tcp.Incoming.octets [0x40]),
          .took Tcp.Incoming.ended] := rfl
    rw [hms] at hends
    exact (hends (by rw [hhistory]; exact List.mem_of_getLast? rfl)).2

end RadioLink.Link
