import RadioLink.Proofs.Link.Calls

/-!
The stages that a session goes through. While it lives, the consumer gets messages and log lines and
only writers are answered; the first cause that the task meets ends the link, and what ends it is
seen in one order: the mark, the terminal event, the end of the stream, the answers.
-/

set_option autoImplicit false
set_option relaxedAutoImplicit false

namespace RadioLink.Link

variable {M : Type} {p : Protocol M}

/-- The task has not met a cause to end the link. -/
def Phase.IsLive {Op : Type} : Phase M Op → Prop
  | .reacting _ | .waiting | .working | .writing _ => True
  | _ => False

def Sends (calls : List Command) (caller : Caller) : Prop := ∃ bytes, .send caller bytes ∈ calls

/-- What the others may see ahead of the end: it ends nothing, and answers only writers. -/
def Early (calls : List Command) : Output p → Prop
  | .deliver event => event.isTerminal = false
  | .run _ => True
  | .reply caller _ => Sends calls caller
  | .endStream | .markDisconnected => False

/-- What the others may see behind the end: answers, to all but writers that all is well. -/
def Late (calls : List Command) : Output p → Prop
  | .reply caller result => Sends calls caller ∨ result = .ok ()
  | _ => False

def closing (p : Protocol M) (cause : Cause) (told : Bool) : List (Output p) :=
  .markDisconnected :: (if told then [.deliver cause.event] else []) ++ [.endStream]

/-- The causes met and the outputs that end the link, by the phase that the session is in. -/
inductive Stage (calls : List Command) (heard : Bool) :
    Phase M p.Op → List Cause → List (Output p) → Prop
  | live {phase : Phase M p.Op} (live : phase.IsLive) : Stage calls heard phase [] []
  | releasing (rest : List p.Op) (ending : Ending) :
      Stage calls heard (.releasing rest ending) [ending.cause] []
  | released (ending : Ending) : Stage calls heard (.released ending) [ending.cause] []
  | marked (ending : Ending) :
      Stage calls heard (.marked ending) [ending.cause] [.markDisconnected]
  | announced (ending : Ending) {told : Bool} (hears : heard = true → told = true) :
      Stage calls heard (.announced ending) [ending.cause] (closing p ending.cause told)
  | answered {cause : Cause} {told : Bool} {late : List (Output p)}
      (hears : heard = true → told = true) (answers : ∀ output ∈ late, Late calls output) :
      Stage calls heard .answered [cause] (closing p cause told ++ late)
  | ended {cause : Cause} {told : Bool} {late : List (Output p)}
      (hears : heard = true → told = true) (answers : ∀ output ∈ late, Late calls output) :
      Stage calls heard .ended [cause] (closing p cause told ++ late)

/-- Early outputs, and then those of the stage that the session is at. -/
def Staged (calls : List Command) (heard : Bool) (phase : Phase M p.Op) (met : List Cause)
    (seen : List (Output p)) : Prop :=
  ∃ early tail, seen = early ++ tail ∧ (∀ output ∈ early, Early calls output) ∧
    Stage calls heard phase met tail

variable {calls : List Command} {heard : Bool} {phase : Phase M p.Op} {met : List Cause}
  {seen outputs : List (Output p)}

theorem Early.mono {calls' : List Command} (h : calls ⊆ calls') {output : Output p}
    (early : Early calls output) : Early calls' output := by
  cases output with
  | reply caller result =>
    obtain ⟨bytes, hbytes⟩ := early
    exact ⟨bytes, h hbytes⟩
  | _ => exact early

theorem Late.mono {calls' : List Command} (h : calls ⊆ calls') {output : Output p}
    (late : Late calls output) : Late calls' output := by
  cases output with
  | reply caller result =>
    rcases late with ⟨bytes, hbytes⟩ | hok
    · exact Or.inl ⟨bytes, h hbytes⟩
    · exact Or.inr hok
  | _ => exact late

private theorem Stage.mono {calls' : List Command} (h : calls ⊆ calls')
    (stage : Stage calls heard phase met seen) : Stage calls' heard phase met seen := by
  cases stage with
  | live live => exact .live live
  | releasing rest ending => exact .releasing rest ending
  | released ending => exact .released ending
  | marked ending => exact .marked ending
  | announced ending hears => exact .announced ending hears
  | answered hears answers => exact .answered hears fun output ho => (answers output ho).mono h
  | ended hears answers => exact .ended hears fun output ho => (answers output ho).mono h

private theorem Stage.unhear (stage : Stage calls heard phase met seen) :
    Stage calls false phase met seen := by
  cases stage with
  | live live => exact .live live
  | releasing rest ending => exact .releasing rest ending
  | released ending => exact .released ending
  | marked ending => exact .marked ending
  | announced ending hears => exact .announced ending (by nofun)
  | answered hears answers => exact .answered (by nofun) answers
  | ended hears answers => exact .ended (by nofun) answers

private theorem Staged.mono {calls' : List Command} (h : calls ⊆ calls')
    (staged : Staged calls heard phase met seen) : Staged calls' heard phase met seen := by
  obtain ⟨early, tail, hseen, hearly, hstage⟩ := staged
  exact ⟨early, tail, hseen, fun output ho => (hearly output ho).mono h, hstage.mono h⟩

private theorem Staged.unhear (staged : Staged calls heard phase met seen) :
    Staged calls false phase met seen := by
  obtain ⟨early, tail, hseen, hearly, hstage⟩ := staged
  exact ⟨early, tail, hseen, hearly, hstage.unhear⟩

private theorem stage_releasing (ending : Ending) (ops : List p.Op) :
    Stage calls heard (Session.releasing ending ops) [ending.cause] [] := by
  cases ops with
  | nil => exact .released ending
  | cons op rest => exact .releasing rest ending

private theorem Stage.mark {ending : Ending}
    (stage : Stage calls heard (.released ending) met seen) :
    Stage calls heard (.marked ending) met (seen ++ [.markDisconnected]) := by
  cases stage with
  | live live => exact live.elim
  | released => exact .marked ending

private theorem Stage.announce {ending : Ending}
    (stage : Stage calls heard (.marked ending) met seen) :
    Stage calls heard (.announced ending) met
      (seen ++ ((if heard then [.deliver ending.cause.event] else []) ++ [.endStream])) := by
  cases stage with
  | live live => exact live.elim
  | marked =>
    have hears : heard = true → heard = true := id
    exact .announced ending hears

private theorem Stage.acknowledge {ending : Ending}
    (stage : Stage calls heard (.announced ending) met seen) :
    Stage calls heard .answered met
      (seen ++ ending.requester.toList.map fun caller => .reply caller (.ok ())) := by
  cases stage with
  | live live => exact live.elim
  | announced _ hears =>
    refine .answered hears fun output ho => ?_
    obtain ⟨caller, -, rfl⟩ := List.mem_map.mp ho
    exact Or.inr rfl

private theorem Stage.close (stage : Stage calls heard .answered met seen)
    (late : ∀ output ∈ outputs, Late calls output) :
    Stage calls heard .ended met (seen ++ outputs) := by
  cases stage with
  | live live => exact live.elim
  | answered hears answers =>
    rw [List.append_assoc]
    exact .ended hears (List.forall_mem_append.mpr ⟨answers, late⟩)

private theorem Stage.turnAway (stage : Stage calls heard .ended met seen)
    (late : ∀ output ∈ outputs, Late calls output) :
    Stage calls heard .ended met (seen ++ outputs) := by
  cases stage with
  | live live => exact live.elim
  | ended hears answers =>
    rw [List.append_assoc]
    exact .ended hears (List.forall_mem_append.mpr ⟨answers, late⟩)

private theorem Staged.advance {phase' : Phase M p.Op} (staged : Staged calls heard phase met seen)
    (stage : ∀ tail, Stage calls heard phase met tail →
      Stage calls heard phase' met (tail ++ outputs)) :
    Staged calls heard phase' met (seen ++ outputs) := by
  obtain ⟨early, tail, rfl, hearly, hstage⟩ := staged
  exact ⟨early, tail ++ outputs, List.append_assoc .., hearly, stage tail hstage⟩

theorem late_turnAway {command : Command} (h : command ∈ calls) :
    Late calls (Session.turnAway p command) := by
  cases command with
  | send caller bytes => exact Or.inl ⟨bytes, h⟩
  | disconnect caller cause => exact Or.inr rfl

private theorem early_starting (ops : List p.Op) :
    ∀ output ∈ Session.starting ops, Early calls output := by
  cases ops with
  | nil => simp [Session.starting]
  | cons op rest => simp [Session.starting, Early]

theorem Stage.of_live (stage : Stage calls heard phase met seen) (live : phase.IsLive) :
    met = [] ∧ seen = [] := by
  cases stage with
  | live => exact ⟨rfl, rfl⟩
  | _ => exact live.elim

private theorem Stage.of_releasing {rest : List p.Op} {ending : Ending}
    (stage : Stage calls heard (.releasing rest ending) met seen) :
    met = [ending.cause] ∧ seen = [] := by
  cases stage with
  | live live => exact live.elim
  | releasing => exact ⟨rfl, rfl⟩

private theorem Staged.extend {phase' : Phase M p.Op} {met' : List Cause}
    (staged : Staged calls heard phase met seen)
    (bare : ∀ tail, Stage calls heard phase met tail → tail = [])
    (early : ∀ output ∈ outputs, Early calls output)
    (stage : Stage calls heard phase' met' []) :
    Staged calls heard phase' met' (seen ++ outputs) := by
  obtain ⟨front, tail, rfl, hfront, hstage⟩ := staged
  have hearly := List.forall_mem_append.mpr ⟨hfront, early⟩
  exact ⟨front ++ outputs, [], by simp [bare tail hstage], hearly, stage⟩

private theorem Staged.met_of_releasing {rest : List p.Op} {ending : Ending}
    (staged : Staged calls heard (.releasing rest ending) met seen) : met = [ending.cause] := by
  obtain ⟨-, tail, -, -, hstage⟩ := staged
  exact hstage.of_releasing.1

theorem Staged.exists_met (staged : Staged calls heard phase met seen) (ending : ¬ phase.IsLive) :
    ∃ cause, met = [cause] := by
  obtain ⟨-, tail, -, -, hstage⟩ := staged
  cases hstage with
  | live live => exact absurd live ending
  | _ => exact ⟨_, rfl⟩

theorem Staged.met_of_live (staged : Staged calls heard phase met seen) (live : phase.IsLive) :
    met = [] := by
  obtain ⟨-, tail, -, -, hstage⟩ := staged
  exact (hstage.of_live live).1

private theorem isTerminal_of_mem_delivered_early (early : ∀ output ∈ outputs, Early calls output) :
    ∀ event ∈ delivered outputs, event.isTerminal = false := by
  induction outputs with
  | nil => simp
  | cons output outputs ih =>
    obtain ⟨hfirst, hrest⟩ := List.forall_mem_cons.mp early
    cases output with
    | deliver event => exact List.forall_mem_cons.mpr ⟨hfirst, ih hrest⟩
    | _ => exact ih hrest

private theorem delivered_late (late : ∀ output ∈ outputs, Late calls output) :
    delivered outputs = [] := by
  induction outputs with
  | nil => rfl
  | cons output outputs ih =>
    obtain ⟨hfirst, hrest⟩ := List.forall_mem_cons.mp late
    cases output with
    | reply caller result => exact ih hrest
    | _ => exact hfirst.elim

private theorem delivered_closing (cause : Cause) (told : Bool) :
    delivered (closing p cause told) = if told then [cause.event] else [] := by
  cases told <;> rfl

def Phase.IsAnnounced {Op : Type} : Phase M Op → Prop
  | .announced _ | .answered | .ended => True
  | _ => False

theorem Staged.of_announced (staged : Staged calls heard phase met seen)
    (announced : phase.IsAnnounced) :
    ∃ (early late : List (Output p)) (cause : Cause) (told : Bool),
      seen = early ++ (closing p cause told ++ late) ∧ met = [cause] ∧
        (heard = true → told = true) ∧ (∀ output ∈ early, Early calls output) ∧
        ∀ output ∈ late, Late calls output := by
  obtain ⟨early, tail, hseen, hearly, hstage⟩ := staged
  cases hstage with
  | live live =>
    cases phase with
    | announced | answered | ended => exact live.elim
    | _ => exact announced.elim
  | releasing | released | marked => exact announced.elim
  | announced ending hears =>
    exact ⟨early, [], ending.cause, _, by simpa using hseen, rfl, hears, hearly, by simp⟩
  | answered hears answers | ended hears answers =>
    exact ⟨early, _, _, _, hseen, rfl, hears, hearly, answers⟩

theorem isTerminal_of_mem_told {event : LinkEvent M} (mem : event ∈ told seen) :
    event.isTerminal = false := by
  simpa using (List.mem_filter.mp mem).2

private theorem told_early (early : ∀ output ∈ outputs, Early calls output) :
    told outputs = delivered outputs := by
  refine List.filter_eq_self.mpr fun event hmem => ?_
  simp [isTerminal_of_mem_delivered_early early event hmem]

theorem Staged.delivered_of_announced (staged : Staged calls true phase met seen)
    (announced : phase.IsAnnounced) :
    ∃ cause, met = [cause] ∧ delivered seen = told seen ++ [cause.event] := by
  obtain ⟨early, late, cause, told', hseen, hmet, hears, hearly, hlate⟩ :=
    staged.of_announced announced
  have hclosing : told (closing p cause told' ++ late) = [] := by
    simp [told, delivered_closing, delivered_late hlate, hears rfl, Cause.event]
  refine ⟨cause, hmet, ?_⟩
  rw [hseen, told_append, hclosing, List.append_nil, told_early hearly, delivered_append,
    delivered_append, delivered_closing, delivered_late hlate, hears rfl]
  rfl

theorem Staged.stream (staged : Staged calls heard phase met seen) :
    ∃ body : List (LinkEvent M), (∀ event ∈ body, event.isTerminal = false) ∧
      (delivered seen = body ∨
        ∃ cause, met.head? = some cause ∧ delivered seen = body ++ [cause.event]) := by
  by_cases announced : phase.IsAnnounced
  · obtain ⟨early, late, cause, told, rfl, rfl, -, hearly, hlate⟩ := staged.of_announced announced
    refine ⟨delivered early, isTerminal_of_mem_delivered_early hearly, ?_⟩
    rw [delivered_append, delivered_append, delivered_closing, delivered_late hlate]
    cases told with
    | false => exact Or.inl (by simp)
    | true => exact Or.inr ⟨cause, rfl, by simp⟩
  · obtain ⟨early, tail, rfl, hearly, hstage⟩ := staged
    have hbody : delivered (early ++ tail) = delivered early := by
      cases hstage with
      | live | releasing | released | marked => simp
      | _ => exact absurd trivial announced
    exact ⟨delivered early, isTerminal_of_mem_delivered_early hearly, Or.inl hbody⟩

def Protocol.Mild (p : Protocol M) : Prop :=
  (∀ memory signal, ∀ event ∈ (p.receive memory signal).1.events, event.isTerminal = false) ∧
    ∀ memory answer, ∀ event ∈ (p.resume memory answer).1.events, event.isTerminal = false

def Phase.Fits {Op : Type} (calls : List Command) : Phase M Op → Prop
  | .reacting reaction => ∀ event ∈ reaction.events, event.isTerminal = false
  | .writing caller => Sends calls caller
  | _ => True

structure Orderly (now : Session p) (notes : List (Note p)) (seen : List (Output p)) : Prop where
  fits : now.phase.Fits (handed notes)
  queued : now.queue ⊆ handed notes
  staged : Staged (handed notes) now.heard now.phase (causes notes) seen

private theorem Phase.Fits.mono {Op : Type} {calls calls' : List Command} {phase : Phase M Op}
    (h : calls ⊆ calls') (fits : phase.Fits calls) : phase.Fits calls' := by
  cases phase with
  | writing caller =>
    obtain ⟨bytes, hbytes⟩ := fits
    exact ⟨bytes, h hbytes⟩
  | _ => exact fits

private theorem fits_releasing (ending : Ending) (ops : List p.Op) :
    (Session.releasing ending ops).Fits calls := by
  cases ops <;> trivial

private theorem Orderly.live {now next : Session p} {notes : List (Note p)} {note : Option (Note p)}
    (h : Orderly now notes seen) (live : now.phase.IsLive) (live' : next.phase.IsLive)
    (hhanded : handed (notes ++ note.toList) = handed notes)
    (hcauses : causes (notes ++ note.toList) = causes notes) (hheard : next.heard = now.heard)
    (hqueue : next.queue ⊆ now.queue) (fits : next.phase.Fits (handed notes))
    (early : ∀ output ∈ outputs, Early (handed notes) output) :
    Orderly next (notes ++ note.toList) (seen ++ outputs) := by
  have hmet := h.staged.met_of_live live
  have hstaged := h.staged.extend (fun _ stage => (stage.of_live live).2) early
    (hmet ▸ Stage.live live')
  refine ⟨by rwa [hhanded], ?_, ?_⟩
  · rw [hhanded]
    exact fun command hc => h.queued (hqueue hc)
  · rw [hhanded, hcauses, hheard]
    exact hstaged

private theorem Orderly.stopped {now next : Session p} {notes : List (Note p)} {cause : Cause}
    {requester : Option Caller} (h : Orderly now notes seen) (live : now.phase.IsLive)
    (hphase : next.phase = Session.releasing ⟨cause, requester⟩ (p.release now.memory))
    (hheard : next.heard = now.heard) (hqueue : next.queue ⊆ now.queue)
    (early : ∀ output ∈ outputs, Early (handed notes) output) :
    Orderly next (notes ++ [.met cause]) (seen ++ outputs) := by
  have hmet := h.staged.met_of_live live
  have hstaged := h.staged.extend (fun _ stage => (stage.of_live live).2) early
    (stage_releasing ⟨cause, requester⟩ (p.release now.memory))
  refine ⟨?_, ?_, ?_⟩
  · rw [hphase]
    exact fits_releasing _ _
  · rw [handed_append, handed, handed, List.append_nil]
    exact fun command hc => h.queued (hqueue hc)
  · rw [hphase, hheard]
    simpa [hmet] using hstaged

private theorem Orderly.ending {now next : Session p} {notes : List (Note p)}
    {was : Phase M p.Op} (h : Orderly now notes seen) (phase : now.phase = was)
    (fits : next.phase.Fits (handed notes)) (hheard : next.heard = now.heard)
    (hqueue : next.queue ⊆ now.queue)
    (stage : ∀ tail, Stage (handed notes) now.heard was (causes notes) tail →
      Stage (handed notes) now.heard next.phase (causes notes) (tail ++ outputs)) :
    Orderly next (notes ++ (none : Option (Note p)).toList) (seen ++ outputs) := by
  rw [Option.toList_none, List.append_nil]
  refine ⟨fits, List.Subset.trans hqueue h.queued, ?_⟩
  rw [hheard]
  exact h.staged.advance fun tail staged => stage tail (phase ▸ staged)

private theorem orderly_of_moves (mild : p.Mild) {now next : Session p} {action : Action p}
    {note : Option (Note p)} {notes : List (Note p)} (h : Orderly now notes seen)
    (move : Session.Moves now action note next outputs) :
    Orderly next (notes ++ note.toList) (seen ++ outputs) := by
  have hlive {phase : Phase M p.Op} (hphase : now.phase = phase) (live : phase.IsLive) :
      now.phase.IsLive := hphase ▸ live
  cases move with
  | idle => simpa using h
  | abandon => exact ⟨by simpa using h.fits, by simpa using h.queued, by simpa using h.staged⟩
  | unhear => exact ⟨by simpa using h.fits, by simpa using h.queued, by simpa using h.staged.unhear⟩
  | queue command live =>
    have hsub : handed notes ⊆ handed notes ++ [command] := List.subset_append_left _ _
    refine ⟨?_, ?_, ?_⟩
    · simpa using h.fits.mono hsub
    · simpa using List.Subset.trans h.queued hsub
    · simpa using h.staged.mono hsub
  | late command phase =>
    have hsub : handed notes ⊆ handed notes ++ [command] := List.subset_append_left _ _
    refine ⟨?_, ?_, ?_⟩
    · simpa using h.fits.mono hsub
    · simpa using List.Subset.trans h.queued hsub
    · have hstaged := h.staged.mono hsub
      rw [phase] at hstaged
      have hlate : ∀ output ∈ [Session.turnAway p command],
          Late (handed notes ++ [command]) output :=
        List.forall_mem_singleton.mpr (late_turnAway (List.mem_append_right _ (by simp)))
      simpa [phase] using hstaged.advance fun _ stage => stage.turnAway hlate
  | write phase oldest =>
    have hmem : _ ∈ now.queue := oldest ▸ List.mem_cons_self ..
    exact h.live (hlive phase trivial) trivial (by simp) (by simp) rfl
      (oldest ▸ List.subset_cons_self _ _) ⟨_, h.queued hmem⟩ (by simp [Early])
  | obey phase oldest =>
    exact h.stopped (hlive phase trivial) rfl rfl (oldest ▸ List.subset_cons_self _ _)
      (early_starting _)
  | abandoned phase | unheard phase | lose phase | stop phase =>
    exact h.stopped (hlive phase trivial) rfl rfl (List.Subset.refl _) (early_starting _)
  | receive signal phase =>
    exact h.live (hlive phase trivial) trivial (by simp) (by simp) rfl (List.Subset.refl _)
      (mild.1 _ _) (by simp)
  | resume answer phase =>
    exact h.live (hlive phase trivial) trivial (by simp) (by simp) rfl (List.Subset.refl _)
      (mild.2 _ _) (by simp)
  | settle phase | work phase =>
    exact h.live (hlive phase trivial) trivial (by simp) (by simp) rfl (List.Subset.refl _)
      trivial (by simp [Early])
  | deliver phase =>
    have hfits := h.fits
    rw [phase] at hfits
    exact h.live (hlive phase trivial) trivial (by simp) (by simp) rfl (List.Subset.refl _)
      (fun event he => hfits event (List.mem_cons_of_mem _ he))
      (by simpa [Early] using hfits _ (List.mem_cons_self ..))
  | wrote phase well =>
    have hfits := h.fits
    rw [phase] at hfits
    exact h.live (hlive phase trivial) trivial (by simp) (by simp) rfl (List.Subset.refl _)
      trivial (List.forall_mem_singleton.mpr hfits)
  | failed phase failure =>
    have hfits := h.fits
    rw [phase] at hfits
    exact h.stopped (hlive phase trivial) rfl rfl (List.Subset.refl _)
      (List.forall_mem_cons.mpr ⟨hfits, early_starting _⟩)
  | @release rest ending answer phase =>
    have hstaged := h.staged
    rw [phase] at hstaged
    have hmet := hstaged.met_of_releasing
    have hnext := hstaged.extend (fun _ stage => stage.of_releasing.2) (early_starting rest)
      (hmet ▸ stage_releasing ending rest)
    exact ⟨fits_releasing _ _, by simpa [Session.enter] using h.queued,
      by simpa [Session.enter] using hnext⟩
  | mark phase =>
    exact h.ending phase trivial rfl (List.Subset.refl _) fun _ => Stage.mark
  | announce phase =>
    exact h.ending phase trivial rfl (List.Subset.refl _) fun _ => Stage.announce
  | acknowledge phase =>
    exact h.ending phase trivial rfl (List.Subset.refl _) fun _ => Stage.acknowledge
  | close phase =>
    have hlate : ∀ output ∈ now.queue.map (Session.turnAway p), Late (handed notes) output := by
      intro output ho
      obtain ⟨command, hc, rfl⟩ := List.mem_map.mp ho
      exact late_turnAway (h.queued hc)
    exact h.ending phase trivial rfl (List.nil_subset _) fun _ stage => stage.close hlate

private theorem orderly_start (memory : p.Memory) : Orderly (Session.start p memory) [] [] :=
  ⟨by simp [Session.start, Phase.Fits], by simp [Session.start],
    [], [], rfl, by simp, .live trivial⟩

/-- Every run of a session whose reactions are mild is orderly. -/
theorem orderly_run (mild : p.Mild) (memory : p.Memory) (actions : List (Action p)) :
    Orderly ((Session.start p memory).run actions).1 ((Session.start p memory).history actions)
      ((Session.start p memory).run actions).2 := by
  refine Session.run_induction (motive := fun _ now notes seen => Orderly now notes seen)
    (orderly_start memory) ?_ actions
  intro _ now next action note notes seen outputs horderly hmove
  exact orderly_of_moves mild horderly hmove

end RadioLink.Link
