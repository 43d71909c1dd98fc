import RadioLink.Proofs.Link.Exchanges
import RadioLink.Proofs.Link.Opening

/-!
How a task lets go of the medium. Whatever ends the link, the task asks for the operations that
release it, one behind the answer to the other, whether these are refused or not, and for nothing
else. Only then does it mark the connection, hand over the terminal event, and answer.
-/

set_option autoImplicit false
set_option relaxedAutoImplicit false

namespace RadioLink.Link

variable {M : Type} {p : Protocol M}

/-! ### What passes between a task and the others -/

/-- An answer that the task takes from the medium, or what the others see of it. -/
inductive Sign (p : Protocol M) where
  | took (answer : p.Answer)
  | showed (output : Output p)

namespace Session

/-- The signs of an action: the answer that is taken comes ahead of what it leads to. -/
def signed (s : Session p) (action : Action p) : List (Sign p) :=
  (s.heeds? action).toList.map .took ++ (s.step action).2.map .showed

def signs (s : Session p) : List (Action p) → List (Sign p)
  | [] => []
  | action :: actions => s.signed action ++ (s.step action).1.signs actions

private theorem signs_snoc (s : Session p) (actions : List (Action p)) (action : Action p) :
    s.signs (actions ++ [action]) = s.signs actions ++ (s.run actions).1.signed action := by
  induction actions generalizing s with
  | nil => simp [signs, run]
  | cons first actions ih => simp only [List.cons_append, signs, run, ih, List.append_assoc]

end Session

def exchanges (done : List (p.Op × p.Answer)) : List (Sign p) :=
  done.flatMap fun exchange => [.showed (.run exchange.1), .took exchange.2]

private theorem exchanges_snoc (done : List (p.Op × p.Answer)) (op : p.Op) (answer : p.Answer) :
    exchanges (done ++ [(op, answer)]) =
      exchanges done ++ [.showed (.run op)] ++ [.took answer] := by
  simp [exchanges]

/-- The operations that a task runs while nothing ends its link, and those that release it: what is
to be released is settled when the link is opened. -/
structure Protocol.Trades (p : Protocol M) (works : p.Op → Prop) : Prop where
  opening : ∀ op, p.opening = .run op → works op
  receive : ∀ memory signal op, (p.receive memory signal).1.next = .run op → works op
  resume : ∀ memory answer op, (p.resume memory answer).1.next = .run op → works op
  write : ∀ bytes, works (p.write bytes)
  received : ∀ memory signal, p.release (p.receive memory signal).2 = p.release memory
  resumed : ∀ memory answer, p.release (p.resume memory answer).2 = p.release memory

/-- Who waits for the end of the link, if anybody does, has asked for it in these words. -/
def Asked (calls : List Command) (ending : Ending) : Prop :=
  ∀ caller ∈ ending.requester, .disconnect caller ending.cause ∈ calls

/-- What passes while nothing ends the link. -/
def Ahead (works : p.Op → Prop) (calls : List Command) : Sign p → Prop
  | .took _ => True
  | .showed output => Early calls output ∧ ∀ op, output = .run op → works op

/-- What passes once something ends the link, by the phase that the session is in. -/
inductive Parting (calls : List Command) (heard : Bool) (ops : List p.Op) :
    Phase M p.Op → List (Sign p) → Prop
  | live {phase : Phase M p.Op} (live : phase.IsLive) : Parting calls heard ops phase []
  | releasing {ending : Ending} (asked : Asked calls ending) {done : List (p.Op × p.Answer)}
      {op : p.Op} {rest : List p.Op} (all : done.map Prod.fst ++ op :: rest = ops) :
      Parting calls heard ops (.releasing rest ending) (exchanges done ++ [.showed (.run op)])
  | released {ending : Ending} (asked : Asked calls ending) {done : List (p.Op × p.Answer)}
      (all : done.map Prod.fst = ops) :
      Parting calls heard ops (.released ending) (exchanges done)
  | marked {ending : Ending} (asked : Asked calls ending) {done : List (p.Op × p.Answer)}
      (all : done.map Prod.fst = ops) :
      Parting calls heard ops (.marked ending) (exchanges done ++ [.showed .markDisconnected])
  | announced {ending : Ending} (asked : Asked calls ending) {done : List (p.Op × p.Answer)}
      (all : done.map Prod.fst = ops) {told : Bool} (hears : heard = true → told = true) :
      Parting calls heard ops (.announced ending)
        (exchanges done ++ (closing p ending.cause told).map .showed)
  | answered {ending : Ending} (asked : Asked calls ending) {done : List (p.Op × p.Answer)}
      (all : done.map Prod.fst = ops) {told : Bool} (hears : heard = true → told = true) :
      Parting calls heard ops .answered
        (exchanges done ++ (closing p ending.cause told).map .showed ++
          ending.requester.toList.map fun caller => .showed (.reply caller (.ok ())))
  | ended {ending : Ending} (asked : Asked calls ending) {done : List (p.Op × p.Answer)}
      (all : done.map Prod.fst = ops) {told : Bool} (hears : heard = true → told = true)
      {late : List (Output p)} (answers : ∀ output ∈ late, Late calls output) :
      Parting calls heard ops .ended
        (exchanges done ++ (closing p ending.cause told).map .showed ++
          (ending.requester.toList.map fun caller => .showed (.reply caller (.ok ()))) ++
            late.map .showed)

variable {calls calls' : List Command} {heard : Bool} {ops : List p.Op} {phase : Phase M p.Op}
  {tail : List (Sign p)} {works : p.Op → Prop}

private theorem Ahead.mono (h : calls ⊆ calls') {sign : Sign p} (ahead : Ahead works calls sign) :
    Ahead works calls' sign := by
  cases sign with
  | took answer => trivial
  | showed output => exact ⟨ahead.1.mono h, ahead.2⟩

private theorem Asked.mono (h : calls ⊆ calls') {ending : Ending} (asked : Asked calls ending) :
    Asked calls' ending :=
  fun caller hcaller => h (asked caller hcaller)

private theorem asked_nobody (calls : List Command) (cause : Cause) :
    Asked calls ⟨cause, none⟩ := by
  simp [Asked]

namespace Parting

private theorem mono (h : calls ⊆ calls') (parting : Parting calls heard ops phase tail) :
    Parting calls' heard ops phase tail := by
  cases parting with
  | live live => exact .live live
  | releasing asked all => exact .releasing (asked.mono h) all
  | released asked all => exact .released (asked.mono h) all
  | marked asked all => exact .marked (asked.mono h) all
  | announced asked all hears => exact .announced (asked.mono h) all hears
  | answered asked all hears => exact .answered (asked.mono h) all hears
  | ended asked all hears answers =>
    exact .ended (asked.mono h) all hears fun output ho => (answers output ho).mono h

private theorem unhear (parting : Parting calls heard ops phase tail) :
    Parting calls false ops phase tail := by
  cases parting with
  | live live => exact .live live
  | releasing asked all => exact .releasing asked all
  | released asked all => exact .released asked all
  | marked asked all => exact .marked asked all
  | announced asked all hears => exact .announced asked all (by nofun)
  | answered asked all hears => exact .answered asked all (by nofun)
  | ended asked all hears answers => exact .ended asked all (by nofun) answers

private theorem of_live (parting : Parting calls heard ops phase tail) (live : phase.IsLive) :
    tail = [] := by
  cases parting with
  | live => rfl
  | _ => exact live.elim

private theorem next {ending : Ending} (asked : Asked calls ending) {done : List (p.Op × p.Answer)}
    {rest : List p.Op} (all : done.map Prod.fst ++ rest = ops) :
    Parting calls heard ops (Session.releasing ending rest)
      (exchanges done ++ (Session.starting rest).map .showed) := by
  cases rest with
  | nil =>
    rw [List.append_nil] at all
    simpa [Session.releasing, Session.starting] using Parting.released asked all
  | cons op rest => exact .releasing asked all

private theorem begin {ending : Ending} (asked : Asked calls ending) (ops : List p.Op) :
    Parting calls heard ops (Session.releasing ending ops)
      ((Session.starting ops).map .showed) := by
  have hnone : ([] : List (p.Op × p.Answer)).map Prod.fst ++ ops = ops := rfl
  exact next asked hnone

private theorem release {rest : List p.Op} {ending : Ending}
    (parting : Parting calls heard ops (.releasing rest ending) tail) (answer : p.Answer) :
    Parting calls heard ops (Session.releasing ending rest)
      (tail ++ (.took answer :: (Session.starting rest).map .showed)) := by
  cases parting with
  | live live => exact live.elim
  | @releasing _ asked done op _ all =>
    have hall : (done ++ [(op, answer)]).map Prod.fst ++ rest = ops := by simpa using all
    have hnext : Parting calls heard ops _ _ := next asked hall
    simpa [exchanges_snoc] using hnext

private theorem mark {ending : Ending} (parting : Parting calls heard ops (.released ending) tail) :
    Parting calls heard ops (.marked ending) (tail ++ [.showed .markDisconnected]) := by
  cases parting with
  | live live => exact live.elim
  | released asked all => exact .marked asked all

private theorem announce {ending : Ending}
    (parting : Parting calls heard ops (.marked ending) tail) :
    Parting calls heard ops (.announced ending)
      (tail ++ ((if heard then [.deliver ending.cause.event] else []) ++ [.endStream] :
        List (Output p)).map .showed) := by
  cases parting with
  | live live => exact live.elim
  | marked asked all =>
    have hannounced : Parting calls heard ops (.announced ending)
        (_ ++ (closing p ending.cause heard).map .showed) := .announced asked all id
    simpa [closing] using hannounced

private theorem acknowledge {ending : Ending}
    (parting : Parting calls heard ops (.announced ending) tail) :
    Parting calls heard ops .answered
      (tail ++ ending.requester.toList.map fun caller => .showed (.reply caller (.ok ()))) := by
  cases parting with
  | live live => exact live.elim
  | announced asked all hears => exact .answered asked all hears

private theorem close (parting : Parting calls heard ops .answered tail) {late : List (Output p)}
    (answers : ∀ output ∈ late, Late calls output) :
    Parting calls heard ops .ended (tail ++ late.map .showed) := by
  cases parting with
  | live live => exact live.elim
  | answered asked all hears => exact .ended asked all hears answers

private theorem turnAway (parting : Parting calls heard ops .ended tail) {late : List (Output p)}
    (answers : ∀ output ∈ late, Late calls output) :
    Parting calls heard ops .ended (tail ++ late.map .showed) := by
  cases parting with
  | live live => exact live.elim
  | ended asked all hears before =>
    rw [List.append_assoc, ← List.map_append]
    exact .ended asked all hears (List.forall_mem_append.mpr ⟨before, answers⟩)

end Parting

/-! ### Every run -/

/-- The reaction in hand asks for work only. -/
private def Phase.Plans {Op : Type} (works : Op → Prop) : Phase M Op → Prop
  | .reacting reaction => ∀ op, reaction.next = .run op → works op
  | _ => True

/-- What passes between a task and the others, behind some actions. -/
structure Parts (works : p.Op → Prop) (ops : List p.Op) (calls : List Command) (now : Session p)
    (signs : List (Sign p)) : Prop where
  plans : now.phase.Plans works
  holds : p.release now.memory = ops
  split : ∃ early tail, signs = early ++ tail ∧ (∀ sign ∈ early, Ahead works calls sign) ∧
    Parting calls now.heard ops now.phase tail

variable {now next : Session p} {signs more : List (Sign p)}

private theorem plans_releasing (works : p.Op → Prop) (ending : Ending) (ops : List p.Op) :
    (Session.releasing ending ops).Plans works := by
  cases ops <;> trivial

private theorem ahead_reply {calls : List Command} {caller : Caller}
    {result : Except LinkError Unit} (early : Early calls (.reply caller result : Output p)) :
    Ahead works calls (.showed (.reply caller result)) := ⟨early, nofun⟩

private theorem ahead_map {outputs : List (Output p)}
    (early : ∀ output ∈ outputs, Early calls output)
    (idle : asks outputs = []) : ∀ sign ∈ outputs.map Sign.showed, Ahead works calls sign := by
  intro sign hsign
  obtain ⟨output, houtput, rfl⟩ := List.mem_map.mp hsign
  refine ⟨early output houtput, fun op hop => ?_⟩
  have hasked : op ∈ asks outputs := by
    obtain ⟨before, behind, rfl⟩ := List.append_of_mem (hop ▸ houtput)
    simp
  rw [idle] at hasked
  cases hasked

namespace Parts

private theorem live (parts : Parts works ops calls now signs) (sub : calls ⊆ calls')
    (live : now.phase.IsLive) (live' : next.phase.IsLive) (plans : next.phase.Plans works)
    (holds : p.release next.memory = p.release now.memory)
    (ahead : ∀ sign ∈ more, Ahead works calls' sign) :
    Parts works ops calls' next (signs ++ more) := by
  obtain ⟨early, tail, rfl, hearly, hparting⟩ := parts.split
  have hahead : ∀ sign ∈ early ++ more, Ahead works calls' sign :=
    List.forall_mem_append.mpr ⟨fun sign hsign => (hearly sign hsign).mono sub, ahead⟩
  exact ⟨plans, holds.trans parts.holds, early ++ more, [], by simp [hparting.of_live live],
    hahead, .live live'⟩

private theorem stopped {ending : Ending} (parts : Parts works ops calls now signs)
    (sub : calls ⊆ calls')
    (live : now.phase.IsLive) (phase : next.phase = Session.releasing ending (p.release now.memory))
    (memory : next.memory = now.memory) (asked : Asked calls' ending)
    (ahead : ∀ sign ∈ more, Ahead works calls' sign) :
    Parts works ops calls' next
      (signs ++ (more ++ (Session.starting (p.release now.memory)).map .showed)) := by
  obtain ⟨early, tail, rfl, hearly, hparting⟩ := parts.split
  have hahead : ∀ sign ∈ early ++ more, Ahead works calls' sign :=
    List.forall_mem_append.mpr ⟨fun sign hsign => (hearly sign hsign).mono sub, ahead⟩
  refine ⟨phase ▸ plans_releasing works ending _, memory ▸ parts.holds, early ++ more,
    (Session.starting (p.release now.memory)).map .showed, by simp [hparting.of_live live],
    hahead, ?_⟩
  rw [phase, parts.holds]
  exact .begin asked ops

private theorem advance {was : Phase M p.Op} (parts : Parts works ops calls now signs)
    (sub : calls ⊆ calls') (phase : now.phase = was) (plans : next.phase.Plans works)
    (holds : p.release next.memory = p.release now.memory)
    (parting : ∀ tail, Parting calls' now.heard ops was tail →
      Parting calls' next.heard ops next.phase (tail ++ more)) :
    Parts works ops calls' next (signs ++ more) := by
  obtain ⟨early, tail, rfl, hearly, hparting⟩ := parts.split
  exact ⟨plans, holds.trans parts.holds, early, tail ++ more, List.append_assoc ..,
    fun sign hsign => (hearly sign hsign).mono sub, parting tail (phase ▸ hparting.mono sub)⟩

end Parts

private theorem Orderly.early {notes : List (Note p)} {seen : List (Output p)}
    (orderly : Orderly now notes seen) (live : now.phase.IsLive) :
    ∀ output ∈ seen, Early (handed notes) output := by
  obtain ⟨early, tail, rfl, hearly, hstage⟩ := orderly.staged
  simpa [(hstage.of_live live).2] using hearly

private theorem parts_of_moves (trades : p.Trades works) {action : Action p}
    {note : Option (Note p)} {notes : List (Note p)} {seen outputs : List (Output p)}
    (orderly : Orderly now notes seen)
    (behind : Orderly next (notes ++ note.toList) (seen ++ outputs))
    (parts : Parts works ops (handed notes) now signs) (hstep : now.step action = (next, outputs))
    (move : Session.Moves now action note next outputs) :
    Parts works ops (handed (notes ++ note.toList)) next
      (signs ++ ((now.heeds? action).toList.map .took ++ outputs.map .showed)) := by
  have hsub : handed notes ⊆ handed (notes ++ note.toList) := by
    rw [handed_append]
    exact List.subset_append_left _ _
  have hlive {phase : Phase M p.Op} (hphase : now.phase = phase) (live : phase.IsLive) :
      now.phase.IsLive := hphase ▸ live
  have hshown (live' : next.phase.IsLive) : ∀ output ∈ outputs,
      Early (handed (notes ++ note.toList)) output :=
    fun output ho => behind.early live' output (List.mem_append_right _ ho)
  cases move with
  | idle => simpa [Session.heeds?_of_idle hstep] using parts
  | abandon | queue =>
    exact parts.advance hsub rfl parts.plans rfl fun tail parting => by
      simpa [Session.heeds?] using parting
  | unhear =>
    exact parts.advance hsub rfl parts.plans rfl fun tail parting => by
      simpa [Session.heeds?] using parting.unhear
  | late command phase =>
    have hlate : ∀ output ∈ [Session.turnAway p command],
        Late (handed (notes ++ [.handed command])) output :=
      List.forall_mem_singleton.mpr (late_turnAway (by simp))
    refine parts.advance hsub phase parts.plans rfl fun tail parting => ?_
    rw [phase]
    exact parting.turnAway hlate
  | write phase oldest =>
    exact parts.live hsub (hlive phase trivial) trivial trivial rfl
      (List.forall_mem_singleton.mpr ⟨trivial, fun op hop => Output.run.inj hop ▸ trades.write _⟩)
  | work phase =>
    have hplans := parts.plans
    rw [phase] at hplans
    exact parts.live hsub (hlive phase trivial) trivial trivial rfl
      (List.forall_mem_singleton.mpr ⟨trivial, fun op hop => Output.run.inj hop ▸ hplans _ rfl⟩)
  | settle phase =>
    exact parts.live hsub (hlive phase trivial) trivial trivial rfl (by simp [Session.heeds?])
  | receive signal phase =>
    exact parts.live hsub (hlive phase trivial) trivial (trades.receive _ _) (trades.received _ _)
      (by simp [Session.heeds?])
  | deliver phase =>
    have hplans := parts.plans
    rw [phase] at hplans
    exact parts.live hsub (hlive phase trivial) trivial hplans rfl
      (ahead_map (hshown trivial) rfl)
  | resume answer phase =>
    have hbusy : now.phase.isBusy = true := by rw [phase]; rfl
    refine parts.live hsub (hlive phase trivial) trivial (trades.resume _ _) (trades.resumed _ _) ?_
    rw [Session.heeds?_answer hbusy]
    exact List.forall_mem_singleton.mpr trivial
  | wrote phase well =>
    have hbusy : now.phase.isBusy = true := by rw [phase]; rfl
    refine parts.live hsub (hlive phase trivial) trivial trivial rfl ?_
    rw [Session.heeds?_answer hbusy]
    exact List.forall_mem_cons.mpr ⟨trivial, ahead_map (hshown trivial) rfl⟩
  | @obey caller cause queue phase oldest =>
    have hasked : Asked (handed (notes ++ [.met cause])) ⟨cause, some caller⟩ := by
      intro other hother
      obtain rfl := Option.mem_some.mp hother
      exact hsub (orderly.queued (oldest ▸ List.mem_cons_self ..))
    exact parts.stopped hsub (hlive phase trivial) rfl rfl hasked (by simp [Session.heeds?])
  | abandoned phase | unheard phase | lose phase | stop phase =>
    exact parts.stopped hsub (hlive phase trivial) rfl rfl (asked_nobody _ _)
      (by simp [Session.heeds?])
  | @failed caller answer error cause phase failure =>
    have hfits := orderly.fits
    rw [phase] at hfits
    have hbusy : now.phase.isBusy = true := by rw [phase]; rfl
    have hreply : Ahead works (handed (notes ++ [.met cause]))
        (.showed (.reply caller (.error error))) := ahead_reply (Early.mono hsub hfits)
    have hparts : Parts works ops (handed (notes ++ [.met cause]))
        (now.enter (Session.releasing ⟨cause, none⟩ (p.release now.memory)))
        (signs ++ ([.took answer, .showed (.reply caller (.error error))] ++
          (Session.starting (p.release now.memory)).map .showed)) :=
      parts.stopped hsub (hlive phase trivial) rfl rfl (asked_nobody _ _)
        (List.forall_mem_cons.mpr ⟨trivial, List.forall_mem_singleton.mpr hreply⟩)
    rw [Session.heeds?_answer hbusy]
    exact hparts
  | @release rest ending answer phase =>
    have hbusy : now.phase.isBusy = true := by rw [phase]; rfl
    rw [Session.heeds?_answer hbusy]
    exact parts.advance hsub phase (plans_releasing works _ _) rfl
      fun tail parting => parting.release answer
  | mark phase => exact parts.advance hsub phase trivial rfl fun tail parting => parting.mark
  | announce phase =>
    exact parts.advance hsub phase trivial rfl fun tail parting => parting.announce
  | acknowledge phase =>
    refine parts.advance hsub phase trivial rfl fun tail parting => ?_
    rw [List.map_map]
    exact parting.acknowledge
  | close phase =>
    have hlate : ∀ output ∈ now.queue.map (Session.turnAway p),
        Late (handed (notes ++ [])) output := by
      intro output ho
      obtain ⟨command, hc, rfl⟩ := List.mem_map.mp ho
      exact late_turnAway (hsub (orderly.queued hc))
    exact parts.advance hsub phase trivial rfl fun tail parting => parting.close hlate

private theorem parts_start (trades : p.Trades works) (memory : p.Memory) :
    Parts works (p.release memory) [] (Session.start p memory) [] :=
  ⟨trades.opening, rfl, [], [], rfl, by simp, .live trivial⟩

/-- What passes between a task and the others, in any run. -/
theorem parts_run (mild : p.Mild) (trades : p.Trades works) (memory : p.Memory)
    (actions : List (Action p)) :
    Parts works (p.release memory) (handed ((Session.start p memory).history actions))
      ((Session.start p memory).run actions).1 ((Session.start p memory).signs actions) := by
  induction actions using List.reverseRecOn with
  | nil => exact parts_start trades memory
  | append_singleton actions action ih =>
    have hbehind := orderly_run mild memory (actions ++ [action])
    rw [Session.run_snoc, Session.history_snoc] at hbehind ⊢
    rw [Session.signs_snoc]
    exact parts_of_moves trades (orderly_run mild memory actions) hbehind ih rfl
      (Session.moves_step _ _)

/-! ### The end takes its course -/

def Phase.pending {Op : Type} : Phase M Op → Nat
  | .releasing rest _ => rest.length + 1
  | _ => 0

namespace Session

end Session

/-! ### Who marks the connection -/

namespace Connection

end Connection

namespace Opening

def passed (l : Opening p) : List (Sign p) := (Session.start p l.memory).signs l.actions

end Opening

end RadioLink.Link
