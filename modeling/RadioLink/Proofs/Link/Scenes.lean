import RadioLink.Proofs.Link.Exchanges
import RadioLink.Proofs.Link.Inbound

/-!
A radio and the link to it, turn by turn. The packets that have come in are with the radio, on their
way, or with the task, and a task that does not read again by itself has been told, or nothing waits
for it.
-/

set_option autoImplicit false
set_option relaxedAutoImplicit false

namespace RadioLink.Link

variable {M : Type}

section Generic

variable {p : Protocol M}

@[simp] def messagesIn : List (LinkEvent M) → List M
  | [] => []
  | .message m :: events => m :: messagesIn events
  | .log _ :: events | .closed _ :: events | .failed _ :: events | .failedForGood _ :: events =>
    messagesIn events

@[simp] theorem messagesIn_append (before behind : List (LinkEvent M)) :
    messagesIn (before ++ behind) = messagesIn before ++ messagesIn behind := by
  induction before with
  | nil => rfl
  | cons event before ih => cases event <;> simp [ih]

private theorem messagesIn_event (cause : Cause) :
    messagesIn [(cause.event : LinkEvent M)] = [] := by
  obtain ⟨_ | error, _ | _⟩ := cause <;> rfl

@[simp] theorem delivered_starting (ops : List p.Op) : delivered (Session.starting ops) = [] := by
  cases ops <;> rfl

namespace Session

private def gains (s : Session p) : Action p → List (LinkEvent M)
  | .signal signal => if s.isWaiting then (p.receive s.memory signal).1.events else []
  | .answer answer =>
    match s.phase with
    | .working => (p.resume s.memory answer).1.events
    | _ => []
  | _ => []

private theorem gains_of_idle {s : Session p} {action : Action p} (idle : s.step action = (s, [])) :
    s.gains action = [] := by
  obtain ⟨phase, memory, queue, commanded, heard⟩ := s
  cases action with
  | signal signal =>
    cases phase with
    | waiting => simp [step, react] at idle
    | _ => rfl
  | answer answer =>
    cases phase with
    | working => simp [step, react] at idle
    | _ => rfl
  | _ => rfl

private theorem messagesIn_of_moves {now next : Session p} {action : Action p}
    {note : Option (Note p)} {outputs : List (Output p)} (hears : now.heard = true)
    (hstep : now.step action = (next, outputs))
    (move : Moves now action note next outputs) :
    messagesIn (delivered outputs) ++ messagesIn next.phase.inHand =
      messagesIn now.phase.inHand ++ messagesIn (now.gains action) := by
  cases move with
  | idle => simp [gains_of_idle hstep]
  | queue | late | abandon | unhear => simp [gains, turnAway]
  | obey phase | abandoned phase | unheard phase | stop phase | failed phase | release _ phase =>
    have hhand : now.phase.inHand = [] := by rw [phase]; rfl
    rw [hhand]
    simp [gains, phase, enter]
  | write phase | settle phase | work phase | mark phase | acknowledge phase | close phase =>
    simp [gains, phase, Phase.inHand, enter]
  | receive signal phase => simp [gains, phase, isWaiting, Phase.inHand, react]
  | resume answer phase | wrote phase => simp [gains, phase, Phase.inHand, react, enter]
  | @deliver event events following phase =>
    cases event <;> simp [gains, phase, Phase.inHand, enter]
  | lose phase alone => simp [hears] at alone
  | @announce ending phase =>
    simp only [gains, phase, Phase.inHand, enter, delivered_append, delivered, List.append_nil]
    split_ifs
    simp [messagesIn_event]

end Session

namespace Session

/-- Whether the operation that is under way behind an action is of a kind, given whether the one
under way before it was. -/
def awaits (s : Session p) (kind : p.Op → Bool) (before : Bool) (action : Action p) : Bool :=
  (s.exchanged action).foldl
    (fun _ exchange => match exchange with
      | .asked op => kind op
      | .answered _ => false) before

theorem awaits_eq {s next : Session p} {action : Action p} {outputs : List (Output p)}
    (op? : Option p.Op) (hstep : s.step action = (next, outputs))
    (asked : asks outputs = op?.toList)
    (kind : p.Op → Bool) (before : Bool) :
    s.awaits kind before action =
      op?.elim ((s.heeds? action).elim before fun _ => false) kind := by
  rw [awaits, exchanged, hstep, asked]
  cases s.heeds? action <;> cases op? <;> rfl

end Session

end Generic

variable {format : Format M}

theorem Decodes.append {before behind : List Bytes} {ms ns : List M} {fault : Option LinkError}
    (first : Decodes format before ms none) (second : Decodes format behind ns fault) :
    Decodes format (before ++ behind) (ms ++ ns) fault := by
  generalize hnone : (none : Option LinkError) = none' at first
  induction first with
  | nil => exact second
  | message decoded rest ih => exact .message decoded (ih hnone)
  | fault refused => cases hnone

theorem Decodes.fault_eq_none {payloads : List Bytes} {ms : List M} {fault : Option LinkError}
    (decodes : Decodes format payloads ms fault)
    (decodable : ∀ payload ∈ payloads, ∃ m, format.decode payload = .ok m) : fault = none := by
  induction decodes with
  | nil => rfl
  | message decoded rest ih =>
    exact ih fun payload mem => decodable payload (List.mem_cons_of_mem _ mem)
  | fault refused =>
    obtain ⟨m, hm⟩ := decodable _ (List.mem_cons_self ..)
    simp [refused] at hm

/-! ### A radio and the link to it -/

namespace Mailbox

/-- How far the link is. -/
inductive Stage (format : Format M) where
  | opening (setup : Ble.Setup)
  | failed (error : LinkError)
  | running (session : Session (Ble.protocol format))

structure Scene (format : Format M) where
  stage : Stage format
  /-- What the others have seen of the session. -/
  seen : List (Output (Ble.protocol format))
  /-- The packets that no read has taken, oldest first. -/
  mailbox : List Bytes
  /-- The notifications that the task has not taken, oldest first, once there is a channel. -/
  channel : Option (List Gatt.Notification)
  /-- A packet has come in since there is a channel, and the counter has not been notified since. -/
  unannounced : Bool
  /-- Whether the session waits for a read of the mailbox. -/
  reading : Bool
  /-- What the read under way has found: a packet, or nothing. -/
  fetched : Option Bytes
  /-- The packets that reads have brought, oldest first. -/
  brought : List Bytes

/-- What happens to a radio and the link to it. -/
inductive Turn (format : Format M) where
  /-- A packet comes into the mailbox. -/
  | append (packet : Bytes)
  /-- The channel, if there is one, accepts a notification. -/
  | notify (notification : Gatt.Notification)
  | openChannel
  /-- A step of the opening is answered. -/
  | prepare (answer : Gatt.Answer)
  /-- The read under way finds what it brings. -/
  | fetch
  /-- The task gets what the read has found. -/
  | arrive
  /-- The task takes the oldest notification. -/
  | receive
  | act (action : Action (Ble.protocol format))

def isRead : (Ble.protocol format).Op → Bool
  | Gatt.Operation.read characteristic => characteristic = Gatt.fromRadio
  | _ => false

def found (value : Bytes) : (Ble.protocol format).Answer := Except.ok (Gatt.Yield.value value)

namespace Scene

def initial (format : Format M) : Scene format :=
  ⟨.opening .connecting, [], [], none, false, false, none, []⟩

def openChannel (s : Scene format) : Scene format :=
  { s with channel := some (s.channel.getD []) }

def granted (s : Scene format) : Ble.Setup → Gatt.Answer → Scene format
  | .openingNotifications _, .ok _ => s.openChannel
  | _, _ => s

def goOn (s : Scene format) : Ble.Progress → Scene format
  | .next setup => { s with stage := .opening setup }
  | .failed error => { s with stage := .failed error }
  | .opened hasLog => { s with stage := .running (.start _ hasLog) }

def move (s : Scene format) (session : Session (Ble.protocol format))
    (action : Action (Ble.protocol format)) : Scene format :=
  { s with
    stage := .running (session.step action).1
    seen := s.seen ++ (session.step action).2
    reading := session.awaits isRead s.reading action }

@[simp] theorem brought_move (s : Scene format) (session : Session (Ble.protocol format))
    (action : Action (Ble.protocol format)) : (s.move session action).brought = s.brought := rfl

/-- Whether an action is none of the other turns: notifications come out of the channel, and what is
read out of the mailbox. -/
def lets (s : Scene format) : Action (Ble.protocol format) → Bool
  | .signal signal => Option.isNone (α := Gatt.Notification) signal
  | .answer _ => !s.reading
  | _ => true

def turn (s : Scene format) : Turn format → Scene format
  | .append packet =>
    { s with
      mailbox := s.mailbox ++ [packet], unannounced := s.unannounced || s.channel.isSome }
  | .notify notification =>
    match s.channel with
    | none => s
    | some pending =>
      { s with
        channel := some (pending ++ [notification])
        unannounced := s.unannounced && notification.characteristic != Gatt.packetCounter }
  | .openChannel =>
    match s.stage with
    | .opening (.openingNotifications _) => s.openChannel
    | _ => s
  | .prepare answer =>
    match s.stage with
    | .opening setup => (s.granted setup answer).goOn (setup.step answer)
    | _ => s
  | .fetch =>
    if s.reading && s.fetched.isNone then
      { s with fetched := some (s.mailbox.headD []), mailbox := s.mailbox.tail }
    else s
  | .arrive =>
    match s.stage, s.fetched with
    | .running session, some value =>
      let s := s.move session (.answer (found value))
      { s with fetched := none, brought := s.brought ++ [value].filter (· ≠ []) }
    | _, _ => s
  | .receive =>
    match s.stage, s.channel with
    | .running session, some (notification :: pending) =>
      if session.isWaiting then
        { s.move session (.signal (some notification)) with channel := some pending }
      else s
    | _, _ => s
  | .act action =>
    match s.stage with
    | .running session => if s.lets action then s.move session action else s
    | _ => s

def run (s : Scene format) (turns : List (Turn format)) : Scene format := turns.foldl turn s

def arriving (s : Scene format) : List Bytes := s.fetched.toList.filter (· ≠ [])

def packets (s : Scene format) : List Bytes := s.brought ++ s.arriving ++ s.mailbox

def inHand (s : Scene format) : List (LinkEvent M) :=
  match s.stage with
  | .running session => session.phase.inHand
  | _ => []

/-- A notification that makes the task read is on its way, or owed by the radio. -/
def IsAnnounced (s : Scene format) : Prop :=
  s.unannounced = true ∨
    ∃ n ∈ s.channel.getD [], n.characteristic = Gatt.packetCounter

end Scene

def appended : List (Turn format) → List Bytes
  | [] => []
  | .append packet :: turns => packet :: appended turns
  | _ :: turns => appended turns

theorem appended_append (before behind : List (Turn format)) :
    appended (before ++ behind) = appended before ++ appended behind := by
  induction before with
  | nil => rfl
  | cons turn before ih => cases turn <;> simp [appended, ih]

/-! ### What every turn keeps -/

/-- All that the task runs on its own account is a read of the mailbox, and the end of a link has no
read in it. -/
private def Reads : Phase M (Ble.protocol format).Op → Prop
  | .reacting reaction => ∀ op, reaction.next = .run op → isRead op = true
  | .releasing rest _ => ∀ op ∈ rest, isRead op = false
  | _ => True

/-- The task has met nothing that ends the link. -/
def GoesOn : Phase M (Ble.protocol format).Op → Prop
  | .reacting reaction => ∀ cause, reaction.next ≠ .stop cause
  | .waiting | .working | .writing _ => True
  | _ => False

def Rests (fetched : Option Bytes) : Phase M (Ble.protocol format).Op → Prop
  | .reacting reaction => reaction.next = .wait
  | .waiting | .writing _ => True
  | .working => fetched = some []
  | _ => False

/-- What holds of a radio and a session: the reads bring the packets, and the consumer gets their
messages; and if the task does not read again by itself, then nothing waits for it, or it is
told. -/
structure Attends (s : Scene format) (now : Session (Ble.protocol format)) : Prop where
  hears : now.heard = true
  opened : s.channel.isSome = true
  reading : s.reading = true ↔ now.phase = .working
  reads : Reads now.phase
  fetched : now.phase ≠ .working → s.fetched = none
  decodes : ∃ fault,
    Decodes format s.brought (messagesIn (delivered s.seen) ++ messagesIn now.phase.inHand) fault ∧
      (GoesOn now.phase → fault = none)
  awake : Rests s.fetched now.phase → s.mailbox = [] ∨ s.IsAnnounced

variable {s : Scene format} {now next : Session (Ble.protocol format)}
  {action : Action (Ble.protocol format)} {outputs : List (Output (Ble.protocol format))}

private theorem phase_releasing {ops : List (Ble.protocol format).Op} (ending : Ending)
    (readless : ∀ op ∈ ops, isRead op = false) (fetched : Option Bytes) :
    let phase := Session.releasing ending ops
    phase ≠ .working ∧ Reads phase ∧ ¬ GoesOn phase ∧ ¬ Rests fetched phase := by
  cases ops with
  | nil => exact ⟨by nofun, trivial, id, id⟩
  | cons op rest =>
    exact ⟨by nofun, fun other mem => readless other (List.mem_cons_of_mem _ mem), id, id⟩

private theorem readless_release (hasLog : Bool) :
    ∀ op ∈ (Ble.protocol format).release hasLog, isRead op = false := by
  have hops : ∀ op ∈ Ble.releaseOf hasLog, @isRead M format op = false := by
    intro op mem
    cases op with
    | read characteristic => simp [Ble.releaseOf] at mem
    | _ => rfl
  exact hops

theorem Attends.not_reading (h : Attends s now) (free : now.phase ≠ .working) :
    s.reading = false := by
  cases hreading : s.reading with
  | false => rfl
  | true => exact absurd (h.reading.mp hreading) free

private theorem Attends.go {note : Option (Note (Ble.protocol format))} (h : Attends s now)
    (hstep : now.step action = (next, outputs)) (move : Session.Moves now action note next outputs)
    (hears : next.heard = true) (gains : messagesIn (now.gains action) = [])
    (reading : (s.move now action).reading = true ↔ next.phase = .working)
    (reads : Reads next.phase) (fetched : next.phase ≠ .working → now.phase ≠ .working)
    (goes : GoesOn next.phase → GoesOn now.phase)
    (rests : Rests s.fetched next.phase → Rests s.fetched now.phase) :
    Attends (s.move now action) next where
  hears := hears
  opened := h.opened
  reading := reading
  reads := reads
  fetched hphase := h.fetched (fetched hphase)
  decodes := by
    obtain ⟨fault, hdecodes, hfault⟩ := h.decodes
    refine ⟨fault, ?_, fun hgoes => hfault (goes hgoes)⟩
    have hmessages := Session.messagesIn_of_moves h.hears hstep move
    rw [gains, List.append_nil] at hmessages
    rw [Scene.move, hstep, delivered_append, messagesIn_append, List.append_assoc, hmessages]
    exact hdecodes
  awake hrests := h.awake (rests hrests)

private theorem Attends.stay {note : Option (Note (Ble.protocol format))} (h : Attends s now)
    (hstep : now.step action = (next, outputs)) (move : Session.Moves now action note next outputs)
    (hears : next.heard = true) (phase : next.phase = now.phase) (asked : asks outputs = [])
    (gains : now.gains action = []) (unheeded : now.heeds? action = none) :
    Attends (s.move now action) next := by
  refine h.go hstep move hears (by rw [gains]; rfl) ?_ (phase ▸ h.reads) (phase ▸ id) (phase ▸ id)
    (phase ▸ id)
  have hreading : (s.move now action).reading = s.reading := by
    rw [Scene.move, Session.awaits_eq none hstep asked, unheeded]
    rfl
  rw [hreading, phase]
  exact h.reading

private theorem Attends.pass {note : Option (Note (Ble.protocol format))}
    (op? : Option (Ble.protocol format).Op) (h : Attends s now)
    (hstep : now.step action = (next, outputs)) (move : Session.Moves now action note next outputs)
    (hears : next.heard = true) (gains : now.gains action = []) (free : now.phase ≠ .working)
    (free' : next.phase ≠ .working) (asked : asks outputs = op?.toList)
    (readless : ∀ op ∈ op?, isRead op = false) (reads : Reads next.phase)
    (goes : GoesOn next.phase → GoesOn now.phase)
    (rests : Rests s.fetched next.phase → Rests s.fetched now.phase) :
    Attends (s.move now action) next := by
  refine h.go hstep move hears (by rw [gains]; rfl) ?_ reads (fun _ => free) goes rests
  have hreading : (s.move now action).reading = false := by
    rw [Scene.move, Session.awaits_eq op? hstep asked, h.not_reading free]
    cases op? with
    | none => cases now.heeds? action <;> rfl
    | some op => exact readless op rfl
  rw [hreading]
  exact iff_of_false (by nofun) free'

private theorem Attends.ends {note : Option (Note (Ble.protocol format))} {ending : Ending}
    {ops : List (Ble.protocol format).Op} (h : Attends s now)
    (hstep : now.step action = (next, outputs)) (move : Session.Moves now action note next outputs)
    (hears : next.heard = true) (free : now.phase ≠ .working) (gains : now.gains action = [])
    (readless : ∀ op ∈ ops, isRead op = false)
    (phase : next.phase = Session.releasing ending ops) (asked : asks outputs = ops.head?.toList) :
    Attends (s.move now action) next := by
  obtain ⟨hworking, hreads, hgoes, hrests⟩ := phase_releasing ending readless s.fetched
  rw [← phase] at hworking hreads hgoes hrests
  exact h.pass ops.head? hstep move hears gains free hworking asked
    (fun op mem => readless op (List.mem_of_mem_head? mem)) hreads (fun goes => absurd goes hgoes)
    (fun rests => absurd rests hrests)

theorem attends_of_moves {note : Option (Note (Ble.protocol format))} (h : Attends s now)
    (hstep : now.step action = (next, outputs)) (move : Session.Moves now action note next outputs)
    (stays : action ≠ .unhear) (lets : s.lets action = true) :
    Attends (s.move now action) next := by
  cases move with
  | idle =>
    exact h.stay hstep (.idle _ _) h.hears rfl rfl (Session.gains_of_idle hstep)
      (Session.heeds?_of_idle hstep)
  | queue command live => exact h.stay hstep (.queue command live) h.hears rfl rfl rfl rfl
  | late command phase => exact h.stay hstep (.late command phase) h.hears rfl rfl rfl rfl
  | abandon => exact h.stay hstep (.abandon _) h.hears rfl rfl rfl rfl
  | unhear => exact absurd rfl stays
  | obey phase oldest =>
    exact h.ends hstep (.obey phase oldest) h.hears (by simp [phase]) rfl (readless_release _) rfl
      (asks_starting _)
  | abandoned phase empty alone =>
    exact h.ends hstep (.abandoned phase empty alone) h.hears (by simp [phase]) rfl
      (readless_release _) rfl (asks_starting _)
  | unheard phase alone | lose phase alone => simp [h.hears] at alone
  | stop phase =>
    exact h.ends hstep (.stop phase) h.hears (by simp [phase]) rfl (readless_release _) rfl
      (asks_starting _)
  | failed phase failure =>
    exact h.ends hstep (.failed phase failure) h.hears (by simp [phase])
      (by simp [Session.gains, phase]) (readless_release _) rfl (asks_starting _)
  | release answer phase =>
    have hreadless := h.reads
    rw [phase] at hreadless
    exact h.ends hstep (.release answer phase) h.hears (by simp [phase])
      (by simp [Session.gains, phase]) hreadless rfl (asks_starting _)
  | resume answer phase =>
    have hreading := h.reading.mpr phase
    simp [Scene.lets, hreading] at lets
  | receive signal phase =>
    obtain rfl : signal = Option.none := Option.isNone_iff_eq_none.mp lets
    have hgains : now.gains (.signal Option.none) = [] := by
      simp only [Session.gains, Session.isWaiting, phase]
      rfl
    exact h.pass none hstep (.receive _ phase) h.hears hgains (by simp [phase]) (by rintro ⟨⟩) rfl
      (by rintro _ ⟨⟩) (by rintro _ ⟨⟩) (fun goes => absurd rfl (goes _))
      (fun rests => by cases rests)
  | @write caller bytes queue phase oldest =>
    refine h.pass (some _) hstep (.write phase oldest) h.hears rfl (by simp [phase])
      (by rintro ⟨⟩) rfl ?_
      trivial (by simp [phase, GoesOn]) (by simp [phase, Rests])
    rintro op ⟨⟩
    rfl
  | wrote phase well =>
    exact h.pass none hstep (.wrote phase well) h.hears (by simp [Session.gains, phase])
      (by simp [phase]) (by rintro ⟨⟩) rfl (by rintro _ ⟨⟩) trivial (by simp [phase, GoesOn])
      (by simp [phase, Rests])
  | work phase =>
    have hreads := h.reads
    rw [phase] at hreads
    have hfetched := h.fetched (by simp [phase])
    refine h.go hstep (.work phase) h.hears rfl ?_ trivial (by simp [Session.enter])
      (by simp [phase, GoesOn]) (by simp [Rests, Session.enter, hfetched])
    rw [Scene.move, Session.awaits_eq (some _) hstep rfl]
    exact iff_of_true (hreads _ rfl) rfl
  | deliver phase hears =>
    have hreads := h.reads
    rw [phase] at hreads
    exact h.pass none hstep (.deliver phase hears) h.hears rfl (by simp [phase]) (by rintro ⟨⟩) rfl
      (by rintro _ ⟨⟩) hreads (by rw [phase]; exact id) (by rw [phase]; exact id)
  | settle phase =>
    exact h.pass none hstep (.settle phase) h.hears rfl (by simp [phase]) (by rintro ⟨⟩) rfl
      (by rintro _ ⟨⟩) trivial (by simp [phase, GoesOn]) (by simp [phase, Rests])
  | mark phase =>
    exact h.pass none hstep (.mark phase) h.hears rfl (by simp [phase]) (by rintro ⟨⟩) rfl
      (by rintro _ ⟨⟩) trivial (by rintro ⟨⟩) (by rintro ⟨⟩)
  | announce phase =>
    exact h.pass none hstep (.announce phase) h.hears rfl (by simp [phase]) (by rintro ⟨⟩)
      (by rw [h.hears]; rfl) (by rintro _ ⟨⟩) trivial (by rintro ⟨⟩) (by rintro ⟨⟩)
  | acknowledge phase =>
    exact h.pass none hstep (.acknowledge phase) h.hears rfl (by simp [phase]) (by rintro ⟨⟩)
      (asks_map_reply _ _) (by rintro _ ⟨⟩) trivial (by rintro ⟨⟩) (by rintro ⟨⟩)
  | close phase =>
    exact h.pass none hstep (.close phase) h.hears rfl (by simp [phase]) (by rintro ⟨⟩)
      (asks_map_turnAway _) (by rintro _ ⟨⟩) trivial (by rintro ⟨⟩) (by rintro ⟨⟩)

end Mailbox

end RadioLink.Link
