import RadioLink.Proofs.Link.Scenes

/-!
The mailbox of a radio. Packets come in at any time, the task reads them one at a time, and reads
again until it finds nothing. Whatever comes between, no packet is left behind: while the task
waits, the mailbox is empty, or a notification that makes the task read again is on its way.
-/

set_option autoImplicit false
set_option relaxedAutoImplicit false

namespace RadioLink.Link.Mailbox

variable {M : Type} {format : Format M} {s : Scene format}
  {now next : Session (Ble.protocol format)} {action : Action (Ble.protocol format)}
  {outputs : List (Output (Ble.protocol format))}

/-- The notifications are on their way to be switched on, so there is a channel for them. -/
private def HasChannel : Ble.Setup → Prop
  | .subscribingCounter _ | .subscribingLog => True
  | _ => False

private theorem hasChannel_of_next {setup following : Ble.Setup} {answer : Gatt.Answer}
    (h : setup.step answer = .next following) (has : HasChannel following) :
    HasChannel setup ∨ ∃ hasLog yielded, setup = .openingNotifications hasLog ∧
      answer = .ok yielded := by
  cases answer with
  | error error => cases setup <;> cases h <;> exact absurd has id
  | ok yielded =>
    cases setup with
    | connecting =>
      cases h
      exact absurd has id
    | findingService =>
      simp only [Ble.Setup.step, Ble.Setup.proceed] at h
      split_ifs at h <;> cases h <;> exact absurd has id
    | findingCharacteristics =>
      simp only [Ble.Setup.step, Ble.Setup.proceed] at h
      split at h <;> cases h <;> exact absurd has id
    | openingNotifications hasLog => exact .inr ⟨hasLog, yielded, rfl, rfl⟩
    | subscribingCounter | subscribingLog => exact .inl trivial
    | givingUp => cases h

private theorem hasChannel_of_opened {setup : Ble.Setup} {answer : Gatt.Answer} {hasLog : Bool}
    (h : setup.step answer = .opened hasLog) : HasChannel setup := by
  cases answer with
  | error error => cases setup <;> cases h
  | ok yielded =>
    cases setup with
    | connecting | openingNotifications | givingUp => cases h
    | findingService =>
      simp only [Ble.Setup.step, Ble.Setup.proceed] at h
      split_ifs at h
    | findingCharacteristics =>
      simp only [Ble.Setup.step, Ble.Setup.proceed] at h
      split at h <;> cases h
    | subscribingCounter | subscribingLog => trivial

/-- Nothing has been read, for there is no session. -/
structure Untouched (s : Scene format) : Prop where
  reading : s.reading = false
  fetched : s.fetched = none
  brought : s.brought = []
  seen : s.seen = []

/-- The link is as far as its stage says. -/
private def Holds (s : Scene format) : Prop :=
  match s.stage with
  | .opening setup => Untouched s ∧ (HasChannel setup → s.channel.isSome = true)
  | .failed _ => Untouched s
  | .running session => Attends s session

private theorem attends_start (h : Untouched s) (opened : s.channel.isSome = true) (hasLog : Bool) :
    Attends s (.start (Ble.protocol format) hasLog) where
  hears := rfl
  opened := opened
  reading := iff_of_false (by simp [h.reading]) (by nofun)
  reads := by
    rintro op ⟨⟩
    rfl
  fetched _ := h.fetched
  decodes := by
    refine ⟨none, ?_, fun _ => rfl⟩
    rw [h.brought, h.seen]
    exact .nil
  awake rests := by cases rests

private theorem untouched_granted (h : Untouched s) (setup : Ble.Setup) (answer : Gatt.Answer) :
    Untouched (s.granted setup answer) := by
  unfold Scene.granted
  split
  · exact ⟨h.reading, h.fetched, h.brought, h.seen⟩
  · exact h

private theorem opened_granted {setup : Ble.Setup} {answer : Gatt.Answer}
    (has : HasChannel setup → s.channel.isSome = true)
    (h : HasChannel setup ∨ ∃ hasLog yielded, setup = .openingNotifications hasLog ∧
      answer = .ok yielded) : (s.granted setup answer).channel.isSome = true := by
  rcases h with hsetup | ⟨hasLog, yielded, rfl, rfl⟩
  · cases setup with
    | subscribingCounter | subscribingLog => exact has hsetup
    | _ => exact absurd hsetup id
  · rfl

private theorem holds_goOn {setup : Ble.Setup} (h : Untouched s)
    (has : HasChannel setup → s.channel.isSome = true) (answer : Gatt.Answer) :
    Holds ((s.granted setup answer).goOn (setup.step answer)) := by
  obtain ⟨hreading, hfetched, hbrought, hseen⟩ := untouched_granted h setup answer
  cases hstep : setup.step answer with
  | next following =>
    exact ⟨⟨hreading, hfetched, hbrought, hseen⟩,
      fun hfollowing => opened_granted has (hasChannel_of_next hstep hfollowing)⟩
  | failed error => exact ⟨hreading, hfetched, hbrought, hseen⟩
  | opened hasLog =>
    have hopened : (s.granted setup answer).channel.isSome = true :=
      opened_granted has (.inl (hasChannel_of_opened hstep))
    have huntouched : Untouched ((s.granted setup answer).goOn (.opened hasLog)) :=
      ⟨hreading, hfetched, hbrought, hseen⟩
    exact attends_start huntouched hopened hasLog

private theorem attends_append (h : Attends s now) (packet : Bytes) :
    Attends (s.turn (.append packet)) now where
  hears := h.hears
  opened := h.opened
  reading := h.reading
  reads := h.reads
  fetched := h.fetched
  decodes := h.decodes
  awake _ := .inr (.inl (by simp [Scene.turn, h.opened]))

private theorem attends_notify (h : Attends s now) (notification : Gatt.Notification) :
    Attends (s.turn (.notify notification)) now := by
  obtain ⟨pending, hpending⟩ := Option.isSome_iff_exists.mp h.opened
  simp only [Scene.turn, hpending]
  refine ⟨h.hears, rfl, h.reading, h.reads, h.fetched, h.decodes, fun rests => ?_⟩
  refine (h.awake rests).imp_right fun hannounced => ?_
  by_cases hcounter : notification.characteristic = Gatt.packetCounter
  · exact .inr ⟨notification, List.mem_append_right _ (List.mem_singleton_self _), hcounter⟩
  · rcases hannounced with howed | ⟨n, hmem, hn⟩
    · exact .inl (by simp [howed, hcounter])
    · rw [hpending] at hmem
      exact .inr ⟨n, List.mem_append_left _ hmem, hn⟩

private theorem attends_fetch (h : Attends s now) (reading : s.reading = true)
    (nonempty : ∀ packet ∈ s.mailbox, packet ≠ []) :
    Attends { s with fetched := some (s.mailbox.headD []), mailbox := s.mailbox.tail } now := by
  have hphase := h.reading.mp reading
  refine ⟨h.hears, h.opened, h.reading, h.reads, fun hfree => absurd hphase hfree, h.decodes, ?_⟩
  intro rests
  rw [hphase] at rests
  cases hmailbox : s.mailbox with
  | nil => exact .inl rfl
  | cons packet rest =>
    rw [hmailbox] at rests
    exact absurd (Option.some.inj rests) (nonempty packet (hmailbox ▸ List.mem_cons_self ..))

private theorem Attends.taken {behind : Scene format}
    {reaction : Reaction M (Ble.protocol format).Op} (h : Attends s now)
    (opened : behind.channel.isSome = true) (reading : behind.reading = false)
    (fetched : behind.fetched = none) (reads : ∀ op, reaction.next = .run op → isRead op = true)
    (decodes : ∃ fault, Decodes format behind.brought
      (messagesIn (delivered behind.seen) ++ messagesIn reaction.events) fault ∧
        (GoesOn (.reacting reaction) → fault = none))
    (awake : reaction.next = .wait → behind.mailbox = [] ∨ behind.IsAnnounced) :
    Attends behind (now.react (reaction, now.memory)) where
  hears := h.hears
  opened := opened
  reading := iff_of_false (by simp [reading]) (by nofun)
  reads := reads
  fetched _ := fetched
  decodes := decodes
  awake := awake

private theorem step_found (phase : now.phase = .working) (value : Bytes) :
    now.step (.answer (found value)) =
      (now.react (Ble.takePacket format (.ok (.value value)), now.memory), []) := by
  simp only [Session.step, phase]
  rfl

private theorem attends_arrive (h : Attends s now) (stage : s.stage = .running now) {value : Bytes}
    (fetched : s.fetched = some value) : Holds (s.turn .arrive) := by
  have hphase : now.phase = .working := by
    by_contra hfree
    simp [h.fetched hfree] at fetched
  have hstep := step_found hphase value
  have hseen : (s.move now (.answer (found value))).seen = s.seen := by
    rw [Scene.move, hstep, List.append_nil]
  have hreading : (s.move now (.answer (found value))).reading = false := by
    rw [Scene.move, Session.awaits_eq none hstep rfl, Session.heeds?_answer (by rw [hphase]; rfl)]
    rfl
  obtain ⟨fault, hdecodes, hfault⟩ := h.decodes
  obtain rfl := hfault (by rw [hphase]; trivial)
  have hawake := h.awake
  rw [hphase] at hdecodes hawake
  have hattends : Attends
      { s.move now (.answer (found value)) with
        fetched := none, brought := s.brought ++ [value].filter (· ≠ []) }
      (now.react (Ble.takePacket format (.ok (.value value)), now.memory)) := by
    cases value with
    | nil =>
      have htaken : Ble.takePacket format (.ok (.value [])) = ⟨[], .wait⟩ := rfl
      rw [htaken]
      refine h.taken h.opened hreading rfl (by rintro _ ⟨⟩) ⟨none, ?_, fun _ => rfl⟩ fun _ =>
        hawake fetched
      simpa [hseen, Phase.inHand] using hdecodes
    | cons octet octets =>
      have hbehind {ms : List M} {fault : Option LinkError}
          (one : Decodes format [octet :: octets] ms fault) :
          Decodes format (s.brought ++ [octet :: octets])
            (messagesIn (delivered s.seen) ++ ms) fault := by
        simpa [Phase.inHand] using Decodes.append hdecodes one
      rcases hdecode : format.decode (octet :: octets) with error | m
      · have htaken : Ble.takePacket format (.ok (.value (octet :: octets))) =
            ⟨[], .stop ⟨some error, true⟩⟩ := by
          simp [Ble.takePacket, Gatt.Yield.bytes, hdecode]
        rw [htaken]
        refine h.taken h.opened hreading rfl (by rintro _ ⟨⟩)
          ⟨some error, ?_, fun goes => absurd rfl (goes _)⟩ (by rintro ⟨⟩)
        simpa [hseen] using hbehind (.fault hdecode)
      · have htaken : Ble.takePacket format (.ok (.value (octet :: octets))) =
            ⟨[.message m], Ble.readMailbox⟩ := by
          simp [Ble.takePacket, Gatt.Yield.bytes, hdecode]
        rw [htaken]
        refine h.taken h.opened hreading rfl ?_ ⟨none, ?_, fun _ => rfl⟩ (by rintro ⟨⟩)
        · rintro op ⟨⟩
          rfl
        · simpa [hseen] using hbehind (.message hdecode .nil)
  simpa [Scene.turn, stage, fetched, Holds, Scene.move, hstep] using hattends

private theorem step_receive (waiting : now.phase = .waiting) (notification : Gatt.Notification) :
    now.step (.signal (some notification)) =
      (now.react (Ble.takeNotification (some notification), now.memory), []) := by
  simp only [Session.step, waiting]
  rfl

private theorem attends_receive (h : Attends s now) (stage : s.stage = .running now)
    (phase : now.phase = .waiting) {notification : Gatt.Notification}
    {pending : List Gatt.Notification} (channel : s.channel = some (notification :: pending)) :
    Holds (s.turn .receive) := by
  have hwaiting : now.isWaiting = true := by rw [Session.isWaiting, phase]
  have hstep := step_receive phase notification
  have hseen : (s.move now (.signal (some notification))).seen = s.seen := by
    rw [Scene.move, hstep, List.append_nil]
  have hreading : (s.move now (.signal (some notification))).reading = false := by
    rw [Scene.move, Session.awaits_eq none hstep rfl, h.not_reading (by simp [phase])]
    rfl
  have hfetched : s.fetched = none := h.fetched (by simp [phase])
  obtain ⟨fault, hdecodes, hfault⟩ := h.decodes
  obtain rfl := hfault (by rw [phase]; trivial)
  have hawake := h.awake
  rw [phase] at hdecodes hawake
  have hattends : Attends
      { s.move now (.signal (some notification)) with channel := some pending }
      (now.react (Ble.takeNotification (some notification), now.memory)) := by
    by_cases hcounter : notification.characteristic = Gatt.packetCounter
    · have htaken : Ble.takeNotification (M := M) (some notification) = ⟨[], Ble.readMailbox⟩ := by
        simp [Ble.takeNotification, hcounter]
      rw [htaken]
      refine h.taken rfl hreading hfetched ?_ ⟨none, ?_, fun _ => rfl⟩ (by rintro ⟨⟩)
      · rintro op ⟨⟩
        rfl
      · simpa [hseen, Phase.inHand] using hdecodes
    · obtain ⟨events, htaken, hevents⟩ : ∃ events : List (LinkEvent M),
          Ble.takeNotification (some notification) = ⟨events, .wait⟩ ∧ messagesIn events = [] := by
        simp only [Ble.takeNotification, if_neg hcounter]
        split_ifs
        · exact ⟨_, rfl, rfl⟩
        · exact ⟨_, rfl, rfl⟩
      rw [htaken]
      refine h.taken rfl hreading hfetched (by rintro _ ⟨⟩) ⟨none, ?_, fun _ => rfl⟩ fun _ => ?_
      · simpa [hseen, Phase.inHand, hevents] using hdecodes
      · refine (hawake trivial).imp_right fun hannounced => ?_
        rcases hannounced with howed | ⟨n, hmem, hn⟩
        · exact .inl howed
        · rw [channel] at hmem
          rcases List.mem_cons.mp hmem with rfl | hmem
          · exact absurd hn hcounter
          · exact .inr ⟨n, hmem, hn⟩
  simpa [Scene.turn, stage, channel, hwaiting, Holds, Scene.move, hstep] using hattends

private theorem Holds.radio {behind : Scene format} (h : Holds s) (stage : behind.stage = s.stage)
    (untouched : Untouched s → Untouched behind)
    (opened : s.channel.isSome = true → behind.channel.isSome = true)
    (attends : ∀ now, s.stage = .running now → Attends s now → Attends behind now) :
    Holds behind := by
  unfold Holds at h ⊢
  rw [stage]
  cases hstage : s.stage with
  | opening setup =>
    rw [hstage] at h
    exact ⟨untouched h.1, fun has => opened (h.2 has)⟩
  | failed error =>
    rw [hstage] at h
    exact untouched h
  | running now =>
    rw [hstage] at h
    exact attends now hstage h

private theorem holds_turn (h : Holds s) (nonempty : ∀ packet ∈ s.mailbox, packet ≠ [])
    (turn : Turn format) (stays : turn ≠ .act .unhear) : Holds (s.turn turn) := by
  cases turn with
  | append packet =>
    exact h.radio rfl (fun u => ⟨u.reading, u.fetched, u.brought, u.seen⟩) id
      fun now _ attends => attends_append attends packet
  | notify notification =>
    cases hchannel : s.channel with
    | none => simpa only [Scene.turn, hchannel] using h
    | some pending =>
      refine h.radio (by simp [Scene.turn, hchannel]) ?_ (by simp [Scene.turn, hchannel])
        fun now _ attends => attends_notify attends notification
      intro u
      simp only [Scene.turn, hchannel]
      exact ⟨u.reading, u.fetched, u.brought, u.seen⟩
  | openChannel =>
    simp only [Scene.turn]
    split
    · rename_i hasLog hstage
      refine h.radio rfl (fun u => ⟨u.reading, u.fetched, u.brought, u.seen⟩) (fun _ => rfl) ?_
      intro now hrunning
      simp [hstage] at hrunning
    · exact h
  | prepare answer =>
    simp only [Scene.turn]
    split
    · rename_i setup hstage
      rw [Holds, hstage] at h
      exact holds_goOn h.1 h.2 answer
    · exact h
  | fetch =>
    simp only [Scene.turn]
    split_ifs with hfetch
    · obtain ⟨hreading, -⟩ : s.reading = true ∧ s.fetched = none := by simpa using hfetch
      refine h.radio rfl ?_ id fun now _ attends => attends_fetch attends hreading nonempty
      intro u
      simp [u.reading] at hreading
    · exact h
  | arrive =>
    cases hstage : s.stage with
    | running now =>
      cases hfetched : s.fetched with
      | none => simpa only [Scene.turn, hstage, hfetched] using h
      | some value =>
        rw [Holds, hstage] at h
        exact attends_arrive h hstage hfetched
    | _ => simpa only [Scene.turn, hstage] using h
  | receive =>
    cases hstage : s.stage with
    | running now =>
      rcases hchannel : s.channel with _ | (_ | ⟨notification, pending⟩)
      · simpa only [Scene.turn, hstage, hchannel] using h
      · simpa only [Scene.turn, hstage, hchannel] using h
      · cases hphase : now.phase with
        | waiting =>
          rw [Holds, hstage] at h
          exact attends_receive h hstage hphase hchannel
        | _ =>
          have hbusy : now.isWaiting = false := by rw [Session.isWaiting, hphase]
          simpa [Scene.turn, hstage, hchannel, hbusy] using h
    | _ => simpa only [Scene.turn, hstage] using h
  | act action =>
    cases hstage : s.stage with
    | running now =>
      simp only [Scene.turn, hstage]
      split_ifs with hlets
      · rw [Holds, hstage] at h
        exact attends_of_moves h rfl (Session.moves_step now action)
          (fun heq => stays (heq ▸ rfl)) hlets
      · exact h
    | _ => simpa only [Scene.turn, hstage] using h

private theorem packets_granted (s : Scene format) (setup : Ble.Setup) (answer : Gatt.Answer) :
    (s.granted setup answer).packets = s.packets := by
  unfold Scene.granted
  split <;> rfl

private theorem packets_goOn (s : Scene format) (progress : Ble.Progress) :
    (s.goOn progress).packets = s.packets := by
  cases progress <;> rfl

private theorem packets_turn (nonempty : ∀ packet ∈ s.mailbox, packet ≠ []) (turn : Turn format) :
    (s.turn turn).packets = s.packets ++ appended [turn] := by
  cases turn with
  | append packet => simp [Scene.turn, Scene.packets, Scene.arriving, appended]
  | notify notification =>
    cases hchannel : s.channel <;>
      simp [Scene.turn, hchannel, Scene.packets, Scene.arriving, appended]
  | openChannel =>
    simp only [Scene.turn, appended, List.append_nil]
    split <;> rfl
  | prepare answer =>
    simp only [Scene.turn, appended, List.append_nil]
    split
    · rename_i setup hstage
      rw [packets_goOn, packets_granted]
    · rfl
  | fetch =>
    simp only [Scene.turn, appended, List.append_nil]
    split_ifs with hfetch
    · obtain ⟨-, hnone⟩ : s.reading = true ∧ s.fetched = none := by simpa using hfetch
      cases hmailbox : s.mailbox with
      | nil => simp [Scene.packets, Scene.arriving, hnone, hmailbox]
      | cons packet rest =>
        have hpacket := nonempty packet (hmailbox ▸ List.mem_cons_self ..)
        simp [Scene.packets, Scene.arriving, hnone, hmailbox, hpacket]
    · rfl
  | arrive =>
    simp only [Scene.turn, appended, List.append_nil]
    split
    · rename_i now value hstage hfetched
      simp [Scene.packets, Scene.arriving, hfetched, Scene.move]
    · rfl
  | receive =>
    simp only [Scene.turn, appended, List.append_nil]
    split
    · split_ifs <;> rfl
    · rfl
  | act action =>
    simp only [Scene.turn, appended, List.append_nil]
    split
    · split_ifs <;> rfl
    · rfl

private theorem sound_run (turns : List (Turn format))
    (nonempty : ∀ packet ∈ appended turns, packet ≠ []) (stays : .act .unhear ∉ turns) :
    ((Scene.initial format).run turns).packets = appended turns ∧
      Holds ((Scene.initial format).run turns) := by
  induction turns using List.reverseRecOn with
  | nil => exact ⟨rfl, ⟨rfl, rfl, rfl, rfl⟩, fun has => absurd has id⟩
  | append_singleton turns turn ih =>
    rw [appended_append] at nonempty ⊢
    obtain ⟨hpackets, hholds⟩ := ih (fun packet mem => nonempty packet (List.mem_append_left _ mem))
      (fun mem => stays (List.mem_append_left _ mem))
    have hmailbox : ∀ packet ∈ ((Scene.initial format).run turns).mailbox, packet ≠ [] := by
      intro packet mem
      refine nonempty packet (List.mem_append_left _ ?_)
      rw [← hpackets, Scene.packets]
      exact List.mem_append_right _ mem
    have hrun : (Scene.initial format).run (turns ++ [turn]) =
        ((Scene.initial format).run turns).turn turn := by
      simp only [Scene.run, List.foldl_append, List.foldl_cons, List.foldl_nil]
    rw [hrun]
    refine ⟨?_, holds_turn hholds hmailbox turn ?_⟩
    · rw [packets_turn hmailbox, hpackets]
    · rintro rfl
      exact stays (List.mem_append_right _ (List.mem_singleton_self _))

/-- The packets of a radio reach the consumer as messages, in the order in which they came in and
each once, whatever comes between; those that it has not got are in hand, under way to the task, or
in the mailbox. While the task waits, and no notification of a packet is owed or on its way, the
mailbox is empty and the consumer has all messages. -/
theorem delivered_of_mailbox (format : Format M) (turns : List (Turn format))
    (nonempty : ∀ packet ∈ appended turns, packet ≠ []) (stays : .act .unhear ∉ turns) :
    let s := (Scene.initial format).run turns
    s.brought ++ s.arriving ++ s.mailbox = appended turns ∧
    (∃ fault, Decodes format s.brought
      (messagesIn (delivered s.seen) ++ messagesIn s.inHand) fault ∧
      ((∀ packet ∈ appended turns, ∃ m, format.decode packet = .ok m) → fault = none)) ∧
    ∀ session, s.stage = .running session →
      (session.run (List.replicate s.inHand.length .advance)).2 = s.inHand.map .deliver ∧
      (session.phase = .waiting → s.unannounced = false →
        (∀ n ∈ s.channel.getD [], n.characteristic ≠ Gatt.packetCounter) →
          s.mailbox = [] ∧
            Decodes format (appended turns) (messagesIn (delivered s.seen)) none) := by
  intro s
  obtain ⟨hpackets, hholds⟩ : s.packets = appended turns ∧ Holds s := sound_run turns nonempty stays
  refine ⟨hpackets, ?_, ?_⟩
  · have hbrought : s.brought ⊆ appended turns := by
      rw [← hpackets, Scene.packets, List.append_assoc]
      exact List.subset_append_left _ _
    obtain ⟨fault, hdecodes⟩ : ∃ fault,
        Decodes format s.brought (messagesIn (delivered s.seen) ++ messagesIn s.inHand) fault := by
      rw [Holds] at hholds
      cases hstage : s.stage with
      | opening setup =>
        rw [hstage] at hholds
        rw [hholds.1.brought, hholds.1.seen, Scene.inHand, hstage]
        exact ⟨none, .nil⟩
      | failed error =>
        rw [hstage] at hholds
        rw [hholds.brought, hholds.seen, Scene.inHand, hstage]
        exact ⟨none, .nil⟩
      | running session =>
        rw [hstage] at hholds
        obtain ⟨fault, hdecodes, -⟩ := hholds.decodes
        rw [Scene.inHand, hstage]
        exact ⟨fault, hdecodes⟩
    refine ⟨fault, hdecodes, fun decodable => ?_⟩
    exact hdecodes.fault_eq_none fun packet mem => decodable packet (hbrought mem)
  · intro session hstage
    have hattends : Attends s session := by
      rwa [Holds, hstage] at hholds
    refine ⟨?_, fun hphase hannounced hquiet => ?_⟩
    · rw [Scene.inHand, hstage]
      exact Session.run_inHand hattends.hears
    · have hmailbox : s.mailbox = [] := by
        rcases hattends.awake (by rw [hphase]; trivial) with hempty | howed | ⟨n, hmem, hn⟩
        · exact hempty
        · simp [hannounced] at howed
        · exact absurd hn (hquiet n hmem)
      have hfetched := hattends.fetched (by simp [hphase])
      obtain ⟨fault, hdecodes, hfault⟩ := hattends.decodes
      obtain rfl := hfault (by rw [hphase]; trivial)
      refine ⟨hmailbox, ?_⟩
      rw [← hpackets, Scene.packets, Scene.arriving, hmailbox, hfetched]
      simpa [hphase, Phase.inHand] using hdecodes

def crossing : List (Turn Format.raw) :=
  [.append [1], .prepare (.ok .nothing), .prepare (.ok (.listed [Gatt.radioService])),
    .prepare (.ok (.listed Ble.required)), .openChannel, .append [2],
    .notify ⟨Gatt.packetCounter, []⟩, .prepare (.ok (.stream 0)), .prepare (.ok .nothing),
    .act .advance, .fetch, .arrive, .act .advance, .act .advance,
    .fetch, .arrive, .act .advance, .act .advance,
    .fetch, .append [3], .notify ⟨Gatt.logLine, [33]⟩, .notify ⟨Gatt.packetCounter, []⟩, .arrive,
    .act .advance, .receive, .act .advance,
    .fetch, .arrive, .act .advance, .act .advance, .fetch, .arrive, .act .advance,
    .receive, .act .advance, .act .advance, .receive, .act .advance, .fetch, .arrive, .act .advance]

theorem delivered_of_mailbox_crossing :
    ((Scene.initial Format.raw).run crossing).mailbox = [] ∧
      Decodes Format.raw [[1], [2], [3]]
        (messagesIn (delivered ((Scene.initial Format.raw).run crossing).seen)) none := by
  obtain ⟨-, -, h⟩ := delivered_of_mailbox Format.raw crossing (by decide) (by simp [crossing])
  exact (h _ rfl).2 rfl rfl (by decide)

end RadioLink.Link.Mailbox
