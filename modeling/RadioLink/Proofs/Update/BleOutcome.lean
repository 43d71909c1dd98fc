import RadioLink.Proofs.Update.BleCourse

/-!
The outcome of an update over Bluetooth. The first outcome that the device reports decides the
result of the run, nothing is written behind it, and what reports no state changes nothing.
-/

set_option autoImplicit false
set_option relaxedAutoImplicit false

namespace RadioLink.Update.BleUpdater

variable {settings : Config.BleUpdate} {image : Bytes} {notes : List Note} {seen : List Output}
  {actions : List Action} {now next : BleUpdater} {action : Action} {note : Option Note}
  {outputs : List Output}

/-! ### Behind the outcome -/

private def IsOver (u : BleUpdater) : Prop :=
  ∀ run, u.run = some run → run.stage.isLettingGo = true

private theorem over_of_moves (h : now.IsOver) (move : Moves now action note next outputs)
    (once : ∀ other, action ≠ .start other) : next.IsOver ∧ written outputs = [] := by
  cases move with
  | idle | cancel => exact ⟨h, rfl⟩
  | refuse | reject | begin => exact absurd rfl (once _)
  | drop => exact ⟨forall_of_none rfl, by split_ifs <;> rfl⟩
  | scan _ current stage | seek _ current stage | stopScan current stage | connect _ current stage
    | connected _ current stage | discover current stage | openNotifications current stage
    | subscribe _ current stage | invite _ current stage | invited _ current stage
    | hear _ current stage | serve current stage | send _ current stage | sent _ current stage
    | complete current stage =>
    have hover := h _ current
    simp [stage, BleStage.isLettingGo] at hover
  | lose current loses =>
    have hover := h _ current
    simp [loses.isLettingGo] at hover
  | fail current fails =>
    have hover := h _ current
    simp [fails.isLettingGo] at hover
  | disconnect _ current stage =>
    refine ⟨?_, rfl⟩
    rintro run ⟨⟩
    rfl
  | finish => exact ⟨forall_of_none rfl, rfl⟩

private theorem over_run {u : BleUpdater} (h : u.IsOver) (actions : List Action)
    (once : ∀ other, .start other ∉ actions) :
    (u.runEach actions).1.IsOver ∧ written (u.runEach actions).2 = [] := by
  induction actions generalizing u with
  | nil => exact ⟨h, rfl⟩
  | cons action actions ih =>
    obtain ⟨hover, hwritten⟩ := over_of_moves h (moves_step u action) fun other heq =>
      once other (heq ▸ List.mem_cons_self ..)
    obtain ⟨hover', hwritten'⟩ := ih hover fun other mem => once other (List.mem_cons_of_mem _ mem)
    refine ⟨hover', ?_⟩
    rw [runEach_cons, written_append, hwritten, hwritten']
    rfl

theorem Course.isOver (h : Course settings image actions now notes seen)
    (final : ∃ state ∈ states notes, state.isFinal = true) : now.IsOver := by
  intro run current
  obtain ⟨-, hstands⟩ := h.stands current
  obtain ⟨state, hmem, hfinal⟩ := final
  by_contra hopen
  have hgoing : Going notes seen := by
    refine hstands.going fun result => ⟨?_, ?_⟩ <;>
      · intro hstage
        simp [hstage, BleStage.isLettingGo] at hopen
  simp [hgoing.unsettled state hmem] at hfinal

private theorem Moves.unwritten_of_final {state : DeviceState}
    (move : Moves now action (some (.heard state)) next outputs) (final : state.isFinal = true) :
    written outputs = [] := by
  cases move with
  | hear => rfl
  | complete => exact written_letGo _ _ _
  | lose current loses =>
    cases loses with
    | reported =>
      rw [List.nil_append]
      exact written_letGo _ _ _
  | fail current fails => cases fails
  | @serve run transfer n state chunk rest current stage heard window =>
    have hasks := Transfer.asks_of_send window
    cases state with
    | complete | error => cases hasks
    | _ => cases final

private theorem note?_of_states {note : Option Note} {state : DeviceState}
    (h : states note.toList = [state]) : note = some (.heard state) := by
  cases note with
  | none => cases h
  | some note =>
    cases note with
    | heard other =>
      injection h with hother
      rw [hother]
    | _ => cases h

private theorem Course.exists_result (h : Course settings image actions now notes seen)
    (ended : now.IsOver) (kept : .drop ∉ actions) (first second : Gatt.Answer) :
    ∃ result, .finished result ∈ seen ++ (now.runEach [.answer first, .answer second]).2 := by
  obtain ⟨settings, session, current⟩ := now
  cases current with
  | none =>
    cases hresults : results seen with
    | nil => exact absurd (h.2.1 hresults) kept
    | cons result others =>
      have hmem : result ∈ results seen := hresults ▸ List.mem_cons_self ..
      exact ⟨result, List.mem_append_left _ (mem_results.mp hmem)⟩
  | some run =>
    obtain ⟨image, writeLimit, stage⟩ := run
    have hstage := ended _ rfl
    cases stage with
    | unsubscribing result =>
      have hsteps : (BleUpdater.runEach
          ⟨settings, session, some ⟨image, writeLimit, .unsubscribing result⟩⟩
          [.answer first, .answer second]).2 = [.run .disconnect, .finished result] := by
        cases first <;> cases second <;> rfl
      exact ⟨result, List.mem_append_right _ (by simp [hsteps])⟩
    | disconnecting result =>
      have hsteps : (BleUpdater.runEach
          ⟨settings, session, some ⟨image, writeLimit, .disconnecting result⟩⟩
          [.answer first, .answer second]).2 = [.finished result] := by
        cases first <;> cases second <;> rfl
      exact ⟨result, List.mem_append_right _ (by simp [hsteps])⟩
    | _ => cases hstage

/-! ### What is not heard -/

/-- A notification of another characteristic, without an octet, or with a first octet that stands
for no state. -/
def Action.isNoise : Action → Bool
  | .notification (some n) =>
    n.characteristic != Gatt.updateStatus || n.value.head?.all fun octet => 5 < octet.toNat
  | _ => false

private theorem reported?_of_noise {n : Gatt.Notification}
    (noise : Action.isNoise (.notification (some n)) = true) : reported? n = none := by
  rw [Action.isNoise, Bool.or_eq_true] at noise
  rw [reported?]
  rcases noise with hother | hvalue
  · rw [if_neg (by simpa using hother)]
  · split_ifs
    · cases hhead : n.value.head? with
      | none => rfl
      | some octet =>
        have hoctet : 5 < octet.toNat := by simpa [hhead] using hvalue
        exact List.getElem?_eq_none hoctet
    · rfl

private theorem step_noise (u : BleUpdater) {action : Action} (noise : action.isNoise = true) :
    u.step action = (u, []) := by
  cases action with
  | notification n =>
    cases n with
    | none => cases noise
    | some n =>
      obtain ⟨settings, session, current⟩ := u
      cases current with
      | none => rfl
      | some run =>
        obtain ⟨image, writeLimit, stage⟩ := run
        cases stage with
        | listening transfer => simp only [step, listen, reported?_of_noise noise]
        | _ => rfl
  | _ => cases noise

/-- What a run does is not changed by notifications that report no state. -/
private theorem runEach_filter (u : BleUpdater) (actions : List Action) :
    u.runEach (actions.filter fun action => !action.isNoise) = u.runEach actions := by
  induction actions generalizing u with
  | nil => rfl
  | cons action actions ih =>
    cases hnoise : action.isNoise with
    | false => simp only [List.filter_cons, hnoise, Bool.not_false, if_true, runEach_cons, ih]
    | true =>
      simp only [List.filter_cons, hnoise, Bool.not_true, Bool.false_eq_true, if_false,
        runEach_cons, ih,
        step_noise u hnoise, List.nil_append]

/-! ### The outcome -/

private theorem find?_isFinal_append {before : List DeviceState} {final : DeviceState}
    (unsettled : ∀ state ∈ before, state.isFinal = false) (settled : final.isFinal = true) :
    (before ++ [final]).find? DeviceState.isFinal = some final := by
  have hbefore : before.find? DeviceState.isFinal = none :=
    List.find?_eq_none.mpr fun state mem => by simp [unsettled state mem]
  rw [List.find?_append, hbefore, Option.none_or, List.find?_cons_of_pos settled]

theorem Settles.ok_iff {result : Except LinkError Unit} (h : Settles notes result) :
    result = .ok () ↔ (states notes).find? DeviceState.isFinal = some .complete := by
  cases h with
  | complete unsettled last =>
    rw [last, find?_isFinal_append unsettled rfl]
    exact iff_of_true rfl rfl
  | reported unsettled last =>
    rw [last, find?_isFinal_append unsettled rfl]
    exact iff_of_false nofun nofun
  | broke unsettled | other unsettled =>
    have hnone : (states notes).find? DeviceState.isFinal = none :=
      List.find?_eq_none.mpr fun state mem => by simp [unsettled state mem]
    rw [hnone]
    exact iff_of_false nofun nofun

private theorem Settles.reported_iff {result : Except LinkError Unit} (h : Settles notes result) :
    result = .error .deviceReportedError ↔
      (states notes).find? DeviceState.isFinal = some .error ∨
        .broke .deviceReportedError ∈ notes := by
  rw [← mem_failures]
  cases h with
  | complete unsettled last unbroken =>
    rw [last, find?_isFinal_append unsettled rfl, unbroken]
    exact iff_of_false nofun (by rintro (h | h) <;> cases h)
  | reported unsettled last =>
    rw [last, find?_isFinal_append unsettled rfl]
    exact iff_of_true rfl (.inl rfl)
  | @broke error unsettled broken =>
    have hnone : (states notes).find? DeviceState.isFinal = none :=
      List.find?_eq_none.mpr fun state mem => by simp [unsettled state mem]
    rw [hnone, broken, List.mem_singleton]
    constructor
    · rintro ⟨⟩
      exact .inr rfl
    · rintro (h | h)
      · cases h
      · rw [h]
  | other unsettled unbroken other =>
    have hnone : (states notes).find? DeviceState.isFinal = none :=
      List.find?_eq_none.mpr fun state mem => by simp [unsettled state mem]
    rw [hnone, unbroken]
    refine iff_of_false (fun heq => ?_) (by rintro (h | h) <;> cases h)
    injection heq with heq
    exact other heq

private theorem Accounts.written {values : List Bytes} (h : Accounts settings image notes values) :
    values = [] ∨ ∃ limit chunks, limits notes = [limit] ∧ values = invitation image :: chunks ∧
      chunks.flatten <+: image ∧ (∀ chunk ∈ chunks, chunk ≠ [] ∧ chunk.length ≤ limit - 3) ∧
      chunks.length ≤ max 1 settings.chunksPerAck.toNat * asked notes := by
  rcases h with rfl | ⟨limit, chunks, hlimits, hfits, rfl, behind, hdue⟩
  · exact .inl rfl
  · refine .inr ⟨limit, chunks, hlimits, rfl, ?_, ?_, ?_⟩
    · have hflatten : chunks.flatten ++ behind.flatten =
          image.take (asked notes * width settings * (limit - Config.writeOverhead)) := by
        rw [← List.flatten_append, hdue, due, flatten_chunksUpTo]
      exact List.IsPrefix.trans ⟨_, hflatten⟩ (List.take_prefix _ image)
    · intro chunk mem
      exact mem_chunksUpTo hfits (hdue ▸ List.mem_append_left behind mem)
    · have hlength : (chunks ++ behind).length ≤ asked notes * width settings := by
        rw [hdue]
        exact length_chunksUpTo_le ..
      rw [List.length_append, width, Nat.mul_comm, Nat.max_comm] at hlength
      exact Nat.le_of_add_right_le hlength

private theorem invitation_eq (image : Bytes) :
    invitation image =
      Bytes.ofString ("0 0 " ++ Text.decimal image.length ++ " " ++ sha256Hex image) := by
  have hzero : Text.decimal 0 = "0" := by
    rw [Text.decimal, Text.decimalDigits]
    rfl
  have hfront : Text.decimal Invitation.flashCommand.toNat ++ " " ++
      Text.decimal (0 : UInt16).toNat ++ " " = "0 0 " := by
    rw [show Invitation.flashCommand.toNat = 0 from rfl,
      show (0 : UInt16).toNat = 0 from rfl, hzero]
    rfl
  rw [invitation, Invitation.toBytes, Invitation.text]
  simp only [Invitation.flash, hfront]

/-- An update over Bluetooth, whatever its device does and wherever it fails. It writes the
invitation once and then chunks, each of them fits, together they are a front of the image, and
there are no more of them than the device has asked for. Nothing is written behind the outcome that
the device reports, and a run that is not given up ends then. It ends well exactly if that outcome
is a success, and with a device error exactly if it is an error, or if an operation has failed with
just that. What reports no state has no part in any of this. -/
theorem update_follows_reports {u : BleUpdater} {image : Bytes} (idle : u.session.running = false)
    (nonempty : image ≠ []) (actions more : List Action)
    (once : ∀ other, .start other ∉ actions ++ more) :
    let all := .start image :: actions
    let notes := u.history all
    let seen := (u.runEach all).2
    (written seen = [] ∨ ∃ limit chunks, limits notes = [limit] ∧
      written seen = Bytes.ofString
        ("0 0 " ++ Text.decimal image.length ++ " " ++ sha256Hex image) :: chunks ∧
      chunks.flatten <+: image ∧ (∀ chunk ∈ chunks, chunk ≠ [] ∧ chunk.length ≤ limit - 3) ∧
      chunks.length ≤
        max 1 u.settings.chunksPerAck.toNat * (states notes).countP DeviceState.asks) ∧
    (∀ report final, states (u.history (all ++ [report])) = states notes ++ [final] →
      final.isFinal = true → written (u.runEach (all ++ report :: more)).2 = written seen) ∧
    ((∃ state ∈ states notes, state.isFinal = true) → .drop ∉ actions →
      ∀ first second, ∃ result,
        .finished result ∈ (u.runEach (all ++ [.answer first, .answer second])).2) ∧
    (∀ result, .finished result ∈ seen →
      (result = .ok () ↔ (states notes).find? DeviceState.isFinal = some .complete) ∧
      (result = .error .deviceReportedError ↔
        (states notes).find? DeviceState.isFinal = some .error ∨
          .broke .deviceReportedError ∈ notes)) ∧
    u.runEach (all.filter fun action => !action.isNoise) = u.runEach all := by
  intro all notes seen
  have honce : ∀ other, .start other ∉ actions := fun other mem =>
    once other (List.mem_append_left _ mem)
  have hcourse := course_run idle nonempty actions honce
  refine ⟨?_, ?_, ?_, ?_, runEach_filter u all⟩
  · rw [← invitation_eq]
    exact hcourse.accounts.written
  · intro report final hstates hfinal
    rw [history_snoc, states_append, List.append_cancel_left_eq] at hstates
    -- The step that takes the outcome writes nothing, and leaves nothing that could.
    have hnote := note?_of_states hstates
    have hreport : ∀ other, report ≠ .start other := by
      rintro other rfl
      cases hnote
    have hmove := moves_step (u.runEach all).1 report
    have hnext := course_of_moves hcourse hmove hreport
    have hover := hnext.isOver ⟨final, by simp [hnote], hfinal⟩
    rw [hnote] at hmove
    have hbehind :=
      (over_run hover more fun other mem => once other (List.mem_append_right _ mem)).2
    have hsplit : (u.runEach (all ++ report :: more)).2 =
        seen ++ (((u.runEach all).1.step report).2 ++
          (((u.runEach all).1.step report).1.runEach more).2) := by
      rw [runEach_append]
      rfl
    rw [hsplit, written_append, written_append, hmove.unwritten_of_final hfinal, hbehind,
      List.append_nil, List.append_nil]
  · intro final kept first second
    rw [runEach_append]
    exact hcourse.exists_result (hcourse.isOver final) (by simpa using kept) first second
  · intro result mem
    have hsettles := hcourse.settles (mem_results.mpr mem)
    exact ⟨hsettles.ok_iff, hsettles.reported_iff⟩

def invited (writeLimit : Nat) : List Action :=
  [.answer (.ok .nothing), .answer (.ok .nothing), .sighting (some ⟨"radio", none, none⟩),
    .answer (.ok .nothing), .answer (.ok (.peripheral writeLimit)),
    .answer (.ok (.listed [Gatt.updateService])), .answer (.ok (.listed required)),
    .answer (.ok .nothing), .answer (.ok .nothing)]

def satisfied : List Action :=
  invited 8 ++ [.answer (.ok .nothing), .notification (some ⟨Gatt.updateStatus, []⟩),
    .notification (some ⟨Gatt.updateStatus, [2]⟩), .answer (.ok .nothing),
    .notification (some ⟨Gatt.updateStatus, [6]⟩)]

theorem update_follows_reports_satisfied :
    let u := initial {}
    let all := .start [1, 2, 3, 4, 5, 6, 7] :: satisfied
    let report : Action := .notification (some ⟨Gatt.updateStatus, [4]⟩)
    (∀ more, (∀ other, .start other ∉ satisfied ++ more) →
      written (u.runEach (all ++ report :: more)).2 =
        [invitation [1, 2, 3, 4, 5, 6, 7], [1, 2, 3, 4, 5]]) ∧
    (∃ result, .finished result ∈
      (u.runEach (all ++ [report] ++ [.answer (.ok .nothing), .answer (.ok .nothing)])).2) ∧
    (all.filter fun action => !action.isNoise).length + 2 = all.length := by
  intro u all report
  have hwritten : written (u.runEach all).2 =
      [invitation [1, 2, 3, 4, 5, 6, 7], [1, 2, 3, 4, 5]] := rfl
  have hstates : states (u.history (all ++ [report])) = [.readyForChunk, .complete] := rfl
  refine ⟨fun more once => ?_, ?_, rfl⟩
  · obtain ⟨-, hend, -⟩ :=
      update_follows_reports (u := u) rfl (List.cons_ne_nil _ _) satisfied more once
    rw [hend report .complete hstates rfl, hwritten]
  · obtain ⟨-, -, hend, -⟩ := update_follows_reports (u := u) rfl
      (List.cons_ne_nil 1 [2, 3, 4, 5, 6, 7]) (satisfied ++ [report]) []
      (by simp [satisfied, invited, report])
    exact hend ⟨.complete, List.mem_of_mem_getLast? (congrArg List.getLast? hstates), rfl⟩
      (by simp [satisfied, invited, report]) _ _

/-- A device error that the write of the invitation fails with is the result of the run, and the
device has reported nothing. -/
theorem reported_without_report :
    let u := initial {}
    let all := .start [1] :: invited 8 ++
      [.answer (.error .deviceReportedError), .answer (.ok .nothing), .answer (.ok .nothing)]
    results (u.runEach all).2 = [.error .deviceReportedError] ∧ states (u.history all) = [] :=
  ⟨rfl, rfl⟩

end RadioLink.Update.BleUpdater
