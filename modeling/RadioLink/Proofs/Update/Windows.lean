import Mathlib.Data.List.Induction
import RadioLink.Proofs.Update.Chunks

/-!
The windows of a transfer in closed form. What a device has got depends on how often it has asked
before its final report, and each of its reports has one answer that the reports ahead of it
settle. A window whose room cannot be set aside breaks the transfer, and nothing else does.
-/

set_option autoImplicit false
set_option relaxedAutoImplicit false

namespace RadioLink.Update

def chunkCount (size octets : Nat) : Nat := (octets + size - 1) / size

private theorem chunkCount_zero (size : Nat) (positive : 0 < size) : chunkCount size 0 = 0 :=
  Nat.div_eq_of_lt (by omega)

private theorem chunkCount_of_pos {size octets : Nat} (positive : 0 < size) (some : 0 < octets) :
    chunkCount size octets = chunkCount size (octets - size) + 1 := by
  rw [chunkCount, chunkCount]
  rcases Nat.le_total octets size with hle | hle
  · rw [Nat.sub_eq_zero_of_le hle, Nat.div_eq_of_lt (by omega : 0 + size - 1 < size)]
    exact Nat.div_eq_of_lt_le (by omega) (by omega)
  · rw [← Nat.add_div_right _ positive]
    congr 1
    omega

theorem lt_chunkCount_iff {size octets k : Nat} (positive : 0 < size) :
    k < chunkCount size octets ↔ k * size < octets := by
  rw [chunkCount, Nat.lt_iff_add_one_le, Nat.le_div_iff_mul_le positive, Nat.add_one_mul]
  omega

theorem length_chunksUpTo {size : Nat} (positive : 0 < size) (count : Nat) (data : Bytes) :
    (chunksUpTo size count data).length = min count (chunkCount size data.length) := by
  induction count generalizing data with
  | zero => simp [chunksUpTo]
  | succ count ih =>
    cases data with
    | nil => simp [chunksUpTo, chunkCount_zero size positive]
    | cons octet data =>
      rw [chunksUpTo, List.length_cons, ih, List.length_drop,
        chunkCount_of_pos positive (by simp : 0 < (octet :: data).length)]
      omega

theorem take_chunksUpTo {size : Nat} (k count : Nat) (data : Bytes) :
    (chunksUpTo size count data).take k = chunksUpTo size (min k count) data := by
  induction count generalizing k data with
  | zero => simp [chunksUpTo]
  | succ count ih =>
    cases k with
    | zero => simp [chunksUpTo]
    | succ k =>
      cases data with
      | nil => simp [chunksUpTo_nil]
      | cons octet data =>
        rw [chunksUpTo, List.take_succ_cons, ih, Nat.add_min_add_right, chunksUpTo]

theorem getElem_chunksUpTo {size count : Nat} {data : Bytes} {j : Nat}
    (inside : j < (chunksUpTo size count data).length) :
    (chunksUpTo size count data)[j] = (data.drop (j * size)).take size := by
  induction count generalizing data j with
  | zero => simp [chunksUpTo] at inside
  | succ count ih =>
    cases data with
    | nil => simp [chunksUpTo] at inside
    | cons octet data =>
      cases j with
      | zero => simp [chunksUpTo]
      | succ j =>
        have hinside : j < (chunksUpTo size count ((octet :: data).drop size)).length := by
          simpa [chunksUpTo] using inside
        have hshift : (j + 1) * size = size + j * size := by rw [Nat.add_one_mul, Nat.add_comm]
        simp only [chunksUpTo, List.getElem_cons_succ]
        rw [ih hinside, List.drop_drop, hshift]

def requests (states : List DeviceState) : Nat :=
  (states.takeWhile (!·.isFinal)).countP (·.asks)

private theorem requests_snoc (states : List DeviceState) (state : DeviceState) :
    requests (states ++ [state]) =
      requests states + if state.asks && !states.any (·.isFinal) then 1 else 0 := by
  induction states with
  | nil => cases state <;> rfl
  | cons first states ih =>
    cases hfinal : first.isFinal with
    | true => simp [requests, hfinal]
    | false =>
      simp only [requests, List.cons_append, hfinal, Bool.not_false, List.takeWhile_cons_of_pos,
        List.countP_cons, List.any_cons, Bool.false_or] at ih ⊢
      omega

def Step.chunks : Step → List Bytes
  | .send chunks => chunks
  | _ => []

namespace Transfer

def reportEach? (t : Transfer) : List DeviceState → Option (List Step × Transfer)
  | [] => some ([], t)
  | state :: states =>
    (t.report? state).bind fun (step, t) =>
      (t.reportEach? states).map fun (steps, t) => (step :: steps, t)

variable {t now next : Transfer} {data image : Bytes} {size width asked : Nat}
  {states : List DeviceState} {state : DeviceState} {step : Step} {steps : List Step}
  {chunks : List Bytes}

private theorem reportEach?_append (t : Transfer) (states more : List DeviceState) :
    t.reportEach? (states ++ more) =
      (t.reportEach? states).bind fun (steps, t) =>
        (t.reportEach? more).map fun (others, t) => (steps ++ others, t) := by
  induction states generalizing t with
  | nil => simp [reportEach?]
  | cons state states ih =>
    simp only [List.cons_append, reportEach?, ih]
    cases t.report? state with
    | none => rfl
    | some answer =>
      cases hstates : answer.2.reportEach? states <;> simp [hstates, Function.comp_def]

private theorem reportEach?_snoc (t : Transfer) (states : List DeviceState) (state : DeviceState) :
    t.reportEach? (states ++ [state]) =
      (t.reportEach? states).bind fun (steps, t) =>
        (t.report? state).map fun (step, t) => (steps ++ [step], t) := by
  rw [reportEach?_append]
  congr 1
  funext past
  cases hreport : past.2.report? state <;> simp [reportEach?, hreport]

/-- Where a transfer stands behind some reports, and the chunks that it has handed out. -/
structure Behind (data : Bytes) (size width : Nat) (states : List DeviceState)
    (chunks : List Bytes) (now : Transfer) : Prop where
  image : now.image = data
  chunkSize : now.chunkSize = size
  window : now.window = width
  offset : now.offset = min (requests states * width * size) data.length
  finished : now.finished = states.any (·.isFinal)
  chunks : chunks = chunksUpTo size (requests states * width) data

theorem behind_start (positive : 0 < size) (image : Bytes) (width : Nat) :
    ∃ t, start image size width = .ok t ∧ Behind image size (max width 1) [] [] t := by
  refine ⟨⟨image, 0, size, max width 1, false⟩, if_neg (Nat.ne_of_gt positive), rfl, rfl, rfl, ?_,
    rfl, ?_⟩
  · simp [requests]
  · simp [requests, chunksUpTo]

private theorem Behind.along (h : Behind data size width states chunks now)
    (going : states.any (·.isFinal) = false) : now.Along data size width (requests states) :=
  ⟨h.image, h.chunkSize, h.window, h.offset, h.finished.trans going⟩

/-- The one answer to a report: with a final report ahead of it, nothing; a window if it asks for
one and something is left; and the word for every other report. -/
def Answers (size width : Nat) (ahead : List DeviceState) (now : Transfer) (state : DeviceState)
    (step : Step) (next : Transfer) : Prop :=
  if ahead.any (·.isFinal) then step = .wait ∧ next = now
  else match state with
    | .waitingForSize => step = .wait ∧ next = now
    | .erasing => step = .preparing ∧ next = now
    | .readyForChunk | .chunkStored =>
      (step = .stalled ↔ now.remaining = 0) ∧
        (now.remaining ≠ 0 → ∃ window, step = .send window ∧
          window.length = min width (chunkCount size now.remaining))
    | .complete => step = .complete
    | .error => step = .failed

theorem eq_report_of_report? (taken : now.report? state = some (step, next)) :
    now.report state = (step, next) := by
  rw [report?] at taken
  split_ifs at taken
  exact Option.some.inj taken

private theorem Behind.remaining (h : Behind data size width states chunks now) :
    now.remaining = data.length - requests states * width * size := by
  rw [Transfer.remaining, h.image, h.offset]
  omega

private theorem Behind.remaining_add (h : Behind data size width states chunks now) :
    now.remaining + chunks.flatten.length = data.length := by
  rw [h.remaining, h.chunks, flatten_chunksUpTo, List.length_take]
  omega

private theorem Behind.length_nextWindow (positive : 0 < size)
    (h : Behind data size width states chunks now) (going : states.any (·.isFinal) = false) :
    now.nextWindow.length = min width (chunkCount size now.remaining) := by
  rw [(h.along going).nextWindow_eq, length_chunksUpTo positive, List.length_drop, h.remaining]

private theorem Behind.nextWindow_eq_nil_iff (positive : 0 < size) (wide : 0 < width)
    (h : Behind data size width states chunks now) (going : states.any (·.isFinal) = false) :
    now.nextWindow = [] ↔ now.remaining = 0 := by
  rw [← List.length_eq_zero_iff, h.length_nextWindow positive going]
  constructor
  · intro hnone
    by_contra hleft
    have hcount := chunkCount_of_pos positive (Nat.pos_of_ne_zero hleft)
    omega
  · intro hnone
    rw [hnone, chunkCount_zero size positive, Nat.min_zero]

private theorem Behind.stay (h : Behind data size width states chunks now)
    (quiet : (state.asks && !states.any (·.isFinal)) = false)
    (final : (states ++ [state]).any (·.isFinal) = states.any (·.isFinal)) :
    Behind data size width (states ++ [state]) (chunks ++ []) now := by
  have hrequests : requests (states ++ [state]) = requests states := by
    rw [requests_snoc, quiet]
    rfl
  exact ⟨h.image, h.chunkSize, h.window, hrequests ▸ h.offset, h.finished.trans final.symm,
    by rw [List.append_nil, hrequests, h.chunks]⟩

private theorem Behind.request (positive : 0 < size) (wide : 0 < width)
    (h : Behind data size width states chunks now) (going : states.any (·.isFinal) = false)
    (asks : state.asks = true) (final : state.isFinal = false)
    (taken : now.request = (step, next)) :
    Behind data size width (states ++ [state]) (chunks ++ step.chunks) next ∧
      (step = .stalled ↔ now.remaining = 0) ∧
      (now.remaining ≠ 0 → ∃ window, step = .send window ∧
        window.length = min width (chunkCount size now.remaining)) := by
  have hrequests : requests (states ++ [state]) = requests states + 1 := by
    rw [requests_snoc, asks, going]
    rfl
  have hwindow := (h.along going).nextWindow_eq
  have hempty := h.nextWindow_eq_nil_iff positive wide going
  have hstep : step.chunks = now.nextWindow ∧ (step = .stalled ↔ now.nextWindow = []) ∧
      (now.nextWindow ≠ [] → step = .send now.nextWindow) := by
    rw [Transfer.request] at taken
    cases hnext : now.nextWindow with
    | nil =>
      rw [hnext] at taken
      obtain ⟨rfl, -⟩ := Prod.mk.inj taken
      exact ⟨rfl, iff_of_true rfl rfl, fun h => absurd rfl h⟩
    | cons chunk rest =>
      rw [hnext] at taken
      obtain ⟨rfl, -⟩ := Prod.mk.inj taken
      exact ⟨rfl, by simp, fun _ => rfl⟩
  obtain ⟨behind, halong, hrequest⟩ := (h.along going).request
  have hnext : next = behind := by
    rcases hrequest with ⟨-, hrequest⟩ | ⟨chunk, rest, -, hrequest⟩
    all_goals
      rw [taken] at hrequest
      exact (Prod.mk.inj hrequest).2
  subst hnext
  refine ⟨⟨halong.image, halong.chunkSize, halong.window, hrequests ▸ halong.offset, ?_, ?_⟩, ?_,
    ?_⟩
  · rw [halong.unfinished, List.any_append, going]
    simp [final]
  · rw [hstep.1, hwindow, h.chunks, hrequests, chunksUpTo_succ]
  · exact hstep.2.1.trans hempty
  · intro hleft
    exact ⟨now.nextWindow, hstep.2.2 (mt hempty.mp hleft), h.length_nextWindow positive going⟩

private theorem Behind.close (h : Behind data size width states chunks now)
    (final : state.isFinal = true) :
    Behind data size width (states ++ [state]) (chunks ++ []) { now with finished := true } := by
  have hrequests : requests (states ++ [state]) = requests states := by
    have hquiet : state.asks = false := by cases state <;> first | rfl | cases final
    rw [requests_snoc, hquiet]
    rfl
  exact ⟨h.image, h.chunkSize, h.window, hrequests ▸ h.offset, by simp [final],
    by rw [List.append_nil, hrequests, h.chunks]⟩

/-- One report: where the transfer stands behind it, and that its answer is the one it must be. -/
private theorem Behind.take (positive : 0 < size) (wide : 0 < width)
    (h : Behind data size width states chunks now) (taken : now.report? state = some (step, next)) :
    Behind data size width (states ++ [state]) (chunks ++ step.chunks) next ∧
      Answers size width states now state step next := by
  have hreport := eq_report_of_report? taken
  rw [report.eq_def, h.finished] at hreport
  cases hfinal : states.any (·.isFinal) with
  | true =>
    rw [hfinal, if_pos rfl] at hreport
    obtain ⟨rfl, rfl⟩ := Prod.mk.inj hreport
    refine ⟨h.stay (by simp [hfinal]) (by simp [hfinal]), ?_⟩
    rw [Answers.eq_def, if_pos hfinal]
    exact ⟨rfl, rfl⟩
  | false =>
    rw [hfinal, if_neg Bool.false_ne_true] at hreport
    have hgoing : ¬ states.any (·.isFinal) = true := by simp [hfinal]
    rw [Answers.eq_def, if_neg hgoing]
    cases state with
    | waitingForSize | erasing =>
      obtain ⟨rfl, rfl⟩ := Prod.mk.inj hreport
      exact ⟨h.stay rfl (by simp [DeviceState.isFinal]), rfl, rfl⟩
    | readyForChunk | chunkStored => exact h.request positive wide hfinal rfl rfl hreport
    | complete | error =>
      obtain ⟨rfl, rfl⟩ := Prod.mk.inj hreport
      exact ⟨h.close rfl, rfl⟩

private theorem Behind.isAsked_eq (h : Behind data size width states chunks now)
    (state : DeviceState) : now.isAsked state = (state.asks && !states.any (·.isFinal)) := by
  rw [← h.finished]
  cases state <;> simp [isAsked, DeviceState.asks]

private theorem Behind.hasRoom_iff (h : Behind data size width states chunks now) :
    now.hasRoom = true ↔ width * roomPerChunk ≤ roomLimit := by
  rw [hasRoom, h.window, decide_eq_true_iff]

private theorem Behind.report?_eq_none_iff (h : Behind data size width states chunks now) :
    now.report? state = none ↔
      roomLimit < width * roomPerChunk ∧ requests states < requests (states ++ [state]) := by
  rw [report?, h.isAsked_eq, requests_snoc, ← Nat.not_le, ← h.hasRoom_iff]
  cases state.asks && !states.any (·.isFinal) <;> cases now.hasRoom <;> simp

private theorem Behind.takeEach (positive : 0 < size) (wide : 0 < width)
    (h : Behind data size width [] [] t) (taken : t.reportEach? states = some (steps, now)) :
    Behind data size width states (steps.flatMap Step.chunks) now := by
  induction states using List.reverseRecOn generalizing steps now with
  | nil =>
    obtain ⟨rfl, rfl⟩ := Prod.mk.inj (Option.some.inj taken)
    exact h
  | append_singleton states state ih =>
    rw [reportEach?_snoc] at taken
    obtain ⟨⟨past, middle⟩, hpast, hlast⟩ := Option.bind_eq_some_iff.mp taken
    obtain ⟨⟨step, next⟩, hstep, hsteps⟩ := Option.map_eq_some_iff.mp hlast
    obtain ⟨rfl, rfl⟩ := Prod.mk.inj hsteps
    rw [List.flatMap_append, List.flatMap_singleton]
    exact ((ih hpast).take positive wide hstep).1

/-- A transfer breaks at a first request whose window has no room, and only there. -/
theorem Behind.reportEach?_eq_none_iff (positive : 0 < size) (wide : 0 < width)
    (h : Behind data size width [] [] t) :
    t.reportEach? states = none ↔ roomLimit < width * roomPerChunk ∧ 0 < requests states := by
  induction states using List.reverseRecOn with
  | nil => simp [reportEach?, requests]
  | append_singleton states state ih =>
    have hle : requests states ≤ requests (states ++ [state]) := by
      rw [requests_snoc]
      exact Nat.le_add_right _ _
    rw [reportEach?_snoc]
    cases hpast : t.reportEach? states with
    | none =>
      obtain ⟨hroom, hasked⟩ := ih.mp hpast
      exact iff_of_true rfl ⟨hroom, Nat.lt_of_lt_of_le hasked hle⟩
    | some past =>
      have hbefore : ¬ (roomLimit < width * roomPerChunk ∧ 0 < requests states) := by
        rw [← ih, hpast]
        nofun
      rw [Option.bind_some, Option.map_eq_none_iff,
        (h.takeEach positive wide hpast).report?_eq_none_iff]
      omega

private theorem length_reportEach? (taken : t.reportEach? states = some (steps, now)) :
    steps.length = states.length := by
  induction states generalizing t steps with
  | nil =>
    obtain ⟨rfl, rfl⟩ := Prod.mk.inj (Option.some.inj taken)
    rfl
  | cons state states ih =>
    obtain ⟨⟨step, next⟩, -, hrest⟩ := Option.bind_eq_some_iff.mp taken
    obtain ⟨⟨others, last⟩, hothers, hsteps⟩ := Option.map_eq_some_iff.mp hrest
    obtain ⟨rfl, rfl⟩ := Prod.mk.inj hsteps
    rw [List.length_cons, List.length_cons, ih hothers]

private theorem exists_report {ahead later : List DeviceState}
    (taken : t.reportEach? (ahead ++ state :: later) = some (steps, now)) :
    ∃ past middle step next, t.reportEach? ahead = some (past, middle) ∧
      middle.report? state = some (step, next) ∧ steps[ahead.length]? = some step := by
  rw [reportEach?_append] at taken
  obtain ⟨⟨past, middle⟩, hpast, hrest⟩ := Option.bind_eq_some_iff.mp taken
  obtain ⟨⟨others, last⟩, hothers, hsteps⟩ := Option.map_eq_some_iff.mp hrest
  obtain ⟨⟨step, next⟩, hstep, hlater⟩ := Option.bind_eq_some_iff.mp hothers
  obtain ⟨⟨more, final⟩, -, hbehind⟩ := Option.map_eq_some_iff.mp hlater
  obtain ⟨rfl, -⟩ := Prod.mk.inj hsteps
  obtain ⟨rfl, -⟩ := Prod.mk.inj hbehind
  refine ⟨past, middle, step, next, hpast, hstep, ?_⟩
  rw [← length_reportEach? hpast, List.getElem?_append_right (Nat.le_refl _), Nat.sub_self]
  rfl

private theorem getElem_chunksUpTo_eq_slice (positive : 0 < size) {count j : Nat}
    (inside : j < (chunksUpTo size count image).length) :
    (chunksUpTo size count image)[j] =
        (image.take (min ((j + 1) * size) image.length)).drop (j * size) ∧
      (chunksUpTo size count image)[j] ≠ [] := by
  refine ⟨?_, (mem_chunksUpTo positive (List.getElem_mem inside)).1⟩
  rw [getElem_chunksUpTo inside, List.drop_take, List.take_eq_take_iff, List.length_drop,
    Nat.add_one_mul]
  omega

/-- A transfer in closed form, for every image, chunk size, window and sequence of reports. It
breaks exactly if the device asks for a window and the room for a whole window cannot be set aside.
Otherwise the chunks handed out are those of the image from its front, as many windows of them as
the device has asked for ahead of its first final report, and each report has the one answer that
the reports ahead of it settle. -/
theorem windows_closed_form (positive : 0 < size) (image : Bytes) (width : Nat) :
    ∃ t, start image size width = .ok t ∧ ∀ states,
      (t.reportEach? states = none ↔
        roomLimit < max width 1 * roomPerChunk ∧ 0 < requests states) ∧
      ∀ steps now, t.reportEach? states = some (steps, now) →
        let chunks := steps.flatMap Step.chunks
        chunks.flatten = image.take (min image.length (requests states * size * max width 1)) ∧
        (∀ j (inside : j < chunks.length),
          chunks[j] = (image.take (min ((j + 1) * size) image.length)).drop (j * size) ∧
            chunks[j] ≠ []) ∧
        now.remaining + chunks.flatten.length = image.length ∧
        steps.length = states.length ∧
        ∀ ahead state later, states = ahead ++ state :: later →
          ∃ past middle step next, t.reportEach? ahead = some (past, middle) ∧
            middle.report? state = some (step, next) ∧ steps[ahead.length]? = some step ∧
            Answers size (max width 1) ahead middle state step next := by
  obtain ⟨t, hstart, hbehind⟩ := behind_start positive image width
  have hwide : 0 < max width 1 := by omega
  refine ⟨t, hstart, fun states => ⟨hbehind.reportEach?_eq_none_iff positive hwide, ?_⟩⟩
  intro steps now taken chunks
  have hnow : Behind image size (max width 1) states chunks now :=
    hbehind.takeEach positive hwide taken
  refine ⟨?_, ?_, hnow.remaining_add, length_reportEach? taken, ?_⟩
  · rw [hnow.chunks, flatten_chunksUpTo, List.take_eq_take_iff, Nat.mul_right_comm]
    omega
  · rw [hnow.chunks]
    exact fun j inside => getElem_chunksUpTo_eq_slice positive inside
  · rintro ahead state later rfl
    obtain ⟨past, middle, step, next, hpast, hstep, hsteps⟩ := exists_report taken
    exact ⟨past, middle, step, next, hpast, hstep, hsteps,
      ((hbehind.takeEach positive hwide hpast).take positive hwide hstep).2⟩

theorem windows_closed_form_shortChunk :
    let reports : List DeviceState :=
      [.erasing, .readyForChunk, .chunkStored, .chunkStored, .complete, .chunkStored]
    0 < 2 ∧ ∃ t steps now, start [1, 2, 3, 4, 5] 2 2 = .ok t ∧
      t.reportEach? reports = some (steps, now) ∧
      steps = [.preparing, .send [[1, 2], [3, 4]], .send [[5]], .stalled, .complete, .wait] ∧
      (steps.flatMap Step.chunks).flatten =
        [1, 2, 3, 4, 5].take (min 5 (requests reports * 2 * max 2 1)) ∧
      now.remaining + (steps.flatMap Step.chunks).flatten.length = 5 := by
  intro reports
  obtain ⟨t, hstart, hall⟩ := windows_closed_form (by decide : 0 < 2) [1, 2, 3, 4, 5] 2
  obtain rfl : ⟨[1, 2, 3, 4, 5], 0, 2, 2, false⟩ = t := Except.ok.inj hstart
  obtain ⟨hflatten, -, hleft, -, -⟩ := (hall reports).2 _ _ rfl
  exact ⟨by decide, _, _, _, hstart, rfl, rfl, hflatten, hleft⟩

/-- A window of so many chunks that room for it cannot be set aside: the first request breaks the
transfer, although a single chunk is left. -/
theorem window_without_room :
    ∃ t, start [1] 1 288230376151711744 = .ok t ∧ t.reportEach? [.readyForChunk] = none ∧
      t.remaining = 1 ∧ chunkCount 1 t.remaining = 1 :=
  ⟨⟨[1], 0, 1, 288230376151711744, false⟩, rfl, by decide, rfl, rfl⟩

end Transfer

end RadioLink.Update
