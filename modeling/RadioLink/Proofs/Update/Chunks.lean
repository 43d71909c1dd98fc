import Mathlib.Data.List.Basic
import RadioLink.Update.Transfer

/-!
How an image is handed out. The chunks of a number of windows are those of one window that is as
long as all of them, so what a device has got depends on how often it has asked, and on nothing
else.
-/

set_option autoImplicit false
set_option relaxedAutoImplicit false

namespace RadioLink.Update

theorem chunksUpTo_nil (size count : Nat) : chunksUpTo size count [] = [] := by
  cases count <;> rfl

theorem flatten_chunksUpTo (size count : Nat) (data : Bytes) :
    (chunksUpTo size count data).flatten = data.take (count * size) := by
  induction count generalizing data with
  | zero => simp [chunksUpTo]
  | succ count ih =>
    cases data with
    | nil => simp [chunksUpTo]
    | cons octet data =>
      rw [chunksUpTo, List.flatten_cons, ih, ← List.take_add, Nat.add_one_mul, Nat.add_comm]

private theorem chunksUpTo_add (size first second : Nat) (data : Bytes) :
    chunksUpTo size (first + second) data =
      chunksUpTo size first data ++ chunksUpTo size second (data.drop (first * size)) := by
  induction first generalizing data with
  | zero => simp [chunksUpTo]
  | succ first ih =>
    rw [Nat.succ_add]
    cases data with
    | nil => simp [chunksUpTo_nil]
    | cons octet data =>
      rw [chunksUpTo, chunksUpTo, ih, List.drop_drop, List.cons_append, Nat.add_one_mul,
        Nat.add_comm size]

theorem length_chunksUpTo_le (size count : Nat) (data : Bytes) :
    (chunksUpTo size count data).length ≤ count := by
  induction count generalizing data with
  | zero => simp [chunksUpTo]
  | succ count ih =>
    cases data with
    | nil => simp [chunksUpTo]
    | cons octet data =>
      rw [chunksUpTo, List.length_cons]
      exact Nat.succ_le_succ (ih _)

theorem mem_chunksUpTo {size : Nat} (positive : 0 < size) {count : Nat} {data chunk : Bytes}
    (mem : chunk ∈ chunksUpTo size count data) : chunk ≠ [] ∧ chunk.length ≤ size := by
  induction count generalizing data with
  | zero => simp [chunksUpTo] at mem
  | succ count ih =>
    cases data with
    | nil => simp [chunksUpTo] at mem
    | cons octet data =>
      rcases List.mem_cons.mp mem with rfl | mem
      · refine ⟨?_, ?_⟩
        · cases size with
          | zero => exact absurd positive (Nat.lt_irrefl 0)
          | succ size => simp
        · rw [List.length_take]
          exact Nat.min_le_left _ _
      · exact ih mem

namespace DeviceState

def asks : DeviceState → Bool
  | .readyForChunk | .chunkStored => true
  | _ => false

def isFinal : DeviceState → Bool
  | .complete | .error => true
  | _ => false

end DeviceState

namespace Transfer

/-- A transfer that goes on, of which so many windows have been asked for. -/
structure Along (t : Transfer) (data : Bytes) (size width asked : Nat) : Prop where
  image : t.image = data
  chunkSize : t.chunkSize = size
  window : t.window = width
  offset : t.offset = min (asked * width * size) data.length
  unfinished : t.finished = false

variable {t : Transfer} {data : Bytes} {size width asked : Nat}

theorem along_start (h : start data size width = .ok t) :
    0 < size ∧ t.Along data size (max width 1) 0 := by
  rw [start] at h
  split_ifs at h with hsize
  cases h
  exact ⟨Nat.pos_of_ne_zero hsize, rfl, rfl, rfl, by simp, rfl⟩

theorem Along.nextWindow_eq (h : t.Along data size width asked) :
    t.nextWindow = chunksUpTo size width (data.drop (asked * width * size)) := by
  have hdrop : data.drop t.offset = data.drop (asked * width * size) := by
    rw [h.offset]
    rcases Nat.le_total (asked * width * size) data.length with hle | hle
    · rw [Nat.min_eq_left hle]
    · rw [Nat.min_eq_right hle, List.drop_of_length_le hle, List.drop_length]
  rw [nextWindow, h.chunkSize, h.window, h.image, hdrop]

theorem chunksUpTo_succ (asked : Nat) :
    chunksUpTo size ((asked + 1) * width) data =
      chunksUpTo size (asked * width) data ++
        chunksUpTo size width (data.drop (asked * width * size)) := by
  rw [Nat.add_one_mul, chunksUpTo_add]

private theorem Along.offset_add (h : t.Along data size width asked) :
    t.offset + (chunksUpTo size width (data.drop (asked * width * size))).flatten.length =
      min ((asked + 1) * width * size) data.length := by
  have hproduct : (asked + 1) * width * size = asked * width * size + width * size := by
    rw [Nat.add_one_mul, Nat.add_mul]
  rw [flatten_chunksUpTo, List.length_take, List.length_drop, h.offset, hproduct]
  omega

theorem Along.request (h : t.Along data size width asked) :
    ∃ behind : Transfer, behind.Along data size width (asked + 1) ∧
      ((t.nextWindow = [] ∧ t.request = (.stalled, behind)) ∨
        ∃ chunk rest, t.nextWindow = chunk :: rest ∧
          t.request = (.send (chunk :: rest), behind)) := by
  have hoffset := h.offset_add
  rw [← h.nextWindow_eq] at hoffset
  cases hwindow : t.nextWindow with
  | nil =>
    rw [hwindow, List.flatten_nil, List.length_nil, Nat.add_zero] at hoffset
    exact ⟨t, ⟨h.image, h.chunkSize, h.window, hoffset, h.unfinished⟩,
      .inl ⟨rfl, by rw [Transfer.request, hwindow]⟩⟩
  | cons chunk rest =>
    rw [hwindow] at hoffset
    exact ⟨{ t with offset := t.offset + (chunk :: rest).flatten.length },
      ⟨h.image, h.chunkSize, h.window, hoffset, h.unfinished⟩,
      .inr ⟨chunk, rest, rfl, by rw [Transfer.request, hwindow]⟩⟩

private theorem Along.report (h : t.Along data size width asked) (state : DeviceState) :
    (state.isFinal = false ∧ state.asks = false ∧
        (t.report state = (.wait, t) ∨ t.report state = (.preparing, t))) ∨
      (state.asks = true ∧ ∃ behind : Transfer, behind.Along data size width (asked + 1) ∧
        ((t.nextWindow = [] ∧ t.report state = (.stalled, behind)) ∨
          ∃ chunk rest, t.nextWindow = chunk :: rest ∧
            t.report state = (.send (chunk :: rest), behind))) ∨
      (state = .complete ∧ (t.report state).1 = .complete) ∨
      (state = .error ∧ (t.report state).1 = .failed) := by
  have hgoing : ¬ t.finished = true := by simp [h.unfinished]
  simp only [Transfer.report, if_neg hgoing]
  cases state with
  | waitingForSize => exact .inl ⟨rfl, rfl, .inl rfl⟩
  | erasing => exact .inl ⟨rfl, rfl, .inr rfl⟩
  | readyForChunk | chunkStored => exact .inr (.inl ⟨rfl, h.request⟩)
  | complete => exact .inr (.inr (.inl ⟨rfl, rfl⟩))
  | error => exact .inr (.inr (.inr ⟨rfl, rfl⟩))

variable {state : DeviceState} {chunk : Bytes} {rest : List Bytes}

theorem asks_of_send (window : (t.report state).1 = .send (chunk :: rest)) :
    state.asks = true := by
  simp only [report] at window
  cases state with
  | readyForChunk | chunkStored => rfl
  | _ => split_ifs at window

theorem Along.quiet (h : t.Along data size width asked)
    (quiet : (t.report state).1 = .wait ∨ (t.report state).1 = .preparing ∨
      (t.report state).1 = .stalled ∨ (t.report state).1 = .send []) :
    (state.isFinal = false ∧ state.asks = false ∧
        (t.report state).2.Along data size width asked) ∨
      (state.asks = true ∧ t.nextWindow = [] ∧
        (t.report state).2.Along data size width (asked + 1)) := by
  rcases h.report state with ⟨hfinal, hasks, hreport | hreport⟩ |
    ⟨hasks, behind, halong, ⟨hnone, hreport⟩ | ⟨chunk, rest, -, hreport⟩⟩ | ⟨-, hreport⟩ |
    ⟨-, hreport⟩
  · exact .inl ⟨hfinal, hasks, hreport ▸ h⟩
  · exact .inl ⟨hfinal, hasks, hreport ▸ h⟩
  · exact .inr ⟨hasks, hnone, hreport ▸ halong⟩
  · simp [hreport] at quiet
  · simp [hreport] at quiet
  · simp [hreport] at quiet

theorem Along.serve (h : t.Along data size width asked)
    (window : (t.report state).1 = .send (chunk :: rest)) :
    state.asks = true ∧ t.nextWindow = chunk :: rest ∧
      (t.report state).2.Along data size width (asked + 1) := by
  rcases h.report state with ⟨-, -, hreport | hreport⟩ |
    ⟨hasks, behind, halong, ⟨-, hreport⟩ | ⟨first, others, hwindow, hreport⟩⟩ | ⟨-, hreport⟩ |
    ⟨-, hreport⟩
  · simp [hreport] at window
  · simp [hreport] at window
  · simp [hreport] at window
  · obtain ⟨rfl, rfl⟩ : first = chunk ∧ others = rest := by simpa [hreport] using window
    exact ⟨hasks, hwindow, hreport ▸ halong⟩
  · simp [hreport] at window
  · simp [hreport] at window

theorem Along.eq_complete (h : t.Along data size width asked)
    (complete : (t.report state).1 = .complete) : state = .complete := by
  rcases h.report state with ⟨-, -, hreport | hreport⟩ |
    ⟨-, behind, -, ⟨-, hreport⟩ | ⟨chunk, rest, -, hreport⟩⟩ | ⟨hstate, -⟩ | ⟨-, hreport⟩
  · simp [hreport] at complete
  · simp [hreport] at complete
  · simp [hreport] at complete
  · simp [hreport] at complete
  · exact hstate
  · simp [hreport] at complete

theorem Along.eq_error (h : t.Along data size width asked)
    (failed : (t.report state).1 = .failed) : state = .error := by
  rcases h.report state with ⟨-, -, hreport | hreport⟩ |
    ⟨-, behind, -, ⟨-, hreport⟩ | ⟨chunk, rest, -, hreport⟩⟩ | ⟨-, hreport⟩ | ⟨hstate, -⟩
  · simp [hreport] at failed
  · simp [hreport] at failed
  · simp [hreport] at failed
  · simp [hreport] at failed
  · simp [hreport] at failed
  · exact hstate

end Transfer

end RadioLink.Update
