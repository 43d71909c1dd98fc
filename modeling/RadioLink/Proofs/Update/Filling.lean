import Mathlib.Logic.Relation
import RadioLink.Proofs.Update.Windows

/-!
How a window is filled. The chunks go into it one by one, and every number on the way is a machine
word. As long as anything of the image is left the offset stands at the front of a chunk, so the sum
of an offset and a chunk size is never beyond a word, however long the chunks are. Every pass hands
out octets of the image, so what is left shrinks, and in the end the window holds what a request
hands out.
-/

set_option autoImplicit false
set_option relaxedAutoImplicit false

namespace RadioLink.Update

/-! ### The loop -/

def wordSum? (a b : Nat) : Option Nat :=
  if a + b < UInt64.size then some (a + b) else none

def wordDifference? (a b : Nat) : Option Nat :=
  if b ≤ a then some (a - b) else none

def slice? (octets : Bytes) (first stop : Nat) : Option Bytes :=
  if first ≤ stop ∧ stop ≤ octets.length then some ((octets.take stop).drop first) else none

/-- A window on its way: the transfer as it stands between two chunks, and the chunks so far. -/
structure Filling where
  transfer : Transfer
  chunks : List Bytes
  deriving DecidableEq, Repr

namespace Filling

/-- What one pass comes to: nothing more goes into the window; or it breaks, on a number that is no
word or a place outside the image; or one more chunk is in the window. -/
inductive Pass where
  | filled
  | broken
  | added (behind : Filling)
  deriving DecidableEq, Repr

def begun (t : Transfer) : Filling := ⟨t, []⟩

def add? (f : Filling) : Option Filling :=
  (wordSum? f.transfer.offset f.transfer.chunkSize).bind fun sum =>
    let stop := min sum f.transfer.image.length
    (slice? f.transfer.image f.transfer.offset stop).map fun chunk =>
      ⟨{ f.transfer with offset := stop }, f.chunks ++ [chunk]⟩

/-- One pass of the loop. What is left is only counted if there is a place in the window. -/
def pass (f : Filling) : Pass :=
  if f.chunks.length < f.transfer.window then
    match wordDifference? f.transfer.image.length f.transfer.offset with
    | none => .broken
    | some 0 => .filled
    | some (_ + 1) => f.add?.elim .broken .added
  else .filled

/-- Some passes, each of which adds a chunk, lead from one filling to another. -/
def LeadsTo : Filling → Filling → Prop :=
  Relation.ReflTransGen fun f behind => f.pass = .added behind

/-- What a request is answered with once its window is filled. -/
def answer (f : Filling) : Step :=
  match f.chunks with
  | [] => .stalled
  | chunk :: rest => .send (chunk :: rest)

/-- A chunk that is added: the sum that its end is taken from is a word; its end is behind its front
and inside the image, and the octets between them go into the window; and less is left behind it. -/
structure Adds (f behind : Filling) : Prop where
  sum : f.transfer.offset + f.transfer.chunkSize < UInt64.size
  ahead : f.transfer.offset < behind.transfer.offset
  inside : behind.transfer.offset ≤ f.transfer.image.length
  chunks : behind.chunks =
    f.chunks ++ [(f.transfer.image.take behind.transfer.offset).drop f.transfer.offset]
  less : behind.transfer.remaining < f.transfer.remaining

end Filling

/-! ### Where offsets stand -/

namespace Transfer

/-- The offset of a transfer is inside its image, and stands at the front of a chunk as long as
anything is left. -/
structure Aligned (data : Bytes) (size : Nat) (t : Transfer) : Prop where
  image : t.image = data
  chunkSize : t.chunkSize = size
  inside : t.offset ≤ data.length
  multiple : 0 < t.remaining → size ∣ t.offset

variable {t : Transfer} {data : Bytes} {size : Nat}

private theorem exists_start (positive : 0 < size) (data : Bytes) (window : Nat) :
    ∃ t, start data size window = .ok t ∧ t.Aligned data size :=
  ⟨⟨data, 0, size, max window 1, false⟩, if_neg (Nat.ne_of_gt positive), rfl, rfl, Nat.zero_le _,
    fun _ => Nat.dvd_zero _⟩

private theorem offset_lt (left : 0 < t.remaining) : t.offset < t.image.length := by
  rw [remaining] at left
  omega

private theorem Aligned.sum_lt (h : t.Aligned data size) (word : size < UInt64.size)
    (stored : data.length ≤ roomLimit) (left : 0 < t.remaining) :
    t.offset + t.chunkSize < UInt64.size := by
  rw [h.chunkSize]
  rcases Nat.eq_zero_or_pos t.offset with hfront | hbehind
  · rwa [hfront, Nat.zero_add]
  · -- A whole chunk has been handed out, so neither it nor the offset is longer than the image.
    have hsize : size ≤ t.offset := Nat.le_of_dvd hbehind (h.multiple left)
    have hoffset : t.offset < data.length := h.image ▸ offset_lt left
    simp only [roomLimit, UInt64.size] at stored ⊢
    omega

end Transfer

/-! ### Passes -/

namespace Filling

open Transfer (roomLimit)

private def next (f : Filling) : Filling :=
  let stop := min (f.transfer.offset + f.transfer.chunkSize) f.transfer.image.length
  ⟨{ f.transfer with offset := stop },
    f.chunks ++ [(f.transfer.image.take stop).drop f.transfer.offset]⟩

@[simp] theorem offset_next (f : Filling) :
    f.next.transfer.offset =
      min (f.transfer.offset + f.transfer.chunkSize) f.transfer.image.length := rfl

@[simp] theorem remaining_next (f : Filling) :
    f.next.transfer.remaining = f.transfer.image.length - f.next.transfer.offset := rfl

section

variable {f behind : Filling} {data : Bytes} {size : Nat} (word : size < UInt64.size)
  (stored : data.length ≤ roomLimit) (h : f.transfer.Aligned data size)

include h in
private theorem aligned_next (left : 0 < f.transfer.remaining) :
    f.next.transfer.Aligned data size := by
  refine ⟨h.image, h.chunkSize, ?_, ?_⟩
  · rw [offset_next, ← h.image]
    exact Nat.min_le_right _ _
  · intro hleft
    -- Something is left behind the chunk, so it is a whole one.
    have hwhole : f.next.transfer.offset = f.transfer.offset + size := by
      rw [remaining_next, offset_next, h.chunkSize] at hleft
      rw [offset_next, h.chunkSize]
      omega
    rw [hwhole]
    exact Nat.dvd_add (h.multiple left) (Nat.dvd_refl size)

include word stored h

private theorem adds_next (positive : 0 < size) (left : 0 < f.transfer.remaining) :
    f.Adds f.next := by
  have hoffset := Transfer.offset_lt left
  have hahead : f.transfer.offset < f.next.transfer.offset := by
    rw [offset_next, h.chunkSize]
    omega
  refine ⟨h.sum_lt word stored left, hahead, Nat.min_le_right _ _, rfl, ?_⟩
  rw [remaining_next, Transfer.remaining]
  omega

private theorem add?_eq (left : 0 < f.transfer.remaining) : f.add? = some f.next := by
  have hoffset := Transfer.offset_lt left
  have hslice : f.transfer.offset ≤
        min (f.transfer.offset + f.transfer.chunkSize) f.transfer.image.length ∧
      min (f.transfer.offset + f.transfer.chunkSize) f.transfer.image.length ≤
        f.transfer.image.length := by
    omega
  simp only [add?, wordSum?, if_pos (h.sum_lt word stored left), Option.bind_some, slice?,
    if_pos hslice, Option.map_some, next]

private theorem pass_eq :
    f.pass =
      if f.chunks.length < f.transfer.window ∧ 0 < f.transfer.remaining then .added f.next
      else .filled := by
  have hinside : f.transfer.offset ≤ f.transfer.image.length := h.image ▸ h.inside
  have hcount : wordDifference? f.transfer.image.length f.transfer.offset =
      some f.transfer.remaining := if_pos hinside
  rw [pass, hcount]
  by_cases hplace : f.chunks.length < f.transfer.window
  · rw [if_pos hplace]
    cases hleft : f.transfer.remaining with
    | zero => rw [if_neg (by omega)]
    | succ left =>
      rw [if_pos ⟨hplace, by omega⟩, add?_eq word stored h (by omega), Option.elim_some]
  · rw [if_neg hplace, if_neg fun both => hplace both.1]

private theorem pass_eq_added (added : f.pass = .added behind) :
    0 < f.transfer.remaining ∧ f.next = behind := by
  rw [pass_eq word stored h] at added
  split_ifs at added with hgoing
  exact ⟨hgoing.2, Pass.added.inj added⟩

private theorem pass_ne_broken : f.pass ≠ .broken := by
  rw [pass_eq word stored h]
  split_ifs <;> simp

private theorem aligned_of_leadsTo (leads : f.LeadsTo behind) :
    behind.transfer.Aligned data size := by
  induction leads with
  | refl => exact h
  | tail _ added ih =>
    obtain ⟨hleft, rfl⟩ := pass_eq_added word stored ih added
    exact aligned_next ih hleft

end

/-! ### The end of the loop -/

private def due (f : Filling) : List Bytes :=
  chunksUpTo f.transfer.chunkSize (f.transfer.window - f.chunks.length)
    (f.transfer.image.drop f.transfer.offset)

variable {f : Filling} {t : Transfer} {data : Bytes} {size : Nat}

private theorem due_begun (t : Transfer) : (begun t).due = t.nextWindow := rfl

private theorem due_eq_nil
    (full : ¬ (f.chunks.length < f.transfer.window ∧ 0 < f.transfer.remaining)) : f.due = [] := by
  rw [due]
  rcases Nat.lt_or_ge f.chunks.length f.transfer.window with hplace | hfull
  · have hnone : f.transfer.image.drop f.transfer.offset = [] := by
      rw [List.drop_eq_nil_iff]
      simp only [Transfer.remaining] at full
      omega
    rw [hnone, chunksUpTo_nil]
  · rw [Nat.sub_eq_zero_of_le hfull, chunksUpTo]

private theorem due_eq_cons (place : f.chunks.length < f.transfer.window)
    (left : 0 < f.transfer.remaining) :
    f.due = (f.transfer.image.take f.next.transfer.offset).drop f.transfer.offset ::
      f.next.due := by
  rw [Transfer.remaining] at left
  have hsome : f.transfer.image.drop f.transfer.offset ≠ [] := by
    rw [Ne, List.drop_eq_nil_iff]
    omega
  have hcount : f.transfer.window - f.chunks.length =
      f.transfer.window - (f.chunks.length + 1) + 1 := by
    omega
  have hfirst : (f.transfer.image.drop f.transfer.offset).take f.transfer.chunkSize =
      (f.transfer.image.take f.next.transfer.offset).drop f.transfer.offset := by
    rw [List.drop_take, List.take_eq_take_iff, List.length_drop, offset_next]
    omega
  have hrest : (f.transfer.image.drop f.transfer.offset).drop f.transfer.chunkSize =
      f.transfer.image.drop f.next.transfer.offset := by
    rw [List.drop_drop, List.drop_eq_drop_iff, offset_next]
    omega
  obtain ⟨octet, octets, hdata⟩ := List.exists_cons_of_ne_nil hsome
  rw [due, hcount, hdata, chunksUpTo, ← hdata, hfirst, hrest, due]
  simp [next]

/-- What is left shrinks with every pass, so the loop comes to an end, and all chunks that were due
are in the window then. -/
private theorem exists_filled (positive : 0 < size) (word : size < UInt64.size)
    (stored : data.length ≤ roomLimit) (h : f.transfer.Aligned data size) :
    ∃ filled, f.LeadsTo filled ∧ filled.pass = .filled ∧ filled.chunks = f.chunks ++ f.due ∧
      filled.transfer =
        { f.transfer with offset := f.transfer.offset + f.due.flatten.length } := by
  induction hleft : f.transfer.remaining using Nat.strongRecOn generalizing f with
  | ind left ih =>
    subst hleft
    by_cases hgoing : f.chunks.length < f.transfer.window ∧ 0 < f.transfer.remaining
    · have hpass : f.pass = .added f.next := (pass_eq word stored h).trans (if_pos hgoing)
      have hadds := adds_next word stored h positive hgoing.2
      have hdue := due_eq_cons hgoing.1 hgoing.2
      obtain ⟨filled, hleads, hfilled, hchunks, htransfer⟩ :=
        ih _ hadds.less (aligned_next h hgoing.2) rfl
      refine ⟨filled, hleads.head hpass, hfilled, ?_, ?_⟩
      · rw [hchunks, hadds.chunks, hdue, List.append_assoc, List.singleton_append]
      · have hoffset : f.next.transfer.offset + f.next.due.flatten.length =
            f.transfer.offset + f.due.flatten.length := by
          have hahead := hadds.ahead
          have hinside := hadds.inside
          rw [hdue, List.flatten_cons, List.length_append, List.length_drop, List.length_take]
          omega
        rw [htransfer, hoffset]
        rfl
    · have hdue := due_eq_nil hgoing
      refine ⟨f, .refl, (pass_eq word stored h).trans (if_neg hgoing), ?_, ?_⟩
      · rw [hdue, List.append_nil]
      · rw [hdue]
        rfl

private theorem exists_request (positive : 0 < size) (word : size < UInt64.size)
    (stored : data.length ≤ roomLimit) (h : t.Aligned data size) :
    ∃ filled, (begun t).LeadsTo filled ∧ filled.pass = .filled ∧
      t.request = (filled.answer, filled.transfer) := by
  obtain ⟨filled, hleads, hfilled, hchunks, htransfer⟩ :=
    exists_filled (f := begun t) positive word stored h
  rw [due_begun] at hchunks htransfer
  have hwindow : filled.chunks = t.nextWindow := hchunks.trans (List.nil_append _)
  refine ⟨filled, hleads, hfilled, ?_⟩
  rw [Transfer.request, answer, hwindow, htransfer]
  cases t.nextWindow with
  | nil => rfl
  | cons chunk rest => rfl

end Filling

/-! ### Behind any reports -/

namespace Transfer

variable {t now : Transfer} {data : Bytes} {size : Nat} {states : List DeviceState}
  {state : DeviceState} {steps : List Step}

def behindEach (t : Transfer) (states : List DeviceState) : Transfer :=
  states.foldl (fun t state => (t.report state).2) t

private theorem eq_behindEach (taken : t.reportEach? states = some (steps, now)) :
    now = t.behindEach states := by
  induction states generalizing t steps with
  | nil => exact (Prod.mk.inj (Option.some.inj taken)).2.symm
  | cons state states ih =>
    obtain ⟨⟨step, next⟩, hstep, hrest⟩ := Option.bind_eq_some_iff.mp taken
    obtain ⟨⟨others, last⟩, hothers, hsteps⟩ := Option.map_eq_some_iff.mp hrest
    obtain ⟨rfl, rfl⟩ := Prod.mk.inj hsteps
    rw [ih hothers, behindEach, behindEach, List.foldl_cons, eq_report_of_report? hstep]

private theorem report_of_isAsked (asked : t.isAsked state = true) :
    t.report state = t.request := by
  cases state with
  | readyForChunk | chunkStored =>
    have hgoing : ¬ t.finished = true := by simpa [isAsked] using asked
    rw [report, if_neg hgoing]
  | _ => cases asked

private theorem Aligned.behind_report (positive : 0 < size) (word : size < UInt64.size)
    (stored : data.length ≤ roomLimit) (h : t.Aligned data size) (state : DeviceState) :
    (t.report state).2.Aligned data size := by
  have hrequest : t.request.2.Aligned data size := by
    obtain ⟨filled, hleads, -, hrequest⟩ := Filling.exists_request positive word stored h
    rw [hrequest]
    exact Filling.aligned_of_leadsTo word stored h hleads
  rw [report.eq_def]
  split_ifs with hfinished
  · exact h
  · cases state with
    | waitingForSize | erasing => exact h
    | readyForChunk | chunkStored => exact hrequest
    | complete | error => exact ⟨h.image, h.chunkSize, h.inside, h.multiple⟩

private theorem Aligned.behind_reports (positive : 0 < size) (word : size < UInt64.size)
    (stored : data.length ≤ roomLimit) (h : t.Aligned data size) (states : List DeviceState) :
    (t.behindEach states).Aligned data size := by
  induction states generalizing t with
  | nil => exact h
  | cons state states ih => exact ih (h.behind_report positive word stored state)

/-- Filling windows stays in machine words, for every image that memory can hold, every chunk size
that is a word, every window and every sequence of reports. Behind any reports the offset is inside
the image and stands at the front of a chunk while anything is left, and so it does between any two
chunks of a window that is filled next. No pass of the loop breaks: the sum that an end is taken
from is a word, the slice up to the end has octets and is inside the image, and less is left behind
it. So the loop ends, with what the device's request is answered with. -/
theorem windows_filled_in_words (positive : 0 < size) (word : size < UInt64.size) (image : Bytes)
    (stored : image.length ≤ roomLimit) (window : Nat) :
    ∃ t, start image size window = .ok t ∧ ∀ states,
      let now := t.behindEach states
      (∀ steps behind, t.reportEach? states = some (steps, behind) → behind = now) ∧
      now.Aligned image size ∧
      (∀ f, (Filling.begun now).LeadsTo f →
        f.transfer.Aligned image size ∧ f.pass ≠ .broken ∧
          ∀ behind, f.pass = .added behind → f.Adds behind) ∧
      ∃ filled, (Filling.begun now).LeadsTo filled ∧ filled.pass = .filled ∧
        ∀ state, now.isAsked state = true →
          now.report state = (filled.answer, filled.transfer) := by
  obtain ⟨t, hstart, haligned⟩ := exists_start positive image window
  refine ⟨t, hstart, fun states => ?_⟩
  intro now
  have hnow : now.Aligned image size := haligned.behind_reports positive word stored states
  obtain ⟨filled, hleads, hfilled, hrequest⟩ :=
    Filling.exists_request positive word stored hnow
  refine ⟨fun steps behind => eq_behindEach, hnow, ?_, filled, hleads, hfilled, ?_⟩
  · intro f hf
    have halong : f.transfer.Aligned image size :=
      Filling.aligned_of_leadsTo word stored hnow hf
    refine ⟨halong, Filling.pass_ne_broken word stored halong, fun behind hpass => ?_⟩
    obtain ⟨hleft, rfl⟩ := Filling.pass_eq_added word stored halong hpass
    exact Filling.adds_next word stored halong positive hleft
  · intro state hasked
    rw [report_of_isAsked hasked, hrequest]

/-- Three octets in chunks of the greatest size there is: they go out as one chunk. Behind it the
sum of offset and chunk size is no word, but nothing is left, and the sum is not taken. -/
theorem windows_filled_in_words_greatestChunk :
    let greatest := UInt64.size - 1
    let image : Bytes := [1, 2, 3]
    let first : Transfer := ⟨image, 0, greatest, 2, false⟩
    let last : Transfer := ⟨image, 3, greatest, 2, false⟩
    0 < greatest ∧ greatest < UInt64.size ∧ image.length ≤ roomLimit ∧
      start image greatest 2 = .ok first ∧
      (Filling.begun first).pass = .added ⟨last, [image]⟩ ∧
      (Filling.begun first).Adds ⟨last, [image]⟩ ∧
      first.behindEach [.erasing, .readyForChunk] = last ∧ last.Aligned image greatest ∧
      wordSum? last.offset greatest = none ∧ (Filling.begun last).pass = .filled := by
  intro greatest image first last
  have hpositive : 0 < greatest := by decide
  have hword : greatest < UInt64.size := by decide
  have hstored : image.length ≤ roomLimit := by decide
  obtain ⟨t, hstart, hall⟩ := windows_filled_in_words hpositive hword image hstored 2
  obtain rfl : first = t := Except.ok.inj hstart
  obtain ⟨-, -, hloop, -⟩ := hall []
  have hpass : (Filling.begun first).pass = .added ⟨last, [image]⟩ := by decide
  have hbehind : first.behindEach [.erasing, .readyForChunk] = last := by decide
  have hlast : last.Aligned image greatest := hbehind ▸ (hall [.erasing, .readyForChunk]).2.1
  exact ⟨hpositive, hword, hstored, hstart, hpass, (hloop _ .refl).2.2 _ hpass, hbehind, hlast,
    by decide, by decide⟩

end Transfer

end RadioLink.Update
