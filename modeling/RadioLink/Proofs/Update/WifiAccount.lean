import RadioLink.Proofs.Update.WifiWriting
import RadioLink.Proofs.Update.Windows

/-!
The account of an update over WiFi: the chunks that it has asked to write, those that were written
in full, and the progress that it has shown. What it must come to behind a number of answers is a
fact about the image and the settings.
-/

set_option autoImplicit false
set_option relaxedAutoImplicit false

namespace RadioLink.Update

def WifiStage.chunk? : WifiStage → Option Bytes
  | .sending chunk .. => some chunk
  | _ => none

namespace WifiUpdater

variable {settings : Config.WifiUpdate} {image : Bytes} {answers : Nat}

/-! ### What is seen of a transfer -/

def pickEach {α : Type} (pick : WifiUpdater → Action → Option α) (u : WifiUpdater) :
    List Action → List α
  | [] => []
  | action :: actions => (pick u action).toList ++ pickEach pick (u.step action).1 actions

private theorem pickEach_snoc {α : Type} (pick : WifiUpdater → Action → Option α) (u : WifiUpdater)
    (actions : List Action) (action : Action) :
    u.pickEach pick (actions ++ [action]) =
      u.pickEach pick actions ++ (pick (u.runEach actions).1 action).toList := by
  induction actions generalizing u with
  | nil => simp [pickEach, runEach, actEach]
  | cons first actions ih =>
    rw [List.cons_append, pickEach, ih, pickEach, List.append_assoc]
    rfl

def stored? (u : WifiUpdater) : Action → Option Bytes
  | .answer (.ok _) => u.run.bind fun run => run.stage.chunk?
  | _ => none

def progress? (u : WifiUpdater) (action : Action) : Option Progress :=
  if (u.step action).1.session.status.progress = u.session.status.progress then none
  else some (u.step action).1.session.status.progress

/-- What a transfer has come to: the chunks that it has asked to write, those of them that were
written in full, and the progress that it has shown, each in order. -/
structure Account where
  asked : List Bytes
  stored : List Bytes
  shown : List Progress

def account (u : WifiUpdater) (actions : List Action) : Account :=
  ⟨written (u.runEach actions).2, u.pickEach stored? actions, u.pickEach progress? actions⟩

def Account.add (a : Account) (u : WifiUpdater) (action : Action) : Account :=
  ⟨a.asked ++ written (u.step action).2, a.stored ++ (u.stored? action).toList,
    a.shown ++ (u.progress? action).toList⟩

theorem account_snoc (u : WifiUpdater) (actions : List Action) (action : Action) :
    u.account (actions ++ [action]) =
      (u.account actions).add (u.runEach actions).1 action := by
  simp only [account, Account.add, runEach_snoc, written_append, pickEach_snoc]

def Action.isAnswer : Action → Bool
  | .answer _ => true
  | _ => false

def answered (actions : List Action) : Nat := actions.countP (·.isAnswer)

/-! ### What there is to be seen -/

/-- The octets that have been written behind each chunk at which progress is shown, for the first
chunks of an image. A chunk is counted from one. -/
def counts (settings : Config.WifiUpdate) (image : Bytes) (chunks : Nat) : List Nat :=
  ((List.range' 1 chunks).filter (max settings.progressEvery.toNat 1 ∣ ·)).map
    fun i => min (i * max settings.chunkSize.toNat 1) image.length

def countsShown (settings : Config.WifiUpdate) (image : Bytes) (chunks : Nat) : List Progress :=
  (counts settings image chunks).map (.sent · image.length)

/-- What a transfer has come to behind a number of answers. The first answer is to the operation
ahead of the chunks, and the last one to that behind them. -/
def Account.behind (settings : Config.WifiUpdate) (image : Bytes) (answers : Nat) : Account where
  asked := (chunksOf settings image).take answers
  stored := (chunksOf settings image).take (answers - 1)
  shown :=
    countsShown settings image (min (answers - 1) (chunksOf settings image).length) ++
      if (chunksOf settings image).length + 2 ≤ answers then [.everything] else []

theorem Account.behind_zero (settings : Config.WifiUpdate) (image : Bytes) :
    Account.behind settings image 0 = ⟨[], [], []⟩ := by
  simp [Account.behind, countsShown, counts]

theorem Account.behind_succ {k : Nat} (within : k ≤ (chunksOf settings image).length) :
    Account.behind settings image (k + 1) =
      ⟨(chunksOf settings image).take (k + 1), (chunksOf settings image).take k,
        countsShown settings image k⟩ := by
  have hgoing : ¬ (chunksOf settings image).length + 2 ≤ k + 1 := by omega
  rw [Account.behind, Nat.add_sub_cancel, Nat.min_eq_left within, if_neg hgoing, List.append_nil]

theorem Account.behind_all (all : (chunksOf settings image).length + 2 ≤ answers) :
    Account.behind settings image answers =
      ⟨chunksOf settings image, chunksOf settings image,
        countsShown settings image (chunksOf settings image).length ++ [.everything]⟩ := by
  rw [Account.behind, List.take_of_length_le (by omega), List.take_of_length_le (by omega),
    Nat.min_eq_right (by omega), if_pos all]

/-! ### Chunks and counts -/

theorem length_chunksOf (settings : Config.WifiUpdate) (image : Bytes) :
    (chunksOf settings image).length =
      chunkCount (max settings.chunkSize.toNat 1) image.length := by
  have hpositive : 0 < max settings.chunkSize.toNat 1 := by omega
  rw [chunksOf, chunks, length_chunksUpTo hpositive]
  apply Nat.min_eq_right
  -- A chunk holds one octet at least, so there are no more chunks than octets.
  by_contra hmore
  have hlast := (lt_chunkCount_iff hpositive).mp (Nat.lt_of_not_le hmore)
  have hle : image.length ≤ image.length * max settings.chunkSize.toNat 1 :=
    Nat.le_mul_of_pos_right _ hpositive
  omega

theorem length_flatten_take {k : Nat} (within : k ≤ (chunksOf settings image).length) :
    ((chunksOf settings image).take k).flatten.length =
      min (k * max settings.chunkSize.toNat 1) image.length := by
  have hlength : (chunksOf settings image).length ≤ image.length := length_chunksUpTo_le ..
  have htake : (chunksOf settings image).take k =
      chunksUpTo (max settings.chunkSize.toNat 1) k image := by
    rw [chunksOf, chunks, take_chunksUpTo, Nat.min_eq_left (Nat.le_trans within hlength)]
  rw [htake, flatten_chunksUpTo, List.length_take]

theorem length_getElem_chunksOf {i : Nat} (inside : i < (chunksOf settings image).length) :
    0 < (chunksOf settings image)[i].length ∧
      (chunksOf settings image)[i].length ≤ max settings.chunkSize.toNat 1 ∧
      (i + 1 < (chunksOf settings image).length →
        (chunksOf settings image)[i].length = max settings.chunkSize.toNat 1) := by
  have hpositive : 0 < max settings.chunkSize.toNat 1 := by omega
  have hchunk : (chunksOf settings image)[i].length =
      min (max settings.chunkSize.toNat 1)
        (image.length - i * max settings.chunkSize.toNat 1) := by
    rw [show (chunksOf settings image)[i] = (image.drop _).take _ from getElem_chunksUpTo inside,
      List.length_take, List.length_drop]
  have hstart := (lt_chunkCount_iff hpositive).mp (length_chunksOf settings image ▸ inside)
  refine ⟨by omega, by omega, fun more => ?_⟩
  have hnext := (lt_chunkCount_iff hpositive).mp (length_chunksOf settings image ▸ more)
  rw [Nat.add_one_mul] at hnext
  omega

private theorem count_lt_count {i j : Nat} (lt : i < j)
    (within : j ≤ (chunksOf settings image).length) :
    min (i * max settings.chunkSize.toNat 1) image.length <
      min (j * max settings.chunkSize.toNat 1) image.length := by
  have hpositive : 0 < max settings.chunkSize.toNat 1 := by omega
  have hlast : i < chunkCount (max settings.chunkSize.toNat 1) image.length := by
    rw [← length_chunksOf]
    omega
  have hstart := (lt_chunkCount_iff hpositive).mp hlast
  have hless := Nat.mul_lt_mul_of_pos_right lt hpositive
  omega

theorem pairwise_counts {k : Nat} (within : k ≤ (chunksOf settings image).length) :
    (counts settings image k).Pairwise (· < ·) := by
  rw [counts, List.pairwise_map]
  have hrange : (List.range' 1 k).Pairwise fun i j => i < j ∧ j ≤ k := by
    refine List.Pairwise.imp_of_mem (R := (· < ·)) ?_ List.pairwise_lt_range'
    intro i j _ hj lt
    obtain ⟨-, hle⟩ := List.mem_range'_1.mp hj
    exact ⟨lt, by omega⟩
  refine (hrange.filter _).imp ?_
  rintro i j ⟨lt, hle⟩
  exact count_lt_count lt (Nat.le_trans hle within)

theorem countsShown_succ (settings : Config.WifiUpdate) (image : Bytes) (k : Nat) :
    countsShown settings image (k + 1) = countsShown settings image k ++
      if (k + 1) % max settings.progressEvery.toNat 1 = 0 then
        [.sent (min ((k + 1) * max settings.chunkSize.toNat 1) image.length) image.length]
      else [] := by
  have hrange : List.range' 1 (k + 1) = List.range' 1 k ++ [k + 1] := by
    rw [List.range'_1_concat, Nat.add_comm 1 k]
  rw [countsShown, counts, hrange, List.filter_append, List.map_append, List.map_append]
  congr 1
  by_cases hdue : (k + 1) % max settings.progressEvery.toNat 1 = 0
  · have hdvd : max settings.progressEvery.toNat 1 ∣ k + 1 := Nat.dvd_of_mod_eq_zero hdue
    rw [if_pos hdue, List.filter_cons_of_pos (by simpa using hdvd)]
    rfl
  · have hdvd : ¬ max settings.progressEvery.toNat 1 ∣ k + 1 := fun h =>
      hdue (Nat.mod_eq_zero_of_dvd h)
    rw [if_neg hdue, List.filter_cons_of_neg (by simpa using hdvd)]
    rfl

def latest (shown : List Progress) : Progress := shown.getLast?.getD .nothing

theorem latest_snoc (shown : List Progress) (progress : Progress) :
    latest (shown ++ [progress]) = progress := by
  simp [latest]

private theorem latest_mem {shown : List Progress} (some : latest shown ≠ .nothing) :
    latest shown ∈ shown := by
  rw [latest] at some ⊢
  cases hlast : shown.getLast? with
  | none => simp [hlast] at some
  | some progress => exact List.mem_of_getLast? hlast

theorem latest_countsShown_ne {k : Nat} (within : k < (chunksOf settings image).length) :
    latest (countsShown settings image k) ≠
      .sent (min ((k + 1) * max settings.chunkSize.toNat 1) image.length) image.length := by
  intro same
  have hmem := latest_mem (same ▸ nofun : latest (countsShown settings image k) ≠ .nothing)
  obtain ⟨count, hcount, hprogress⟩ := List.mem_map.mp hmem
  obtain ⟨i, hi, rfl⟩ := List.mem_map.mp hcount
  obtain ⟨-, hle⟩ := List.mem_range'_1.mp (List.mem_filter.mp hi).1
  have hlt := count_lt_count (by omega : i < k + 1) within
  obtain ⟨hcount, -⟩ := Progress.sent.inj (hprogress.trans same)
  omega

theorem latest_countsShown_ne_everything (settings : Config.WifiUpdate) (image : Bytes) (k : Nat) :
    latest (countsShown settings image k) ≠ .everything ∧
      .everything ∉ countsShown settings image k := by
  have hnone : .everything ∉ countsShown settings image k := by simp [countsShown]
  refine ⟨fun same => ?_, hnone⟩
  have hmem := latest_mem (same ▸ nofun : latest (countsShown settings image k) ≠ .nothing)
  exact hnone (same ▸ hmem)

end WifiUpdater

end RadioLink.Update
