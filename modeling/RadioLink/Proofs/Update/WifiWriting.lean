import RadioLink.Proofs.Update.Chunks
import RadioLink.Proofs.Update.Running
import RadioLink.Proofs.Update.WifiHandshake

/-!
What an update over WiFi writes to the connection of its device. What has been written and what is
left are the image in chunks at every stage, so a run that ends well has written all of it.
-/

set_option autoImplicit false
set_option relaxedAutoImplicit false

namespace RadioLink.Update.WifiUpdater

variable {u now next : WifiUpdater} {run run' : WifiRun} {action : Action} {actions : List Action}
  {outputs seen : List Output} {settings : Config.WifiUpdate} {image : Bytes} {host : String}
  {password : Option String}

def Output.data? : Output → Option Bytes
  | .run (.write data) => some data
  | _ => none

def written (seen : List Output) : List Bytes := seen.filterMap Output.data?

theorem written_append (before behind : List Output) :
    written (before ++ behind) = written before ++ written behind :=
  List.filterMap_append

def chunksOf (settings : Config.WifiUpdate) (image : Bytes) : List Bytes :=
  chunks (max settings.chunkSize.toNat 1) image

theorem flatten_chunksOf (settings : Config.WifiUpdate) (image : Bytes) :
    (chunksOf settings image).flatten = image := by
  rw [chunksOf, chunks, flatten_chunksUpTo]
  exact List.take_of_length_le (Nat.le_mul_of_pos_right _ (Nat.le_max_right _ 1))

def Wrote (settings : Config.WifiUpdate) (image : Bytes) (seen : List Output) : WifiStage → Prop
  | .sending _ rest _ _ => written seen ++ rest = chunksOf settings image
  | .flushing | .settling | .closing => written seen = chunksOf settings image
  | _ => written seen = []

private theorem wrote_sendNext (u : WifiUpdater) (run : WifiRun) (index sent : Nat)
    {rest : List Bytes} (left : written seen ++ rest = chunksOf settings image) :
    ∃ run', (u.sendNext run index sent rest).1.run = some run' ∧ run'.image = run.image ∧
      Wrote settings image (seen ++ (u.sendNext run index sent rest).2) run'.stage := by
  -- A chunk counts as written from the step on that asks for it.
  cases rest with
  | nil =>
    refine ⟨_, rfl, rfl, ?_⟩
    change written (seen ++ [.run .flush]) = chunksOf settings image
    rw [written_append, ← left]
    rfl
  | cons chunk rest =>
    refine ⟨_, rfl, rfl, ?_⟩
    change written (seen ++ [.run (.write chunk)]) ++ rest = chunksOf settings image
    rw [written_append, ← left, List.append_assoc]
    rfl

private theorem Wrote.see {stage : WifiStage} (h : Wrote settings image seen stage)
    (unwritten : written outputs = []) : Wrote settings image (seen ++ outputs) stage := by
  have hwritten : written (seen ++ outputs) = written seen := by
    rw [written_append, unwritten, List.append_nil]
  cases stage <;> simpa only [Wrote, hwritten] using h

def Writing (settings : Config.WifiUpdate) (image : Bytes) (now : WifiUpdater)
    (seen : List Output) : Prop :=
  now.settings = settings ∧
    ∀ run, now.run = some run → run.image = image ∧ Wrote settings image seen run.stage

private theorem writing_of_moves (shown : now.Shown) (current : now.run = some run)
    (h : Writing settings image now seen) (move : Moves now action next outputs) :
    Writing settings image next (seen ++ outputs) := by
  have hrunning := shown.claims run current
  refine ⟨(settings_of_moves move).trans h.1, ?_⟩
  obtain ⟨rfl, h⟩ := h
  obtain ⟨himage, hwrote⟩ := h run current
  cases move with
  | idle | refuse | cancel => exact forall_of_some current ⟨himage, hwrote.see rfl⟩
  | begin _ _ idle => exact absurd (idle.symm.trans hrunning) (by decide)
  | reject _ _ idle => exact absurd (idle.symm.trans hrunning) (by decide)
  | drop | fail | complete => exact forall_of_none rfl
  | listen current' stage | openDatagrams _ current' stage | opened _ current' stage
    | compose current' stage | invite current' stage | answerChallenge current' stage
    | prepare current' stage | accept current' stage | connect current' stage
    | imageSent _ current' stage | close current' stage =>
    obtain rfl := Option.some.inj (current.symm.trans current')
    rw [stage] at hwrote
    exact forall_of_some rfl ⟨himage, Wrote.see hwrote rfl⟩
  | @transfer other yielded current' stage =>
    obtain rfl := Option.some.inj (current.symm.trans current')
    rw [stage] at hwrote
    have hleft : written seen ++ chunksOf now.settings run.image =
        chunksOf now.settings image := by
      rw [show written seen = [] from hwrote, List.nil_append, himage]
    obtain ⟨run', hrun', himage', hafter⟩ := wrote_sendNext (now.present .transferring
      "Please stay on this screen while update completes...") run 0 0 hleft
    exact forall_of_some hrun' ⟨himage'.trans himage, hafter⟩
  | @chunkWritten other chunk rest index sent yielded current' stage =>
    obtain rfl := Option.some.inj (current.symm.trans current')
    rw [stage] at hwrote
    obtain ⟨run', hrun', himage', hafter⟩ := wrote_sendNext _ run index (sent + chunk.length) hwrote
    exact forall_of_some hrun' ⟨himage'.trans himage, hafter⟩

theorem lasts_nonempty (idle : u.session.running = false)
    (lasts : (u.begun host image password).Lasts actions) : image ≠ [] := by
  rintro rfl
  have hnone : (u.begun host [] password).run = none := by
    rw [begun, step_rejected idle]
    rfl
  cases actions with
  | nil => exact lasts hnone
  | cons => exact lasts.1 hnone

/-- All along a run what has been written is what its stage says. -/
theorem writing_of_lasts (idle : u.session.running = false)
    (lasts : (u.begun host image password).Lasts actions) :
    Writing u.settings image (u.runEach (.start host image password :: actions)).1
      (u.runEach (.start host image password :: actions)).2 := by
  have hnonempty := lasts_nonempty idle lasts
  have hshown := shown_begun idle hnonempty host password
  induction actions using List.reverseRecOn with
  | nil =>
    rw [runEach_cons, step_start idle host hnonempty password]
    exact ⟨rfl, forall_of_some rfl ⟨rfl, rfl⟩⟩
  | append_singleton actions action ih =>
    obtain ⟨hbefore, -⟩ := lasts_snoc.mp lasts
    obtain ⟨run, hrun, -⟩ := (behind_of_lasts idle hnonempty hbefore).2
    rw [← List.cons_append, runEach_snoc]
    exact writing_of_moves (hshown actions) hrun (ih hbefore) (moves_step _ action)

private theorem unfinished_sendNext (u : WifiUpdater) (run : WifiRun) (index sent : Nat)
    (rest : List Bytes) (result : Except LinkError Unit) :
    .finished result ∉ (u.sendNext run index sent rest).2 := by
  cases rest <;> simp [sendNext, perform]

private theorem closing_of_finished (move : Moves now action next outputs)
    (finished : .finished (.ok ()) ∈ outputs) :
    ∃ run, now.run = some run ∧ run.stage = .closing ∧ written outputs = [] := by
  cases move with
  | complete answer current stage => exact ⟨_, current, stage, rfl⟩
  | transfer | chunkWritten => exact absurd finished (unfinished_sendNext _ _ _ _ _ _)
  | fail current fails => cases fails <;> simp at finished
  | _ => simp at finished

theorem written_of_finished (idle : u.session.running = false) {before : List Action}
    (lasts : (u.begun host image password).Lasts before)
    (finished : .finished (.ok ()) ∈
      (((u.begun host image password).runEach before).1.step action).2) :
    written (u.runEach (.start host image password :: before ++ [action])).2 =
      chunksOf u.settings image := by
  have hwriting := writing_of_lasts idle lasts
  obtain ⟨run, hrun, hstage, hsilent⟩ := closing_of_finished (moves_step _ action) finished
  obtain ⟨-, hwrote⟩ := hwriting.2 run hrun
  rw [hstage] at hwrote
  rw [runEach_snoc, written_append]
  exact (congrArg (_ ++ ·) hsilent).trans ((List.append_nil _).trans hwrote)

end RadioLink.Update.WifiUpdater
