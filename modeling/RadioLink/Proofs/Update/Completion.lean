import Mathlib.Data.List.TakeDrop
import RadioLink.Proofs.Update.BleReleasing
import RadioLink.Proofs.Update.WifiWriting

/-!
What has been written when an update is completed. Over WiFi that is the image. Over Bluetooth the
device decides when the update is complete, and what has been written is what it has asked for: the
image if it has asked for all of it, and otherwise a front of it.
-/

set_option autoImplicit false
set_option relaxedAutoImplicit false

namespace RadioLink.Update

namespace BleUpdater

variable {u now next : BleUpdater} {run : BleRun} {action : Action} {actions : List Action}
  {note : Option Note} {notes : List Note} {outputs seen : List Output}
  {settings : Config.BleUpdate} {image : Bytes}

def begun (u : BleUpdater) (image : Bytes) : BleUpdater :=
  (u.step (.start image)).1

/-- The run is under way, and stays so all along some actions. -/
def Lasts (u : BleUpdater) : List Action → Prop
  | [] => u.run ≠ none
  | action :: actions => u.run ≠ none ∧ (u.step action).1.Lasts actions

private theorem Lasts.there (lasts : u.Lasts actions) : u.run ≠ none := by
  cases actions with
  | nil => exact lasts
  | cons => exact lasts.1

private theorem lasts_nonempty (idle : u.session.running = false)
    (lasts : (u.begun image).Lasts actions) : image ≠ [] := by
  rintro rfl
  refine lasts.there ?_
  rw [begun, step_rejected idle]
  rfl

/-! ### Calls that are refused -/

/-- What is left of some actions when nobody else calls. -/
private def undisturbed (actions : List Action) : List Action :=
  actions.filter fun action => action.ask != .start

private theorem not_mem_undisturbed (actions : List Action) (image : Bytes) :
    .start image ∉ undisturbed actions := by
  simp [undisturbed, Action.ask]

/-- While a run is under way, calls for another one change nothing of what it does. -/
private theorem runEach_undisturbed (shown : u.Shown) (lasts : u.Lasts actions) :
    (u.runEach (undisturbed actions)).1 = (u.runEach actions).1 ∧
      written (u.runEach (undisturbed actions)).2 = written (u.runEach actions).2 ∧
      u.history (undisturbed actions) = u.history actions := by
  induction actions generalizing u with
  | nil => exact ⟨rfl, rfl, rfl⟩
  | cons action actions ih =>
    obtain ⟨hthere, hlasts⟩ := lasts
    obtain ⟨hnow, hwritten, hhistory⟩ := ih (shown_of_moves shown (moves_step u action)) hlasts
    by_cases hstart : action.ask = .start
    · obtain ⟨image, rfl⟩ : ∃ image, action = .start image := by
        cases action with
        | start image => exact ⟨image, rfl⟩
        | _ => cases hstart
      obtain ⟨run, current⟩ := Option.ne_none_iff_exists'.mp hthere
      -- The call is refused, and a refused call leaves the updater as it is.
      have hrefused := step_refused (shown.claims run current) image
      rw [undisturbed, List.filter_cons_of_neg (by simp [Action.ask])]
      rw [hrefused] at hnow hwritten hhistory
      rw [runEach_cons, history, hrefused]
      exact ⟨hnow, hwritten, hhistory⟩
    · rw [undisturbed, List.filter_cons_of_pos (by simpa using hstart), runEach_cons, runEach_cons,
        history, history, written_append, written_append]
      exact ⟨hnow, by rw [← hwritten]; rfl, by rw [← hhistory]; rfl⟩

/-! ### What a success comes with -/

/-- All that the device has asked for has been written, behind the invitation. -/
private def Served (settings : Config.BleUpdate) (image : Bytes) (notes : List Note)
    (seen : List Output) : Prop :=
  ∃ limit, limits notes = [limit] ∧
    written seen = invitation image :: due settings image limit notes

/-- The run lets its device go, with a success. -/
private def Succeeds (now : BleUpdater) : Prop :=
  ∃ run, now.run = some run ∧ parting? run.stage = some (.ok ())

private theorem Served.see (h : Served settings image notes seen)
    (unwritten : written outputs = []) : Served settings image notes (seen ++ outputs) := by
  obtain ⟨limit, hlimits, hvalues⟩ := h
  exact ⟨limit, hlimits, by rw [written_append, unwritten, List.append_nil, hvalues]⟩

private theorem served_of_moves (h : Course settings image actions now notes seen)
    (served : now.Succeeds → Served settings image notes seen)
    (move : Moves now action note next outputs) (once : ∀ other, action ≠ .start other)
    (succeeds : next.Succeeds) :
    Served settings image (notes ++ note.toList) (seen ++ outputs) := by
  have hnotes : notes ++ (none : Option Note).toList = notes := List.append_nil _
  cases move with
  | idle | cancel => exact hnotes.symm ▸ (served succeeds).see rfl
  | refuse image => exact absurd rfl (once image)
  | begin => exact absurd rfl (once _)
  | reject => exact absurd rfl (once [])
  | drop | fail | finish => obtain ⟨_, ⟨⟩, -⟩ := succeeds
  | scan | seek | stopScan | connect | connected | discover | openNotifications | subscribe | invite
    | invited | hear | serve | send | sent =>
    obtain ⟨_, ⟨⟩, ⟨⟩⟩ := succeeds
  | lose =>
    obtain ⟨_, ⟨⟩, hparting⟩ := succeeds
    cases hparting
  | @complete run transfer n state current stage heard complete =>
    obtain ⟨-, hhands⟩ := h.stands_at current stage
    obtain rfl := Transfer.Along.eq_complete (Hands.along hhands) complete
    have hlimits := Hands.limited hhands
    have hvalues := Hands.values hhands
    refine ⟨_, by simpa using hlimits, ?_⟩
    -- The report of success asks for no chunks, so what was due is what is due.
    rw [written_append, written_letGo, List.append_nil]
    simpa [due, asked, show DeviceState.complete.asks = false from rfl] using hvalues
  | @disconnect run result answer current stage =>
    obtain ⟨_, ⟨⟩, hparting⟩ := succeeds
    obtain rfl : result = .ok () := Option.some.inj hparting
    exact hnotes.symm ▸ (served ⟨run, current, by rw [stage]; rfl⟩).see rfl

private theorem served_run (idle : u.session.running = false) (nonempty : image ≠ [])
    (actions : List Action) (once : ∀ other, .start other ∉ actions)
    (succeeds : (u.runEach (.start image :: actions)).1.Succeeds) :
    Served u.settings image (u.history (.start image :: actions))
      (u.runEach (.start image :: actions)).2 := by
  induction actions using List.reverseRecOn with
  | nil =>
    rw [runEach_cons, step_start idle nonempty] at succeeds
    obtain ⟨_, ⟨⟩, ⟨⟩⟩ := succeeds
  | append_singleton actions action ih =>
    have honce : ∀ other, .start other ∉ actions := fun other mem =>
      once other (List.mem_append_left _ mem)
    rw [← List.cons_append, runEach_snoc] at succeeds ⊢
    rw [history_snoc]
    refine served_of_moves (course_run idle nonempty actions honce) (ih honce) (moves_step _ action)
      (fun other heq => once other (by simp [heq])) succeeds

private theorem succeeds_of_finished (move : Moves now action note next outputs)
    (finished : .finished (.ok ()) ∈ outputs) :
    now.Succeeds ∧ note = none ∧ written outputs = [] := by
  cases move with
  | @finish run result answer current stage =>
    obtain rfl : result = .ok () := by simpa [eq_comm] using finished
    exact ⟨⟨run, current, by rw [stage]; rfl⟩, rfl, rfl⟩
  | fail current fails => cases fails <;> simp at finished
  | complete => simp [letGo] at finished
  | lose current loses => cases loses <;> simp [letGo] at finished
  | _ => simp at finished

/-- A run that ends well has written all that its device has asked for. -/
private theorem served_of_finished (idle : u.session.running = false) {before : List Action}
    (lasts : (u.begun image).Lasts before)
    (finished : .finished (.ok ()) ∈ (((u.begun image).runEach before).1.step action).2) :
    Served u.settings image (u.history (.start image :: before))
      (u.runEach (.start image :: before ++ [action])).2 := by
  have hnonempty := lasts_nonempty idle lasts
  have hshown : (u.begun image).Shown := shown_begun idle hnonempty []
  -- The course of a run is known when nobody else calls, and other calls make no difference to it.
  obtain ⟨hnow, hwritten, hhistory⟩ := runEach_undisturbed hshown lasts
  obtain ⟨hsucceeds, -, hsilent⟩ := succeeds_of_finished (moves_step _ action) finished
  rw [← hnow] at hsucceeds
  obtain ⟨limit, hlimits, hvalues⟩ :=
    served_run idle hnonempty (undisturbed before) (not_mem_undisturbed before) hsucceeds
  have hhistory' : u.history (.start image :: undisturbed before) =
      u.history (.start image :: before) := congrArg (_ ++ ·) hhistory
  rw [hhistory'] at hlimits hvalues
  refine ⟨limit, hlimits, ?_⟩
  rw [← hvalues, runEach_snoc, written_append, runEach_cons, runEach_cons, written_append,
    written_append]
  change _ ++ written ((u.begun image).runEach before).2 ++ _ =
    _ ++ written ((u.begun image).runEach (undisturbed before)).2
  rw [hwritten]
  exact (congrArg (_ ++ ·) hsilent).trans (List.append_nil _)

end BleUpdater

/-- A run that ends well. Over WiFi it has written its image. Over Bluetooth it has written, behind
the invitation, as much of its image as the device has asked for: all of it exactly if the chunks
that were asked for hold it. -/
theorem completed_written (image : Bytes) :
    (∀ (u : WifiUpdater) (host : String) (password : Option String)
      (before : List WifiUpdater.Action) (action : WifiUpdater.Action),
      u.session.running = false → (u.begun host image password).Lasts before →
      .finished (.ok ()) ∈ (((u.begun host image password).runEach before).1.step action).2 →
      (WifiUpdater.written
        (u.runEach (.start host image password :: before ++ [action])).2).flatten = image) ∧
    ∀ (u : BleUpdater) (before : List BleUpdater.Action) (action : BleUpdater.Action),
      u.session.running = false → (u.begun image).Lasts before →
      .finished (.ok ()) ∈ (((u.begun image).runEach before).1.step action).2 →
      let notes := u.history (.start image :: before)
      ∃ limit chunks, BleUpdater.limits notes = [limit] ∧
        BleUpdater.written (u.runEach (.start image :: before ++ [action])).2 =
          BleUpdater.invitation image :: chunks ∧
        let most := BleUpdater.asked notes * max u.settings.chunksPerAck.toNat 1 * (limit - 3)
        chunks.flatten = image.take most ∧ (chunks.flatten = image ↔ image.length ≤ most) := by
  refine ⟨fun u host password before action idle lasts finished => ?_,
    fun u before action idle lasts finished => ?_⟩
  · rw [WifiUpdater.written_of_finished idle lasts finished, WifiUpdater.flatten_chunksOf]
  · obtain ⟨limit, hlimits, hvalues⟩ := BleUpdater.served_of_finished idle lasts finished
    refine ⟨limit, _, hlimits, hvalues, ?_⟩
    intro most
    have hflatten : (BleUpdater.due u.settings image limit
        (u.history (.start image :: before))).flatten = image.take most := flatten_chunksUpTo ..
    exact ⟨hflatten, by rw [hflatten, List.take_eq_self_iff image]⟩

def WifiUpdater.tookAll : List WifiUpdater.Action :=
  WifiUpdater.inviting ++ [WifiUpdater.saysAccepted, .accepted (.ok ()), .answer (.ok .nothing),
    .start "radio" [9] none, .answer (.ok .nothing), .answer (.ok .nothing), .settled]

def BleUpdater.askedOnce : List BleUpdater.Action :=
  BleUpdater.invited 8 ++ [.answer (.ok .nothing), .notification (some ⟨Gatt.updateStatus, [2]⟩),
    .start [9], .answer (.ok .nothing), .notification (some ⟨Gatt.updateStatus, [4]⟩),
    .answer (.ok .nothing)]

theorem completed_written_whole :
    let wifi := WifiUpdater.initial {}
    let ble := BleUpdater.initial {}
    (WifiUpdater.written (wifi.runEach (.start "radio" [1, 2, 3] none :: WifiUpdater.tookAll ++
      [.answer (.ok .nothing)])).2).flatten = [1, 2, 3] ∧
    ∃ chunks : List Bytes, BleUpdater.written (ble.runEach (.start [1, 2, 3] ::
      BleUpdater.askedOnce ++ [.answer (.ok .nothing)])).2 =
        BleUpdater.invitation [1, 2, 3] :: chunks ∧ chunks.flatten = [1, 2, 3] := by
  intro wifi ble
  obtain ⟨hwifi, hble⟩ := completed_written [1, 2, 3]
  have hlastsWifi : (wifi.begun "radio" [1, 2, 3] none).Lasts WifiUpdater.tookAll :=
    ⟨nofun, nofun, nofun, nofun, nofun, nofun, nofun, nofun, nofun, nofun, nofun⟩
  have hlastsBle : (ble.begun [1, 2, 3]).Lasts BleUpdater.askedOnce :=
    ⟨nofun, nofun, nofun, nofun, nofun, nofun, nofun, nofun, nofun, nofun, nofun, nofun, nofun,
      nofun, nofun, nofun⟩
  obtain ⟨limit, chunks, hlimits, hvalues, -, hiff⟩ :=
    hble ble _ (.answer (.ok .nothing)) rfl hlastsBle (.head _)
  obtain rfl : 8 = limit := List.singleton_inj.mp hlimits
  exact ⟨hwifi wifi "radio" none _ _ rfl hlastsWifi (.head _), chunks, hvalues,
    hiff.mpr (by decide)⟩

/-- A device that reports success as soon as it is invited: the update is completed, and nothing of
the image has been written. -/
theorem completed_unwritten :
    let all : List BleUpdater.Action := .start [1, 2, 3] :: BleUpdater.invited 8 ++
      [.answer (.ok .nothing), .notification (some ⟨Gatt.updateStatus, [4]⟩),
        .answer (.ok .nothing), .answer (.ok .nothing)]
    let done := (BleUpdater.initial {}).runEach all
    BleUpdater.results done.2 = [.ok ()] ∧ done.1.session.status.phase = .completed ∧
      BleUpdater.written done.2 = [BleUpdater.invitation [1, 2, 3]] :=
  ⟨rfl, rfl, rfl⟩

end RadioLink.Update
