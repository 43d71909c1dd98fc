import RadioLink.Proofs.Link.Subscriptions
import RadioLink.Proofs.Update.BleSubscriptions

/-!
Notifications and disconnecting, over all that a program does with a peripheral. The task of a link
and a run of an update switch off what is on ahead of disconnecting, whichever way they end. An
attempt to open a link does not, and it matters where the notifications of the log cannot be had.
-/

set_option autoImplicit false
set_option relaxedAutoImplicit false

namespace RadioLink.Gatt

open Link (Opening)
open Update (BleUpdater)

/-- A peripheral and what goes on with it. Where an attempt that fails disconnects, the
notifications of the packet counter are on if those of the log have been asked for, and no others
are. Where the task of a link disconnects, nothing is on of what the attempt has switched on, and
nothing is once it has ended. Where a run of an update disconnects, nothing is on, and nothing is
once it returns. -/
theorem notifications_on_disconnecting {M : Type} (format : Format M)
    (connection : Link.Connection (Link.Ble.protocol format)) (peripheral : String) (u : BleUpdater)
    (image : Bytes) :
    (∀ answers error, Link.Ble.Setup.follow answers = .failed error →
      ∀ before behind,
        Link.Ble.Setup.traffic peripheral answers = before ++ .called .disconnect :: behind →
          switchedOn before =
            if .called (.subscribe logLine) ∈ before then [packetCounter] else []) ∧
    (∀ answers hasLog, Link.Ble.Setup.follow answers = .opened hasLog →
      ∀ actions,
        let l : Opening (Link.Ble.protocol format) := ⟨connection, hasLog, actions⟩
        let traffic :=
          Link.Ble.Setup.traffic peripheral answers ++ Link.Ble.trafficOf none l.passed
        Undone traffic ∧ (l.session.phase = .ended → switchedOn traffic = [])) ∧
    ∀ actions, Undone (u.record image actions).traffic ∧
      ∀ result, (u.record image actions).result? = some result →
        switchedOn (u.record image actions).traffic = [] :=
  ⟨fun _ _ failed _ _ => Link.Ble.left_on_of_failed failed,
    fun _ _ opened actions => Link.Ble.undone_of_opened opened connection actions,
    fun actions => ⟨BleUpdater.undone_record u image actions, fun _ => BleUpdater.dark_of_result⟩⟩

def upToLog : List Answer :=
  [.ok .nothing, .ok (.listed [radioService]),
    .ok (.listed [toRadio, fromRadio, packetCounter, logLine]), .ok .nothing, .ok .nothing]

def unlogged : List Traffic :=
  Link.Ble.Setup.traffic "radio" (upToLog ++ [.error .timeout, .ok .nothing])

def unread : Opening (Link.Ble.protocol Format.raw) where
  connection := .initial _
  memory := true
  actions := [.advance, .answer (Except.error .timeout : Answer), .advance,
    .answer (Except.error .timeout : Answer), .answer (Except.error .timeout : Answer),
    .answer (Except.error .timeout : Answer), .advance, .advance, .advance, .advance]

def unfit : List BleUpdater.Action :=
  [.answer (.ok .nothing), .answer (.ok .nothing), .sighting (some ⟨"device", none, none⟩),
    .answer (.ok .nothing), .answer (.ok .nothing), .answer (.ok (.listed [updateService])),
    .answer (.ok (.listed [updateStatus, updateData])), .answer (.ok .nothing),
    .answer (.ok .nothing), .answer (.error .timeout), .answer (.error .timeout)]

theorem notifications_on_disconnecting_logRefused :
    switchedOn (unlogged.take 12) = [packetCounter] ∧
    switchedOn (Link.Ble.Setup.traffic "radio" (upToLog ++ [.ok .nothing]) ++
      Link.Ble.trafficOf none unread.passed) = [] ∧
    switchedOn ((BleUpdater.initial {}).record [1] unfit).traffic = [] := by
  obtain ⟨hfailed, hopened, hrun⟩ := notifications_on_disconnecting Format.raw unread.connection
    "radio" (BleUpdater.initial {}) [1]
  refine ⟨?_, ?_, ?_⟩
  · exact hfailed (upToLog ++ [.error .timeout, .ok .nothing]) .timeout (by decide)
      (unlogged.take 12) (unlogged.drop 13) (by decide)
  · exact (hopened (upToLog ++ [.ok .nothing]) true (by decide) unread.actions).2 rfl
  · exact (hrun unfit).2 _ rfl

/-- The attempt fails, and disconnects with the notifications of the packet counter on. -/
theorem left_on_of_logRefused :
    Link.Ble.Setup.follow (upToLog ++ [.error .timeout, .ok .nothing]) = .failed .timeout ∧
      ¬ Undone unlogged := by
  refine ⟨by decide, fun hundone => ?_⟩
  have hleft : switchedOn (unlogged.take 12) ≠ [] := by decide
  exact hleft (hundone (unlogged.take 12) (unlogged.drop 13) (by decide))

end RadioLink.Gatt
