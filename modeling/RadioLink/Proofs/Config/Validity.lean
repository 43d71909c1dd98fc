import RadioLink.Proofs.Discovery.Watching
import RadioLink.Proofs.Update.WifiWriting
import RadioLink.Proofs.Update.Windows

/-!
What settings that have been accepted promise to those that use them. Chunks are never empty on
either way to a device. A scan and a window of chunks can still break: the check does not look at
the interval between sweeps, and at the number of chunks only for zero.
-/

set_option autoImplicit false
set_option relaxedAutoImplicit false

namespace RadioLink.Config

open Update

variable {config : Config}

theorem validate_eq_ok_iff :
    config.validate = .ok () ↔
      config.wifiUpdate.chunkSize ≠ 0 ∧ config.wifiUpdate.progressEvery ≠ 0 ∧
        config.bleUpdate.chunksPerAck ≠ 0 ∧ writeOverhead < config.ble.maxWriteLength.toNat := by
  rw [validate]
  split_ifs with hsize hevery hack hlength
  · exact iff_of_false nofun fun h => h.1 hsize
  · exact iff_of_false nofun fun h => h.2.1 hevery
  · exact iff_of_false nofun fun h => h.2.2.1 hack
  · exact iff_of_false nofun fun h => Nat.not_lt.mpr hlength h.2.2.2
  · exact iff_of_true rfl ⟨hsize, hevery, hack, Nat.not_le.mp hlength⟩

private theorem toNat_pos {n : UInt64} (nonzero : n ≠ 0) : 0 < n.toNat := by
  refine Nat.pos_of_ne_zero fun hzero => nonzero ?_
  exact UInt64.toNat_inj.mp hzero

private theorem inviting_of_accepted (accepted : config.validate = .ok ()) {u : BleUpdater}
    {run : BleRun} (settings : u.settings = config.bleUpdate) (current : u.run = some run)
    (stage : run.stage = .subscribing)
    (writeLimit : run.writeLimit = config.ble.maxWriteLength.toNat) (yielded : Gatt.Yield) :
    ∃ transfer, (u.step (.answer (.ok yielded))).1.run =
        some { run with stage := .inviting transfer } ∧
      0 < transfer.chunkSize ∧
      Transfer.Behind run.image (config.ble.maxWriteLength.toNat - writeOverhead)
        config.bleUpdate.chunksPerAck.toNat [] [] transfer := by
  obtain ⟨-, -, hack, hlength⟩ := validate_eq_ok_iff.mp accepted
  have hpositive : 0 < config.ble.maxWriteLength.toNat - writeOverhead := Nat.sub_pos_of_lt hlength
  obtain ⟨transfer, hstart, hbehind⟩ :=
    Transfer.behind_start hpositive run.image config.bleUpdate.chunksPerAck.toNat
  rw [Nat.max_eq_left (toNat_pos hack)] at hbehind
  rw [← writeLimit, ← settings] at hstart
  refine ⟨transfer, ?_, ?_, hbehind⟩
  · simp only [BleUpdater.step, current, BleUpdater.proceed, stage, BleUpdater.invite, hstart]
    rfl
  · rw [hbehind.chunkSize]
    exact hpositive

private theorem mem_chunksOf_of_written {u : WifiUpdater} {host : String} {image : Bytes}
    {password : Option String} {actions : List WifiUpdater.Action}
    (idle : u.session.running = false) (lasts : (u.begun host image password).Lasts actions)
    {data : Bytes}
    (mem : data ∈ WifiUpdater.written (u.runEach (.start host image password :: actions)).2) :
    data ∈ WifiUpdater.chunksOf u.settings image := by
  have hnonempty := WifiUpdater.lasts_nonempty idle lasts
  obtain ⟨-, hwriting⟩ := WifiUpdater.writing_of_lasts idle lasts
  obtain ⟨run, hrun, -⟩ := (WifiUpdater.behind_of_lasts idle hnonempty lasts).2
  have hwrote := (hwriting run hrun).2
  have hunwritten (none : WifiUpdater.written
      (u.runEach (.start host image password :: actions)).2 = []) :
      data ∈ WifiUpdater.chunksOf u.settings image := by
    rw [none] at mem
    cases mem
  cases hstage : run.stage with
  | sending chunk rest index sent =>
    rw [hstage] at hwrote
    rw [← show _ ++ rest = WifiUpdater.chunksOf u.settings image from hwrote]
    exact List.mem_append_left rest mem
  | flushing | settling | closing =>
    rw [hstage] at hwrote
    rw [← show _ = WifiUpdater.chunksOf u.settings image from hwrote]
    exact mem
  | resolving | openingPort | openingDatagrams | inviting | accepting | tuning =>
    rw [hstage] at hwrote
    exact hunwritten hwrote

/-- Settings that have been accepted give chunks of one octet at least on either way to a device,
and no chunk is longer than they say. A scan with them breaks if its sweeps cannot be repeated from
its beginning on, and an update over Bluetooth if room for its windows cannot be set aside; neither
breaks otherwise. -/
theorem accepted_settings_serve (accepted : config.validate = .ok ()) :
    (∀ late clock course, Scan.Timely late (Scan.start config.ble).1 clock course →
      ((Scan.behind config.ble course).1.stage = .broken ↔
        ∃ began, Scan.began? course = some began ∧
          Scan.canRepeat began config.ble.sweepInterval = false)) ∧
    (∀ (u : BleUpdater) (run : BleRun) (yielded : Gatt.Yield), u.settings = config.bleUpdate →
      u.run = some run → run.stage = .subscribing →
      run.writeLimit = config.ble.maxWriteLength.toNat →
      ∃ transfer, (u.step (.answer (.ok yielded))).1.run =
          some { run with stage := .inviting transfer } ∧
        0 < transfer.chunkSize ∧
        ∀ states, transfer.reportEach? states = none ↔
          Transfer.roomLimit < config.bleUpdate.chunksPerAck.toNat * Transfer.roomPerChunk ∧
            0 < requests states) ∧
    (∀ (u : WifiUpdater) host image password actions, u.settings = config.wifiUpdate →
      u.session.running = false → (u.begun host image password).Lasts actions →
      (WifiUpdater.chunksOf u.settings image).flatten = image ∧
      ∀ data ∈ WifiUpdater.written (u.runEach (.start host image password :: actions)).2,
        data ≠ [] ∧ data.length ≤ config.wifiUpdate.chunkSize.toNat) := by
  obtain ⟨hsize, -, hack, hlength⟩ := validate_eq_ok_iff.mp accepted
  refine ⟨fun late clock course timely => ?_, ?_, ?_⟩
  · exact (Scan.stands timely).asked.broken_iff
  · intro u run yielded settings current stage writeLimit
    obtain ⟨transfer, hrun, hpositive, hbehind⟩ :=
      inviting_of_accepted accepted settings current stage writeLimit yielded
    refine ⟨transfer, hrun, hpositive, fun states => ?_⟩
    exact hbehind.reportEach?_eq_none_iff (Nat.sub_pos_of_lt hlength) (toNat_pos hack)
  · intro u host image password actions settings idle lasts
    refine ⟨WifiUpdater.flatten_chunksOf u.settings image, fun data mem => ?_⟩
    have hmem := mem_chunksOf_of_written idle lasts mem
    rw [WifiUpdater.chunksOf, settings, Nat.max_eq_left (toNat_pos hsize)] at hmem
    exact mem_chunksUpTo (toNat_pos hsize) hmem

theorem accepted_settings_serve_default :
    let course : Scan.Course := [(0, .answered (.ok .nothing)), (5, .answered (.ok (.stream 0)))]
    let run : BleRun := ⟨[1, 2, 3], 244, .subscribing⟩
    let u : BleUpdater := ⟨{}, .claimed, some run⟩
    ({} : Config).validate = .ok () ∧ Scan.Timely 0 (Scan.start {}).1 0 course ∧
      (Scan.behind {} course).1.stage ≠ .broken ∧
      ∃ transfer, (u.step (.answer (.ok .nothing))).1.run =
          some { run with stage := .inviting transfer } ∧
        0 < transfer.chunkSize ∧ transfer.reportEach? [.readyForChunk, .chunkStored] ≠ none := by
  intro course run u
  have haccepted : ({} : Config).validate = .ok () := by decide
  have htimely : Scan.Timely 0 (Scan.start {}).1 0 course := by decide
  obtain ⟨hscan, hupdate, -⟩ := accepted_settings_serve haccepted
  refine ⟨haccepted, htimely, ?_, ?_⟩
  · rw [Ne, hscan 0 0 course htimely]
    rintro ⟨_, ⟨⟩, hnot⟩
    exact absurd hnot (by decide)
  · obtain ⟨transfer, hrun, hpositive, hbreaks⟩ := hupdate u run .nothing rfl rfl rfl (by decide)
    refine ⟨transfer, hrun, hpositive, fun hnone => ?_⟩
    exact absurd ((hbreaks _).mp hnone).1 (by decide)

/-- Accepted settings with which a scan breaks where it begins, and accepted settings with which an
update over Bluetooth breaks at the first window of a single octet. -/
theorem accepted_settings_break :
    let restless : Config := { ble := { sweepInterval := .zero } }
    let greedy : Config := { bleUpdate := { chunksPerAck := 288230376151711744 } }
    restless.validate = .ok () ∧
      (Scan.behind restless.ble
        [(0, .answered (.ok .nothing)), (0, .answered (.ok (.stream 0)))]).1.stage = .broken ∧
      greedy.validate = .ok () ∧
      ∃ transfer, Transfer.start [1] 241 greedy.bleUpdate.chunksPerAck.toNat = .ok transfer ∧
        transfer.reportEach? [.readyForChunk] = none := by
  refine ⟨by decide, by decide, by decide, ?_⟩
  exact ⟨⟨[1], 0, 241, 288230376151711744, false⟩, rfl, by decide⟩

end RadioLink.Config
