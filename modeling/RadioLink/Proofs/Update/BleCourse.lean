import RadioLink.Proofs.Update.BleMoves
import RadioLink.Proofs.Update.Chunks

/-!
The course of an update over Bluetooth, whatever the device reports. The run writes an invitation,
and then as many chunks as the device has asked for; the first outcome that the device reports ends
the writing, and is the result of the run.
-/

set_option autoImplicit false
set_option relaxedAutoImplicit false

namespace RadioLink.Update.BleUpdater

/-! ### What is read off a run -/

@[simp] def written : List Output → List Bytes
  | [] => []
  | .run (.write characteristic value _) :: seen =>
    if characteristic = Gatt.updateData then value :: written seen else written seen
  | _ :: seen => written seen

@[simp] def results : List Output → List (Except LinkError Unit)
  | [] => []
  | .finished result :: seen => result :: results seen
  | _ :: seen => results seen

@[simp] def states : List Note → List DeviceState
  | [] => []
  | .heard state :: notes => state :: states notes
  | .connected _ :: notes | .broke _ :: notes => states notes

@[simp] def failures : List Note → List LinkError
  | [] => []
  | .broke error :: notes => error :: failures notes
  | .connected _ :: notes | .heard _ :: notes => failures notes

/-- The longest writes of the peripherals that the run has connected to. -/
@[simp] def limits : List Note → List Nat
  | [] => []
  | .connected writeLimit :: notes => writeLimit :: limits notes
  | .heard _ :: notes | .broke _ :: notes => limits notes

@[simp] theorem written_append (before behind : List Output) :
    written (before ++ behind) = written before ++ written behind := by
  induction before with
  | nil => rfl
  | cons output before ih =>
    cases output with
    | run operation =>
      cases operation with
      | write characteristic value kind =>
        simp only [List.cons_append, written, ih]
        split_ifs <;> rfl
      | _ => exact ih
    | _ => exact ih

@[simp] theorem results_append (before behind : List Output) :
    results (before ++ behind) = results before ++ results behind := by
  induction before with
  | nil => rfl
  | cons output before ih => cases output <;> simp [ih]

@[simp] theorem states_append (before behind : List Note) :
    states (before ++ behind) = states before ++ states behind := by
  induction before with
  | nil => rfl
  | cons note before ih => cases note <;> simp [ih]

@[simp] theorem failures_append (before behind : List Note) :
    failures (before ++ behind) = failures before ++ failures behind := by
  induction before with
  | nil => rfl
  | cons note before ih => cases note <;> simp [ih]

@[simp] theorem limits_append (before behind : List Note) :
    limits (before ++ behind) = limits before ++ limits behind := by
  induction before with
  | nil => rfl
  | cons note before ih => cases note <;> simp [ih]

theorem mem_results {result : Except LinkError Unit} {seen : List Output} :
    result ∈ results seen ↔ .finished result ∈ seen := by
  induction seen with
  | nil => simp
  | cons output seen ih => cases output <;> simp [ih]

theorem mem_failures {error : LinkError} {notes : List Note} :
    error ∈ failures notes ↔ .broke error ∈ notes := by
  induction notes with
  | nil => simp
  | cons note notes ih => cases note <;> simp [ih]

@[simp] theorem written_writeData (value : Bytes) :
    written [.run (writeData value)] = [value] :=
  rfl

@[simp] theorem written_letGo (u : BleUpdater) (run : BleRun) (result : Except LinkError Unit) :
    written (u.letGo run result).2 = [] := by
  simp only [letGo, written_append]
  split_ifs <;> rfl

@[simp] theorem results_letGo (u : BleUpdater) (run : BleRun) (result : Except LinkError Unit) :
    results (u.letGo run result).2 = [] := by
  simp only [letGo, results_append]
  split_ifs <;> rfl

/-! ### How a run stands -/

/-- How often the device has asked for chunks. -/
def asked (notes : List Note) : Nat := (states notes).countP DeviceState.asks

/-- The device has reported no outcome, and no failure has ended the run. -/
structure Going (notes : List Note) (seen : List Output) : Prop where
  unsettled : ∀ state ∈ states notes, state.isFinal = false
  unbroken : failures notes = []
  unfinished : results seen = []

/-- What decides the result of a run. -/
inductive Settles (notes : List Note) : Except LinkError Unit → Prop
  | complete {before : List DeviceState} (unsettled : ∀ state ∈ before, state.isFinal = false)
      (last : states notes = before ++ [.complete]) (unbroken : failures notes = []) :
      Settles notes (.ok ())
  | reported {before : List DeviceState} (unsettled : ∀ state ∈ before, state.isFinal = false)
      (last : states notes = before ++ [.error]) (unbroken : failures notes = []) :
      Settles notes (.error .deviceReportedError)
  | broke {error : LinkError} (unsettled : ∀ state ∈ states notes, state.isFinal = false)
      (broken : failures notes = [error]) : Settles notes (.error error)
  | other {error : LinkError} (unsettled : ∀ state ∈ states notes, state.isFinal = false)
      (unbroken : failures notes = []) (other : error ≠ .deviceReportedError) :
      Settles notes (.error error)

def width (settings : Config.BleUpdate) : Nat := max settings.chunksPerAck.toNat 1

/-- All chunks that the device has asked for. -/
def due (settings : Config.BleUpdate) (image : Bytes) (limit : Nat) (notes : List Note) :
    List Bytes :=
  chunksUpTo (limit - Config.writeOverhead) (asked notes * width settings) image

/-- Nothing has been written, or the invitation and some of what the device has asked for. -/
def Accounts (settings : Config.BleUpdate) (image : Bytes) (notes : List Note)
    (values : List Bytes) : Prop :=
  values = [] ∨ ∃ limit chunks, limits notes = [limit] ∧ 0 < limit - Config.writeOverhead ∧
    values = invitation image :: chunks ∧ chunks <+: due settings image limit notes

/-- The device has been invited, and what it has asked for has been written, but for the rest. -/
structure Hands (settings : Config.BleUpdate) (image : Bytes) (limit : Nat) (notes : List Note)
    (seen : List Output) (transfer : Transfer) (rest : List Bytes) : Prop where
  going : Going notes seen
  limited : limits notes = [limit]
  fits : 0 < limit - Config.writeOverhead
  values : written seen ++ rest =
    invitation image :: due settings image limit notes
  along : transfer.Along image (limit - Config.writeOverhead) (width settings)
    (asked notes)

/-- What holds at a stage of a run. -/
def Stands (settings : Config.BleUpdate) (image : Bytes) (limit : Nat) (notes : List Note)
    (seen : List Output) : BleStage → Prop
  | .poweringOn | .startingScan | .seeking | .stoppingScan (.ok _) | .connecting _ =>
    Going notes seen ∧ written seen = [] ∧ states notes = [] ∧ limits notes = []
  | .stoppingScan (.error error) =>
    Going notes seen ∧ written seen = [] ∧ error ≠ .deviceReportedError
  | .findingService | .findingCharacteristics | .openingNotifications | .subscribing =>
    Going notes seen ∧ written seen = [] ∧ states notes = [] ∧ limits notes = [limit]
  | .inviting transfer | .listening transfer => Hands settings image limit notes seen transfer []
  | .sending transfer rest => Hands settings image limit notes seen transfer rest
  | .unsubscribing result | .disconnecting result =>
    Settles notes result ∧ results seen = [] ∧ Accounts settings image notes (written seen)

variable {settings : Config.BleUpdate} {image : Bytes} {notes : List Note} {seen : List Output}
  {run : BleRun} {limit : Nat} {transfer : Transfer} {rest : List Bytes} {state : DeviceState}

private theorem Hands.accounts (h : Hands settings image limit notes seen transfer rest) :
    Accounts settings image notes (written seen) := by
  have hvalues := h.values
  cases hwritten : written seen with
  | nil => exact .inl rfl
  | cons value values =>
    rw [hwritten, List.cons_append] at hvalues
    injection hvalues with hvalue hrest
    exact .inr ⟨limit, values, h.limited, h.fits, by rw [hvalue], rest, hrest⟩

private theorem Stands.accounts {stage : BleStage}
    (h : Stands settings image limit notes seen stage) :
    Accounts settings image notes (written seen) := by
  cases stage with
  | stoppingScan found => cases found <;> exact .inl h.2.1
  | inviting | listening | sending => exact Hands.accounts h
  | unsubscribing | disconnecting => exact h.2.2
  | _ => exact .inl h.2.1

theorem Stands.going {stage : BleStage} (h : Stands settings image limit notes seen stage)
    (holds : ∀ result, stage ≠ .unsubscribing result ∧ stage ≠ .disconnecting result) :
    Going notes seen := by
  cases stage with
  | stoppingScan found => cases found <;> exact h.1
  | inviting | listening | sending => exact Hands.going h
  | unsubscribing result => exact absurd rfl (holds result).1
  | disconnecting result => exact absurd rfl (holds result).2
  | _ => exact h.1

private theorem Going.settles_broke (h : Going notes seen) (error : LinkError) :
    Settles (notes ++ [.broke error]) (.error error) := by
  refine .broke ?_ ?_
  · simpa using h.unsettled
  · simp [h.unbroken]

private theorem Going.settles_other (h : Going notes seen) {error : LinkError}
    (other : error ≠ .deviceReportedError) : Settles notes (.error error) :=
  .other h.unsettled h.unbroken other

private theorem Hands.due_heard (h : Hands settings image limit notes seen transfer rest)
    (asks : state.asks = true) :
    due settings image limit (notes ++ [.heard state]) =
      due settings image limit notes ++ transfer.nextWindow := by
  have hasked : asked (notes ++ [.heard state]) = asked notes + 1 := by
    simp [asked, asks]
  rw [due, hasked, Transfer.chunksUpTo_succ, h.along.nextWindow_eq]
  rfl

private theorem Going.see (h : Going notes seen) {outputs : List Output}
    (silent : results outputs = []) : Going notes (seen ++ outputs) :=
  ⟨h.unsettled, h.unbroken, by rw [results_append, h.unfinished, silent]; rfl⟩

private theorem Going.hear (h : Going notes seen) (open_ : state.isFinal = false) :
    Going (notes ++ [.heard state]) seen := by
  refine ⟨?_, by simp [h.unbroken], h.unfinished⟩
  intro other mem
  rw [states_append] at mem
  rcases List.mem_append.mp mem with mem | mem
  · exact h.unsettled other mem
  · rw [List.mem_singleton.mp mem]
    exact open_

private theorem Accounts.extend {values : List Bytes} (h : Accounts settings image notes values)
    {more : List Note} (unlimited : limits more = []) (unasked : asked more = 0) :
    Accounts settings image (notes ++ more) values := by
  have hasked : asked (notes ++ more) = asked notes := by
    rw [asked, states_append, List.countP_append]
    exact Nat.add_eq_left.mpr unasked
  rcases h with rfl | ⟨limit, chunks, hlimits, hfits, rfl, hprefix⟩
  · exact .inl rfl
  · refine .inr ⟨limit, chunks, by rw [limits_append, hlimits, unlimited]; rfl, hfits, rfl, ?_⟩
    rwa [due, hasked]

/-- What holds of a run, or of the updater once it is over. -/
def Course (settings : Config.BleUpdate) (image : Bytes) (actions : List Action) (now : BleUpdater)
    (notes : List Note) (seen : List Output) : Prop :=
  now.settings = settings ∧
    match now.run with
    | none =>
      (results seen = [] → .drop ∈ actions) ∧ (∀ result ∈ results seen, Settles notes result) ∧
        Accounts settings image notes (written seen)
    | some run => run.image = image ∧ Stands settings image run.writeLimit notes seen run.stage

variable {actions : List Action} {now next : BleUpdater} {action : Action} {note : Option Note}
  {outputs : List Output}

theorem Course.stands (h : Course settings image actions now notes seen)
    (current : now.run = some run) :
    run.image = image ∧ Stands settings image run.writeLimit notes seen run.stage := by
  obtain ⟨-, h⟩ := h
  rwa [current] at h

theorem Course.stands_at {stage : BleStage} (h : Course settings image actions now notes seen)
    (current : now.run = some run) (hstage : run.stage = stage) :
    run.image = image ∧ Stands settings image run.writeLimit notes seen stage :=
  hstage ▸ h.stands current

private theorem Stands.silent {stage : BleStage}
    (h : Stands settings image limit notes seen stage) : results seen = [] := by
  cases stage with
  | stoppingScan found => cases found <;> exact h.1.unfinished
  | inviting | listening | sending => exact (Hands.going h).unfinished
  | unsubscribing | disconnecting => exact h.2.1
  | _ => exact h.1.unfinished

private theorem Stands.see {stage : BleStage} (h : Stands settings image limit notes seen stage)
    (unwritten : written outputs = []) (silent : results outputs = []) :
    Stands settings image limit notes (seen ++ outputs) stage := by
  have hwritten : written (seen ++ outputs) = written seen := by
    rw [written_append, unwritten, List.append_nil]
  have hresults : results (seen ++ outputs) = results seen := by
    rw [results_append, silent, List.append_nil]
  cases stage with
  | stoppingScan found => cases found <;> exact ⟨h.1.see silent, hwritten.trans h.2.1, h.2.2⟩
  | inviting | listening | sending =>
    obtain ⟨hgoing, hlimit, hfits, hvalues, halong⟩ := h
    exact ⟨hgoing.see silent, hlimit, hfits, by rwa [hwritten], halong⟩
  | unsubscribing | disconnecting =>
    exact ⟨h.1, hresults.trans h.2.1, by rw [hwritten]; exact h.2.2⟩
  | _ => exact ⟨h.1.see silent, hwritten.trans h.2.1, h.2.2⟩

private theorem Hands.hear (h : Hands settings image limit notes seen transfer rest)
    (final : state.isFinal = false) (asks : state.asks = false) {behind : Transfer}
    (along : behind.Along image (limit - Config.writeOverhead) (width settings) (asked notes)) :
    Hands settings image limit (notes ++ [.heard state]) seen behind rest := by
  have hasked : asked (notes ++ [.heard state]) = asked notes := by simp [asked, asks]
  refine ⟨h.going.hear final, by simpa using h.limited, h.fits, ?_, by rw [hasked]; exact along⟩
  rw [due, hasked]
  exact h.values

private theorem Hands.serve (h : Hands settings image limit notes seen transfer [])
    (asks : state.asks = true)
    {behind : Transfer}
    (along : behind.Along image (limit - Config.writeOverhead) (width settings) (asked notes + 1)) :
    Hands settings image limit (notes ++ [.heard state]) seen behind transfer.nextWindow := by
  have hasked : asked (notes ++ [.heard state]) = asked notes + 1 := by simp [asked, asks]
  have hfinal : state.isFinal = false := by cases state <;> first | rfl | cases asks
  refine ⟨h.going.hear hfinal, by simpa using h.limited, h.fits, ?_, by rw [hasked]; exact along⟩
  rw [h.due_heard asks, ← List.cons_append, ← h.values, List.append_nil]

private theorem Hands.settles (h : Hands settings image limit notes seen transfer rest) :
    Settles (notes ++ [.heard .complete]) (.ok ()) ∧
      Settles (notes ++ [.heard .error]) (.error .deviceReportedError) :=
  ⟨.complete h.going.unsettled (by simp) (by simp [h.going.unbroken]),
    .reported h.going.unsettled (by simp) (by simp [h.going.unbroken])⟩

private theorem Course.go {run' : BleRun} (h : Course settings image actions now notes seen)
    (held : next.settings = now.settings) (current : next.run = some run')
    (same : run'.image = image)
    (stands : Stands settings image run'.writeLimit (notes ++ note.toList) (seen ++ outputs)
      run'.stage) :
    Course settings image (actions ++ [action]) next (notes ++ note.toList) (seen ++ outputs) := by
  refine ⟨held.trans h.1, ?_⟩
  rw [current]
  exact ⟨same, stands⟩

private theorem Course.goOn {run' : BleRun} (h : Course settings image actions now notes seen)
    (held : next.settings = now.settings) (current : next.run = some run')
    (same : run'.image = image)
    (stands : Stands settings image run'.writeLimit notes (seen ++ outputs) run'.stage) :
    Course settings image (actions ++ [action]) next (notes ++ (none : Option Note).toList)
      (seen ++ outputs) := by
  refine h.go held current same ?_
  rwa [Option.toList_none, List.append_nil]

private theorem Course.finish {result : Except LinkError Unit} (before : List Output)
    (h : Course settings image actions now notes seen) (current : now.run = some run)
    (settles : Settles (notes ++ note.toList) result) (unlimited : limits note.toList = [])
    (unasked : asked note.toList = 0) (unwritten : written before = [])
    (silent : results before = []) :
    Course settings image (actions ++ [action]) (now.finish result).1 (notes ++ note.toList)
      (seen ++ (before ++ [.finished result])) := by
  obtain ⟨himage, hstands⟩ := h.stands current
  have hsilent := hstands.silent
  have haccounts := hstands.accounts.extend unlimited unasked
  refine ⟨h.1, ?_, ?_, ?_⟩
  · intro hresults
    simp [hsilent] at hresults
  · intro other mem
    obtain rfl : other = result := by simpa [hsilent, silent] using mem
    exact settles
  · simpa [unwritten] using haccounts

private theorem Course.letGo {result : Except LinkError Unit} (before : List Output)
    (h : Course settings image actions now notes seen) (current : now.run = some run)
    (settles : Settles (notes ++ note.toList) result) (unlimited : limits note.toList = [])
    (unasked : asked note.toList = 0) (unwritten : written before = [])
    (silent : results before = []) :
    Course settings image (actions ++ [action]) (now.letGo run result).1 (notes ++ note.toList)
      (seen ++ (before ++ (now.letGo run result).2)) := by
  obtain ⟨himage, hstands⟩ := h.stands current
  have haccounts := hstands.accounts.extend unlimited unasked
  refine h.go rfl rfl himage ⟨settles, ?_, ?_⟩
  · simp [hstands.silent, silent]
  · simpa [unwritten] using haccounts

private theorem Stands.loses {before : List Output} {error : LinkError} {u : BleUpdater}
    (h : Stands settings image limit notes seen run.stage)
    (loses : Loses u run action note error before) :
    Settles (notes ++ note.toList) (.error error) ∧ limits note.toList = [] ∧
      asked note.toList = 0 ∧ written before = [] ∧ results before = [] := by
  have hnotes : notes ++ (none : Option Note).toList = notes := List.append_nil _
  have hother {error : LinkError} (other : error ≠ .deviceReportedError)
      (going : Going notes seen) : Settles (notes ++ (none : Option Note).toList) (.error error) :=
    hnotes.symm ▸ going.settles_other other
  cases loses with
  | operation error stage =>
    have hgoing : Going notes seen := by
      refine h.going fun result => ?_
      rcases stage with hstage | hstage | hstage | hstage | ⟨transfer, hstage⟩ |
        ⟨transfer, rest, hstage⟩ <;> simp [hstage]
    exact ⟨hgoing.settles_broke error, rfl, rfl, rfl, rfl⟩
  | serviceMissing stage | characteristicMissing missing stage =>
    exact ⟨hother (by rintro ⟨⟩) (h.going (by simp [stage])), rfl, rfl, rfl, rfl⟩
  | unfit stage unfit =>
    refine ⟨hother ?_ (h.going (by simp [stage])), rfl, rfl, rfl, rfl⟩
    rw [Transfer.start] at unfit
    split_ifs at unfit
    cases unfit
    rintro ⟨⟩
  | ended stage => exact ⟨hother (by rintro ⟨⟩) (h.going (by simp [stage])), rfl, rfl, rfl, rfl⟩
  | @reported transfer n state stage heard failed =>
    rw [stage] at h
    have hstands : Hands settings image limit notes seen transfer [] := h
    obtain rfl := hstands.along.eq_error failed
    exact ⟨hstands.settles.2, rfl, rfl, rfl, rfl⟩
  | cancelledFinding requested stage =>
    refine ⟨hother (by rintro ⟨⟩) (h.going fun result => ?_), rfl, rfl, rfl, rfl⟩
    rcases stage with hstage | hstage | hstage | hstage <;> simp [hstage]
  | cancelledListening requested stage =>
    exact ⟨hother (by rintro ⟨⟩) (h.going (by simp [stage])), rfl, rfl, rfl, rfl⟩

private theorem Stands.fails {before : List Output} {error : LinkError} {u : BleUpdater}
    (h : Stands settings image limit notes seen run.stage)
    (fails : Fails u run action note error before) :
    Settles (notes ++ note.toList) (.error error) ∧ limits note.toList = [] ∧
      asked note.toList = 0 ∧ written before = [] ∧ results before = [] := by
  have hnotes : notes ++ (none : Option Note).toList = notes := List.append_nil _
  cases fails with
  | operation error stage =>
    have hgoing : Going notes seen := by
      refine h.going fun result => ?_
      rcases stage with hstage | hstage | ⟨name, hstage⟩ <;> simp [hstage]
    exact ⟨hgoing.settles_broke error, rfl, rfl, rfl, rfl⟩
  | scan stage =>
    rw [stage] at h
    exact ⟨hnotes.symm ▸ h.1.settles_other h.2.2, rfl, rfl, rfl, rfl⟩
  | cancelled requested stage =>
    have hgoing : Going notes seen := by
      refine h.going fun result => ?_
      rcases stage with hstage | ⟨name, hstage⟩ <;> simp [hstage]
    exact ⟨hnotes.symm ▸ hgoing.settles_other (by nofun), rfl, rfl, rfl, rfl⟩

private theorem Course.see (h : Course settings image actions now notes seen)
    (held : next.settings = now.settings) (same : next.run = now.run)
    (unwritten : written outputs = []) (silent : results outputs = []) :
    Course settings image (actions ++ [action]) next notes (seen ++ outputs) := by
  obtain ⟨hsettings, h⟩ := h
  refine ⟨held.trans hsettings, ?_⟩
  rw [same]
  cases hrun : now.run with
  | none =>
    rw [hrun] at h
    obtain ⟨hdropped, hsettled, haccounts⟩ := h
    rw [results_append, written_append, silent, unwritten, List.append_nil, List.append_nil]
    exact ⟨fun hresults => List.mem_append_left _ (hdropped hresults), hsettled, haccounts⟩
  | some run =>
    rw [hrun] at h
    exact ⟨h.1, h.2.see unwritten silent⟩

private theorem Course.drop (h : Course settings image actions now notes seen)
    (current : now.run = some run) :
    Course settings image (actions ++ [.drop])
      { now with session := now.session.release, run := none } notes
      (seen ++ ((if run.stage.isBusy then [.giveUp] else []) ++
        (if run.stage.isAwake then [.keepAwake false] else []))) := by
  obtain ⟨himage, hstands⟩ := h.stands current
  have hunwritten : written ((if run.stage.isBusy then [.giveUp] else []) ++
      (if run.stage.isAwake then [.keepAwake false] else [])) = [] := by
    split_ifs <;> rfl
  have hsilent : results ((if run.stage.isBusy then [.giveUp] else []) ++
      (if run.stage.isAwake then [.keepAwake false] else [])) = [] := by
    split_ifs <;> rfl
  refine ⟨h.1, fun _ => List.mem_append_right _ (List.mem_singleton_self _), ?_, ?_⟩
  · intro result mem
    rw [results_append, hstands.silent, hsilent] at mem
    cases mem
  · rw [written_append, hunwritten, List.append_nil]
    exact hstands.accounts

private theorem Stands.connected {name : String} {longest : Nat}
    (h : Stands settings image limit notes seen (.connecting name)) (silent : results outputs = [])
    (unwritten : written outputs = []) :
    Stands settings image longest (notes ++ [.connected longest]) (seen ++ outputs)
      .findingService := by
  obtain ⟨hgoing, hwritten, hstates, hlimits⟩ := h
  refine ⟨⟨?_, ?_, (hgoing.see silent).unfinished⟩, ?_, ?_, ?_⟩
  · simpa using hgoing.unsettled
  · simp [hgoing.unbroken]
  · simp [hwritten, unwritten]
  · simp [hstates]
  · simp [hlimits]

private theorem Stands.invite
    (h : Stands settings image limit notes seen .subscribing)
    (fit : Transfer.start image (limit - Config.writeOverhead) settings.chunksPerAck.toNat =
      .ok transfer) :
    Hands settings image limit notes
      (seen ++ [.keepAwake true, .run (writeData (invitation image))]) transfer [] := by
  obtain ⟨hgoing, hwritten, hstates, hlimits⟩ := h
  obtain ⟨hfits, halong⟩ := Transfer.along_start fit
  have hasked : asked notes = 0 := by simp [asked, hstates]
  refine ⟨hgoing.see rfl, hlimits, hfits, ?_, ?_⟩
  · simp [hwritten, due, hasked, chunksUpTo]
  · rw [hasked]
    exact halong

private theorem Hands.write {chunk : Bytes}
    (h : Hands settings image limit notes seen transfer (chunk :: rest)) :
    Hands settings image limit notes (seen ++ [.run (writeData chunk)]) transfer rest := by
  refine ⟨h.going.see rfl, h.limited, h.fits, ?_, h.along⟩
  rw [written_append, written_writeData, List.append_assoc]
  exact h.values

theorem course_of_moves (h : Course settings image actions now notes seen)
    (move : Moves now action note next outputs) (once : ∀ other, action ≠ .start other) :
    Course settings image (actions ++ [action]) next (notes ++ note.toList) (seen ++ outputs) := by
  cases move with
  | idle | cancel =>
    rw [Option.toList_none, List.append_nil]
    exact h.see rfl rfl rfl rfl
  | refuse image => exact absurd rfl (once image)
  | begin => exact absurd rfl (once _)
  | reject => exact absurd rfl (once [])
  | drop current =>
    rw [Option.toList_none, List.append_nil]
    exact h.drop current
  | scan yielded current stage | seek yielded current stage | connect answer current stage
    | discover current stage | openNotifications current stage | subscribe yielded current stage =>
    obtain ⟨himage, hgoing, hwritten, hstands⟩ := h.stands_at current stage
    exact h.goOn rfl rfl himage ⟨hgoing.see rfl, by simp [hwritten], hstands⟩
  | stopScan current stage ends =>
    obtain ⟨himage, hgoing, hwritten, hstands⟩ := h.stands_at current stage
    refine h.goOn rfl rfl himage ?_
    cases ends with
    | sighted => exact ⟨hgoing.see rfl, by simp [hwritten], hstands⟩
    | _ => exact ⟨hgoing.see rfl, by simp [hwritten], by nofun⟩
  | connected yielded current stage =>
    obtain ⟨himage, hstands⟩ := h.stands_at current stage
    exact h.go rfl rfl himage (hstands.connected rfl rfl)
  | invite yielded current stage fit =>
    obtain ⟨himage, hstands⟩ := h.stands_at current stage
    subst himage
    exact h.goOn rfl rfl rfl (hstands.invite (h.1 ▸ fit))
  | invited yielded current stage | sent yielded current stage =>
    obtain ⟨himage, hstands⟩ := h.stands_at current stage
    exact h.goOn rfl rfl himage (Stands.see hstands rfl rfl)
  | hear session current stage heard quiet shown =>
    obtain ⟨himage, hstands⟩ := h.stands_at current stage
    refine h.go rfl rfl himage ?_
    rw [List.append_nil]
    rcases hstands.along.quiet quiet with ⟨hfinal, hasks, halong⟩ | ⟨hasks, hnone, halong⟩
    · exact hstands.hear hfinal hasks halong
    · have hserve := hstands.serve hasks halong
      rw [hnone] at hserve
      exact hserve
  | serve current stage heard window =>
    obtain ⟨himage, hstands⟩ := h.stands_at current stage
    obtain ⟨hasks, hwindow, hserved⟩ := hstands.along.serve window
    -- What is left to be written is the window, of which this step writes the first chunk.
    have hserve := hstands.serve hasks hserved
    rw [hwindow] at hserve
    exact h.go rfl rfl himage hserve.write
  | send yielded current stage =>
    obtain ⟨himage, hstands⟩ := h.stands_at current stage
    exact h.goOn rfl rfl himage (Hands.write hstands)
  | complete current stage heard complete =>
    obtain ⟨himage, hstands⟩ := h.stands_at current stage
    obtain rfl := hstands.along.eq_complete complete
    exact h.letGo [] current hstands.settles.1 rfl rfl rfl rfl
  | lose current loses =>
    obtain ⟨himage, hstands⟩ := h.stands current
    obtain ⟨hsettles, hunlimited, hunasked, hunwritten, hsilent⟩ := hstands.loses loses
    exact h.letGo _ current hsettles hunlimited hunasked hunwritten hsilent
  | fail current fails =>
    obtain ⟨himage, hstands⟩ := h.stands current
    obtain ⟨hsettles, hunlimited, hunasked, hunwritten, hsilent⟩ := hstands.fails fails
    exact h.finish _ current hsettles hunlimited hunasked hunwritten hsilent
  | disconnect answer current stage =>
    obtain ⟨himage, hsettles, hsilent, haccounts⟩ := h.stands_at current stage
    exact h.goOn rfl rfl himage ⟨hsettles, by simp [hsilent], by simpa using haccounts⟩
  | finish answer current stage =>
    obtain ⟨himage, hsettles, -⟩ := h.stands_at current stage
    have hnotes : notes ++ (none : Option Note).toList = notes := List.append_nil _
    exact h.finish [] current (hnotes.symm ▸ hsettles) rfl rfl rfl rfl

theorem Course.accounts (h : Course settings image actions now notes seen) :
    Accounts settings image notes (written seen) := by
  obtain ⟨-, h⟩ := h
  cases hrun : now.run with
  | none =>
    rw [hrun] at h
    exact h.2.2
  | some run =>
    rw [hrun] at h
    exact h.2.accounts

theorem Course.settles {result : Except LinkError Unit}
    (h : Course settings image actions now notes seen) (mem : result ∈ results seen) :
    Settles notes result := by
  obtain ⟨-, h⟩ := h
  cases hrun : now.run with
  | none =>
    rw [hrun] at h
    exact h.2.1 result mem
  | some run =>
    rw [hrun] at h
    rw [h.2.silent] at mem
    cases mem

/-- What is left of a run that has been begun, however it goes on. -/
theorem course_run {u : BleUpdater} {image : Bytes} (idle : u.session.running = false)
    (nonempty : image ≠ []) (actions : List Action) (once : ∀ other, .start other ∉ actions) :
    Course u.settings image (.start image :: actions) (u.runEach (.start image :: actions)).1
      (u.history (.start image :: actions)) (u.runEach (.start image :: actions)).2 := by
  induction actions using List.reverseRecOn with
  | nil =>
    simp only [runEach_cons, history, step_start idle nonempty]
    exact ⟨rfl, rfl, ⟨by simp [note?], by simp [note?], rfl⟩, rfl, rfl, rfl⟩
  | append_singleton actions action ih =>
    rw [← List.cons_append, runEach_snoc, history_snoc]
    refine course_of_moves (ih fun other mem => once other (List.mem_append_left _ mem))
      (moves_step _ _) ?_
    rintro other rfl
    exact once other (List.mem_append_right _ (List.mem_singleton_self _))

end RadioLink.Update.BleUpdater
