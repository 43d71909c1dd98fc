import RadioLink.Proofs.Update.BleRecord

/-!
What a run over Bluetooth takes hold of, it lets go, whichever way it ends. Behind every end of a
run its marks are known, and its result is settled before the link is let go.
-/

set_option autoImplicit false
set_option relaxedAutoImplicit false

namespace RadioLink.Update.BleUpdater

variable {u now next : BleUpdater} {run : BleRun} {action : Action} {note : Option Note}
  {outputs : List Output} {entries : List Entry}

/-! ### Results -/

def Entry.result? : Entry → Option (Except LinkError Unit)
  | .did (.finished result) => some result
  | _ => none

def Record.result? (r : Record) : Option (Except LinkError Unit) :=
  r.entries.findSome? Entry.result?

def parting? : BleStage → Option (Except LinkError Unit)
  | .unsubscribing result => some result
  | .disconnecting result => some result
  | _ => none

private theorem parting?_of_not_isLettingGo {stage : BleStage} (h : stage.isLettingGo = false) :
    parting? stage = none := by
  cases stage <;> first | rfl | cases h

private theorem exists_parting {marks : List Mark} {stage : BleStage} (held : Held marks stage)
    (called : .unsubscribe ∈ marks) :
    .returned ∉ marks ∧ ∃ result, parting? stage = some result := by
  refine ⟨fun hreturned => ?_, ?_⟩
  · exact (cut_of_held held).unreturned (List.mem_append_left _ hreturned)
  · cases stage with
    | unsubscribing result => exact ⟨result, rfl⟩
    | disconnecting result => exact ⟨result, rfl⟩
    | inviting | listening | sending =>
      obtain ⟨writes, rfl⟩ := held
      simp [linked, work] at called
    | _ =>
      obtain rfl := held
      simp [linked] at called

theorem returned_mem_of_result {r : Record} {result : Except LinkError Unit}
    (returned : r.result? = some result) : .returned ∈ r.marks := by
  obtain ⟨entry, hmem, hentry⟩ := List.exists_of_findSome?_eq_some returned
  refine List.mem_filterMap.mpr ⟨entry, hmem, ?_⟩
  unfold Entry.result? at hentry
  split at hentry
  case h_1 => rfl
  case h_2 => cases hentry

private def resultOf? (outputs : List Output) : Option (Except LinkError Unit) :=
  outputs.findSome? fun output => (Entry.did output).result?

private theorem findSome?_did (outputs : List Output) :
    (outputs.map Entry.did).findSome? Entry.result? = resultOf? outputs := by
  rw [List.findSome?_map]
  rfl

private theorem resultOf?_of_seen {result : Except LinkError Unit}
    (shown : (seen entries outputs action).findSome? Entry.result? = some result) :
    action.IsOwn ∧ resultOf? outputs = some result := by
  cases action with
  | start | cancel => cases shown
  | answer answer =>
    have hreturned : ((underWay? entries).toList.map (Entry.returned · answer)).findSome?
        Entry.result? = none := by
      cases underWay? entries <;> rfl
    rw [seen, List.findSome?_append, hreturned, Option.none_or, findSome?_did] at shown
    exact ⟨own_answer answer, shown⟩
  | drop | sighting | scanTimeout | notification | noticeCancel =>
    exact ⟨by simp [Action.IsOwn], (findSome?_did outputs).symm.trans shown⟩

/-- The result of the run is settled. -/
structure Decided (result : Except LinkError Unit) (r : Record) : Prop where
  going : r.isOver = false → r.result? = none ∧
    ∃ run, r.updater.run = some run ∧ parting? run.stage = some result
  returned : ∀ other, r.result? = some other → other = result

private theorem parting_of_moves {result : Except LinkError Unit} (shown : now.Shown)
    (current : now.run = some run) (parting : parting? run.stage = some result)
    (move : Moves now action note next outputs) :
    (next.run = none ∨ (∃ run', next.run = some run' ∧ parting? run'.stage = some result) ∧
        (action.IsOwn → resultOf? outputs = none)) ∧
      ∀ other, action.IsOwn → resultOf? outputs = some other → other = result := by
  have hrunning := shown.claims run current
  cases move with
  | idle => exact ⟨.inr ⟨⟨run, current, parting⟩, fun _ => rfl⟩, nofun⟩
  | refuse image =>
    exact ⟨.inr ⟨⟨run, current, parting⟩, fun own => absurd rfl (own.1 image)⟩,
      fun _ own => absurd rfl (own.1 image)⟩
  | begin idle => exact absurd (idle.symm.trans hrunning) (by decide)
  | reject idle => exact absurd (idle.symm.trans hrunning) (by decide)
  | cancel => exact ⟨.inr ⟨⟨run, current, parting⟩, fun _ => rfl⟩, nofun⟩
  | drop =>
    refine ⟨.inl rfl, fun other _ hother => ?_⟩
    split_ifs at hother <;> cases hother
  | @disconnect run' result' answer current' stage =>
    obtain rfl := Option.some.inj (current.symm.trans current')
    rw [stage] at parting
    exact ⟨.inr ⟨⟨_, rfl, parting⟩, fun _ => rfl⟩, nofun⟩
  | @finish run' result' answer current' stage =>
    obtain rfl := Option.some.inj (current.symm.trans current')
    rw [stage] at parting
    refine ⟨.inl rfl, fun other _ hother => ?_⟩
    exact Option.some.inj (hother.symm.trans parting)
  | lose current' loses =>
    obtain rfl := Option.some.inj (current.symm.trans current')
    rw [parting?_of_not_isLettingGo loses.isLettingGo] at parting
    cases parting
  | fail current' fails =>
    obtain rfl := Option.some.inj (current.symm.trans current')
    rw [parting?_of_not_isLettingGo fails.isLettingGo] at parting
    cases parting
  | scan _ current' stage | seek _ current' stage | stopScan current' stage
    | connect _ current' stage | connected _ current' stage | discover current' stage
    | openNotifications current' stage | subscribe _ current' stage | invite _ current' stage
    | invited _ current' stage | hear _ current' stage | serve current' stage
    | send _ current' stage | sent _ current' stage | complete current' stage =>
    obtain rfl := Option.some.inj (current.symm.trans current')
    rw [stage] at parting
    cases parting

private theorem decided_step {result : Except LinkError Unit} {r : Record} (kept : Kept r)
    (h : Decided result r) (action : Action) : Decided result (r.step action) := by
  cases hover : r.isOver with
  | true =>
    rw [step_of_over hover]
    exact ⟨fun hgoing => absurd (hover.symm.trans hgoing) (by decide), h.returned⟩
  | false =>
    obtain ⟨hnone, run, hrun, hparting⟩ := h.going hover
    obtain ⟨hnext, hresult⟩ :=
      parting_of_moves (kept.going hover).1 hrun hparting (moves_step r.updater action)
    rw [step_of_going hover]
    have hnew : ∀ other, (r.entries ++ seen r.entries (r.updater.step action).2 action).findSome?
        Entry.result? = some other →
          action.IsOwn ∧ resultOf? (r.updater.step action).2 = some other := by
      intro other hother
      have hold : r.entries.findSome? Entry.result? = none := hnone
      rw [List.findSome?_append, hold, Option.none_or] at hother
      exact resultOf?_of_seen hother
    refine ⟨fun hgoing => ?_, fun other hother => ?_⟩
    · rcases hnext with hgone | ⟨hthere, hquiet⟩
      · rw [hgone] at hgoing
        cases hgoing
      · refine ⟨Option.eq_none_iff_forall_ne_some.mpr fun other hother => ?_, hthere⟩
        obtain ⟨hown, hshown⟩ := hnew other hother
        rw [hquiet hown] at hshown
        cases hshown
    · obtain ⟨hown, hshown⟩ := hnew other hother
      exact hresult other hown hshown

private theorem exists_decided {r : Record} (kept : Kept r) (called : .unsubscribe ∈ r.marks) :
    ∃ result, Decided result r := by
  cases hover : r.isOver with
  | true =>
    refine ⟨r.result?.getD (.ok ()), fun hgoing => ?_, fun other hother => ?_⟩
    · exact absurd (hover.symm.trans hgoing) (by decide)
    · rw [hother, Option.getD_some]
  | false =>
    obtain ⟨-, run, hrun, hheld, -⟩ := kept.going hover
    obtain ⟨hunreturned, result, hparting⟩ := exists_parting hheld called
    have hnone : r.result? = none := Option.eq_none_iff_forall_ne_some.mpr fun other hother =>
      hunreturned (returned_mem_of_result hother)
    refine ⟨result, fun _ => ⟨hnone, run, hrun, hparting⟩, fun other hother => ?_⟩
    rw [hnone] at hother
    cases hother

/-- Once the run has called for the end of the notifications, its result is settled, whatever that
call and the next one return. -/
private theorem exists_settled (u : BleUpdater) (image : Bytes) (actions : List Action)
    (called : .unsubscribe ∈ (u.record image actions).marks) :
    ∃ result, ∀ behind other,
      (u.record image (actions ++ behind)).result? = some other → other = result := by
  obtain ⟨result, hdecided⟩ := exists_decided (kept_record u image actions) called
  refine ⟨result, fun behind => ?_⟩
  have hbehind : Decided result (u.record image (actions ++ behind)) := by
    induction behind using List.reverseRecOn with
    | nil => simpa using hdecided
    | append_singleton behind action ih =>
      rw [← List.append_assoc, record_snoc]
      exact decided_step (kept_record u image _) ih action
  exact hbehind.returned

/-! ### Everything is let go -/

/-- What a run that returns has let go. -/
structure Releases (marks : List Mark) : Prop where
  /-- The return is behind all of it. -/
  last : ∃ front, marks = front ++ [.returned] ∧ .returned ∉ front
  scan : .scanning ∈ marks → marks.count .stopScan = 1 ∧
    ∀ before behind, marks = before ++ .connect :: behind → .stopScan ∈ before
  noScan : .scanning ∉ marks → .stopScan ∉ marks
  link : .connected ∈ marks →
    marks.count .unsubscribe = 1 ∧ marks.count .disconnect = 1 ∧
      ∃ front, marks = front ++ [.unsubscribe, .disconnect, .returned]
  noLink : .connected ∉ marks → .unsubscribe ∉ marks ∧ .disconnect ∉ marks
  timer : timer marks = [] ∨ timer marks = [true, false]
  awake : ∀ before behind, marks = before ++ .write :: behind →
    .awake true ∈ before ∧ .awake false ∈ behind

private theorem exists_before {ahead rest before behind : List Mark} {mark : Mark}
    (split : ahead ++ rest = before ++ mark :: behind) (absent : mark ∉ ahead) :
    ∃ more, before = ahead ++ more := by
  rcases List.append_eq_append_iff.mp split with ⟨more, hbefore, -⟩ | ⟨more, hahead, hmore⟩
  · exact ⟨more, hbefore⟩
  · cases more with
    | nil => exact ⟨[], by simpa using hahead.symm⟩
    | cons other more =>
      obtain rfl : mark = other := List.head_eq_of_cons_eq hmore
      exact absurd (by simp [hahead]) absent

private theorem exists_behind {ahead rest before behind : List Mark} {mark : Mark}
    (split : ahead ++ rest = before ++ mark :: behind) (absent : mark ∉ rest) :
    ∃ more, behind = more ++ rest := by
  rcases List.append_eq_append_iff.mp split with ⟨more, -, hrest⟩ | ⟨more, -, hmore⟩
  · exact absurd (by simp [hrest]) absent
  · cases more with
    | nil =>
      have hrest : mark :: behind = rest := hmore
      exact absurd (hrest ▸ List.mem_cons_self) absent
    | cons other more => exact ⟨more, (List.cons.inj hmore).2⟩

private theorem not_mem_used {used : List Mark} (h : Used used) {mark : Mark}
    (other : mark ≠ .awake true ∧ mark ≠ .awake false ∧ mark ≠ .write) : mark ∉ used := by
  rcases h with rfl | ⟨writes, rfl⟩
  · exact List.not_mem_nil
  · simp [work, List.mem_replicate, other.1, other.2.1, other.2.2]

private theorem releases_of_unwritten {marks : List Mark} (unwritten : .write ∉ marks) :
    ∀ before behind, marks = before ++ .write :: behind →
      .awake true ∈ before ∧ .awake false ∈ behind := by
  rintro before behind rfl
  exact absurd (by simp) unwritten

private theorem releases_of_linked {used : List Mark} (h : Used used) :
    Releases (linked ++ used ++ [.unsubscribe, .disconnect] ++ [.returned]) where
  last := by
    have hreturned : .returned ∉ used := not_mem_used h (by decide)
    exact ⟨_, rfl, by simp [linked, hreturned]⟩
  scan := by
    intro _
    have hused : used.count .stopScan = 0 := List.count_eq_zero.mpr (not_mem_used h (by decide))
    refine ⟨by simp [List.count_append, linked, hused], fun before behind split => ?_⟩
    have hsplit : [.scanning, .stopScan] ++
        ([.connect, .connected] ++ used ++ [.unsubscribe, .disconnect] ++ [.returned]) =
          before ++ .connect :: behind := by simpa [linked] using split
    obtain ⟨more, rfl⟩ := exists_before hsplit (by decide)
    simp
  noScan := fun absent => absurd (by simp [linked]) absent
  link := by
    intro _
    have hunsubscribe : used.count .unsubscribe = 0 :=
      List.count_eq_zero.mpr (not_mem_used h (by decide))
    have hdisconnect : used.count .disconnect = 0 :=
      List.count_eq_zero.mpr (not_mem_used h (by decide))
    refine ⟨by simp [List.count_append, linked, hunsubscribe],
      by simp [List.count_append, linked, hdisconnect], linked ++ used, by simp⟩
  noLink := fun absent => absurd (by simp [linked]) absent
  timer := by
    have hrestored := (cut_used h).restored
    simp only [timer_append]
    simpa [timer, linked] using hrestored
  awake := by
    rcases h with rfl | ⟨writes, rfl⟩
    · exact releases_of_unwritten (by decide)
    · intro before behind split
      have hfront : (linked ++ [.awake true]) ++ (List.replicate writes .write ++
          [.awake false, .unsubscribe, .disconnect, .returned]) = before ++ .write :: behind := by
        simpa [work] using split
      have hback : (linked ++ work writes) ++ [.awake false, .unsubscribe, .disconnect, .returned] =
          before ++ .write :: behind := by simpa using split
      obtain ⟨earlier, rfl⟩ := exists_before hfront (by decide)
      obtain ⟨later, rfl⟩ := exists_behind hback (by decide)
      simp

private theorem releases_of_closed {body : List Mark} (closed : Closed body) :
    Releases (body ++ [.returned]) := by
  cases closed with
  | linked h => exact releases_of_linked h
  | unscanned =>
    exact ⟨⟨_, rfl, by decide⟩, fun scanned => absurd scanned (by decide), fun _ => by decide,
      fun joined => absurd joined (by decide), fun _ => by decide, .inl rfl,
      releases_of_unwritten (by decide)⟩
  | unfound =>
    refine ⟨⟨_, rfl, by decide⟩, fun _ => ⟨by decide, fun before behind split => ?_⟩,
      fun absent => absurd (by decide) absent, fun joined => absurd joined (by decide),
      fun _ => by decide, .inl rfl, releases_of_unwritten (by decide)⟩
    have hconnect : Mark.connect ∈ [.scanning, .stopScan] ++ [.returned] := by simp [split]
    exact absurd hconnect (by decide)
  | unlinked =>
    refine ⟨⟨_, rfl, by decide⟩, fun _ => ⟨by decide, fun before behind split => ?_⟩,
      fun absent => absurd (by decide) absent, fun joined => absurd joined (by decide),
      fun _ => by decide, .inl rfl, releases_of_unwritten (by decide)⟩
    have hsplit : [.scanning, .stopScan] ++ [.connect, .returned] = before ++ .connect :: behind :=
      split
    obtain ⟨more, rfl⟩ := exists_before hsplit (by decide)
    simp

/-- Whatever happens to a run, if it returns then it has let go everything: the scan, if it was
started, is stopped once and ahead of any connecting; a link, if there was one, has its
notifications ended and is disconnected, once each and last; the timer is left alone, or disabled
ahead of anything written and restored behind it. What the calls that let the link go return does
not change the result. The timer is restored in the same way when the run is dropped. -/
theorem run_releases (u : BleUpdater) (image : Bytes) (actions : List Action) :
    (∀ result, (u.record image actions).result? = some result →
      Releases (u.record image actions).marks) ∧
    ((u.record image actions).isOver = true →
      timer (u.record image actions).marks = [] ∨
        timer (u.record image actions).marks = [true, false]) ∧
    (.unsubscribe ∈ (u.record image actions).marks →
      ∃ result, ∀ behind other,
        (u.record image (actions ++ behind)).result? = some other → other = result) := by
  have hkept := kept_record u image actions
  refine ⟨fun result hresult => ?_, fun hover => ?_, exists_settled u image actions⟩
  · have hreturned := returned_mem_of_result hresult
    cases hover : (u.record image actions).isOver with
    | false =>
      obtain ⟨-, run, -, hheld, -⟩ := hkept.going hover
      exact absurd (List.mem_append_left _ hreturned) (cut_of_held hheld).unreturned
    | true =>
      rcases hkept.ended hover with ⟨body, hclosed, hmarks⟩ | hcut
      · rw [hmarks]
        exact releases_of_closed hclosed
      · exact absurd hreturned hcut.unreturned
  · rcases hkept.ended hover with ⟨body, hclosed, hmarks⟩ | hcut
    · rw [hmarks]
      exact (releases_of_closed hclosed).timer
    · exact hcut.restored

/-- A device is found, and cannot be connected to. -/
example : ((initial {}).record [1] [.answer (.ok .nothing), .answer (.ok (.stream 0)),
      .sighting (some ⟨"a", none, none⟩), .answer (.error .timeout),
      .answer (.error .timeout)]).marks =
    [.scanning, .stopScan, .connect, .returned] := rfl

end RadioLink.Update.BleUpdater
