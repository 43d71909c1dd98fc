import RadioLink.Proofs.Link.Lifecycle
import RadioLink.Proofs.Link.Renewal
import RadioLink.Proofs.Link.Setup

/-!
An attempt to open a link over Bluetooth that fails. It stops at the first step with which anything
is wrong, drops the link if there is one, and leaves a connection that cannot be told from a new
one.
-/

set_option autoImplicit false
set_option relaxedAutoImplicit false

namespace RadioLink.Link

variable {M : Type} {p : Protocol M}

/-! ### What attempts ask for -/

def Doing.answer? {d : Dial p} : Doing d → Option d.Answer
  | .dialled answer => some answer
  | .connect | .call .. | .move .. => none

private theorem Connection.length_letGo (c : Connection p) :
    c.letGo.sessions.length = c.sessions.length := by
  rw [letGo_eq]
  rcases c.current with _ | index
  · rfl
  · exact length_stepAt

namespace Owner

open Connection

variable {d : Dial p} {o fresh : Owner d}

/-- The stage that an attempt gets to, where it asks for an operation. -/
def reached? (o : Owner d) : Doing d → Option d.Stage
  | .connect => if o.attempt.isNone then (o.step .connect).1.attempt else none
  | .dialled answer => (o.step (.dialled answer)).1.attempt
  | .call .. | .move .. => none

def reached (o : Owner d) : List (Doing d) → List d.Stage
  | [] => []
  | doing :: doings => (o.reached? doing).toList ++ (o.step doing).1.reached doings

private theorem run_snoc (o : Owner d) (doings : List (Doing d)) (doing : Doing d) :
    o.run (doings ++ [doing]) =
      (((o.run doings).1.step doing).1, (o.run doings).2 ++ ((o.run doings).1.step doing).2) := by
  rw [run_append]
  simp only [run, List.append_nil]

private theorem reached_append (o : Owner d) (before behind : List (Doing d)) :
    o.reached (before ++ behind) = o.reached before ++ (o.run before).1.reached behind := by
  induction before generalizing o with
  | nil => rfl
  | cons doing before ih => simp only [List.cons_append, reached, run, ih, List.append_assoc]

private theorem reached_snoc (o : Owner d) (doings : List (Doing d)) (doing : Doing d) :
    o.reached (doings ++ [doing]) =
      o.reached doings ++ ((o.run doings).1.reached? doing).toList := by
  rw [reached_append]
  simp only [reached, List.append_nil]

private theorem Renews.reached?_eq {old : Nat} (renews : Renews old o fresh) (doing : Doing d) :
    (o.reached? doing).toList = fresh.reached (doing.recent? old).toList := by
  have hstep := (renews.step doing).1.attempt
  cases doing with
  | connect =>
    simp only [Doing.recent?, Option.toList_some, Owner.run] at hstep
    simp [Doing.recent?, Owner.reached, Owner.reached?, renews.attempt, hstep]
  | dialled answer =>
    simp only [Doing.recent?, Option.toList_some, Owner.run] at hstep
    simp [Doing.recent?, Owner.reached, Owner.reached?, hstep]
  | call caller request => simp [Doing.recent?, Owner.reached, Owner.reached?]
  | move index action =>
    rcases hindex : recentIndex? old index with _ | recent <;>
      simp [Doing.recent?, Owner.reached, Owner.reached?, hindex]

private theorem Renews.reached {old : Nat} (renews : Renews old o fresh) (doings : List (Doing d)) :
    o.reached doings = fresh.reached (doings.filterMap (Doing.recent? old)) := by
  induction doings generalizing o fresh with
  | nil => rfl
  | cons doing doings ih =>
    have hrest := ih (renews.step doing).1
    have hsplit : (doing :: doings).filterMap (Doing.recent? old) =
        (doing.recent? old).toList ++ doings.filterMap (Doing.recent? old) := by
      rw [List.filterMap_cons]
      cases doing.recent? old <;> rfl
    rw [hsplit, reached_append, ← renews.reached?_eq, ← hrest]
    rfl

private theorem Renews.not_isDeed {old : Nat} (renews : Renews old o fresh)
    (doings : List (Doing d))
    {index : Nat} {output : Output p} (mem : .moved index output ∈ (o.run doings).2)
    (past : index < old) : ¬ output.IsDeed := by
  induction doings generalizing o fresh with
  | nil => simp [Owner.run] at mem
  | cons doing doings ih =>
    rcases List.mem_append.mp mem with mem | mem
    · obtain ⟨action, -, hshown⟩ := mem_moved mem
      refine (o.connection.act_of_marked index action fun s hs => ?_).2 output hshown
      exact renews.connection.isMarked_of_past past hs
    · exact ih (renews.step doing).1 mem

/-- Nothing tells a connection from one that was never opened, but for the talk of old tasks: it is
idle, no task is left to command or holds the medium, calls are answered at once, and whatever
happens to it next shows the same, and has attempts get to the same stages, as on one that is
new. -/
structure Unopened (o : Owner d) : Prop where
  state : o.connection.state = .idle
  unconnected : o.connection.isConnected = false
  free : o.attempt = none
  uncommanded : o.connection.current = none
  released : ∀ s ∈ o.connection.sessions, s.isReleased = true
  send : ∀ caller payload, o.step (.call caller (.send payload)) =
    (o, [.called (.reply caller (.error .notConnected))])
  disconnect : ∀ caller cause, o.step (.call caller (.disconnect cause)) =
    (o, [.called (.reply caller (.ok ()))])
  later : ∀ doings,
    let recent := doings.filterMap (Doing.recent? o.connection.sessions.length)
    let (now, notices) := o.run doings
    let (fresh, notices') := (initial d).run recent
    now.connection.state = fresh.connection.state ∧
      now.connection.isConnected = fresh.connection.isConnected ∧ now.attempt = fresh.attempt ∧
      notices.filterMap (Notice.recent? o.connection.sessions.length) = notices' ∧
      o.reached doings = (initial d).reached recent
  aside : ∀ doings index output, .moved index output ∈ (o.run doings).2 →
    index < o.connection.sessions.length → ¬ output.IsDeed

private theorem unopened {c : Connection p} (state : c.state = .idle) (current : c.current = none)
    (marked : MarkedBut none c.sessions) : Unopened (⟨c, none⟩ : Owner d) where
  state := state
  unconnected := by simp [isConnected, current]
  free := rfl
  uncommanded := current
  released := by
    intro s hs
    obtain ⟨index, hindex⟩ := List.mem_iff_getElem?.mp hs
    exact isReleased_of_isMarked ((marked index s hindex).mpr (Option.some_ne_none index).symm)
  send := by simp [step, ask, Connection.send, current]
  disconnect := by simp [step, ask, Connection.disconnect, current]
  later := by
    intro doings
    have hrenews : Renews c.sessions.length (⟨c, none⟩ : Owner d) (initial d) :=
      renews_initial state current marked
    obtain ⟨hrun, hnotices⟩ := hrenews.run doings
    exact ⟨hrun.connection.state, hrun.connection.isConnected, hrun.attempt, hnotices,
      hrenews.reached doings⟩
  aside := fun doings index output mem past =>
    (renews_initial state current marked).not_isDeed doings mem past

/-! ### While an attempt is under way -/

/-- What is seen meanwhile: tasks that have marked the connection go on talking. -/
def Aside (notices : List (Notice p)) : Prop :=
  ∀ notice ∈ notices, ∃ index output, notice = .moved index output ∧ ¬ output.IsDeed

private theorem Standing.marked_of_attempt (standing : Standing o) {stage : d.Stage}
    (attempt : o.attempt = some stage) : MarkedBut none o.connection.sessions := by
  cases standing with
  | idle | streaming | disconnected => cases attempt
  | connecting _ _ marked => exact marked

private theorem step_dialled {stage : d.Stage} (attempt : o.attempt = some stage)
    (answer : d.Answer) :
    o.step (.dialled answer) = dialled o.connection (d.proceed stage answer) := by
  simp only [step, attempt]

private theorem Standing.step_of_attempt (standing : Standing o) {stage : d.Stage}
    (attempt : o.attempt = some stage) {doing : Doing d} (other : doing.answer? = none) :
    (o.step doing).1.attempt = some stage ∧
      (o.step doing).1.connection.sessions.length = o.connection.sessions.length ∧
      Aside (o.step doing).2 ∧ o.reached? doing = none := by
  cases doing with
  | dialled answer => cases other
  | connect =>
    rw [step_connect_of_attempt attempt]
    exact ⟨attempt, rfl, by simp [Aside], by simp [reached?, attempt]⟩
  | call caller request =>
    have hstep : o.step (.call caller request) = (o, []) := by simp [step, attempt]
    rw [hstep]
    exact ⟨attempt, rfl, by simp [Aside], rfl⟩
  | move index action =>
    obtain ⟨-, hdeeds⟩ := o.connection.act_of_marked index action fun s hs =>
      (standing.marked_of_attempt attempt index s hs).mpr (Option.some_ne_none index).symm
    refine ⟨attempt, ?_, ?_, rfl⟩
    · simp only [step, sessions_act_eq, length_stepAt]
    · intro notice hnotice
      obtain ⟨output, houtput, rfl⟩ := List.mem_map.mp hnotice
      exact ⟨index, output, rfl, hdeeds output houtput⟩

end Owner

/-! ### Over Bluetooth -/

namespace Ble

variable {format : Format M}

def answerIn? (doing : Doing (Ble.dial format)) : Option Gatt.Answer := doing.answer?

def answersIn (doings : List (Doing (Ble.dial format))) : List Gatt.Answer :=
  doings.filterMap answerIn?

private theorem answersIn_snoc_dialled (doings : List (Doing (Ble.dial format)))
    (answer : Gatt.Answer) :
    answersIn (doings ++ [.dialled answer]) = answersIn doings ++ [answer] :=
  List.filterMap_append

private theorem answersIn_snoc_other (doings : List (Doing (Ble.dial format)))
    {doing : Doing (Ble.dial format)} (other : answerIn? doing = none) :
    answersIn (doings ++ [doing]) = answersIn doings := by
  simp [answersIn, other]

private theorem exists_dialled {doing : Doing (Ble.dial format)} {answer : Gatt.Answer}
    (brings : answerIn? doing = some answer) : doing = .dialled answer := by
  cases doing with
  | dialled other => rw [Option.some.inj brings]
  | connect | call | move => cases brings

private theorem exists_before_take {answers : List Gatt.Answer} {answer : Gatt.Answer}
    {setup : Setup} (follows : Setup.follow (answers ++ [answer]) = .next setup) :
    ∃ before, Setup.follow answers = .next before ∧ before.step answer = .next setup := by
  rw [Setup.follow_snoc] at follows
  rcases hbefore : Setup.follow answers with before | hasLog | error
  · rw [hbefore] at follows
    exact ⟨before, rfl, follows⟩
  · rw [hbefore] at follows
    cases follows
  · rw [hbefore] at follows
    cases follows

variable {o : Owner (Ble.dial format)}

private theorem step_of_next {setup next : Setup} {answer : Gatt.Answer}
    (attempt : o.attempt = some setup) (step : setup.step answer = .next next) :
    o.step (.dialled answer) = (⟨o.connection, some next⟩, []) := by
  have hproceed : (Ble.dial format).proceed setup answer = .next next := by
    simp only [Ble.dial, step]
  exact (Owner.step_dialled attempt answer).trans (congrArg (Owner.dialled o.connection) hproceed)

private theorem step_of_failed {setup : Setup} {answer : Gatt.Answer} {error : LinkError}
    (attempt : o.attempt = some setup) (step : setup.step answer = .failed error) :
    o.step (.dialled answer) = (⟨o.connection.failed, none⟩, [.connected (.error error)]) := by
  have hproceed : (Ble.dial format).proceed setup answer = .failed error := by
    simp only [Ble.dial, step]
  exact (Owner.step_dialled attempt answer).trans (congrArg (Owner.dialled o.connection) hproceed)

def stagesIn (o : Owner (Ble.dial format)) (doings : List (Doing (Ble.dial format))) :
    List Setup :=
  o.reached doings

private theorem stagesIn_snoc {doings : List (Doing (Ble.dial format))}
    {doing : Doing (Ble.dial format)}
    {setup : Setup} (reached : (o.run doings).1.reached? doing = some setup) :
    stagesIn o (doings ++ [doing]) = stagesIn o doings ++ [setup] := by
  rw [stagesIn, Owner.reached_snoc, reached]
  rfl

private theorem stagesIn_snoc_of_none {doings : List (Doing (Ble.dial format))}
    {doing : Doing (Ble.dial format)} (reached : (o.run doings).1.reached? doing = none) :
    stagesIn o (doings ++ [doing]) = stagesIn o doings := by
  rw [stagesIn, Owner.reached_snoc, reached, Option.toList_none, List.append_nil, stagesIn]

private theorem stagesIn_connect {now : Owner (Ble.dial format)} {notices : List (Notice _)}
    (free : o.attempt = none) (accepted : o.step .connect = (now, notices))
    (under_way : now.attempt = some Setup.connecting) (doings : List (Doing (Ble.dial format))) :
    stagesIn o (.connect :: doings) = .connecting :: stagesIn now doings := by
  simp only [stagesIn, Owner.reached, Owner.reached?, free, accepted, under_way]
  rfl

def dials (peripheral : String) (o : Owner (Ble.dial format))
    (doings : List (Doing (Ble.dial format))) : List Gatt.Operation :=
  (stagesIn o doings).map (Setup.operation peripheral)

/-- Answer by answer, an attempt gets to where its steps lead. -/
private theorem attempt_of_follow (standing : o.Standing)
    (first : o.attempt = some Setup.connecting)
    (doings : List (Doing (Ble.dial format))) {setup : Setup}
    (follows : Setup.follow (answersIn doings) = .next setup) (peripheral : String) :
    (o.run doings).1.attempt = some setup ∧ (o.run doings).1.Standing ∧
      (o.run doings).1.connection.sessions.length = o.connection.sessions.length ∧
      Owner.Aside (o.run doings).2 ∧
      Setup.asks peripheral (answersIn doings) =
        (Setup.connecting :: stagesIn o doings).map (Setup.operation peripheral) := by
  induction doings using List.reverseRecOn generalizing setup with
  | nil =>
    obtain rfl : Setup.connecting = setup := Progress.next.inj follows
    exact ⟨first, standing, rfl, by simp [Owner.run, Owner.Aside], rfl⟩
  | append_singleton doings doing ih =>
    rw [Owner.run_snoc]
    rcases hanswer : answerIn? doing with _ | answer
    · rw [answersIn_snoc_other doings hanswer] at follows ⊢
      obtain ⟨hattempt, hstanding, hlength, haside, hasks⟩ := ih follows
      obtain ⟨hattempt', hlength', haside', hreached⟩ :=
        hstanding.step_of_attempt hattempt hanswer
      refine ⟨hattempt', Owner.standing_step hstanding doing, hlength'.trans hlength,
        List.forall_mem_append.mpr ⟨haside, haside'⟩, ?_⟩
      rw [stagesIn_snoc_of_none hreached]
      exact hasks
    · obtain rfl := exists_dialled hanswer
      rw [answersIn_snoc_dialled] at follows ⊢
      obtain ⟨before, hbefore, hnext⟩ := exists_before_take follows
      obtain ⟨hattempt, hstanding, hlength, haside, hasks⟩ := ih hbefore
      have hstep := step_of_next hattempt hnext
      have hstanding' := Owner.standing_step hstanding (.dialled answer)
      have hreached : (o.run doings).1.reached? (.dialled answer) = some setup :=
        congrArg (·.1.attempt) hstep
      rw [hstep] at hstanding' ⊢
      refine ⟨rfl, hstanding', hlength, by simpa using haside, ?_⟩
      rw [Setup.asks_snoc, follows, hasks, stagesIn_snoc hreached]
      simp [Progress.operation?]

/-- An attempt that fails asks for no step behind the one that failed, tells its error, and drops
the link if there is one. -/
private theorem attempt_of_fails (standing : o.Standing) (first : o.attempt = some Setup.connecting)
    (doings : List (Doing (Ble.dial format))) (last : Gatt.Answer) {place : Nat}
    {error : LinkError} (fails : Setup.FailsAt (answersIn doings ++ [last]) place error)
    (enough : (answersIn doings ++ [last]).length = Setup.answersTo place) (peripheral : String) :
    ∃ c aside, o.run (doings ++ [.dialled last]) =
        (⟨c, none⟩, aside ++ [.connected (.error error)]) ∧
      Owner.Aside aside ∧ c.state = .idle ∧ c.current = none ∧
      c.sessions.length = o.connection.sessions.length ∧
      Connection.MarkedBut none c.sessions ∧
      Setup.connecting.operation peripheral :: dials peripheral o (doings ++ [.dialled last]) =
        ((Setup.order (Setup.listsLog (answersIn doings ++ [last]))).take (place + 1)).map
          (Setup.operation peripheral) ++ if place = 0 then [] else [.disconnect] := by
  obtain ⟨setup, hfollow, hfailed, hasks⟩ := fails.course enough peripheral
  obtain ⟨hattempt, hstanding, hlength, haside, hdialled⟩ :=
    attempt_of_follow standing first doings hfollow peripheral
  have hstep := step_of_failed hattempt hfailed
  have hreached : (o.run doings).1.reached? (.dialled last) = none :=
    congrArg (·.1.attempt) hstep
  refine ⟨(o.run doings).1.connection.failed, (o.run doings).2, ?_, haside, rfl,
    (hstanding.of_attempt hattempt).1, hlength, hstanding.marked_of_attempt hattempt, ?_⟩
  · rw [Owner.run_snoc, hstep]
  · rw [dials, stagesIn_snoc_of_none hreached, ← hasks]
    exact hdialled.symm

end Ble

namespace Life

/-- An attempt over Bluetooth that fails, at whichever step, behind whatever has happened before. It
asks for the steps up to the one that fails and for none behind it; if the adapter has connected,
the link is dropped, once; and it tells the error of that step, whatever comes of dropping the link.
It leaves a connection that cannot be told from a new one. -/
theorem failed_attempt_unopened (format : Format M) (peripheral : String)
    (l : Life (Ble.dial format)) (down : l.connection.state ≠ .streaming)
    (free : l.owner.attempt = none) (doings : List (Doing (Ble.dial format))) (last : Gatt.Answer)
    (place : Nat) (error : LinkError)
    (fails : Ble.Setup.FailsAt (Ble.answersIn doings ++ [last]) place error)
    (enough : (Ble.answersIn doings ++ [last]).length = Ble.Setup.answersTo place) :
    let attempt := .connect :: (doings ++ [.dialled last])
    Ble.dials peripheral l.owner attempt =
      ((Ble.Setup.order (Ble.Setup.listsLog (Ble.answersIn doings ++ [last]))).take
        (place + 1)).map (Ble.Setup.operation peripheral) ++
          (if place = 0 then [] else [.disconnect]) ∧
    (∃ aside, (l.owner.run attempt).2 = aside ++ [.connected (.error error)] ∧
      Owner.Aside aside) ∧
    (l.owner.run attempt).1.connection.sessions.length = l.connection.sessions.length ∧
    (l.owner.run attempt).1.Unopened := by
  intro attempt
  have hstanding : l.owner.Standing := (l.sound (mild_ble format)).standing
  have hconnect := hstanding.step_connect_of_down down free
  have hstanding' := Owner.standing_step hstanding .connect
  rw [hconnect] at hstanding'
  obtain ⟨c, aside, hrun, haside, hstate, hcurrent, hlength, hmarked, hdials⟩ :=
    Ble.attempt_of_fails hstanding' rfl doings last fails enough peripheral
  have hattempt : l.owner.run attempt = (⟨c, none⟩, aside ++ [.connected (.error error)]) := by
    simp only [attempt, Owner.run, hconnect, hrun, List.nil_append]
  rw [hattempt]
  refine ⟨?_, ⟨aside, rfl, haside⟩, ?_, Owner.unopened hstate hcurrent hmarked⟩
  · rw [← hdials, Ble.dials, Ble.stagesIn_connect free hconnect rfl, List.map_cons, Ble.dials]
  · exact hlength.trans l.connection.length_letGo

def silenced : Life (Ble.dial Format.raw) where
  doings :=
    [.connect, .dialled (.ok .nothing), .dialled (.ok (.listed [Gatt.radioService])),
      .dialled (.ok (.listed [Gatt.toRadio, Gatt.fromRadio, Gatt.packetCounter])),
      .dialled (.ok .nothing), .dialled (.ok .nothing), .move 0 .advance,
      .move 0 (.answer (.ok .nothing)), .move 0 .advance, .move 0 (.signal none), .move 0 .advance,
      .move 0 (.answer (.ok .nothing)), .move 0 (.answer (.ok .nothing)), .move 0 .advance]

def refusedLog : List (Doing (Ble.dial Format.raw)) :=
  [.dialled (.ok .nothing), .dialled (.ok (.listed [Gatt.radioService])), .move 0 .advance,
    .dialled (.ok (.listed [Gatt.toRadio, Gatt.fromRadio, Gatt.packetCounter, Gatt.logLine])),
    .dialled (.ok .nothing), .dialled (.ok .nothing), .dialled (.error .timeout)]

private theorem failsAt_refusedLog : Ble.Setup.FailsAt
    (Ble.answersIn refusedLog ++ [.error .notConnected]) 5 .timeout where
  fine := by
    rintro k setup answer hk hsetup hanswer
    match k with
    | 0 | 1 | 2 | 3 | 4 =>
      obtain rfl := Option.some.inj hsetup
      obtain rfl := Option.some.inj hanswer
      decide
  fails := ⟨.subscribingLog, .error .timeout, rfl, rfl, rfl⟩

/-- The last step of the second attempt fails, and so does dropping the link, while the task of the
first link still tells its consumer. -/
theorem failed_attempt_unopened_refusedLog :
    let attempt := .connect :: (refusedLog ++ [.dialled (.error .notConnected)])
    Ble.dials "radio" silenced.owner attempt =
      [.connect "radio", .discoverServices, .discoverCharacteristics Gatt.radioService,
        .openNotifications, .subscribe Gatt.packetCounter, .subscribe Gatt.logLine, .disconnect] ∧
    (silenced.owner.run attempt).1.Unopened := by
  obtain ⟨hdials, -, -, hunopened⟩ := failed_attempt_unopened Format.raw "radio" silenced
    (by decide) rfl refusedLog (.error .notConnected) 5 .timeout failsAt_refusedLog rfl
  exact ⟨hdials, hunopened⟩

end Life

end RadioLink.Link
