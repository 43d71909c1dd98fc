import RadioLink.Proofs.Link.Standing

/-!
The life of a connection over either medium: what its state says at any time, in what order tasks
and attempts take turns, and what is left when an attempt fails or a link ends.
-/

set_option autoImplicit false
set_option relaxedAutoImplicit false

namespace RadioLink.Link

variable {M : Type} {p : Protocol M}

namespace Owner

open Connection

variable {d : Dial p} {o : Owner d}

/-! ### What is seen of a connection -/

/-- A link has come up, and has not been marked as gone since. -/
def Up (log : List (Notice p)) : Prop :=
  ∃ before behind, log = before ++ .connected (.ok ()) :: behind ∧
    ∀ index, .moved index .markDisconnected ∉ behind

private theorem up_connected (log : List (Notice p)) : Up (log ++ [.connected (.ok ())]) :=
  ⟨log, [], rfl, by simp⟩

variable {log notices : List (Notice p)}

private theorem Up.of_append (up : Up (log ++ notices)) (none_up : .connected (.ok ()) ∉ notices) :
    Up log ∧ ∀ index, .moved index .markDisconnected ∉ notices := by
  obtain ⟨before, behind, hlog, hunmarked⟩ := up
  rcases List.append_eq_append_iff.mp hlog with ⟨rest, -, hnotices⟩ | ⟨rest, hbefore, hbehind⟩
  · exact absurd (by simp [hnotices]) none_up
  · cases rest with
    | nil =>
      rw [List.nil_append] at hbehind
      exact absurd (by simp [← hbehind]) none_up
    | cons notice rest =>
      obtain ⟨rfl, rfl⟩ := List.cons.inj hbehind
      refine ⟨⟨before, rest, hbefore, fun index hmark => ?_⟩, fun index hmark => ?_⟩
      · exact hunmarked index (List.mem_append_left _ hmark)
      · exact hunmarked index (List.mem_append_right _ hmark)

private theorem up_append_iff (none_up : .connected (.ok ()) ∉ notices)
    (unmarked : ∀ index, .moved index .markDisconnected ∉ notices) :
    Up (log ++ notices) ↔ Up log := by
  refine ⟨fun up => (up.of_append none_up).1, ?_⟩
  rintro ⟨before, behind, rfl, hunmarked⟩
  refine ⟨before, behind ++ notices, by simp, fun index hmark => ?_⟩
  rcases List.mem_append.mp hmark with hmark | hmark
  · exact hunmarked index hmark
  · exact unmarked index hmark

/-- How the sessions of a connection change in one step. -/
inductive Grown : List (Session p) → List (Session p) → Prop
  | same (sessions : List (Session p)) : Grown sessions sessions
  | moved (sessions : List (Session p)) (index : Nat) (action : Action p) :
      Grown sessions (stepAt sessions index action)
  | opened (sessions : List (Session p)) (memory : p.Memory) :
      Grown sessions (sessions ++ [.start p memory])

private theorem grown_step (o : Owner d) (doing : Doing d) :
    Grown o.connection.sessions (o.step doing).1.connection.sessions := by
  obtain ⟨c, attempt⟩ := o
  cases doing with
  | move index action =>
    simp only [step, sessions_act_eq]
    exact .moved _ index action
  | connect =>
    cases attempt with
    | some stage => exact .same _
    | none =>
      simp only [step, open?]
      split_ifs
      · exact .same _
      · simp only [letGo_eq]
        cases c.current with
        | none => exact .same _
        | some index => exact .moved _ index .abandon
  | dialled answer =>
    cases attempt with
    | none => exact .same _
    | some stage =>
      simp only [step]
      rcases d.proceed stage answer with next | memory | error
      · exact .same _
      · exact .opened _ memory
      · exact .same _
  | call caller request =>
    cases attempt with
    | some stage => exact .same _
    | none =>
      simp only [step]
      rcases c.ask_eq caller request with hask | ⟨index, command, hask⟩
      · rw [hask]
        exact .same _
      · rw [hask, sessions_act_eq]
        exact .moved _ index _

private def IsMarkedAt (sessions : List (Session p)) (index : Nat) : Prop :=
  ∃ s, sessions[index]? = some s ∧ s.phase.IsMarked

variable {sessions next : List (Session p)} {index : Nat}

private theorem Grown.isMarkedAt (grown : Grown sessions next)
    (marked : IsMarkedAt sessions index) : IsMarkedAt next index := by
  obtain ⟨s, hs, hmarked⟩ := marked
  have hlt : index < sessions.length := (List.getElem?_eq_some_iff.mp hs).1
  cases grown with
  | same => exact ⟨s, hs, hmarked⟩
  | opened memory => exact ⟨s, by rw [List.getElem?_append_left hlt, hs], hmarked⟩
  | moved other action =>
    refine ⟨_, by rw [getElem?_stepAt, hs]; rfl, ?_⟩
    split_ifs
    · exact (s.moves_step action).isMarked_iff.mpr (.inl hmarked)
    · exact hmarked

private theorem Grown.quiet (mild : p.Mild) (grown : Grown sessions next)
    (quiet : ∀ s ∈ sessions, s.Quiet) : ∀ s ∈ next, s.Quiet := by
  cases grown with
  | same => exact quiet
  | opened memory =>
    intro s hs
    rcases List.mem_append.mp hs with hs | hs
    · exact quiet s hs
    · rw [List.mem_singleton.mp hs]
      simp [Session.Quiet, Session.start, Phase.inHand]
  | moved index action =>
    intro s' hs'
    obtain ⟨other, hother⟩ := List.mem_iff_getElem?.mp hs'
    rw [getElem?_stepAt] at hother
    obtain ⟨s, hs, rfl⟩ := Option.map_eq_some_iff.mp hother
    have hquiet : s.Quiet := quiet s (List.mem_of_getElem? hs)
    split_ifs
    · exact ((s.moves_step action).isMarked_of_isFinal mild hquiet).1
    · exact hquiet

/-- What holds of a connection and of what has been seen of it. -/
structure Sound (o : Owner d) (log : List (Notice p)) : Prop where
  standing : Standing o
  quiet : ∀ s ∈ o.connection.sessions, s.Quiet
  told : ∀ index output, .moved index output ∈ log → output.IsFinal →
    IsMarkedAt o.connection.sessions index
  up : o.connection.state = .streaming ↔ Up log

private theorem sound_initial (d : Dial p) : Sound (initial d) [] where
  standing := standing_initial d
  quiet := by simp [initial, Connection.initial]
  told := by simp
  up := by simp [initial, Connection.initial, Up]

theorem mem_moved {doing : Doing d} {output : Output p}
    (mem : .moved index output ∈ (o.step doing).2) :
    ∃ action, doing = .move index action ∧ output ∈ (o.connection.act index action).2 := by
  cases doing with
  | move other action =>
    obtain ⟨shown, hshown, hnotice⟩ := List.mem_map.mp mem
    obtain ⟨rfl, rfl⟩ := Notice.moved.inj hnotice
    exact ⟨action, rfl, hshown⟩
  | connect =>
    simp only [step] at mem
    split at mem
    · cases mem
    · split at mem <;> simp at mem
  | dialled answer =>
    simp only [step, dialled] at mem
    split at mem
    · split at mem <;> simp at mem
    · cases mem
  | call caller request =>
    simp only [step] at mem
    split at mem
    · cases mem
    · simp at mem

private theorem isMarkedAt_of_told (mild : p.Mild) (quiet : ∀ s ∈ o.connection.sessions, s.Quiet)
    {doing : Doing d} {output : Output p} (mem : .moved index output ∈ (o.step doing).2)
    (final : output.IsFinal) : IsMarkedAt (o.step doing).1.connection.sessions index := by
  obtain ⟨action, rfl, hshown⟩ := mem_moved mem
  obtain ⟨s, hs, hmem⟩ := mem_act hshown
  refine ⟨(s.step action).1, ?_, ?_⟩
  · simp [step, sessions_act_eq, getElem?_stepAt, hs]
  · exact ((s.moves_step action).isMarked_of_isFinal mild (quiet s (List.mem_of_getElem? hs))).2
      output hmem final

private theorem up_step (standing : Standing o) (up : o.connection.state = .streaming ↔ Up log)
    (doing : Doing d) :
    (o.step doing).1.connection.state = .streaming ↔ Up (log ++ (o.step doing).2) := by
  cases doing with
  | connect =>
    rcases hattempt : o.attempt with _ | stage
    · by_cases hstate : o.connection.state = .streaming
      · rw [standing.step_connect_of_streaming hstate, up_append_iff (by simp) (by simp)]
        exact up
      · rw [standing.step_connect_of_down hstate hattempt, List.append_nil, ← up]
        exact iff_of_false (by simp) hstate
    · rw [step_connect_of_attempt hattempt, List.append_nil]
      exact up
  | dialled answer =>
    cases standing with
    | idle | streaming | disconnected => simpa [step] using up
    | @connecting c stage state current marked =>
      have hdown : ¬ Up log := fun hup => by
        cases state.symm.trans (up.mpr hup)
      simp only [step]
      rcases d.proceed stage answer with next | memory | error
      · rw [dialled, List.append_nil]
        exact up
      · exact iff_of_true rfl (up_connected log)
      · rw [dialled, up_append_iff (by simp) (by simp)]
        exact iff_of_false (by simp [Connection.failed]) hdown
  | call caller request =>
    rcases hattempt : o.attempt with _ | stage
    · have hstate : (o.connection.ask caller request).1.state = o.connection.state := by
        rcases o.connection.ask_eq caller request with hask | ⟨index, command, hask⟩
        · rw [hask]
        · have hstill : .markDisconnected ∉ (o.connection.act index (.submit command)).2 :=
            unmarked_act (by simp)
          rw [hask, act_of_still hstill]
      simp only [step, hattempt]
      rw [up_append_iff (by simp) (by simp), hstate]
      exact up
    · simpa [step, hattempt] using up
  | move index action =>
    have hnone_up : .connected (.ok ()) ∉ (o.step (.move index action)).2 := by simp [step]
    by_cases hmark : .markDisconnected ∈ (o.connection.act index action).2
    · refine iff_of_false ?_ fun hup => ?_
      · simp [step, act_of_mark hmark]
      · exact (hup.of_append hnone_up).2 index (List.mem_map_of_mem hmark)
    · have hunmarked : ∀ other,
          .moved other .markDisconnected ∉ (o.step (.move index action)).2 := by
        intro other hmem
        obtain ⟨output, hshown, hnotice⟩ := List.mem_map.mp hmem
        exact hmark ((Notice.moved.inj hnotice).2 ▸ hshown)
      rw [up_append_iff hnone_up hunmarked]
      simpa [step, act_of_still hmark] using up

private theorem sound_step (mild : p.Mild) (sound : Sound o log) (doing : Doing d) :
    Sound (o.step doing).1 (log ++ (o.step doing).2) where
  standing := standing_step sound.standing doing
  quiet := (grown_step o doing).quiet mild sound.quiet
  told := by
    intro index output hmem hfinal
    rcases List.mem_append.mp hmem with hmem | hmem
    · exact (grown_step o doing).isMarkedAt (sound.told index output hmem hfinal)
    · exact isMarkedAt_of_told mild sound.quiet hmem hfinal
  up := up_step sound.standing sound.up doing

private theorem sound_run (mild : p.Mild) (sound : Sound o log) (doings : List (Doing d)) :
    Sound (o.run doings).1 (log ++ (o.run doings).2) := by
  induction doings generalizing o log with
  | nil => simpa [run] using sound
  | cons doing doings ih =>
    have hrest := ih (sound_step mild sound doing)
    rw [List.append_assoc] at hrest
    exact hrest

private theorem Standing.down_of_isMarkedAt (standing : Standing o)
    (marked : IsMarkedAt o.connection.sessions index)
    (latest : index + 1 = o.connection.sessions.length) : o.connection.state ≠ .streaming := by
  intro hstate
  obtain ⟨s, hs, hmarked⟩ := marked
  obtain ⟨last, hlast, hunmarked⟩ := standing.latest_of_streaming hstate
  rw [List.getLast?_eq_getElem?, ← latest, Nat.add_sub_cancel, hs] at hlast
  obtain rfl := Option.some.inj hlast
  exact hunmarked hmarked

/-! ### How an attempt ends -/

private theorem mem_connected {doing : Doing d} {result : Except LinkError Unit}
    (mem : .connected result ∈ (o.step doing).2) :
    (∃ error, o.connection.open? = .error error ∧ result = .error error) ∨
      ∃ stage course, o.attempt = some stage ∧ o.step doing = dialled o.connection course := by
  cases doing with
  | connect =>
    rcases hattempt : o.attempt with _ | stage
    · rcases hopen : o.connection.open? with error | c
      · exact .inl ⟨error, rfl, by simpa [step, hattempt, hopen] using mem⟩
      · simp [step, hattempt, hopen] at mem
    · simp [step, hattempt] at mem
  | dialled answer =>
    rcases hattempt : o.attempt with _ | stage
    · simp [step, hattempt] at mem
    · exact .inr ⟨stage, d.proceed stage answer, rfl, by simp only [step, hattempt]⟩
  | call caller request =>
    rcases hattempt : o.attempt with _ | stage <;> simp [step, hattempt] at mem
  | move index action => simp [step] at mem

theorem Standing.of_attempt (standing : Standing o) {stage : d.Stage}
    (attempt : o.attempt = some stage) :
    o.connection.current = none ∧ ∀ s ∈ o.connection.sessions, s.isReleased = true := by
  cases standing with
  | idle | streaming | disconnected => cases attempt
  | connecting _ current marked =>
    refine ⟨current, fun s hs => ?_⟩
    obtain ⟨index, hindex⟩ := List.mem_iff_getElem?.mp hs
    exact isReleased_of_isMarked ((marked index s hindex).mpr nofun)

private theorem Standing.failed (standing : Standing o) (state : o.connection.state ≠ .streaming)
    {doing : Doing d} {error : LinkError}
    (mem : .connected (.error error) ∈ (o.step doing).2) :
    (o.step doing).1 = ⟨{ o.connection with state := .idle, current := none }, none⟩ ∧
      ∀ s ∈ o.connection.sessions, s.isReleased = true := by
  rcases mem_connected mem with ⟨other, hopen, -⟩ | ⟨stage, course, hattempt, hstep⟩
  · have hconnected : o.connection.isConnected = true := by
      by_contra hdown
      simp [open?, hdown] at hopen
    exact absurd (standing.isConnected_iff.mp hconnected) state
  · obtain ⟨hcurrent, hreleased⟩ := standing.of_attempt hattempt
    rw [hstep] at mem ⊢
    cases course with
    | next stage => cases mem
    | opened memory => simp [dialled] at mem
    | failed error => exact ⟨by rw [dialled, Connection.failed, hcurrent], hreleased⟩

private theorem step_of_connected {doing : Doing d} (mem : .connected (.ok ()) ∈ (o.step doing).2) :
    ∃ memory, (o.step doing).1 = ⟨o.connection.opened memory, none⟩ := by
  rcases mem_connected mem with ⟨other, -, hresult⟩ | ⟨stage, course, -, hstep⟩
  · cases hresult
  · rw [hstep] at mem ⊢
    cases course with
    | next stage => cases mem
    | opened memory => exact ⟨memory, rfl⟩
    | failed error => simp [dialled] at mem

end Owner

/-- All that has happened on a connection since it was made. -/
structure Life (d : Dial p) where
  doings : List (Doing d)

namespace Life

variable {d : Dial p} (l : Life d)

def outcome : Owner d × List (Notice p) := (Owner.initial d).run l.doings

def owner : Owner d := l.outcome.1

def connection : Connection p := l.owner.connection

def log : List (Notice p) := l.outcome.2

theorem sound (mild : p.Mild) : Owner.Sound l.owner l.log := by
  simpa [log, owner, outcome] using Owner.sound_run mild (Owner.sound_initial d) l.doings

/-- The life of a connection over either medium, at any time. It streams just while a link has come
up and has not been marked as gone, and says that it is connected just then. Then the latest task
holds the medium, or has let go of it and shows nothing before the mark; and a task that holds the
medium is the latest one of a connection that streams, with no attempt under way. Every other task
changes nothing but itself, and neither works on the medium nor marks the connection. While it
streams an attempt is refused and changes nothing, and else it gets under way. An attempt that fails
leaves the connection idle, with nothing to command and no task that holds the medium, and one that
succeeds adds the task of its link. Once the consumer was told that the latest link is over, the
connection is not connected, and an attempt is not refused. -/
theorem streams_while_held (format : Format M) (target : Target) (allowed : Duration)
    (medium : Medium) (l : Life (dialOver format target allowed medium)) :
    (l.connection.state = .streaming ↔ Owner.Up l.log) ∧
    (l.connection.isConnected = true ↔ l.connection.state = .streaming) ∧
    (l.connection.state = .streaming →
      ∃ s, l.connection.sessions.getLast? = some s ∧
        (s.isReleased = true → ∀ action, ∀ output ∈ (s.step action).2,
          output = .markDisconnected)) ∧
    (∀ index s, l.connection.sessions[index]? = some s → s.isReleased = false →
      l.connection.state = .streaming ∧ l.owner.attempt = none ∧
        l.connection.current = some index ∧ index + 1 = l.connection.sessions.length) ∧
    (∀ index action,
      l.connection.state ≠ .streaming ∨ index + 1 ≠ l.connection.sessions.length →
        (l.owner.step (.move index action)).1 =
          ⟨{ l.connection with
              sessions := Connection.stepAt l.connection.sessions index action },
            l.owner.attempt⟩ ∧
        ∀ output, .moved index output ∈ (l.owner.step (.move index action)).2 →
          ¬ output.IsDeed) ∧
    (l.connection.state = .streaming →
      l.owner.step .connect =
        (l.owner, [.connected (.error (.connectionFailed "already connected"))])) ∧
    (l.connection.state ≠ .streaming →
      (l.owner.step .connect).1.connection.state = .connecting ∧
      (l.owner.step .connect).1.attempt.isSome = true ∧ (l.owner.step .connect).2 = []) ∧
    (∀ doing error, .connected (.error error) ∈ (l.owner.step doing).2 →
      l.connection.state ≠ .streaming →
        (l.owner.step doing).1 = ⟨{ l.connection with state := .idle, current := none }, none⟩ ∧
        ∀ s ∈ l.connection.sessions, s.isReleased = true) ∧
    (∀ doing, .connected (.ok ()) ∈ (l.owner.step doing).2 →
      ∃ memory, (l.owner.step doing).1 = ⟨l.connection.opened memory, none⟩) ∧
    (∀ index output, .moved index output ∈ l.log → output.IsFinal →
      index + 1 = l.connection.sessions.length →
        l.connection.isConnected = false ∧ (l.owner.step .connect).2 = []) := by
  have hsound := l.sound (mild_protocolOver format medium)
  have hstanding : l.owner.Standing := hsound.standing
  refine ⟨hsound.up, hstanding.isConnected_iff, fun hstate => ?_,
    fun index s => hstanding.of_unreleased, fun index action hstale => ?_,
    hstanding.step_connect_of_streaming, hstanding.not_refused,
    fun doing error hmem hstate => hstanding.failed hstate hmem,
    fun doing => Owner.step_of_connected, fun index output hmem hfinal hlatest => ?_⟩
  · obtain ⟨s, hlast, hunmarked⟩ := hstanding.latest_of_streaming hstate
    refine ⟨s, hlast, fun hreleased action output hmem => ?_⟩
    obtain ⟨ending, hphase⟩ := exists_released hreleased hunmarked
    exact (s.moves_step action).eq_mark hphase hmem
  · obtain ⟨hmoved, hdeeds⟩ :=
      l.connection.act_of_marked index action fun s => hstanding.marked_of_stale hstale
    refine ⟨by rw [← hmoved]; rfl, fun output hmem => ?_⟩
    obtain ⟨other, hmove, hshown⟩ := Owner.mem_moved hmem
    obtain rfl := (Doing.move.inj hmove).2
    exact hdeeds output hshown
  · have hmarked : Owner.IsMarkedAt l.connection.sessions index :=
      hsound.told index output hmem hfinal
    have hdown : l.connection.state ≠ .streaming := hstanding.down_of_isMarkedAt hmarked hlatest
    refine ⟨Bool.eq_false_iff.mpr (mt hstanding.isConnected_iff.mp hdown), ?_⟩
    exact (hstanding.not_refused hdown).2.2

/-- The peer closes the stream. Behind the mark, a new link comes up before the task of the old one
has told its consumer. -/
example (target : Target) (allowed : Duration) :
    let old := [.connect, .dialled .connected, .move 0 .advance, .move 0 (.signal .ended),
      .move 0 .advance, .move 0 (.answer (.ok ())), .move 0 .advance]
    let l : Life (Tcp.dial .raw target allowed) :=
      ⟨old ++ [.connect, .dialled .connected, .move 0 .advance]⟩
    (l.connection.state, l.connection.sessions.map Session.isReleased) =
      (.streaming, [true, false]) := rfl

end Life

end RadioLink.Link
