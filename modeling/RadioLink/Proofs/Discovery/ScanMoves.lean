import RadioLink.Discovery.Scan
import RadioLink.Proofs.Discovery.Sightings

/-!
What a scan session does, said once, and the timed courses that it can meet. A course holds what
happens, each with its time; in a timely one the session is late for nothing but its sweeps, and
for these not by more than is allowed.
-/

set_option autoImplicit false
set_option relaxedAutoImplicit false

namespace RadioLink.Scan

inductive Happening where
  /-- The consumer drops the stream. -/
  | left
  /-- The session notices that its consumer has left. -/
  | noticed
  | answered (answer : Gatt.Answer)
  /-- An advertisement comes in; `none` is the end of the scan by the adapter. -/
  | sighted (adv : Option Gatt.Advertisement)
  | swept

abbrev Course := List (Nat × Happening)

def Happening.action (now : Nat) : Happening → Action
  | .left => .unhear
  | .noticed => .noticeUnheard
  | .answered answer => .answer answer now
  | .sighted adv => .sighting adv now
  | .swept => .sweep now

def Happening.feed? (now : Nat) : Happening → Option Tracker.Feed
  | .sighted (some adv) => some (.seen adv now)
  | .swept => some (.swept now)
  | _ => none

/-- Behind the departure of the consumer and behind the end of the scan nothing counts any more. -/
def Happening.closes : Happening → Bool
  | .left => true
  | .sighted none => true
  | _ => false

def Happening.isSweep : Happening → Bool
  | .swept => true
  | _ => false

/-- The session has yet to notice that its consumer has left. -/
def isForsaken (s : Scan) : Bool :=
  !s.heard && match s.stage with
    | .poweringOn | .watching _ _ => true
    | _ => false

/-- Whether something can happen to a session: only what it waits for does, and its consumer leaves
only once. -/
def admits (s : Scan) (now : Nat) : Happening → Bool
  | .left => s.heard
  | .noticed => s.isForsaken
  | .answered _ => match s.stage with
    | .poweringOn | .starting | .stopping => true
    | _ => false
  | .sighted _ => s.isWatching
  | .swept => s.nextSweep?.any (· ≤ now)

/-- Whether a session can wait from one time to another: it notices a departure at once, and sweeps
with some delay at most. -/
def waits (s : Scan) (late clock now : Nat) : Bool :=
  clock ≤ now && (clock = now || !s.isForsaken) && s.nextSweep?.all (now ≤ · + late)

/-- A course that a session can take from some time on, when its sweeps are late by no more than
some delay. -/
def Timely (late : Nat) (s : Scan) (clock : Nat) : Course → Prop
  | [] => True
  | (now, happening) :: course =>
    (s.waits late clock now = true ∧ s.admits now happening = true) ∧
      Timely late (s.step (happening.action now)).1 now course

instance decidableTimely (late : Nat) (s : Scan) (clock : Nat) (course : Course) :
    Decidable (Timely late s clock course) :=
  match course with
  | [] => inferInstanceAs (Decidable True)
  | (now, happening) :: course =>
    have := decidableTimely late (s.step (happening.action now)).1 now course
    inferInstanceAs (Decidable (_ ∧ _))

def clockBehind (clock : Nat) : Course → Nat
  | [] => clock
  | (now, _) :: course => clockBehind now course

def happen (s : Scan) (occurrence : Nat × Happening) : Scan × List Output :=
  s.step (occurrence.2.action occurrence.1)

def behind (settings : Config.Ble) (course : Course) : Scan × List Output :=
  let (s, seen) := start settings
  let (s, more) := Update.actEach happen s course
  (s, seen ++ more)

/-- What the tracker is to be fed along a course, up to what closes it. -/
def feed : Course → List Tracker.Feed
  | [] => []
  | (now, happening) :: course =>
    if happening.closes then [] else (happening.feed? now).toList ++ feed course

/-- The answers of the adapter, and when they came. -/
def answers : Course → List (Nat × Gatt.Answer)
  | [] => []
  | (now, .answered answer) :: course => (now, answer) :: answers course
  | _ :: course => answers course

/-- When the scan began, if it did: the first answer is about the power, and the second about the
scan. -/
def beganBy? : List (Nat × Gatt.Answer) → Option Nat
  | (_, .ok _) :: (now, .ok _) :: _ => some now
  | _ => none

def began? (course : Course) : Option Nat := beganBy? (answers course)

def sweeps (course : Course) : Nat := course.countP (·.2.isSweep)

def Output.event? : Output → Option DiscoveryEvent
  | .deliver event => some event
  | _ => none

def Output.operation? : Output → Option Gatt.Operation
  | .run operation => some operation
  | _ => none

def delivered (outputs : List Output) : List DiscoveryEvent := outputs.filterMap (·.event?)

def operations (outputs : List Output) : List Gatt.Operation := outputs.filterMap (·.operation?)

section Snoc

variable {late clock now : Nat} {s : Scan} {before after : Course} {happening : Happening}

theorem behind_snoc (settings : Config.Ble) (before : Course) (now : Nat) (happening : Happening) :
    behind settings (before ++ [(now, happening)]) =
      (((behind settings before).1.step (happening.action now)).1,
        (behind settings before).2 ++
          ((behind settings before).1.step (happening.action now)).2) := by
  simp only [behind, Update.actEach_snoc, List.append_assoc]
  rfl

theorem timely_append :
    Timely late s clock (before ++ after) ↔ Timely late s clock before ∧
      Timely late (Update.actEach happen s before).1 (clockBehind clock before) after := by
  induction before generalizing s clock with
  | nil => exact (and_iff_right trivial).symm
  | cons first before ih =>
    rw [List.cons_append, Timely, Timely, ih]
    exact and_assoc.symm

theorem feed_append (before after : Course) :
    feed (before ++ after) =
      feed before ++ if before.any (·.2.closes) then [] else feed after := by
  induction before with
  | nil => rfl
  | cons first before ih =>
    rw [List.cons_append, feed, feed, List.any_cons, ih]
    cases first.2.closes with
    | true => rfl
    | false =>
      rw [Bool.false_or, if_neg Bool.false_ne_true, if_neg Bool.false_ne_true, List.append_assoc]

theorem feed_snoc_of_none (unfed : happening.feed? now = none) (before : Course) :
    feed (before ++ [(now, happening)]) = feed before := by
  have hlast : feed [(now, happening)] = [] := by simp [feed, unfed]
  rw [feed_append, hlast, ite_self, List.append_nil]

theorem feed_snoc_of_closed (closed : before.any (·.2.closes) = true) (now : Nat)
    (happening : Happening) : feed (before ++ [(now, happening)]) = feed before := by
  rw [feed_append, if_pos closed, List.append_nil]

theorem feed_snoc_of_some {item : Tracker.Feed} (fed : happening.feed? now = some item)
    (unclosed : before.any (·.2.closes) = false) :
    feed (before ++ [(now, happening)]) = feed before ++ [item] := by
  have hcloses : happening.closes = false := by
    rcases happening with _ | _ | _ | (_ | _) | _ <;> first | rfl | cases fed
  rw [feed_append, if_neg (by simp [unclosed]), feed, hcloses, if_neg Bool.false_ne_true, fed]
  rfl

theorem any_closes_snoc (before : Course) (now : Nat) (happening : Happening) :
    (before ++ [(now, happening)]).any (·.2.closes) =
      (before.any (·.2.closes) || happening.closes) := by
  simp

theorem answers_append (before after : Course) :
    answers (before ++ after) = answers before ++ answers after := by
  induction before with
  | nil => rfl
  | cons first before ih =>
    obtain ⟨now, happening⟩ := first
    cases happening <;> simp [answers, ih]

theorem began?_append {began : Nat} (known : began? before = some began) (after : Course) :
    began? (before ++ after) = some began := by
  rw [began?] at known ⊢
  rw [answers_append]
  rw [beganBy?.eq_def] at known
  split at known
  next hanswers =>
    rw [hanswers]
    exact known
  next => cases known

theorem sweeps_snoc (before : Course) (now : Nat) (happening : Happening) :
    sweeps (before ++ [(now, happening)]) =
      sweeps before + if happening.isSweep then 1 else 0 := by
  simp [sweeps, List.countP_append]

theorem delivered_append (outputs more : List Output) :
    delivered (outputs ++ more) = delivered outputs ++ delivered more :=
  List.filterMap_append

theorem operations_append (outputs more : List Output) :
    operations (outputs ++ more) = operations outputs ++ operations more :=
  List.filterMap_append

@[simp] theorem delivered_map_deliver (events : List DiscoveryEvent) :
    delivered (events.map .deliver) = events := by
  simp [delivered, List.filterMap_map, Output.event?]

@[simp] theorem operations_map_deliver (events : List DiscoveryEvent) :
    operations (events.map .deliver) = [] := by
  simp [operations, List.filterMap_map, Output.operation?]

end Snoc

inductive Moves (now : Nat) : Scan → Happening → Scan → List Output → Prop
  | leave (settings : Config.Ble) (stage : Stage) :
      Moves now ⟨settings, stage, true⟩ .left ⟨settings, stage, false⟩ []
  | giveUp (settings : Config.Ble) :
      Moves now ⟨settings, .poweringOn, false⟩ .noticed ⟨settings, .ended, false⟩
        [.giveUp, .endStream]
  | scan (settings : Config.Ble) (heard : Bool) (yielded : Gatt.Yield) :
      Moves now ⟨settings, .poweringOn, heard⟩ (.answered (.ok yielded))
        ⟨settings, .starting, heard⟩ [.run (.scan Gatt.radioService)]
  | powerless (settings : Config.Ble) (heard : Bool) (error : LinkError) :
      Moves now ⟨settings, .poweringOn, heard⟩ (.answered (.error error))
        ⟨settings, .ended, heard⟩ [.endStream]
  | watch (settings : Config.Ble) (heard : Bool) (yielded : Gatt.Yield)
      (repeatable : canRepeat now settings.sweepInterval = true) :
      Moves now ⟨settings, .starting, heard⟩ (.answered (.ok yielded))
        ⟨settings, .watching (.start settings.staleAfter) (now + settings.sweepInterval.toNanos),
          heard⟩ []
  | overflow (settings : Config.Ble) (heard : Bool) (yielded : Gatt.Yield)
      (unrepeatable : canRepeat now settings.sweepInterval = false) :
      Moves now ⟨settings, .starting, heard⟩ (.answered (.ok yielded))
        ⟨settings, .broken, heard⟩ [.endStream]
  | refused (settings : Config.Ble) (heard : Bool) (error : LinkError) :
      Moves now ⟨settings, .starting, heard⟩ (.answered (.error error))
        ⟨settings, .ended, heard⟩ [.endStream]
  | observe (settings : Config.Ble) (tracker : Tracker) (due : Nat) (adv : Gatt.Advertisement) :
      Moves now ⟨settings, .watching tracker due, true⟩ (.sighted (some adv))
        ⟨settings, .watching (tracker.take (.seen adv now)).1 due, true⟩
        ((tracker.take (.seen adv now)).2.map .deliver)
  | sweep (settings : Config.Ble) (tracker : Tracker) {due : Nat} (ready : due ≤ now) :
      Moves now ⟨settings, .watching tracker due, true⟩ .swept
        ⟨settings, .watching (tracker.take (.swept now)).1
          (sweepBehind settings.sweepInterval due now), true⟩
        ((tracker.take (.swept now)).2.map .deliver)
  /-- A sweep that nobody listens to, and that loses nothing. -/
  | sweepUnheard (settings : Config.Ble) (tracker : Tracker) {due : Nat} (ready : due ≤ now) :
      Moves now ⟨settings, .watching tracker due, false⟩ .swept
        ⟨settings, .watching (tracker.take (.swept now)).1
          (sweepBehind settings.sweepInterval due now), false⟩ []
  | stop (settings : Config.Ble) (tracker : Tracker) (due : Nat) (heard : Bool)
      {happening : Happening} (stays : happening ≠ .left)
      (unasked : ∀ answer, happening ≠ .answered answer)
      (unheard : happening = .sighted none ∨ heard = false) :
      Moves now ⟨settings, .watching tracker due, heard⟩ happening ⟨settings, .stopping, heard⟩
        [.run .stopScan]
  | stopped (settings : Config.Ble) (heard : Bool) (answer : Gatt.Answer) :
      Moves now ⟨settings, .stopping, heard⟩ (.answered answer) ⟨settings, .ended, heard⟩
        [.endStream]

/-- A session does nothing but these moves. -/
theorem moves_of_admits (s : Scan) (now : Nat) (happening : Happening)
    (admitted : s.admits now happening = true) :
    Moves now s happening (s.step (happening.action now)).1
      (s.step (happening.action now)).2 := by
  obtain ⟨settings, stage, heard⟩ := s
  cases happening with
  | left =>
    obtain rfl : heard = true := admitted
    exact .leave settings stage
  | noticed =>
    cases heard with
    | true => cases admitted
    | false =>
      cases stage with
      | poweringOn => exact .giveUp settings
      | watching tracker due => exact .stop settings tracker due false nofun nofun (.inr rfl)
      | starting | stopping | ended | broken => cases admitted
  | answered answer =>
    cases stage with
    | poweringOn =>
      cases answer with
      | ok yielded => exact .scan settings heard yielded
      | error error => exact .powerless settings heard error
    | starting =>
      cases answer with
      | error error => exact .refused settings heard error
      | ok yielded =>
        simp only [Happening.action, step, Scan.watch]
        split_ifs with hrepeat
        · exact .watch settings heard yielded hrepeat
        · exact .overflow settings heard yielded (Bool.eq_false_iff.mpr hrepeat)
    | stopping => exact .stopped settings heard answer
    | watching tracker due | ended | broken => cases admitted
  | sighted adv =>
    cases stage with
    | watching tracker due =>
      cases adv with
      | none => exact .stop settings tracker due heard nofun nofun (.inl rfl)
      | some adv =>
        cases heard with
        | true => exact .observe settings tracker due adv
        | false => exact .stop settings tracker due false nofun nofun (.inr rfl)
    | poweringOn | starting | stopping | ended | broken => cases admitted
  | swept =>
    cases stage with
    | watching tracker due =>
      have hready : due ≤ now := of_decide_eq_true admitted
      simp only [Happening.action, step, if_pos hready]
      cases heard with
      | true => exact .sweep settings tracker hready
      | false =>
        simp only [deliver, Bool.false_or]
        split_ifs with hnone
        · rw [List.isEmpty_iff.mp hnone]
          exact .sweepUnheard settings tracker hready
        · exact .stop settings tracker due false nofun nofun (.inr rfl)
    | poweringOn | starting | stopping | ended | broken => cases admitted

end RadioLink.Scan
