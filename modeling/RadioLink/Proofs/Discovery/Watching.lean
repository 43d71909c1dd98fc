import RadioLink.Proofs.Discovery.ScanMoves

/-!
What a scan session comes to along any timed course. Its consumer gets the events of one tracker
that is fed the sightings and regular sweeps until the consumer leaves or the adapter ends the scan.
The scan is stopped once if it began, and is not touched otherwise.
-/

set_option autoImplicit false
set_option relaxedAutoImplicit false

namespace RadioLink.Scan

/-- What the adapter has answered and what it has been asked, at each stage. -/
inductive Asked (settings : Config.Ble) :
    Stage → List (Nat × Gatt.Answer) → List Gatt.Operation → Prop
  | poweringOn : Asked settings .poweringOn [] [.powerOn]
  | forsaken : Asked settings .ended [] [.powerOn]
  | powerless (time : Nat) (error : LinkError) :
      Asked settings .ended [(time, .error error)] [.powerOn]
  | starting (time : Nat) (power : Gatt.Yield) :
      Asked settings .starting [(time, .ok power)] [.powerOn, .scan Gatt.radioService]
  | refused (time time' : Nat) (power : Gatt.Yield) (error : LinkError) :
      Asked settings .ended [(time, .ok power), (time', .error error)]
        [.powerOn, .scan Gatt.radioService]
  | broken (time : Nat) {began : Nat} (power scan : Gatt.Yield)
      (unrepeatable : canRepeat began settings.sweepInterval = false) :
      Asked settings .broken [(time, .ok power), (began, .ok scan)]
        [.powerOn, .scan Gatt.radioService]
  | watching (time : Nat) {began : Nat} (power scan : Gatt.Yield) (tracker : Tracker) (due : Nat)
      (repeatable : canRepeat began settings.sweepInterval = true) :
      Asked settings (.watching tracker due) [(time, .ok power), (began, .ok scan)]
        [.powerOn, .scan Gatt.radioService]
  | stopping (time : Nat) {began : Nat} (power scan : Gatt.Yield)
      (repeatable : canRepeat began settings.sweepInterval = true) :
      Asked settings .stopping [(time, .ok power), (began, .ok scan)]
        [.powerOn, .scan Gatt.radioService, .stopScan]
  | stopped (time time' : Nat) {began : Nat} (power scan : Gatt.Yield) (answer : Gatt.Answer)
      (repeatable : canRepeat began settings.sweepInterval = true) :
      Asked settings .ended [(time, .ok power), (began, .ok scan), (time', answer)]
        [.powerOn, .scan Gatt.radioService, .stopScan]

/-- What the consumer has been told, at each stage. While sightings count, the tracker is the one
that has been fed them. -/
private def Told (settings : Config.Ble) (course : Course) (told : List DiscoveryEvent)
    (heard : Bool) : Stage → Prop
  | .poweringOn | .starting =>
    feed course = [] ∧ told = [] ∧ course.any (·.2.closes) = !heard
  | .watching tracker _ =>
    told = (Tracker.fed settings.staleAfter (feed course)).2 ∧
      course.any (·.2.closes) = !heard ∧
      (heard = true → tracker = (Tracker.fed settings.staleAfter (feed course)).1)
  | .stopping | .ended | .broken => told = (Tracker.fed settings.staleAfter (feed course)).2

/-- When the next sweep is due, at each stage: a whole number of intervals behind the beginning. -/
private def Regular (settings : Config.Ble) (course : Course) : Stage → Prop
  | .poweringOn | .starting => sweeps course = 0
  | .watching _ due => ∃ began, began? course = some began ∧
      due = began + (sweeps course + 1) * settings.sweepInterval.toNanos
  | .stopping | .ended | .broken => True

structure Stands (settings : Config.Ble) (late : Nat) (course : Course) (s : Scan)
    (outputs : List Output) : Prop where
  settings_eq : s.settings = settings
  asked : Asked settings s.stage (answers course) (operations outputs)
  told : Told settings course (delivered outputs) s.heard s.stage
  regular : late ≤ allowedDelay → Regular settings course s.stage

section Steps

variable {settings : Config.Ble} {late clock now : Nat} {course : Course} {happening : Happening}
  {s s' : Scan} {outputs more : List Output} {given : List (Nat × Gatt.Answer)}
  {asked : List Gatt.Operation} {told : List DiscoveryEvent}

private theorem Moves.settings_eq (moves : Moves now s happening s' more) :
    s'.settings = s.settings := by
  cases moves <;> rfl

private theorem Asked.step (h : Asked s.settings s.stage given asked)
    (moves : Moves now s happening s' more) :
    Asked s.settings s'.stage (given ++ answers [(now, happening)]) (asked ++ operations more) := by
  cases moves with
  | leave settings stage =>
    rw [show answers [(now, .left)] = [] from rfl, show operations [] = [] from rfl,
      List.append_nil, List.append_nil]
    exact h
  | giveUp settings =>
    cases h
    exact .forsaken
  | scan settings heard yielded =>
    cases h
    exact .starting now yielded
  | powerless settings heard error =>
    cases h
    exact .powerless now error
  | watch settings heard yielded repeatable =>
    cases h
    exact .watching _ _ yielded _ _ repeatable
  | overflow settings heard yielded unrepeatable =>
    cases h
    exact .broken _ _ yielded unrepeatable
  | refused settings heard error =>
    cases h
    exact .refused _ now _ error
  | observe settings tracker due adv | sweep settings tracker ready =>
    cases h with
    | watching time power scan _ _ repeatable =>
      rw [operations_map_deliver]
      exact .watching time power scan _ _ repeatable
  | sweepUnheard settings tracker ready =>
    cases h with
    | watching time power scan _ _ repeatable => exact .watching time power scan _ _ repeatable
  | stop settings tracker due heard stays unasked unheard =>
    have hanswers : answers [(now, happening)] = [] := by
      cases happening with
      | answered answer => exact absurd rfl (unasked answer)
      | left | noticed | sighted adv | swept => rfl
    rw [hanswers]
    cases h with
    | watching time power scan _ _ repeatable => exact .stopping time power scan repeatable
  | stopped settings heard answer =>
    cases h with
    | stopping time power scan repeatable => exact .stopped time now power scan answer repeatable

private theorem Told.step (h : Told s.settings course told s.heard s.stage)
    (moves : Moves now s happening s' more) :
    Told s.settings (course ++ [(now, happening)]) (told ++ delivered more) s'.heard s'.stage := by
  cases moves with
  | leave settings stage =>
    have hfeed : feed (course ++ [(now, Happening.left)]) = feed course :=
      feed_snoc_of_none rfl course
    have hclosed : (course ++ [(now, Happening.left)]).any (·.2.closes) = true := by
      rw [any_closes_snoc]
      exact Bool.or_true _
    rw [show delivered [] = [] from rfl, List.append_nil]
    cases stage with
    | poweringOn | starting => exact ⟨hfeed.trans h.1, h.2.1, hclosed⟩
    | watching tracker due => exact ⟨h.1.trans (by rw [hfeed]), hclosed, nofun⟩
    | stopping | ended | broken => exact h.trans (by rw [hfeed])
  | giveUp settings | powerless settings heard error | refused settings heard error
  | overflow settings heard error unrepeatable =>
    obtain ⟨hfeed, rfl, -⟩ := h
    refine Eq.symm ?_
    rw [feed_snoc_of_none rfl, hfeed]
    rfl
  | scan settings heard yielded =>
    obtain ⟨hfeed, rfl, hclosed⟩ := h
    refine ⟨(feed_snoc_of_none rfl course).trans hfeed, rfl, ?_⟩
    rw [any_closes_snoc, hclosed]
    exact Bool.or_false _
  | watch settings heard yielded repeatable =>
    obtain ⟨hfeed, rfl, hclosed⟩ := h
    refine ⟨?_, ?_, fun _ => ?_⟩
    · rw [feed_snoc_of_none rfl, hfeed]
      rfl
    · rw [any_closes_snoc, hclosed]
      exact Bool.or_false _
    · rw [feed_snoc_of_none rfl, hfeed]
      rfl
  | observe settings tracker due adv | sweep settings tracker ready =>
    obtain ⟨rfl, hclosed, htracker⟩ := h
    rw [delivered_map_deliver, htracker rfl]
    refine ⟨?_, ?_, fun _ => ?_⟩
    · rw [feed_snoc_of_some rfl hclosed, Tracker.fed_snoc]
    · rw [any_closes_snoc, hclosed]
      rfl
    · rw [feed_snoc_of_some rfl hclosed, Tracker.fed_snoc]
  | sweepUnheard settings tracker ready =>
    obtain ⟨rfl, hclosed, -⟩ := h
    refine ⟨?_, ?_, nofun⟩
    · rw [feed_snoc_of_closed hclosed]
      exact List.append_nil _
    · rw [any_closes_snoc, hclosed]
      rfl
  | stop settings tracker due heard stays unasked unheard =>
    obtain ⟨rfl, hclosed, -⟩ := h
    have hfeed : feed (course ++ [(now, happening)]) = feed course := by
      rcases unheard with rfl | rfl
      · exact feed_snoc_of_none rfl course
      · exact feed_snoc_of_closed hclosed now happening
    refine (List.append_nil _).trans ?_
    rw [hfeed]
  | stopped settings heard answer =>
    refine (List.append_nil _).trans (h.trans ?_)
    rw [feed_snoc_of_none rfl]

private theorem sweepBehind_of_le {interval : Duration} {due : Nat} (intime : now ≤ due + late)
    (allowed : late ≤ allowedDelay) : sweepBehind interval due now = due + interval.toNanos := by
  rw [sweepBehind, if_pos (by omega)]

private theorem Regular.step (h : Regular s.settings course s.stage)
    (hasked : Asked s.settings s.stage (answers course) asked)
    (moves : Moves now s happening s' more) (allowed : late ≤ allowedDelay)
    (waits : s.waits late clock now = true) :
    Regular s.settings (course ++ [(now, happening)]) s'.stage := by
  have hsweeps (quiet : happening.isSweep = false) :
      sweeps (course ++ [(now, happening)]) = sweeps course := by
    rw [sweeps_snoc, quiet]
    rfl
  have hintime (tracker : Tracker) (due : Nat) (hstage : s.stage = .watching tracker due) :
      now ≤ due + late := by
    simp only [Scan.waits, nextSweep?, hstage, Bool.and_eq_true] at waits
    exact of_decide_eq_true waits.2
  cases moves with
  | leave settings stage =>
    cases stage with
    | poweringOn | starting => exact (hsweeps rfl).trans h
    | watching tracker due =>
      obtain ⟨began, hbegan, hdue⟩ := h
      exact ⟨began, began?_append hbegan _, (hsweeps rfl).symm ▸ hdue⟩
    | stopping | ended | broken => trivial
  | scan settings heard yielded => exact (hsweeps rfl).trans h
  | giveUp | powerless | overflow | refused | stop | stopped => trivial
  | watch settings heard yielded repeatable =>
    have hnone : sweeps (course ++ [(now, .answered (.ok yielded))]) = 0 := (hsweeps rfl).trans h
    refine ⟨now, ?_, ?_⟩
    · generalize hgiven : answers course = given at hasked
      cases hasked
      rw [began?, answers_append, hgiven]
      rfl
    · rw [hnone, Nat.zero_add, Nat.one_mul]
  | observe settings tracker due adv =>
    obtain ⟨began, hbegan, hdue⟩ := h
    exact ⟨began, began?_append hbegan _, (hsweeps rfl).symm ▸ hdue⟩
  | sweep settings tracker ready | sweepUnheard settings tracker ready =>
    obtain ⟨began, hbegan, hdue⟩ := h
    refine ⟨began, began?_append hbegan _, ?_⟩
    rw [sweepBehind_of_le (hintime _ _ rfl) allowed, hdue, sweeps_snoc, Nat.add_assoc,
      ← Nat.add_one_mul]
    rfl

end Steps

/-- Behind any timely course a session stands where the course has brought it. -/
theorem stands {settings : Config.Ble} {late clock : Nat} {course : Course}
    (timely : Timely late (start settings).1 clock course) :
    Stands settings late course (behind settings course).1 (behind settings course).2 := by
  induction course using List.reverseRecOn with
  | nil => exact ⟨rfl, .poweringOn, ⟨rfl, rfl, rfl⟩, fun _ => rfl⟩
  | append_singleton course last ih =>
    obtain ⟨now, happening⟩ := last
    obtain ⟨hbefore, ⟨hwait, hadmits⟩, -⟩ := timely_append.mp timely
    have hmoves := moves_of_admits (behind settings course).1 now happening hadmits
    have hwaits : (behind settings course).1.waits late (clockBehind clock course) now = true :=
      hwait
    have h := ih hbefore
    rw [behind_snoc]
    clear ih timely hbefore hadmits hwait
    generalize behind settings course = present at h hmoves hwaits ⊢
    obtain ⟨rfl, hasked, htold, hregular⟩ := h
    refine ⟨hmoves.settings_eq, ?_, ?_, fun allowed => ?_⟩
    · rw [answers_append, operations_append]
      exact hasked.step hmoves
    · rw [delivered_append]
      exact htold.step hmoves
    · exact (hregular allowed).step hasked hmoves allowed hwaits

section Session

variable {settings : Config.Ble} {late clock now due : Nat} {course before after : Course}
  {happening : Happening} {s : Scan}

/-- The consumer leaves before the adapter has answered whether its power is on, and not in the
instant in which it does. -/
def LeavesUnpowered (course : Course) : Prop :=
  ∃ before now after, course = before ++ (now, Happening.left) :: after ∧ answers before = [] ∧
    ∀ answer ∈ answers after, now < answer.1

private theorem timely_before (timely : Timely late s clock (before ++ after)) :
    Timely late s clock before :=
  (timely_append.mp timely).1

private theorem delivered_behind (timely : Timely late (start settings).1 clock course) :
    delivered (behind settings course).2 = (Tracker.fed settings.staleAfter (feed course)).2 := by
  have h := (stands timely).told
  cases hstage : (behind settings course).1.stage with
  | poweringOn | starting =>
    rw [hstage] at h
    rw [h.1, h.2.1]
    rfl
  | watching tracker due =>
    rw [hstage] at h
    exact h.1
  | stopping | ended | broken =>
    rw [hstage] at h
    exact h

private theorem times_sorted (timely : Timely late s clock course) :
    (∀ time ∈ course.map (·.1), clock ≤ time) ∧ (course.map (·.1)).Pairwise (· ≤ ·) := by
  induction course generalizing s clock with
  | nil => exact ⟨nofun, .nil⟩
  | cons first course ih =>
    obtain ⟨⟨hwaits, -⟩, hrest⟩ := timely
    obtain ⟨hlater, hsorted⟩ := ih hrest
    have hclock : clock ≤ first.1 := by
      simp only [waits, Bool.and_eq_true] at hwaits
      exact of_decide_eq_true hwaits.1.1
    refine ⟨fun time mem => ?_, hsorted.cons hlater⟩
    rcases List.mem_cons.mp mem with rfl | hrest
    · exact hclock
    · exact Nat.le_trans hclock (hlater time hrest)

private theorem feed_times_sublist (course : Course) :
    ((feed course).map (·.time)).Sublist (course.map (·.1)) := by
  induction course with
  | nil => exact .slnil
  | cons first course ih =>
    obtain ⟨now, happening⟩ := first
    rw [feed]
    split_ifs
    · exact List.nil_sublist _
    · have hitem : (happening.feed? now).toList.map (·.time) = [] ∨
          (happening.feed? now).toList.map (·.time) = [now] := by
        rcases happening with _ | _ | _ | (_ | _) | _ <;> first | exact .inl rfl | exact .inr rfl
      rw [List.map_append]
      rcases hitem with hitem | hitem
      · rw [hitem]
        exact ih.cons now
      · rw [hitem]
        exact ih.cons_cons now

/-- While the session watches, the next sweep is due a whole number of intervals behind the
beginning, nothing happens much later, and no sweep comes sooner. -/
private theorem due_behind (timely : Timely late (start settings).1 clock course)
    (allowed : late ≤ allowedDelay) (split : course = before ++ (now, happening) :: after)
    (watching : (behind settings before).1.nextSweep? = some due) :
    (∃ began, began? before = some began ∧
      due = began + (sweeps before + 1) * settings.sweepInterval.toNanos) ∧
    now ≤ due + late ∧ (happening = .swept → due ≤ now) := by
  rw [split] at timely
  obtain ⟨hbefore, ⟨hwaits, hadmits⟩, -⟩ := timely_append.mp timely
  have hregular := (stands hbefore).regular allowed
  have hwaits : (behind settings before).1.waits late (clockBehind clock before) now = true :=
    hwaits
  have hadmits : (behind settings before).1.admits now happening = true := hadmits
  refine ⟨?_, ?_, ?_⟩
  · cases hstage : (behind settings before).1.stage with
    | watching tracker next =>
      rw [nextSweep?, hstage] at watching
      obtain rfl := Option.some.inj watching
      rw [hstage] at hregular
      exact hregular
    | poweringOn | starting | stopping | ended | broken =>
      rw [nextSweep?, hstage] at watching
      cases watching
  · rw [waits, watching, Bool.and_eq_true] at hwaits
    exact of_decide_eq_true hwaits.2
  · rintro rfl
    rw [admits, watching] at hadmits
    exact of_decide_eq_true hadmits

private theorem delivered_of_left (timely : Timely late (start settings).1 clock course)
    (split : course = before ++ (now, .left) :: after) :
    delivered (behind settings course).2 = delivered (behind settings before).2 := by
  have hfeed : feed course = feed before := by
    rw [split, feed_append, show feed ((now, .left) :: after) = [] from rfl, ite_self,
      List.append_nil]
  rw [delivered_behind timely, hfeed]
  rw [split] at timely
  rw [delivered_behind (timely_before timely)]

theorem Asked.broken_iff {stage : Stage} {given : List (Nat × Gatt.Answer)}
    {asked : List Gatt.Operation} (h : Asked settings stage given asked) :
    stage = .broken ↔
      ∃ began, beganBy? given = some began ∧ canRepeat began settings.sweepInterval = false := by
  cases h with
  | poweringOn | forsaken | powerless | starting | refused =>
    exact iff_of_false nofun (by rintro ⟨_, ⟨⟩, _⟩)
  | broken time power scan unrepeatable => exact iff_of_true rfl ⟨_, rfl, unrepeatable⟩
  | watching _ _ _ _ _ repeatable | stopping _ _ _ repeatable | stopped _ _ _ _ _ repeatable =>
    refine iff_of_false nofun ?_
    rintro ⟨_, ⟨⟩, hnot⟩
    exact Bool.false_ne_true (hnot.symm.trans repeatable)

private theorem Asked.count_stopScan {stage : Stage} {given : List (Nat × Gatt.Answer)}
    {asked : List Gatt.Operation} (h : Asked settings stage given asked) :
    asked.count .stopScan ≤ (if (beganBy? given).isSome then 1 else 0) ∧
      (stage = .ended → asked.count .stopScan = if (beganBy? given).isSome then 1 else 0) := by
  cases h with
  | poweringOn | starting => exact ⟨Nat.le_refl 0, nofun⟩
  | watching | broken => exact ⟨Nat.zero_le 1, nofun⟩
  | stopping => exact ⟨Nat.le_refl 1, nofun⟩
  | forsaken | powerless | refused => exact ⟨Nat.le_refl 0, fun _ => rfl⟩
  | stopped => exact ⟨Nat.le_refl 1, fun _ => rfl⟩

private theorem Asked.eq_powerOn {stage : Stage} {given : List (Nat × Gatt.Answer)}
    {asked : List Gatt.Operation} (h : Asked settings stage given asked)
    (powerless : given = [] ∨ ∃ time error rest, given = (time, .error error) :: rest) :
    asked = [.powerOn] := by
  cases h with
  | poweringOn | forsaken | powerless => rfl
  | starting | refused | broken | watching | stopping | stopped =>
    rcases powerless with h | ⟨_, _, _, h⟩ <;> cases h

private theorem Asked.stage_of_unanswered {stage : Stage} {asked : List Gatt.Operation}
    (h : Asked settings stage [] asked) : stage = .poweringOn ∨ stage = .ended := by
  cases h with
  | poweringOn => exact .inl rfl
  | forsaken => exact .inr rfl

private theorem eq_nil_of_ended (timely : Timely late s clock after) (stage : s.stage = .ended)
    (unheard : s.heard = false) : after = [] := by
  cases after with
  | nil => rfl
  | cons first after =>
    obtain ⟨⟨-, hadmits⟩, -⟩ := timely
    obtain ⟨now, happening⟩ := first
    cases happening <;> simp [admits, isForsaken, isWatching, nextSweep?, stage, unheard] at hadmits

private theorem answers_eq_nil_of_forsaken (timely : Timely late s clock after)
    (stage : s.stage = .poweringOn) (unheard : s.heard = false)
    (later : ∀ answer ∈ answers after, clock < answer.1) : answers after = [] := by
  cases after with
  | nil => rfl
  | cons first after =>
    obtain ⟨⟨hwaits, hadmits⟩, hrest⟩ := timely
    obtain ⟨now, happening⟩ := first
    have hforsaken : s.isForsaken = true := by simp [isForsaken, stage, unheard]
    have hnow : clock = now := by
      simp only [waits, hforsaken, Bool.not_true, Bool.or_false, Bool.and_eq_true,
        decide_eq_true_eq] at hwaits
      exact hwaits.1.2
    cases happening with
    | noticed =>
      have hended : (s.step .noticeUnheard).1 = s.enter .ended := by
        simp [step, stage, unheard]
      have hafter : after = [] :=
        eq_nil_of_ended hrest (congrArg Scan.stage hended)
          ((congrArg Scan.heard hended).trans unheard)
      rw [hafter]
      rfl
    | answered answer =>
      have hlater : clock < now := later (now, answer) (List.mem_cons_self ..)
      exact absurd hnow (Nat.ne_of_lt hlater)
    | left | sighted adv | swept =>
      simp [admits, isWatching, nextSweep?, stage, unheard] at hadmits

private theorem answers_of_leaves (timely : Timely late (start settings).1 clock course)
    (leaves : LeavesUnpowered course) : answers course = [] := by
  obtain ⟨before, now, after, rfl, hbefore, hafter⟩ := leaves
  obtain ⟨htimely, -, hrest⟩ := timely_append.mp timely
  have hasked := (stands htimely).asked
  rw [hbefore] at hasked
  rw [answers_append, hbefore, List.nil_append]
  show answers after = []
  rcases hasked.stage_of_unanswered with hstage | hstage
  · exact answers_eq_nil_of_forsaken hrest hstage rfl hafter
  · rw [eq_nil_of_ended hrest hstage rfl]
    rfl

/-- Along any timely course a session delivers the events of one tracker, fed in order with the
sightings and with a sweep at each interval behind the beginning of the scan, until the consumer
leaves or the adapter ends the scan. Behind a sweep each device that the consumer holds was seen
lately, and what was dropped was reported once; behind the departure of the consumer nothing is
delivered. The scan is stopped once if it began and never otherwise, and neither happens without
power or when the consumer leaves before it. -/
theorem one_tracker_one_stop (timely : Timely late (start settings).1 clock course)
    (repeatable : ∀ began, began? course = some began →
      canRepeat began settings.sweepInterval = true) :
    let s := (behind settings course).1
    let outputs := (behind settings course).2
    delivered outputs = (Tracker.fed settings.staleAfter (feed course)).2 ∧
    ((feed course).map (·.time)).Pairwise (· ≤ ·) ∧
    (late ≤ allowedDelay → ∀ before now happening after due,
      course = before ++ (now, happening) :: after →
      (behind settings before).1.nextSweep? = some due →
        (∃ began, began? before = some began ∧
          due = began + (sweeps before + 1) * settings.sweepInterval.toNanos) ∧
        now ≤ due + late ∧ (happening = .swept → due ≤ now)) ∧
    (∀ before now after, feed course = before ++ .swept now :: after →
      Tracker.Settles settings.staleAfter before now) ∧
    (∀ before now after, course = before ++ (now, .left) :: after →
      delivered outputs = delivered (behind settings before).2) ∧
    s.stage ≠ .broken ∧
    (operations outputs).count .stopScan ≤ (if (began? course).isSome then 1 else 0) ∧
    (s.stage = .ended →
      (operations outputs).count .stopScan = if (began? course).isSome then 1 else 0) ∧
    ((∃ time error rest, answers course = (time, .error error) :: rest) ∨ LeavesUnpowered course →
      operations outputs = [.powerOn]) := by
  intro s outputs
  have hasked := (stands timely).asked
  obtain ⟨hatmost, hended⟩ := hasked.count_stopScan
  refine ⟨delivered_behind timely, ?_, ?_, ?_, ?_, ?_, hatmost, hended, ?_⟩
  · exact (times_sorted timely).2.sublist (feed_times_sublist course)
  · intro allowed before now happening after due split watching
    exact due_behind timely allowed split watching
  · exact fun before now after _ => Tracker.settles settings.staleAfter before now
  · exact fun before now after split => delivered_of_left timely split
  · intro hbroken
    obtain ⟨began, hbegan, hnot⟩ := hasked.broken_iff.mp hbroken
    exact Bool.false_ne_true (hnot.symm.trans (repeatable began hbegan))
  · rintro (powerless | leaves)
    · exact hasked.eq_powerOn (.inr powerless)
    · exact hasked.eq_powerOn (.inl (answers_of_leaves timely leaves))

/-- A radio that is seen once and goes stale, and another one; then the consumer leaves. -/
theorem one_tracker_one_stop_lostAndLeft :
    let first : Gatt.Advertisement := ⟨"AA:BB:CC:DD:EE:05", some "Meshtastic_ee05", some (-60)⟩
    let second : Gatt.Advertisement := ⟨"AA:BB:CC:DD:EE:06", none, none⟩
    let course : Course :=
      [(0, .answered (.ok .nothing)), (1000000000, .answered (.ok (.stream 0))),
        (2000000000, .sighted (some first)), (16000000000, .swept),
        (20000000000, .sighted (some second)), (31000000000, .swept), (46000000000, .swept),
        (50000000000, .left), (50000000000, .noticed), (51000000000, .answered (.ok .nothing))]
    Timely 0 (start {}).1 0 course ∧
    (∀ began, began? course = some began → canRepeat began (.ofSecs 15) = true) ∧
    delivered (behind {} course).2 =
      [.found first.toDevice, .found second.toDevice, .lost (.ofPeripheral first.id)] ∧
    (operations (behind {} course).2).count .stopScan = 1 := by
  intro first second course
  have htimely : Timely 0 (start {}).1 0 course := by decide +kernel
  have hrepeat : ∀ began, began? course = some began → canRepeat began (.ofSecs 15) = true := by
    rintro _ ⟨⟩
    decide
  obtain ⟨hdelivered, -, -, -, -, -, -, hended, -⟩ := one_tracker_one_stop htimely hrepeat
  have hevents : (Tracker.fed (.ofSecs 30) (feed course)).2 =
      [.found first.toDevice, .found second.toDevice, .lost (.ofPeripheral first.id)] := by
    decide +kernel
  exact ⟨htimely, hrepeat, hdelivered.trans hevents, hended (by decide +kernel)⟩

/-- A consumer that leaves in the instant in which the power comes on may be noticed too late: the
scan is begun, and stopped. And a radio whose identifier is spelled in two ways is two peripherals,
of which a sweep can lose both. -/
theorem left_unnoticed_and_lost_twice :
    (let course : Course :=
      [(5, .left), (5, .answered (.ok .nothing)), (6, .answered (.ok (.stream 0))), (6, .noticed),
        (7, .answered (.ok .nothing))]
     Timely 0 (start {}).1 0 course ∧ (behind {} course).1.stage = .ended ∧
      operations (behind {} course).2 = [.powerOn, .scan Gatt.radioService, .stopScan]) ∧
    (let first : Gatt.Advertisement := ⟨"6ba7b810-9dad-11d1-80b4-00c04fd430c8", some "radio", none⟩
     let second : Gatt.Advertisement := ⟨"6BA7B810-9DAD-11D1-80B4-00C04FD430C8", some "radio", none⟩
     let course : Course :=
      [(0, .answered (.ok .nothing)), (0, .answered (.ok (.stream 0))),
        (1000000000, .sighted (some first)), (2000000000, .sighted (some second)),
        (15000000000, .swept), (30000000000, .swept), (45000000000, .swept)]
     Timely 0 (start {}).1 0 course ∧ first.toDevice.id = second.toDevice.id ∧
      delivered (behind {} course).2 =
        [.found first.toDevice, .found second.toDevice, .lost first.toDevice.id,
          .lost first.toDevice.id]) := by
  refine ⟨⟨by decide +kernel, rfl, rfl⟩, ?_⟩
  intro first second course
  have htimely : Timely 0 (start {}).1 0 course := by decide +kernel
  have hevents : (Tracker.fed (.ofSecs 30) (feed course)).2 =
      [.found first.toDevice, .found second.toDevice, .lost first.toDevice.id,
        .lost first.toDevice.id] := by
    decide +kernel
  exact ⟨htimely, by decide +kernel, (delivered_behind htimely).trans hevents⟩

end Session

end RadioLink.Scan
