import Mathlib.Data.List.Induction
import Mathlib.Data.List.Infix
import RadioLink.Link.Ble

/-!
The steps that open a link over Bluetooth: what is wrong with an answer to each of them, which step
comes next, and what an attempt comes to when one of them fails.
-/

set_option autoImplicit false
set_option relaxedAutoImplicit false

namespace RadioLink.Link.Ble

def Progress.take (progress : Progress) (answer : Gatt.Answer) : Progress :=
  match progress with
  | .next setup => setup.step answer
  | .opened hasLog => .opened hasLog
  | .failed error => .failed error

def Progress.operation? (peripheral : String) : Progress → Option Gatt.Operation
  | .next setup => some (setup.operation peripheral)
  | .opened _ | .failed _ => none

namespace Setup

/-! ### Steps and their faults -/

def order (hasLog : Bool) : List Setup :=
  [.connecting, .findingService, .findingCharacteristics, .openingNotifications hasLog,
    .subscribingCounter hasLog] ++ if hasLog then [.subscribingLog] else []

/-- The first characteristic that is missed, by its name in messages. -/
def missing? (uuids : List Uuid) : Option String :=
  if Gatt.toRadio ∉ uuids then some "TORADIO"
  else if Gatt.fromRadio ∉ uuids then some "FROMRADIO"
  else if Gatt.packetCounter ∉ uuids then some "FROMNUM"
  else none

/-- What is wrong with the answer to a step, if anything is. -/
def fault? : Setup → Gatt.Answer → Option LinkError
  | _, .error error => some error
  | .findingService, .ok yielded =>
    if Gatt.radioService ∈ yielded.uuids then none
    else some (.serviceMissing (toString Gatt.radioService))
  | .findingCharacteristics, .ok yielded =>
    (missing? yielded.uuids).map .characteristicMissing
  | _, .ok _ => none

/-- Whether the radio has a log, by the characteristics that it lists at the third step. -/
def listsLog (answers : List Gatt.Answer) : Bool :=
  match (answers[2]? : Option Gatt.Answer) with
  | some (Except.ok yielded) => decide (Gatt.logLine ∈ yielded.uuids)
  | _ => false

/-- Of the answers to the steps, the one at a place is the first with which anything is wrong. -/
structure FailsAt (answers : List Gatt.Answer) (place : Nat) (error : LinkError) : Prop where
  fine : ∀ k setup answer, k < place → (order (listsLog answers))[k]? = some setup →
    answers[k]? = some answer → setup.fault? answer = none
  fails : ∃ setup answer, (order (listsLog answers))[place]? = some setup ∧
    answers[place]? = some answer ∧ setup.fault? answer = some error

private theorem map_find?_required (uuids : List Uuid) :
    (required.find? (· ∉ uuids)).map Gatt.characteristicName = missing? uuids := by
  have hto : Gatt.characteristicName Gatt.toRadio = "TORADIO" := by decide
  have hfrom : Gatt.characteristicName Gatt.fromRadio = "FROMRADIO" := by decide
  have hcounter : Gatt.characteristicName Gatt.packetCounter = "FROMNUM" := by decide
  simp only [required, missing?, List.find?_cons, List.find?_nil]
  split_ifs <;> simp_all

private theorem step_of_fault {hasLog : Bool} {setup : Setup} {answer : Gatt.Answer}
    {error : LinkError} (mem : setup ∈ order hasLog) (fault : setup.fault? answer = some error) :
    setup.step answer =
      if setup = .connecting then .failed error else .next (.givingUp error) := by
  cases answer with
  | error other =>
    obtain rfl : other = error := by
      cases setup <;> exact Option.some.inj fault
    cases setup with
    | givingUp => cases hasLog <;> simp [order] at mem
    | _ => rfl
  | ok yielded =>
    cases setup with
    | findingService =>
      simp only [fault?] at fault
      split_ifs at fault with hmissing
      obtain rfl := Option.some.inj fault
      simp [step, proceed, hmissing]
    | findingCharacteristics =>
      simp only [fault?, ← map_find?_required, Option.map_map] at fault
      rcases hfind : required.find? (· ∉ yielded.uuids) with _ | missing
      · rw [hfind] at fault
        cases fault
      · rw [hfind] at fault
        obtain rfl := Option.some.inj fault
        simp only [step, proceed, hfind]
        rfl
    | _ => cases fault

private theorem step_of_fine {hasLog : Bool} {k : Nat} {setup : Setup} {answer : Gatt.Answer}
    (place : (order hasLog)[k]? = some setup) (fine : setup.fault? answer = none)
    (lists : ∀ yielded, k = 2 → answer = .ok yielded →
      decide (Gatt.logLine ∈ yielded.uuids) = hasLog) :
    setup.step answer = ((order hasLog)[k + 1]?).elim (.opened hasLog) .next := by
  cases answer with
  | error error => cases setup <;> cases fine
  | ok yielded =>
    match k with
    | 0 =>
      obtain rfl := Option.some.inj place
      rfl
    | 1 =>
      obtain rfl := Option.some.inj place
      simp only [fault?] at fine
      split_ifs at fine with hpresent
      simp [step, proceed, hpresent, order]
    | 2 =>
      obtain rfl := Option.some.inj place
      simp only [fault?, ← map_find?_required, Option.map_map, Option.map_eq_none_iff] at fine
      simp only [step, proceed, fine, lists yielded rfl rfl]
      rfl
    | 3 =>
      obtain rfl := Option.some.inj place
      rfl
    | 4 =>
      obtain rfl := Option.some.inj place
      cases hasLog <;> rfl
    | k + 5 =>
      cases hasLog with
      | false => cases place
      | true =>
        cases k with
        | zero =>
          obtain rfl := Option.some.inj place
          rfl
        | succ k => cases place

/-! ### An attempt -/

def follow (answers : List Gatt.Answer) : Progress :=
  answers.foldl Progress.take (.next .connecting)

def asks (peripheral : String) (answers : List Gatt.Answer) : List Gatt.Operation :=
  answers.inits.filterMap fun front => (follow front).operation? peripheral

theorem follow_snoc (answers : List Gatt.Answer) (answer : Gatt.Answer) :
    follow (answers ++ [answer]) = (follow answers).take answer := by
  simp [follow]

theorem asks_snoc (peripheral : String) (answers : List Gatt.Answer) (answer : Gatt.Answer) :
    asks peripheral (answers ++ [answer]) =
      asks peripheral answers ++ ((follow (answers ++ [answer])).operation? peripheral).toList := by
  rw [asks, List.inits_append, List.filterMap_append, ← asks]
  rcases hprogress : follow (answers ++ [answer]) with setup | hasLog | error <;>
    simp [hprogress, Progress.operation?]

private theorem follow_of_fine (peripheral : String) {answers : List Gatt.Answer} {k : Nat}
    (fine : ∀ j setup answer, j < k → (order (listsLog answers))[j]? = some setup →
      answers[j]? = some answer → setup.fault? answer = none)
    (enough : k ≤ answers.length) {setup : Setup}
    (place : (order (listsLog answers))[k]? = some setup) :
    follow (answers.take k) = .next setup ∧
      asks peripheral (answers.take k) =
        ((order (listsLog answers)).take (k + 1)).map (operation peripheral) := by
  induction k generalizing setup with
  | zero =>
    obtain rfl := Option.some.inj place
    exact ⟨rfl, rfl⟩
  | succ k ih =>
    obtain ⟨hk, -⟩ := List.getElem?_eq_some_iff.mp place
    obtain ⟨before, hbefore⟩ : ∃ before, (order (listsLog answers))[k]? = some before :=
      ⟨_, List.getElem?_eq_getElem (by omega)⟩
    obtain ⟨hfollow, hasks⟩ := ih (fun j setup answer hj => fine j setup answer (by omega))
      (by omega) hbefore
    obtain ⟨answer, hanswer⟩ : ∃ answer, answers[k]? = some answer :=
      ⟨_, List.getElem?_eq_getElem (by omega)⟩
    have hlists : ∀ yielded, k = 2 → answer = .ok yielded →
        decide (Gatt.logLine ∈ yielded.uuids) = listsLog answers := by
      rintro yielded rfl rfl
      simp only [listsLog, hanswer]
    have hstep := step_of_fine hbefore (fine k before answer (by omega) hbefore hanswer) hlists
    rw [place, Option.elim_some] at hstep
    have htake : answers.take (k + 1) = answers.take k ++ [answer] := by
      rw [List.take_add_one, hanswer, Option.toList_some]
    have hnext : follow (answers.take (k + 1)) = .next setup := by
      rw [htake, follow_snoc, hfollow]
      exact hstep
    refine ⟨hnext, ?_⟩
    rw [htake, asks_snoc, ← htake, hnext, hasks, List.take_add_one (i := k + 1), List.map_append]
    simp [Progress.operation?, place]

/-- The answers that an attempt gets which fails at a place: once the adapter has connected, there
is one more, to the operation that drops the link. -/
def answersTo (place : Nat) : Nat := if place = 0 then 1 else place + 2

private theorem place_of_connecting {hasLog : Bool} {place : Nat}
    (at_place : (order hasLog)[place]? = some .connecting) : place = 0 := by
  cases place with
  | zero => rfl
  | succ place =>
    have hmem : Setup.connecting ∈ (order hasLog).tail :=
      List.mem_of_getElem? ((List.getElem?_tail ..).trans at_place)
    cases hasLog <;> simp [order] at hmem

theorem FailsAt.course {front : List Gatt.Answer} {last : Gatt.Answer} {place : Nat}
    {error : LinkError} (fails : FailsAt (front ++ [last]) place error)
    (enough : (front ++ [last]).length = answersTo place) (peripheral : String) :
    ∃ setup, follow front = .next setup ∧ setup.step last = .failed error ∧
      asks peripheral front =
        ((order (listsLog (front ++ [last]))).take (place + 1)).map (operation peripheral) ++
          if place = 0 then [] else [.disconnect] := by
  obtain ⟨setup, answer, hplace, hanswer, hfault⟩ := fails.fails
  obtain ⟨hlt, -⟩ := List.getElem?_eq_some_iff.mp hanswer
  obtain ⟨hfollow, hasks⟩ := follow_of_fine peripheral fails.fine (Nat.le_of_lt hlt) hplace
  have hstep := step_of_fault (List.mem_of_getElem? hplace) hfault
  rw [List.length_append, List.length_singleton, answersTo] at enough
  by_cases hzero : place = 0
  · subst hzero
    obtain rfl : front = [] := List.length_eq_zero_iff.mp (by simpa using enough)
    obtain rfl : last = answer := Option.some.inj hanswer
    obtain rfl : Setup.connecting = setup := Option.some.inj hplace
    exact ⟨.connecting, rfl, hstep, by simpa using hasks⟩
  · rw [if_neg hzero] at enough
    have hconnected : setup ≠ .connecting :=
      fun hsame => hzero (place_of_connecting (hsame ▸ hplace))
    rw [if_neg hconnected] at hstep
    have hfront : front = (front ++ [last]).take place ++ [answer] := by
      have htake : (front ++ [last]).take (place + 1) = front := by
        rw [List.take_append_of_le_length (by omega), List.take_of_length_le (by omega)]
      rw [List.take_add_one, hanswer] at htake
      exact htake.symm
    have hgave : follow front = .next (.givingUp error) := by
      rw [hfront, follow_snoc, hfollow]
      exact hstep
    refine ⟨.givingUp error, hgave, by cases last <;> rfl, ?_⟩
    have hdropped : asks peripheral front =
        asks peripheral ((front ++ [last]).take place) ++ [.disconnect] := by
      rw [hfront] at hgave
      conv_lhs => rw [hfront, asks_snoc, hgave]
      rfl
    rw [if_neg hzero, hdropped, hasks]

/-- What an attempt knows of the log, by where some answers have got it. -/
private def Knows (answers : List Gatt.Answer) : Progress → Prop
  | .next .connecting => answers.length = 0
  | .next .findingService => answers.length = 1
  | .next .findingCharacteristics => answers.length = 2
  | .next (.openingNotifications hasLog) => 3 ≤ answers.length ∧ hasLog = listsLog answers
  | .next (.subscribingCounter hasLog) => 3 ≤ answers.length ∧ hasLog = listsLog answers
  | .next .subscribingLog => 3 ≤ answers.length ∧ true = listsLog answers
  | .opened hasLog => 3 ≤ answers.length ∧ hasLog = listsLog answers
  | .next (.givingUp _) => True
  | .failed _ => True

private theorem listsLog_snoc {answers : List Gatt.Answer} (known : 3 ≤ answers.length)
    (answer : Gatt.Answer) : listsLog (answers ++ [answer]) = listsLog answers := by
  rw [listsLog, List.getElem?_append_left (by omega), listsLog]

private theorem Knows.take {answers : List Gatt.Answer} {progress : Progress}
    (knows : Knows answers progress) (answer : Gatt.Answer) :
    Knows (answers ++ [answer]) (progress.take answer) := by
  have hlength : (answers ++ [answer]).length = answers.length + 1 := by simp
  have hkept {hasLog : Bool} (known : 3 ≤ answers.length ∧ hasLog = listsLog answers) :
      3 ≤ (answers ++ [answer]).length ∧ hasLog = listsLog (answers ++ [answer]) :=
    ⟨by omega, known.2.trans (listsLog_snoc known.1 answer).symm⟩
  match progress, answer with
  | .opened hasLog, answer => exact hkept knows
  | .failed error, answer => trivial
  | .next setup, .error error => cases setup <;> trivial
  | .next setup, .ok yielded =>
    cases setup with
    | givingUp error => trivial
    | connecting => exact hlength.trans (congrArg (· + 1) knows)
    | findingService =>
      simp only [Progress.take, step, proceed]
      split_ifs
      · exact hlength.trans (congrArg (· + 1) knows)
      · trivial
    | findingCharacteristics =>
      have htwo : answers.length = 2 := knows
      simp only [Progress.take, step, proceed]
      split
      · trivial
      · refine ⟨by omega, ?_⟩
        rw [listsLog, List.getElem?_append_right (by omega), htwo]
        rfl
    | openingNotifications hasLog => exact hkept knows
    | subscribingCounter hasLog =>
      cases hasLog with
      | true => exact hkept knows
      | false => exact hkept knows
    | subscribingLog => exact hkept knows

end Setup

end RadioLink.Link.Ble
