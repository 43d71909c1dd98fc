import Mathlib.Data.List.Basic
import RadioLink.Gatt.Operation

/-!
What passes between a program and a peripheral, and which notifications it leaves on: they are on
once the call that switches them on has returned well, and off once the call that switches them off
is made.
-/

set_option autoImplicit false
set_option relaxedAutoImplicit false

namespace RadioLink.Gatt

inductive Traffic where
  | called (operation : Operation)
  | returned (operation : Operation) (answer : Answer)
  deriving DecidableEq

/-- The characteristics whose notifications are on, behind one more thing that passes. -/
def Traffic.switch (on : List Uuid) : Traffic → List Uuid
  | .returned (.subscribe characteristic) (.ok _) => characteristic :: on
  | .called (.unsubscribe characteristic) => on.filter (· ≠ characteristic)
  | _ => on

/-- The characteristics whose notifications are on, latest first. -/
def switchedOn (traffic : List Traffic) : List Uuid :=
  traffic.foldl Traffic.switch []

/-- No notifications are left on where the peripheral is disconnected. -/
def Undone (traffic : List Traffic) : Prop :=
  ∀ before behind, traffic = before ++ .called .disconnect :: behind → switchedOn before = []

def Operation.isPlain : Operation → Bool
  | .subscribe _ | .unsubscribe _ | .disconnect => false
  | _ => true

variable {traffic before : List Traffic} {operation : Operation}

theorem ne_disconnect_of_isPlain (plain : operation.isPlain = true) : operation ≠ .disconnect := by
  rintro rfl
  cases plain

theorem ne_subscribe_of_isPlain (plain : operation.isPlain = true) (characteristic : Uuid) :
    operation ≠ .subscribe characteristic := by
  rintro rfl
  cases plain

theorem switchedOn_append (before behind : List Traffic) :
    switchedOn (before ++ behind) = behind.foldl Traffic.switch (switchedOn before) :=
  List.foldl_append

theorem switchedOn_called (plain : operation.isPlain = true) (traffic : List Traffic) :
    switchedOn (traffic ++ [.called operation]) = switchedOn traffic := by
  rw [switchedOn_append]
  cases operation with
  | unsubscribe characteristic => cases plain
  | _ => rfl

private theorem switchedOn_unsubscribe (traffic : List Traffic) (characteristic : Uuid) :
    switchedOn (traffic ++ [.called (.unsubscribe characteristic)]) =
      (switchedOn traffic).filter (· ≠ characteristic) :=
  switchedOn_append traffic _

theorem switchedOn_returned (plain : operation.isPlain = true) (traffic : List Traffic)
    (answer : Answer) :
    switchedOn (traffic ++ [.returned operation answer]) = switchedOn traffic := by
  rw [switchedOn_append]
  cases operation with
  | subscribe characteristic => cases plain
  | _ => rfl

theorem switchedOn_subscribe (traffic : List Traffic) (characteristic : Uuid) (answer : Answer) :
    switchedOn (traffic ++
        [.called (.subscribe characteristic), .returned (.subscribe characteristic) answer]) =
      if answer.isOk then characteristic :: switchedOn traffic else switchedOn traffic := by
  rw [switchedOn_append]
  cases answer <;> rfl

theorem undone_of_split {behind : List Traffic} (dark : switchedOn before = [])
    (first : .called .disconnect ∉ before) (last : .called .disconnect ∉ behind) :
    Undone (before ++ .called .disconnect :: behind) := by
  intro before' behind' hsplit
  obtain ⟨rfl, -⟩ := (List.append_cons_inj_of_notMem first last).mp hsplit
  exact dark

theorem undone_of_notMem (never : .called .disconnect ∉ traffic) : Undone traffic := by
  rintro before behind rfl
  exact absurd (by simp) never

theorem exists_of_split {front rest behind : List Traffic} (absent : .called .disconnect ∉ front)
    (split : front ++ rest = before ++ .called .disconnect :: behind) :
    ∃ more, before = front ++ more ∧ rest = more ++ .called .disconnect :: behind := by
  rcases List.append_eq_append_iff.mp split with ⟨more, hbefore, hrest⟩ | ⟨more, hfront, hmore⟩
  · exact ⟨more, hbefore, hrest⟩
  · cases more with
    | nil => exact ⟨[], by simpa using hfront.symm, by simpa using hmore.symm⟩
    | cons first more =>
      obtain ⟨rfl, -⟩ := List.cons.inj hmore
      exact absurd (by simp [hfront]) absent

/-! ### Bounds -/

/-- The peripheral has not been disconnected, and of the notifications at most these are on or about
to be, with an operation under way or none. -/
structure Within (bound : List Uuid) (traffic : List Traffic) (pending : Option Operation) :
    Prop where
  whole : .called .disconnect ∉ traffic
  on : ∀ characteristic ∈ switchedOn traffic, characteristic ∈ bound
  asked : ∀ characteristic, pending = some (.subscribe characteristic) → characteristic ∈ bound

namespace Within

variable {bound : List Uuid} {pending : Option Operation}

theorem dark (h : Within [] traffic pending) : switchedOn traffic = [] :=
  List.eq_nil_iff_forall_not_mem.mpr fun characteristic hmem =>
    List.not_mem_nil (h.on characteristic hmem)

theorem abandon (h : Within bound traffic pending) : Within bound traffic none where
  whole := h.whole
  on := h.on
  asked := nofun

theorem widen (h : Within [] traffic pending) : Within bound traffic pending where
  whole := h.whole
  on := fun characteristic hmem => absurd (h.on characteristic hmem) List.not_mem_nil
  asked := fun characteristic hpending =>
    absurd (h.asked characteristic hpending) List.not_mem_nil

theorem settle (h : Within bound traffic pending) (answer : Answer) :
    Within bound (traffic ++ pending.toList.map (.returned · answer)) none := by
  cases pending with
  | none => exact (List.append_nil traffic).symm ▸ h
  | some operation =>
    refine ⟨fun hmem => ?_, fun characteristic hmem => ?_, nofun⟩
    · rcases List.mem_append.mp hmem with hold | hnew
      · exact h.whole hold
      · cases List.mem_singleton.mp hnew
    · simp only [Option.toList_some, List.map_cons, List.map_nil, switchedOn_append,
        List.foldl_cons, List.foldl_nil, Traffic.switch] at hmem
      split at hmem
      case h_1 switched yielded hsame =>
        obtain ⟨rfl, -⟩ := Traffic.returned.inj hsame
        rcases List.mem_cons.mp hmem with rfl | hold
        · exact h.asked _ rfl
        · exact h.on characteristic hold
      case h_2 hcalled => cases hcalled
      case h_3 => exact h.on characteristic hmem

theorem call (h : Within bound traffic pending) (plain : operation.isPlain = true) :
    Within bound (traffic ++ [.called operation]) (some operation) where
  whole := by simp [h.whole, (ne_disconnect_of_isPlain plain).symm]
  on := by
    rw [switchedOn_called plain]
    exact h.on
  asked := fun characteristic hpending =>
    absurd (Option.some.inj hpending) (ne_subscribe_of_isPlain plain characteristic)

theorem subscribe {characteristic : Uuid} (h : Within bound traffic pending)
    (mem : characteristic ∈ bound) :
    Within bound (traffic ++ [.called (.subscribe characteristic)])
      (some (.subscribe characteristic)) where
  whole := by simp [h.whole]
  on := by
    rw [switchedOn_append]
    exact h.on
  asked := by
    intro other hpending
    obtain rfl := Operation.subscribe.inj (Option.some.inj hpending)
    exact mem

theorem unsubscribe {characteristic : Uuid} (h : Within [characteristic] traffic pending) :
    Within [] (traffic ++ [.called (.unsubscribe characteristic)])
      (some (.unsubscribe characteristic)) where
  whole := by simp [h.whole]
  on := by
    intro other hmem
    rw [switchedOn_unsubscribe] at hmem
    obtain ⟨hon, hother⟩ := List.mem_filter.mp hmem
    exact absurd (List.mem_singleton.mp (h.on other hon)) (of_decide_eq_true hother)
  asked := by
    intro other hpending
    cases hpending

end Within

/-! ### Calls alone -/

def Traffic.call? : Traffic → Option Operation
  | .called operation => some operation
  | .returned .. => none

def callsIn (traffic : List Traffic) : List Operation := traffic.filterMap Traffic.call?

def Operation.darken (on : List Uuid) : Operation → List Uuid
  | .unsubscribe characteristic => on.filter (· ≠ characteristic)
  | _ => on

theorem foldl_switch_eq (on : List Uuid) (traffic : List Traffic)
    (steady : ∀ characteristic answer, .returned (.subscribe characteristic) answer ∉ traffic) :
    traffic.foldl Traffic.switch on = (callsIn traffic).foldl Operation.darken on := by
  induction traffic generalizing on with
  | nil => rfl
  | cons first traffic ih =>
    have hrest := fun on => ih on fun characteristic answer hmem =>
      steady characteristic answer (List.mem_cons_of_mem _ hmem)
    cases first with
    | called operation => cases operation <;> exact hrest _
    | returned operation answer =>
      cases operation with
      | subscribe characteristic =>
        exact absurd (List.mem_cons_self ..) (steady characteristic answer)
      | _ => exact hrest _

end RadioLink.Gatt
