import Mathlib.Data.List.DropRight
import RadioLink.Text.Blank

/-!
What is left of a text without the characters at its ends. Trimming a text leaves what stands
between the blanks at its two ends; that neither begins nor ends with a blank, and a text that does
neither is left as it is.
-/

set_option autoImplicit false
set_option relaxedAutoImplicit false

namespace RadioLink.Text

variable {p : Char → Bool} {text inner back : List Char}

/-! ### One end -/

private theorem dropWhile_of_head (stops : ∀ c ∈ text.head?, p c = false) :
    text.dropWhile p = text := by
  cases text with
  | nil => rfl
  | cons c text =>
    have hstop : p c = false := stops c rfl
    exact List.dropWhile_cons_of_neg (by simp [hstop])

private theorem head_dropWhile (p : Char → Bool) (text : List Char) :
    ∀ c ∈ (text.dropWhile p).head?, p c = false := by
  intro c hc
  have hstop := List.head?_dropWhile_not p text
  rw [Option.mem_def.mp hc] at hstop
  exact hstop

theorem getLast_rdropWhile (p : Char → Bool) (text : List Char) :
    ∀ c ∈ (text.rdropWhile p).getLast?, p c = false := by
  rw [List.rdropWhile, List.getLast?_reverse]
  exact head_dropWhile p text.reverse

private theorem rdropWhile_append (last : ∀ c ∈ inner.getLast?, p c = false)
    (dropped : ∀ c ∈ back, p c = true) : (inner ++ back).rdropWhile p = inner := by
  induction back using List.reverseRecOn with
  | nil =>
    rw [List.append_nil, List.rdropWhile_eq_self_iff]
    intro hsome hlast
    have hkept := last _ (List.getLast?_eq_some_getLast hsome)
    cases hlast.symm.trans hkept
  | append_singleton back c ih =>
    have hc : p c = true := dropped c (List.mem_append_right _ (List.mem_singleton_self c))
    rw [← List.append_assoc, List.rdropWhile_concat_pos _ _ _ hc]
    exact ih fun d mem => dropped d (List.mem_append_left _ mem)

/-! ### Both ends -/

/-- A text that neither begins nor ends with a blank. -/
structure Bare (text : List Char) : Prop where
  first : ∀ c ∈ text.head?, isBlank c = false
  last : ∀ c ∈ text.getLast?, isBlank c = false

/-- A text is another one with blanks around it, and that other one is bare. -/
structure Trims (text inner : List Char) : Prop where
  around : ∃ front back, text = front ++ inner ++ back ∧ (∀ c ∈ front, isBlank c = true) ∧
    ∀ c ∈ back, isBlank c = true
  bare : Bare inner

private theorem trim_eq (text : List Char) :
    trim text = (text.dropWhile isBlank).rdropWhile isBlank := rfl

theorem trims_trim (text : List Char) : Trims text (trim text) := by
  have hbehind : trim text ++ (text.dropWhile isBlank).rtakeWhile isBlank =
      text.dropWhile isBlank := List.rdropWhile_append_rtakeWhile ..
  refine ⟨⟨text.takeWhile isBlank, (text.dropWhile isBlank).rtakeWhile isBlank, ?_,
    fun c => List.mem_takeWhile_imp, fun c => List.mem_rtakeWhile_imp⟩, fun c hc => ?_, ?_⟩
  · rw [List.append_assoc, hbehind, List.takeWhile_append_dropWhile]
  · have hhead : c ∈ (text.dropWhile isBlank).head? := by
      rw [← hbehind, List.head?_append, Option.mem_def.mp hc]
      rfl
    exact head_dropWhile isBlank text c hhead
  · exact getLast_rdropWhile isBlank (text.dropWhile isBlank)

/-- There is one way to trim a text. -/
theorem trims_iff : Trims text inner ↔ inner = trim text := by
  constructor
  · rintro ⟨⟨front, back, rfl, hfront, hback⟩, hbare⟩
    rw [trim_eq, List.append_assoc, List.dropWhile_append_of_pos hfront]
    cases inner with
    | nil =>
      have hnone : back.dropWhile isBlank = [] := List.dropWhile_eq_nil_iff.mpr hback
      rw [List.nil_append, hnone, List.rdropWhile_nil]
    | cons c inner =>
      have hhead : ∀ d ∈ (c :: inner ++ back).head?, isBlank d = false := hbare.first
      rw [dropWhile_of_head hhead, rdropWhile_append hbare.last hback]
  · rintro rfl
    exact trims_trim text

theorem Trims.append {front : List Char} (trims : Trims text inner)
    (hfront : ∀ c ∈ front, isBlank c = true) (hback : ∀ c ∈ back, isBlank c = true) :
    Trims (front ++ text ++ back) inner := by
  obtain ⟨⟨front', back', rfl, hfront', hback'⟩, hbare⟩ := trims
  refine ⟨⟨front ++ front', back' ++ back, by simp only [List.append_assoc], ?_, ?_⟩, hbare⟩
  · exact List.forall_mem_append.mpr ⟨hfront, hfront'⟩
  · exact List.forall_mem_append.mpr ⟨hback', hback⟩

theorem Bare.trim_eq (bare : Bare text) : trim text = text := by
  have htrims : Trims text text := ⟨⟨[], [], by simp, nofun, nofun⟩, bare⟩
  exact (trims_iff.mp htrims).symm

private theorem bare_iff : Bare text ↔ trim text = text :=
  ⟨Bare.trim_eq, fun htrim => htrim ▸ (trims_trim text).bare⟩

instance (text : List Char) : Decidable (Bare text) := decidable_of_iff _ bare_iff.symm

@[simp] theorem trim_trim (text : List Char) : trim (trim text) = trim text :=
  (trims_trim text).bare.trim_eq

end RadioLink.Text
