import EventGates.Text.Blank
import Mathlib.Data.List.DropRight

/-!
# What is left without blanks

What is left of a text is the one stem in it that has no blanks at its ends and nothing but blanks around
it (`trim_eq_iff`). So it is the text itself if its ends are not blank, and nothing if all of it is.
-/

namespace EventGates.Text

/-- Nothing is left of a text exactly if it is blank. -/
lemma trim_eq_nil_iff {cs : List Char} : trim cs = [] ↔ ∀ c ∈ cs, isBlank c = true := by
  constructor
  · intro empty c mem
    have rest : ∀ d ∈ cs.dropWhile isBlank, isBlank d = true := List.rdropWhile_eq_nil_iff.mp empty
    rw [← List.takeWhile_append_dropWhile (p := isBlank) (l := cs), List.mem_append] at mem
    cases mem with
    | inl blank => exact List.mem_takeWhile_imp blank
    | inr left => exact rest c left
  · intro blank
    have empty : cs.dropWhile isBlank = [] := List.dropWhile_eq_nil_iff.mpr blank
    rw [trim, empty]
    rfl

/-- A text is left alone if its ends are not blank. -/
lemma trim_eq_self {cs : List Char} (first : ∀ c ∈ cs.head?, isBlank c = false)
    (last : ∀ c ∈ cs.getLast?, isBlank c = false) : trim cs = cs := by
  have whole : cs.dropWhile isBlank = cs := by
    cases cs with
    | nil => rfl
    | cons c cs =>
      apply List.dropWhile_cons_of_neg
      rw [first c rfl]
      exact Bool.false_ne_true
  rw [trim, whole]
  apply List.rdropWhile_eq_self_iff.mpr
  intro some
  rw [last _ (List.getLast?_eq_some_getLast some)]
  exact Bool.false_ne_true

/-- What is left of a text does not begin with a blank. -/
lemma head?_trim {cs : List Char} : ∀ c ∈ (trim cs).head?, isBlank c = false := by
  intro c first
  have begins := List.head?_dropWhile_not isBlank cs
  obtain ⟨tail, front⟩ : trim cs <+: cs.dropWhile isBlank := List.rdropWhile_prefix isBlank _
  cases left : trim cs with
  | nil =>
    rw [left] at first
    cases first
  | cons d ds =>
    rw [left] at first front
    cases first
    rw [← front] at begins
    exact begins

/-- What is left of a text does not end with a blank. -/
lemma getLast?_trim {cs : List Char} : ∀ c ∈ (trim cs).getLast?, isBlank c = false := by
  intro c last
  obtain ⟨nonempty, rfl⟩ := List.mem_getLast?_eq_getLast last
  exact eq_false_of_ne_true (List.rdropWhile_last_not isBlank _ nonempty)

/-- What is left of a text is a part of it. -/
lemma trim_sublist (cs : List Char) : (trim cs).Sublist cs :=
  (List.rdropWhile_prefix isBlank _).sublist.trans (List.dropWhile_sublist isBlank)

/-- A text is a stem with blanks around it, and the stem has none at its ends. -/
structure Pads (cs stem : List Char) : Prop where
  around : ∃ before after, cs = before ++ (stem ++ after) ∧
    (∀ c ∈ before, isBlank c = true) ∧ ∀ c ∈ after, isBlank c = true
  first : ∀ c ∈ stem.head?, isBlank c = false
  last : ∀ c ∈ stem.getLast?, isBlank c = false

/-- Blanks at the end of a text do not count. -/
lemma trimEnd_append {cs after : List Char} (blank : ∀ c ∈ after, isBlank c = true) :
    trimEnd (cs ++ after) = trimEnd cs := by
  have last : ∀ c ∈ after.reverse, isBlank c = true := by
    intro c mem
    exact blank c (List.mem_reverse.mp mem)
  rw [trimEnd, List.reverse_append, List.dropWhile_append_of_pos last, trimEnd]

/-- What is left of a text is its stem. -/
lemma trim_eq_iff {cs stem : List Char} : trim cs = stem ↔ Pads cs stem := by
  constructor
  · rintro rfl
    refine ⟨⟨cs.takeWhile isBlank, (cs.dropWhile isBlank).rtakeWhile isBlank, ?_, ?_, ?_⟩,
      head?_trim, getLast?_trim⟩
    · have ends : trim cs ++ (cs.dropWhile isBlank).rtakeWhile isBlank = cs.dropWhile isBlank :=
        List.rdropWhile_append_rtakeWhile ..
      rw [ends, List.takeWhile_append_dropWhile]
    · exact fun c mem => List.mem_takeWhile_imp mem
    · exact fun c mem => List.mem_rtakeWhile_imp mem
  · rintro ⟨⟨before, after, rfl, blank, blank'⟩, first, last⟩
    cases stem with
    | nil =>
      apply trim_eq_nil_iff.mpr
      intro c mem
      exact (List.mem_append.mp mem).elim (blank c) (blank' c)
    | cons c cs =>
      have begins : ∀ ds, (c :: ds).dropWhile isBlank = c :: ds := by
        intro ds
        apply List.dropWhile_cons_of_neg
        rw [first c rfl]
        exact Bool.false_ne_true
      have inner := trim_eq_self first last
      rw [trim, begins] at inner
      rw [trim, List.dropWhile_append_of_pos blank, List.cons_append, begins, ← List.cons_append,
        trimEnd_append blank', inner]

end EventGates.Text
