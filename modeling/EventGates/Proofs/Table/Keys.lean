import EventGates.Table
import Mathlib.Algebra.GroupWithZero.Nat
import Mathlib.Tactic.Common

/-!
# Keys of tables

`find?` sees one value per key. The operations that go through all entries of a table agree with it
where each key is there once, which inserting, changing and erasing preserve.
-/

namespace EventGates.Table

variable {κ ν : Type} [DecidableEq κ]

/-- A key with a value is a key. -/
lemma mem_keys_of_find? {t : Table κ ν} {key : κ} {value : ν} (h : t.find? key = some value) :
    key ∈ t.keys := by
  obtain ⟨es⟩ := t
  simp only [find?, keys] at h ⊢
  induction es with
  | nil => cases h
  | cons e es ih =>
    rw [List.map_cons, List.mem_cons]
    by_cases he : key = e.1
    · exact .inl he
    · exact .inr (ih (by simpa [lookup, he] using h))

/-- The value under a key is a value. -/
lemma mem_values_of_find? {t : Table κ ν} {key : κ} {value : ν} (h : t.find? key = some value) :
    value ∈ t.values := by
  obtain ⟨es⟩ := t
  simp only [find?, values] at h ⊢
  induction es with
  | nil => cases h
  | cons e es ih =>
    rw [List.map_cons, List.mem_cons]
    by_cases he : key = e.1
    · simp only [lookup, he, if_true, Option.some.injEq] at h
      exact .inl h.symm
    · exact .inr (ih (by simpa [lookup, he] using h))

/-- A key that has no value is not a key. -/
lemma not_mem_keys_of_find?_eq_none {t : Table κ ν} {key : κ} (h : t.find? key = none) :
    key ∉ t.keys := by
  obtain ⟨es⟩ := t
  simp only [find?, keys] at h ⊢
  induction es with
  | nil => exact List.not_mem_nil
  | cons e es ih =>
    by_cases he : key = e.1
    · simp [lookup, he] at h
    · rw [List.map_cons, List.mem_cons]
      rintro (same | mem)
      · exact he same
      · exact ih (by simpa [lookup, he] using h) mem

/-- Where there is no value, there is none to change. -/
lemma modify_of_not_mem {t : Table κ ν} {key : κ} (h : key ∉ t.keys) (f : ν → ν) :
    t.modify key f = t := by
  obtain ⟨es⟩ := t
  simp only [modify, keys] at h ⊢
  congr 1
  induction es with
  | nil => rfl
  | cons e es ih =>
    rw [List.map_cons, List.mem_cons, not_or] at h
    simp only [alter, h.1, if_false, ih h.2]

/-- A change that leaves the value as it is. -/
@[simp] lemma modify_id (t : Table κ ν) (key : κ) : t.modify key id = t := by
  obtain ⟨es⟩ := t
  simp only [modify]
  congr 1
  induction es with
  | nil => rfl
  | cons e es ih =>
    simp only [alter, ih]
    split <;> rfl

/-- A change to a value changes no keys. -/
@[simp] lemma keys_modify (t : Table κ ν) (key : κ) (f : ν → ν) :
    (t.modify key f).keys = t.keys := by
  obtain ⟨es⟩ := t
  simp only [modify, keys]
  induction es with
  | nil => rfl
  | cons e es ih =>
    simp only [alter]
    split
    · simp only [List.map_cons, ih]
    · simp only [List.map_cons, ih]

/-- The keys after a value is put under a key. -/
lemma mem_keys_insert {t : Table κ ν} {key k : κ} {value : ν} (h : k ∈ (t.insert key value).keys) :
    k = key ∨ k ∈ t.keys := by
  obtain ⟨es⟩ := t
  simp only [insert, keys] at h ⊢
  induction es with
  | nil =>
    simp only [put, List.map_cons, List.map_nil, List.mem_singleton] at h
    exact .inl h
  | cons e es ih =>
    simp only [put] at h
    split at h
    · simp only [List.map_cons, List.mem_cons] at h ⊢
      obtain rfl | h := h
      · exact .inl rfl
      · exact .inr (.inr h)
    · simp only [List.map_cons, List.mem_cons] at h ⊢
      obtain rfl | h := h
      · exact .inr (.inl rfl)
      · obtain rfl | h := ih h
        · exact .inl rfl
        · exact .inr (.inr h)

/-- Each key is there once after a value is put under a key, if it was before. -/
lemma nodup_keys_insert {t : Table κ ν} (h : t.keys.Nodup) (key : κ) (value : ν) :
    (t.insert key value).keys.Nodup := by
  obtain ⟨es⟩ := t
  have mem := fun es k => @mem_keys_insert _ _ _ ⟨es⟩ key k value
  simp only [insert, keys] at h mem ⊢
  induction es with
  | nil => simp [put]
  | cons e es ih =>
    rw [List.map_cons, List.nodup_cons] at h
    simp only [put]
    split
    · next same =>
      rw [List.map_cons, List.nodup_cons]
      exact ⟨same ▸ h.1, h.2⟩
    · next other =>
      rw [List.map_cons, List.nodup_cons]
      refine ⟨?_, ih h.2⟩
      intro again
      obtain same | again := mem es e.1 again
      · exact other same.symm
      · exact h.1 again

/-- A value that is put in its own place. -/
lemma insert_of_find?_eq_some {t : Table κ ν} {key : κ} {value : ν} (h : t.find? key = some value) :
    t.insert key value = t := by
  obtain ⟨es⟩ := t
  simp only [insert, find?] at h ⊢
  congr 1
  induction es with
  | nil => cases h
  | cons e es ih =>
    by_cases he : key = e.1
    · simp only [lookup, he, if_true, Option.some.injEq] at h
      simp only [put, he, if_true, ← h]
    · simp only [lookup, he, if_false] at h
      simp only [put, he, if_false, ih h]

/-- Where there is no value, there is none to drop. -/
lemma erase_of_find?_eq_none {t : Table κ ν} {key : κ} (h : t.find? key = none) :
    t.erase key = t := by
  obtain ⟨es⟩ := t
  simp only [erase, find?] at h ⊢
  congr 1
  induction es with
  | nil => rfl
  | cons e es ih =>
    by_cases he : key = e.1
    · simp [lookup, he] at h
    · simp only [lookup, he, if_false] at h
      simp only [drop, he, if_false, ih h]

/-- A value under a new key comes after all others. -/
lemma entries_insert_of_find?_eq_none {t : Table κ ν} {key : κ} (h : t.find? key = none) (value : ν) :
    (t.insert key value).entries = t.entries ++ [(key, value)] := by
  obtain ⟨es⟩ := t
  simp only [insert, find?] at h ⊢
  induction es with
  | nil => rfl
  | cons e es ih =>
    by_cases he : key = e.1
    · simp [lookup, he] at h
    · simp only [lookup, he, if_false] at h
      simp only [put, he, if_false, ih h, List.cons_append]

/-- A value under a new key that is dropped again leaves the table as it was. -/
lemma erase_insert {t : Table κ ν} {key : κ} (h : t.find? key = none) (value : ν) :
    (t.insert key value).erase key = t := by
  obtain ⟨es⟩ := t
  simp only [insert, erase, find?] at h ⊢
  congr 1
  induction es with
  | nil => simp [put, drop]
  | cons e es ih =>
    by_cases he : key = e.1
    · simp [lookup, he] at h
    · simp only [lookup, he, if_false] at h
      simp only [put, drop, he, if_false, ih h]

/-- Each key is there once after the value under a key is dropped, if it was before. -/
lemma nodup_keys_erase {t : Table κ ν} (h : t.keys.Nodup) (key : κ) :
    (t.erase key).keys.Nodup := by
  obtain ⟨es⟩ := t
  have sub : ∀ es : List (κ × ν), (drop key es).Sublist es := by
    intro es
    induction es with
    | nil => exact .slnil
    | cons e es ih =>
      simp only [drop]
      split
      · exact ih.cons e
      · exact ih.cons_cons e
  exact h.sublist ((sub es).map Prod.fst)

/-- Two changes to the value under a key are the same if they agree on it. -/
lemma modify_congr {t : Table κ ν} (h : t.keys.Nodup) {key : κ} {f g : ν → ν}
    (agree : ∀ v, t.find? key = some v → f v = g v) : t.modify key f = t.modify key g := by
  obtain ⟨es⟩ := t
  induction es with
  | nil => rfl
  | cons e es ih =>
    have nodup : e.1 ∉ es.map Prod.fst ∧ (es.map Prod.fst).Nodup := List.nodup_cons.mp h
    by_cases he : key = e.1
    · have new : key ∉ (⟨es⟩ : Table κ ν).keys := he ▸ nodup.1
      have rest : alter key f es = alter key g es := by
        have none := (modify_of_not_mem new f).trans (modify_of_not_mem new g).symm
        exact congrArg entries none
      have here := agree e.2 (by simp [find?, lookup, he])
      simp only [modify, alter, he] at rest ⊢
      simp only [if_true, here, rest]
    · have rest := ih nodup.2 fun v hv => agree v (by simpa [find?, lookup, he] using hv)
      have rest : alter key f es = alter key g es := congrArg entries rest
      simp only [modify, alter, he, if_false, rest]

/-! ## Sums over all values -/

/-- A value that is put under a key takes the place of an earlier one. -/
lemma sum_values_insert (t : Table κ ν) (key : κ) (value : ν) (f : ν → Nat) :
    ((t.insert key value).values.map f).sum + ((t.find? key).map f).getD 0 =
      (t.values.map f).sum + f value := by
  obtain ⟨es⟩ := t
  simp only [insert, find?, values]
  induction es with
  | nil => simp [put, lookup]
  | cons e es ih =>
    by_cases he : key = e.1
    · simp [put, lookup, he]
      omega
    · simp only [put, lookup, he, if_false, List.map_cons, List.sum_cons]
      omega

/-- The value under a key is dropped, where each key is there once. -/
lemma sum_values_erase {t : Table κ ν} (h : t.keys.Nodup) (key : κ) (f : ν → Nat) :
    ((t.erase key).values.map f).sum + ((t.find? key).map f).getD 0 = (t.values.map f).sum := by
  obtain ⟨es⟩ := t
  simp only [erase, find?, values, keys] at h ⊢
  induction es with
  | nil => rfl
  | cons e es ih =>
    rw [List.map_cons, List.nodup_cons] at h
    have rest := ih h.2
    by_cases he : key = e.1
    · have none : lookup key es = none := by
        cases found : lookup key es with
        | none => rfl
        | some v => exact absurd (mem_keys_of_find? (t := ⟨es⟩) found) (he ▸ h.1)
      simp only [none, Option.map_none, Option.getD_none, Nat.add_zero] at rest
      simp only [drop, lookup, he, if_true, List.map_cons, List.sum_cons, Option.map_some,
        Option.getD_some]
      rw [he] at rest
      omega
    · simp only [drop, lookup, he, if_false, List.map_cons, List.sum_cons]
      omega

/-- A table without any value under a key is empty. -/
lemma entries_eq_nil {t : Table κ ν} (h : ∀ key, t.find? key = none) : t.entries = [] := by
  obtain ⟨es⟩ := t
  cases es with
  | nil => rfl
  | cons e es => simpa [find?, lookup] using h e.1

/-! ## Tables with every value changed -/

section Map

variable {ν' : Type}

/-- Changes every value. -/
def map (t : Table κ ν) (f : ν → ν') : Table κ ν' := ⟨t.entries.map fun e => (e.1, f e.2)⟩

@[simp] lemma find?_map (t : Table κ ν) (f : ν → ν') (key : κ) :
    (t.map f).find? key = (t.find? key).map f := by
  obtain ⟨es⟩ := t
  simp only [map, find?]
  induction es with
  | nil => rfl
  | cons e es ih =>
    simp only [List.map_cons, lookup, ih]
    split <;> rfl

@[simp] lemma map_insert (t : Table κ ν) (f : ν → ν') (key : κ) (value : ν) :
    (t.insert key value).map f = (t.map f).insert key (f value) := by
  obtain ⟨es⟩ := t
  simp only [map, insert, mk.injEq]
  induction es with
  | nil => rfl
  | cons e es ih =>
    simp only [put, List.map_cons]
    split
    · rfl
    · rw [List.map_cons, ih]

@[simp] lemma map_erase (t : Table κ ν) (f : ν → ν') (key : κ) :
    (t.erase key).map f = (t.map f).erase key := by
  obtain ⟨es⟩ := t
  simp only [map, erase, mk.injEq]
  induction es with
  | nil => rfl
  | cons e es ih =>
    simp only [drop, List.map_cons]
    split
    · exact ih
    · rw [List.map_cons, ih]

/-- A value is changed before or after all are. -/
lemma map_modify (t : Table κ ν) {f : ν → ν'} {h : ν → ν} {h' : ν' → ν'}
    (same : ∀ v, f (h v) = h' (f v)) (key : κ) :
    (t.modify key h).map f = (t.map f).modify key h' := by
  obtain ⟨es⟩ := t
  simp only [map, modify, mk.injEq]
  induction es with
  | nil => rfl
  | cons e es ih =>
    simp only [alter, List.map_cons]
    split
    · rw [List.map_cons, ih, same]
    · rw [List.map_cons, ih]

omit [DecidableEq κ] in
lemma map_map {ν'' : Type} (t : Table κ ν) (f : ν → ν') (h : ν' → ν'') :
    (t.map f).map h = t.map fun v => h (f v) := by
  simp only [map, List.map_map, Function.comp_def]

/-- What every value loses anyway may be lost before one of them is changed. -/
lemma map_modify_map (t : Table κ ν) {f h h' : ν → ν} (idem : ∀ v, f (f v) = f v)
    (same : ∀ v, f (h v) = f (h' (f v))) (key : κ) :
    (t.modify key h).map f = ((t.map f).modify key h').map f := by
  obtain ⟨es⟩ := t
  simp only [map, modify, mk.injEq]
  induction es with
  | nil => rfl
  | cons e es ih =>
    simp only [alter, List.map_cons]
    split
    · rw [List.map_cons, List.map_cons, ih, same]
    · rw [List.map_cons, List.map_cons, ih, idem]

end Map

end EventGates.Table
