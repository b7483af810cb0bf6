/-!
# Tables

A table holds at most one entry per key, in the order in which the keys first came. `find?` is its
view; each operation is described by what it does to that view.
-/

namespace EventGates

/-- Entries by key. -/
structure Table (κ ν : Type) where
  entries : List (κ × ν) := []
deriving Repr

namespace Table

variable {κ ν : Type} [DecidableEq κ]

/-- The value of the first entry with a key. -/
def lookup (key : κ) : List (κ × ν) → Option ν
  | [] => none
  | (k, v) :: es => if key = k then some v else lookup key es

/-- Puts a value under a key, in the place of an earlier one. -/
def put (key : κ) (value : ν) : List (κ × ν) → List (κ × ν)
  | [] => [(key, value)]
  | (k, v) :: es => if key = k then (key, value) :: es else (k, v) :: put key value es

/-- Changes the value under a key, if there is one. -/
def alter (key : κ) (f : ν → ν) : List (κ × ν) → List (κ × ν)
  | [] => []
  | (k, v) :: es => if key = k then (k, f v) :: alter key f es else (k, v) :: alter key f es

/-- Drops every entry with a key. -/
def drop (key : κ) : List (κ × ν) → List (κ × ν)
  | [] => []
  | (k, v) :: es => if key = k then drop key es else (k, v) :: drop key es

def find? (t : Table κ ν) (key : κ) : Option ν := lookup key t.entries

def contains (t : Table κ ν) (key : κ) : Bool := (t.find? key).isSome

def insert (t : Table κ ν) (key : κ) (value : ν) : Table κ ν := ⟨put key value t.entries⟩

def modify (t : Table κ ν) (key : κ) (f : ν → ν) : Table κ ν := ⟨alter key f t.entries⟩

def erase (t : Table κ ν) (key : κ) : Table κ ν := ⟨drop key t.entries⟩

def keys (t : Table κ ν) : List κ := t.entries.map Prod.fst

def values (t : Table κ ν) : List ν := t.entries.map Prod.snd

@[simp] theorem find?_empty (key : κ) : ({} : Table κ ν).find? key = none := rfl

@[simp] theorem find?_insert (t : Table κ ν) (key k : κ) (value : ν) :
    (t.insert key value).find? k = if k = key then some value else t.find? k := by
  obtain ⟨es⟩ := t
  simp only [insert, find?]
  induction es with
  | nil => simp [put, lookup]
  | cons e es ih =>
    by_cases he : key = e.1
    · by_cases h : k = key <;> simp_all [put, lookup]
    · by_cases h : k = e.1 <;> simp_all [put, lookup]
      rintro rfl
      exact absurd rfl he

@[simp] theorem find?_modify (t : Table κ ν) (key k : κ) (f : ν → ν) :
    (t.modify key f).find? k = if k = key then (t.find? k).map f else t.find? k := by
  obtain ⟨es⟩ := t
  simp only [modify, find?]
  induction es with
  | nil => simp [alter, lookup]
  | cons e es ih =>
    by_cases he : key = e.1
    · by_cases h : k = key <;> simp_all [alter, lookup]
    · by_cases h : k = e.1 <;> simp_all [alter, lookup]
      rintro rfl
      exact absurd rfl he

@[simp] theorem find?_erase (t : Table κ ν) (key k : κ) :
    (t.erase key).find? k = if k = key then none else t.find? k := by
  obtain ⟨es⟩ := t
  simp only [erase, find?]
  induction es with
  | nil => simp [drop, lookup]
  | cons e es ih =>
    by_cases he : key = e.1
    · by_cases h : k = key <;> simp_all [drop, lookup]
    · by_cases h : k = e.1 <;> simp_all [drop, lookup]
      rintro rfl
      exact absurd rfl he

end Table

end EventGates
