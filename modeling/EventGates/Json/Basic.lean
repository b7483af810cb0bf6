import EventGates.Json.Binary64

/-!
# JSON trees

Numbers come in three classes that never equal each other: whole numbers from zero to `2 ^ 64 - 1`,
negative whole numbers down to `-2 ^ 63`, and binary floating-point numbers. A tree keeps the
members of an object in the order in which they were written; `Value` is the form without repeated
keys.
-/

namespace EventGates

/-- A JSON number. -/
inductive Number where
  | natural (n : Fin 0x10000000000000000)
  /-- The number `-(below + 1)`. -/
  | negative (below : Fin 0x8000000000000000)
  | real (x : Binary64)
deriving DecidableEq, Repr

/-- Equality of numbers within their class. -/
def Number.same : Number → Number → Bool
  | .real x, .real y => x.same y
  | m, n => m == n

/-- A JSON tree. -/
inductive Json where
  | null
  | bool (b : Bool)
  | number (n : Number)
  | string (s : String)
  | array (items : List Json)
  | object (members : List (String × Json))
deriving Inhabited, Repr

namespace Json

mutual

/-- Equality of trees up to `Number.same`. -/
def same : Json → Json → Bool
  | .null, .null => true
  | .bool a, .bool b => a == b
  | .number m, .number n => m.same n
  | .string s, .string t => s == t
  | .array xs, .array ys => sameItems xs ys
  | .object ms, .object ns => sameMembers ms ns
  | _, _ => false

def sameItems : List Json → List Json → Bool
  | [], [] => true
  | x :: xs, y :: ys => same x y && sameItems xs ys
  | _, _ => false

def sameMembers : List (String × Json) → List (String × Json) → Bool
  | [], [] => true
  | (k, x) :: ms, (l, y) :: ns => k == l && same x y && sameMembers ms ns
  | _, _ => false

end

mutual

/-- How deeply arrays and objects nest. -/
def depth : Json → Nat
  | .array xs => depthItems xs + 1
  | .object ms => depthMembers ms + 1
  | _ => 0

def depthItems : List Json → Nat
  | [] => 0
  | x :: xs => max (depth x) (depthItems xs)

def depthMembers : List (String × Json) → Nat
  | [] => 0
  | (_, x) :: ms => max (depth x) (depthMembers ms)

end

mutual

/-- A tree without floating-point numbers. -/
def floatFree : Json → Bool
  | .number (.real _) => false
  | .array xs => floatFreeItems xs
  | .object ms => floatFreeMembers ms
  | _ => true

def floatFreeItems : List Json → Bool
  | [] => true
  | x :: xs => floatFree x && floatFreeItems xs

def floatFreeMembers : List (String × Json) → Bool
  | [] => true
  | (_, x) :: ms => floatFree x && floatFreeMembers ms

end

theorem depth_le_depthItems {x : Json} {xs : List Json} (h : x ∈ xs) :
    x.depth ≤ depthItems xs := by
  induction xs with
  | nil => cases h
  | cons y ys ih =>
    rw [depthItems]
    cases h with
    | head => exact Nat.le_max_left ..
    | tail _ h => exact Nat.le_trans (ih h) (Nat.le_max_right ..)

theorem depth_le_depthMembers {m : String × Json} {ms : List (String × Json)} (h : m ∈ ms) :
    m.2.depth ≤ depthMembers ms := by
  induction ms with
  | nil => cases h
  | cons n ns ih =>
    rw [depthMembers]
    cases h with
    | head => exact Nat.le_max_left ..
    | tail _ h => exact Nat.le_trans (ih h) (Nat.le_max_right ..)

theorem floatFreeItems_iff {xs : List Json} :
    floatFreeItems xs = true ↔ ∀ x ∈ xs, x.floatFree = true := by
  induction xs with
  | nil => simp [floatFreeItems]
  | cons x xs ih => simp [floatFreeItems, ih]

theorem floatFreeMembers_iff {ms : List (String × Json)} :
    floatFreeMembers ms = true ↔ ∀ m ∈ ms, m.2.floatFree = true := by
  induction ms with
  | nil => simp [floatFreeMembers]
  | cons m ms ih => obtain ⟨k, x⟩ := m; simp [floatFreeMembers, ih]

end Json

end EventGates
