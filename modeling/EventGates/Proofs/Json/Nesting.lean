import EventGates.Proofs.Json.Values

/-!
# How deeply values nest

An array or an object nests one level more deeply than what is in it. Bringing the members of an
object into order adds no level (`depth_canonicalise_le`), and a text that is spelled within a limit
spells a tree that nests within that limit (`Spells.depth_le`), so the limit of a reader is one on
what it gives.
-/

namespace EventGates.Json

open Text (Bytes)

lemma depthItems_le_iff {xs : List Json} {n : Nat} :
    depthItems xs ≤ n ↔ ∀ x ∈ xs, x.depth ≤ n := by
  induction xs with
  | nil => simp [depthItems]
  | cons x xs ih => rw [depthItems, Nat.max_le, ih, List.forall_mem_cons]

lemma depthMembers_le_iff {ms : Members} {n : Nat} :
    depthMembers ms ≤ n ↔ ∀ m ∈ ms, m.2.depth ≤ n := by
  induction ms with
  | nil => simp [depthMembers]
  | cons m ms ih =>
    obtain ⟨k, x⟩ := m
    rw [depthMembers, Nat.max_le, ih, List.forall_mem_cons]

/-! ## Bringing members into order -/

mutual

/-- The value that a tree denotes nests no more deeply than the tree. -/
theorem depth_canonicalise_le : ∀ x : Json, x.canonicalise.depth ≤ x.depth
  | .null => by rw [canonicalise]
  | .bool _ => by rw [canonicalise]
  | .number _ => by rw [canonicalise]
  | .string _ => by rw [canonicalise]
  | .array xs => by
    rw [canonicalise, depth, depth]
    exact Nat.succ_le_succ (depthItems_canonicaliseItems_le xs)
  | .object ms => by
    rw [canonicalise, depth, depth]
    apply Nat.succ_le_succ
    apply depthMembers_le_iff.mpr
    intro m mem
    have there := depth_le_depthMembers (Members.mem_ofList mem)
    exact Nat.le_trans there (depthMembers_canonicaliseMembers_le ms)

theorem depthItems_canonicaliseItems_le :
    ∀ xs : List Json, depthItems (canonicaliseItems xs) ≤ depthItems xs
  | [] => by rw [canonicaliseItems]
  | x :: xs => by
    rw [canonicaliseItems, depthItems, depthItems]
    have first := depth_canonicalise_le x
    have others := depthItems_canonicaliseItems_le xs
    omega

theorem depthMembers_canonicaliseMembers_le :
    ∀ ms : List (String × Json), depthMembers (canonicaliseMembers ms) ≤ depthMembers ms
  | [] => by rw [canonicaliseMembers]
  | (_, x) :: ms => by
    rw [canonicaliseMembers, depthMembers, depthMembers]
    have first := depth_canonicalise_le x
    have others := depthMembers_canonicaliseMembers_le ms
    omega

end

/-! ## Texts within a limit -/

namespace Grammar

section

variable {α : Type} {close : UInt8} {R : α → Bytes → Prop} {xs : List α} {tok : Bytes}

/-- Each further item of a list is spelled somewhere. -/
lemma Tail.exists_spelling (tail : Tail close R xs tok) : ∀ x ∈ xs, ∃ text, R x text := by
  induction tail with
  | close blank => nofun
  | comma blank led tail ih =>
    obtain ⟨w, text, -, spells, -⟩ := led
    exact List.forall_mem_cons.mpr ⟨⟨text, spells⟩, ih⟩

/-- Each item of a list is spelled somewhere. -/
lemma Enclosed.exists_spelling (enclosed : Enclosed close R xs tok) : ∀ x ∈ xs, ∃ text, R x text := by
  cases enclosed with
  | empty blank => nofun
  | items led tail =>
    obtain ⟨w, text, -, spells, -⟩ := led
    exact List.forall_mem_cons.mpr ⟨⟨text, spells⟩, tail.exists_spelling⟩

/-- What stands under the key of a member is spelled somewhere. -/
lemma Member.exists_spelling {κ : Type} {K : κ → Bytes → Prop} {R : κ → α → Bytes → Prop} {m : κ × α}
    (member : Member K R m tok) : ∃ text, R m.1 m.2 text := by
  obtain ⟨key, blank, w, text, blank', spells, -⟩ := member
  exact ⟨text, spells⟩

end

/-- A value nests within a limit if the values in it nest within one level less. -/
lemma ValueWith.depth_le {nested : Option (Json → Bytes → Prop)} {limit : Nat}
    (inside : ∀ item, nested = some item →
      ∃ less, limit = less + 1 ∧ ∀ y text, item y text → y.depth ≤ less)
    {x : Json} {tok : Bytes} (spells : ValueWith nested x tok) : x.depth ≤ limit := by
  cases spells with
  | array there items =>
    obtain ⟨less, rfl, below⟩ := inside _ there
    rw [depth]
    apply Nat.succ_le_succ
    apply depthItems_le_iff.mpr
    intro y mem
    obtain ⟨text, spells⟩ := items.exists_spelling y mem
    exact below y text spells
  | object there members =>
    obtain ⟨less, rfl, below⟩ := inside _ there
    rw [depth]
    apply Nat.succ_le_succ
    apply depthMembers_le_iff.mpr
    intro m mem
    obtain ⟨_, member⟩ := members.exists_spelling m mem
    obtain ⟨text, spells⟩ := member.exists_spelling
    exact below m.2 text spells
  | _ => exact Nat.zero_le limit

/-- What is spelled within a limit nests within it. -/
theorem Spells.depth_le {limit : Nat} {x : Json} {tok : Bytes} (spells : Spells limit x tok) :
    x.depth ≤ limit := by
  induction limit generalizing x tok with
  | zero =>
    apply ValueWith.depth_le _ spells
    rintro _ ⟨⟩
  | succ limit ih =>
    apply ValueWith.depth_le _ spells
    rintro _ ⟨⟩
    exact ⟨limit, rfl, fun y text => ih⟩

end Grammar

end EventGates.Json
