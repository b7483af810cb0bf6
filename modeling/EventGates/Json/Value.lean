import EventGates.Json.Basic

/-!
# Canonical JSON values

A value is a tree whose objects list their members by increasing key. `canonicalise` brings any tree
into this form, the last of several members with one key winning. Main statements: the result is
canonical, and a canonical tree is left alone.
-/

namespace EventGates

/-- Members by increasing key, compared character by character. -/
abbrev Members := List (String × Json)

namespace Members

/-- Puts a member in its place, instead of an earlier one with the same key. -/
def insert (key : String) (value : Json) : Members → Members
  | [] => [(key, value)]
  | (k, v) :: ms =>
    if key < k then (key, value) :: (k, v) :: ms
    else if key = k then (key, value) :: ms
    else (k, v) :: insert key value ms

/-- The member with the given key. -/
def find? (key : String) (ms : Members) : Option Json := ms.lookup key

/-- Every key is smaller than all keys after it. -/
def Sorted : Members → Prop
  | [] => True
  | (k, _) :: ms => (∀ m ∈ ms, k < m.1) ∧ Sorted ms

/-- The members of an object, the last one with a key winning. -/
def ofList (ms : Members) : Members := ms.foldl (fun acc m => insert m.1 m.2 acc) []

theorem mem_insert {key : String} {value : Json} {ms : Members} {m : String × Json}
    (h : m ∈ insert key value ms) : m = (key, value) ∨ m ∈ ms := by
  induction ms with
  | nil => simpa [insert] using h
  | cons head ms ih =>
    obtain ⟨k, v⟩ := head
    rw [insert] at h
    split at h
    · simpa using h
    · split at h
      · rcases List.mem_cons.1 h with h | h
        · exact .inl h
        · exact .inr (List.mem_cons_of_mem _ h)
      · rcases List.mem_cons.1 h with h | h
        · exact .inr (h ▸ List.mem_cons_self)
        · exact (ih h).imp_right (List.mem_cons_of_mem _)

theorem Sorted.insert {ms : Members} (h : ms.Sorted) (key : String) (value : Json) :
    (Members.insert key value ms).Sorted := by
  induction ms with
  | nil => exact ⟨by simp, trivial⟩
  | cons head ms ih =>
    obtain ⟨k, v⟩ := head
    rw [Members.insert]
    split
    · rename_i hlt
      refine ⟨fun m hm => ?_, h⟩
      rcases List.mem_cons.1 hm with rfl | hm
      · exact hlt
      · exact String.lt_trans hlt (h.1 m hm)
    · split
      · rename_i heq
        exact ⟨heq ▸ h.1, h.2⟩
      · rename_i hlt hne
        refine ⟨fun m hm => ?_, ih h.2⟩
        rcases mem_insert hm with rfl | hm
        · exact ((Std.lt_trichotomy key k).resolve_left hlt).resolve_left hne
        · exact h.1 m hm

theorem sorted_ofList (ms : Members) : (ofList ms).Sorted := by
  have go : ∀ (ms acc : Members), acc.Sorted →
      (ms.foldl (fun acc m => insert m.1 m.2 acc) acc).Sorted := by
    intro ms
    induction ms with
    | nil => exact fun _ h => h
    | cons m ms ih => exact fun acc h => ih _ (h.insert m.1 m.2)
  exact go ms [] trivial

theorem mem_ofList {ms : Members} {m : String × Json} (h : m ∈ ofList ms) : m ∈ ms := by
  have go : ∀ (ms acc : Members), m ∈ ms.foldl (fun acc m => insert m.1 m.2 acc) acc →
      m ∈ acc ∨ m ∈ ms := by
    intro ms
    induction ms with
    | nil => exact fun _ h => .inl h
    | cons x ms ih =>
      intro acc h
      rcases ih _ h with h | h
      · rcases mem_insert h with rfl | h
        · exact .inr List.mem_cons_self
        · exact .inl h
      · exact .inr (List.mem_cons_of_mem _ h)
  simpa using go ms [] h

theorem insert_append {key : String} {value : Json} {ms : Members}
    (h : ∀ m ∈ ms, m.1 < key) : insert key value ms = ms ++ [(key, value)] := by
  induction ms with
  | nil => rfl
  | cons head ms ih =>
    obtain ⟨k, v⟩ := head
    have hk : k < key := h (k, v) List.mem_cons_self
    rw [insert, if_neg (String.lt_asymm hk),
      if_neg (fun e : key = k => String.lt_irrefl k (e ▸ hk)),
      ih fun m hm => h m (List.mem_cons_of_mem _ hm), List.cons_append]

/-- Sorted members stay as they are. -/
theorem ofList_of_sorted {ms : Members} (h : ms.Sorted) : ofList ms = ms := by
  have go : ∀ (ms acc : Members), ms.Sorted → (∀ a ∈ acc, ∀ m ∈ ms, a.1 < m.1) →
      ms.foldl (fun acc m => insert m.1 m.2 acc) acc = acc ++ ms := by
    intro ms
    induction ms with
    | nil => intro acc _ _; simp
    | cons m ms ih =>
      intro acc hs ha
      rw [List.foldl_cons, insert_append fun a h => ha a h m List.mem_cons_self, ih _ hs.2]
      · simp
      · intro a hacc x hx
        rcases List.mem_append.1 hacc with hacc | hacc
        · exact ha a hacc x (List.mem_cons_of_mem _ hx)
        · obtain rfl := List.mem_singleton.1 hacc
          exact hs.1 x hx
  exact go ms [] h (by simp)

theorem find?_cons (k key : String) (value : Json) (ms : Members) :
    find? k ((key, value) :: ms) = if k = key then some value else find? k ms := by
  rw [find?, List.lookup_cons]
  cases same : k == key with
  | true => rw [if_pos (eq_of_beq same)]
  | false => rw [if_neg (ne_of_beq_false same)]; rfl

/-- Putting a member in changes what is found under its key and nothing else. -/
theorem find?_insert (k key : String) (value : Json) (ms : Members) :
    find? k (insert key value ms) = if k = key then some value else find? k ms := by
  induction ms with
  | nil => exact find?_cons k key value []
  | cons head ms ih =>
    obtain ⟨l, v⟩ := head
    rw [insert]
    split
    · exact find?_cons k key value _
    · split
      · next same =>
        subst same
        rw [find?_cons, find?_cons]
        split <;> rfl
      · next other =>
        rw [find?_cons, ih, find?_cons]
        split
        · next same =>
          subst same
          rw [if_neg (Ne.symm other)]
        · rfl

end Members

namespace Json

mutual

/-- Every object lists its members by increasing key. -/
def Canonical : Json → Prop
  | .array xs => CanonicalItems xs
  | .object ms => Members.Sorted ms ∧ CanonicalMembers ms
  | _ => True

def CanonicalItems : List Json → Prop
  | [] => True
  | x :: xs => Canonical x ∧ CanonicalItems xs

def CanonicalMembers : List (String × Json) → Prop
  | [] => True
  | (_, x) :: ms => Canonical x ∧ CanonicalMembers ms

end

mutual

/-- The tree with the members of every object sorted, the last one with a key winning. -/
def canonicalise : Json → Json
  | .array xs => .array (canonicaliseItems xs)
  | .object ms => .object (Members.ofList (canonicaliseMembers ms))
  | .null => .null
  | .bool b => .bool b
  | .number n => .number n
  | .string s => .string s

def canonicaliseItems : List Json → List Json
  | [] => []
  | x :: xs => canonicalise x :: canonicaliseItems xs

def canonicaliseMembers : List (String × Json) → List (String × Json)
  | [] => []
  | (k, x) :: ms => (k, canonicalise x) :: canonicaliseMembers ms

end

theorem canonicalMembers_iff {ms : Members} :
    CanonicalMembers ms ↔ ∀ m ∈ ms, m.2.Canonical := by
  induction ms with
  | nil => simp [CanonicalMembers]
  | cons m ms ih => obtain ⟨k, x⟩ := m; simp [CanonicalMembers, ih]

theorem canonicalItems_iff {xs : List Json} : CanonicalItems xs ↔ ∀ x ∈ xs, x.Canonical := by
  induction xs with
  | nil => simp [CanonicalItems]
  | cons x xs ih => simp [CanonicalItems, ih]

mutual

theorem canonical_canonicalise : ∀ x : Json, x.canonicalise.Canonical
  | .null => by simp [canonicalise, Canonical]
  | .bool _ => by simp [canonicalise, Canonical]
  | .number _ => by simp [canonicalise, Canonical]
  | .string _ => by simp [canonicalise, Canonical]
  | .array xs => by
    rw [canonicalise, Canonical]
    exact canonicalItems_canonicalise xs
  | .object ms => by
    rw [canonicalise, Canonical]
    refine ⟨Members.sorted_ofList _, canonicalMembers_iff.2 fun m hm => ?_⟩
    exact canonicalMembers_iff.1 (canonicalMembers_canonicalise ms) m (Members.mem_ofList hm)

theorem canonicalItems_canonicalise : ∀ xs : List Json, CanonicalItems (canonicaliseItems xs)
  | [] => by simp [canonicaliseItems, CanonicalItems]
  | x :: xs => by
    rw [canonicaliseItems, CanonicalItems]
    exact ⟨canonical_canonicalise x, canonicalItems_canonicalise xs⟩

theorem canonicalMembers_canonicalise :
    ∀ ms : List (String × Json), CanonicalMembers (canonicaliseMembers ms)
  | [] => by simp [canonicaliseMembers, CanonicalMembers]
  | (_, x) :: ms => by
    rw [canonicaliseMembers, CanonicalMembers]
    exact ⟨canonical_canonicalise x, canonicalMembers_canonicalise ms⟩

end

mutual

theorem canonicalise_of_canonical : ∀ {x : Json}, x.Canonical → x.canonicalise = x
  | .null, _ => by rw [canonicalise]
  | .bool _, _ => by rw [canonicalise]
  | .number _, _ => by rw [canonicalise]
  | .string _, _ => by rw [canonicalise]
  | .array xs, h => by
    rw [Canonical] at h
    rw [canonicalise, canonicaliseItems_of_canonical h]
  | .object ms, h => by
    rw [Canonical] at h
    rw [canonicalise, canonicaliseMembers_of_canonical h.2, Members.ofList_of_sorted h.1]

theorem canonicaliseItems_of_canonical :
    ∀ {xs : List Json}, CanonicalItems xs → canonicaliseItems xs = xs
  | [], _ => by rw [canonicaliseItems]
  | x :: xs, h => by
    rw [CanonicalItems] at h
    rw [canonicaliseItems, canonicalise_of_canonical h.1, canonicaliseItems_of_canonical h.2]

theorem canonicaliseMembers_of_canonical :
    ∀ {ms : List (String × Json)}, CanonicalMembers ms → canonicaliseMembers ms = ms
  | [], _ => by rw [canonicaliseMembers]
  | (k, x) :: ms, h => by
    rw [CanonicalMembers] at h
    rw [canonicaliseMembers, canonicalise_of_canonical h.1,
      canonicaliseMembers_of_canonical h.2]

end

end Json

/-- A JSON value: a canonical tree. -/
structure Value where
  tree : Json
  canonical : tree.Canonical

namespace Value

@[ext] theorem ext {a b : Value} (h : a.tree = b.tree) : a = b := by
  cases a; cases b; cases h; rfl

/-- The value that a tree denotes. -/
def ofTree (x : Json) : Value := ⟨x.canonicalise, x.canonical_canonicalise⟩

def null : Value := ⟨.null, by simp [Json.Canonical]⟩

def ofString (s : String) : Value := ⟨.string s, by simp [Json.Canonical]⟩

theorem ofTree_tree (v : Value) : ofTree v.tree = v :=
  Value.ext (Json.canonicalise_of_canonical v.canonical)

end Value

/-- A JSON object: canonical members. -/
structure Properties where
  members : Members
  canonical : (Json.object members).Canonical

namespace Properties

@[ext] theorem ext {a b : Properties} (h : a.members = b.members) : a = b := by
  cases a; cases b; cases h; rfl

def empty : Properties := ⟨[], by simp [Json.Canonical, Json.CanonicalMembers, Members.Sorted]⟩

/-- The object that a list of members denotes. -/
def ofMembers (ms : Members) : Properties :=
  ⟨Members.ofList (Json.canonicaliseMembers ms), by
    simpa [Json.canonicalise] using (Json.object ms).canonical_canonicalise⟩

/-- The object with a further member, instead of an earlier one with the same key. -/
def insert (key : String) (value : Value) (ps : Properties) : Properties :=
  ⟨Members.insert key value.tree ps.members, by
    have h := ps.canonical
    rw [Json.Canonical] at h ⊢
    refine ⟨h.1.insert key value.tree, Json.canonicalMembers_iff.2 fun m hm => ?_⟩
    rcases Members.mem_insert hm with rfl | hm
    · exact value.canonical
    · exact Json.canonicalMembers_iff.1 h.2 m hm⟩

end Properties

end EventGates
