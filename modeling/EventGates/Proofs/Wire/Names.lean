import EventGates.Event.Basic
import EventGates.Proofs.Text.Blanks
import EventGates.Wire.ContentType

/-!
# Announced names

What a content type announces is the part of the type identity before its first semicolon, without
the blanks around it. So a type identity announces itself exactly if it is `Announceable`, which the
reserved ones are, and it announces nothing exactly if it is blank up to its first semicolon. What is
read from any header is announceable, so it stays as it is when it is announced again
(`typeIdentity?_announces`).
-/

namespace EventGates

namespace Wire

/-- A type identity that is read back as it was announced. -/
structure Announceable (typeName : String) : Prop where
  nonempty : typeName ≠ ""
  noSemicolon : ';' ∉ typeName.toList
  noLeadingBlank : ∀ c ∈ typeName.toList.head?, Text.isBlank c = false
  noTrailingBlank : ∀ c ∈ typeName.toList.getLast?, Text.isBlank c = false

/-- What a text begins with is what follows the text it must begin with. -/
lemma afterBeginning?_append (bs cs : List Char) : afterBeginning? bs (bs ++ cs) = some cs := by
  induction bs with
  | nil => rfl
  | cons b bs ih =>
    rw [List.cons_append, afterBeginning?, if_pos rfl]
    exact ih

/-- A content type announces what its type identity announces. -/
lemma typeIdentity?_contentType (typeName : String) :
    typeIdentity? (contentType typeName) = announcedName? typeName.toList := by
  have parts : (contentType typeName).toList =
      vendorTree.toList ++ (typeName.toList ++ charset.toList) := by
    rw [contentType, String.toList_append, String.toList_append, List.append_assoc]
  have ends : Text.trim (contentType typeName).toList = (contentType typeName).toList := by
    rw [parts]
    apply Text.trim_eq_self
    · intro c first
      cases first
      rfl
    · intro c last
      rw [← List.append_assoc, List.getLast?_append] at last
      cases last
      rfl
  -- the character set begins with a semicolon
  have cut : (typeName.toList ++ charset.toList).takeWhile (· ≠ ';') =
      typeName.toList.takeWhile (· ≠ ';') := by
    rw [List.takeWhile_append]
    split
    · next whole =>
      rw [(List.takeWhile_prefix _).eq_of_length whole]
      apply List.append_nil
    · rfl
  rw [typeIdentity?, ends, parts, afterBeginning?_append]
  show announcedName? _ = announcedName? _
  rw [announcedName?, announcedName?, cut]

/-- Nothing is announced exactly if the name is blank up to its first semicolon. -/
lemma announcedName?_eq_none_iff {cs : List Char} :
    announcedName? cs = none ↔ ∀ c ∈ cs.takeWhile (· ≠ ';'), Text.isBlank c = true := by
  rw [← Text.trim_eq_nil_iff, announcedName?]
  cases Text.trim (cs.takeWhile (· ≠ ';')) with
  | nil => exact iff_of_true rfl rfl
  | cons c left => exact iff_of_false nofun nofun

/-- What is announced is what is left of the name. -/
lemma announcedName?_eq_some_iff {cs : List Char} {name : String} :
    announcedName? cs = some name ↔
      name ≠ "" ∧ name.toList = Text.trim (cs.takeWhile (· ≠ ';')) := by
  rw [announcedName?]
  cases Text.trim (cs.takeWhile (· ≠ ';')) with
  | nil =>
    apply iff_of_false nofun
    rintro ⟨nonempty, empty⟩
    exact nonempty (String.toList_eq_nil_iff.mp empty)
  | cons c left =>
    show some (String.ofList (c :: left)) = some name ↔ _
    rw [Option.some_inj]
    constructor
    · rintro rfl
      refine ⟨fun empty => ?_, String.toList_ofList⟩
      rw [← String.toList_eq_nil_iff, String.toList_ofList] at empty
      cases empty
    · rintro ⟨-, same⟩
      rw [← same, String.ofList_toList]

/-- What a text announces is announceable. -/
lemma announceable_of_announcedName? {cs : List Char} {name : String}
    (announced : announcedName? cs = some name) : Announceable name := by
  obtain ⟨nonempty, left⟩ := announcedName?_eq_some_iff.mp announced
  refine ⟨nonempty, ?_, ?_, ?_⟩
  · intro mem
    rw [left] at mem
    have other := List.mem_takeWhile_imp ((Text.trim_sublist _).subset mem)
    cases other
  · rw [left]
    exact Text.head?_trim
  · rw [left]
    exact Text.getLast?_trim

/-- A type identity announces itself exactly if it is announceable. -/
lemma announcedName?_toList_iff {typeName : String} :
    announcedName? typeName.toList = some typeName ↔ Announceable typeName := by
  refine ⟨announceable_of_announcedName?, ?_⟩
  intro h
  have whole : typeName.toList.takeWhile (· ≠ ';') = typeName.toList := by
    apply List.takeWhile_eq_self_iff.mpr
    intro c mem
    apply decide_eq_true
    rintro rfl
    exact h.noSemicolon mem
  rw [announcedName?_eq_some_iff, whole]
  exact ⟨h.nonempty, (Text.trim_eq_self h.noLeadingBlank h.noTrailingBlank).symm⟩

/-- A reserved type identity is announceable. -/
lemma Announceable.of_isReserved {typeName : String} (h : isReserved typeName = true) :
    Announceable typeName := by
  simp only [isReserved, Bool.or_eq_true, beq_iff_eq] at h
  obtain (rfl | rfl) | rfl := h
  · exact announcedName?_toList_iff.mp (by decide)
  · exact announcedName?_toList_iff.mp (by decide)
  · exact announcedName?_toList_iff.mp (by decide)

/-! ## What is announced -/

/-- A name stands in a type identity between blanks, before the first semicolon. -/
def Announces (typeName name : String) : Prop :=
  ∃ front rest, typeName.toList = front ++ rest ∧ ';' ∉ front ∧ (∀ c ∈ rest.head?, c = ';') ∧
    Text.Pads front name.toList

/-- What stands before the first semicolon. -/
lemma takeWhile_eq_iff {cs front : List Char} :
    cs.takeWhile (· ≠ ';') = front ↔
      ∃ rest, cs = front ++ rest ∧ ';' ∉ front ∧ ∀ c ∈ rest.head?, c = ';' := by
  constructor
  · rintro rfl
    refine ⟨cs.dropWhile (· ≠ ';'), (List.takeWhile_append_dropWhile ..).symm, ?_, ?_⟩
    · intro mem
      have other := List.mem_takeWhile_imp mem
      cases other
    · intro c first
      have stops := List.head?_dropWhile_not (· ≠ ';') cs
      rw [first] at stops
      simpa using stops
  · rintro ⟨rest, rfl, inside, stops⟩
    have whole : ∀ c ∈ front, decide (c ≠ ';') = true := by
      intro c mem
      apply decide_eq_true
      rintro rfl
      exact inside mem
    rw [List.takeWhile_append_of_pos whole]
    cases rest with
    | nil => exact List.append_nil front
    | cons c rest =>
      obtain rfl := stops c rfl
      exact List.append_nil front

/-- A name is what is left of the part before the first semicolon. -/
lemma announces_iff {typeName name : String} :
    Announces typeName name ↔ name.toList = Text.trim (typeName.toList.takeWhile (· ≠ ';')) := by
  constructor
  · rintro ⟨front, rest, whole, inside, stops, pads⟩
    rw [takeWhile_eq_iff.mpr ⟨rest, whole, inside, stops⟩]
    exact (Text.trim_eq_iff.mpr pads).symm
  · intro left
    obtain ⟨rest, whole, inside, stops⟩ := takeWhile_eq_iff.mp rfl
    exact ⟨_, rest, whole, inside, stops, Text.trim_eq_iff.mp left.symm⟩

/-- The content type of a type identity announces the one name that stands in it before the first
semicolon, and nothing if that is empty; so it announces the type identity itself exactly if that is
announceable. Whatever any text announces is announceable, and announces itself again. -/
theorem typeIdentity?_announces :
    (∀ typeName, ∃! name, Announces typeName name) ∧
      (∀ typeName name, Announces typeName name →
        typeIdentity? (contentType typeName) = if name = "" then none else some name) ∧
      (∀ typeName, typeIdentity? (contentType typeName) = some typeName ↔ Announceable typeName) ∧
      ∀ header name, typeIdentity? header = some name →
        Announceable name ∧ typeIdentity? (contentType name) = some name := by
  have itself : ∀ typeName,
      typeIdentity? (contentType typeName) = some typeName ↔ Announceable typeName := by
    intro typeName
    rw [typeIdentity?_contentType]
    exact announcedName?_toList_iff
  refine ⟨?_, ?_, itself, ?_⟩
  · intro typeName
    refine ⟨.ofList (Text.trim (typeName.toList.takeWhile (· ≠ ';'))), ?_, ?_⟩
    · exact announces_iff.mpr String.toList_ofList
    · intro name announces
      rw [← announces_iff.mp announces, String.ofList_toList]
  · intro typeName name announces
    have left := announces_iff.mp announces
    rw [typeIdentity?_contentType]
    split
    · next empty =>
      rw [announcedName?_eq_none_iff, ← Text.trim_eq_nil_iff, ← left, empty]
      rfl
    · next nonempty => exact announcedName?_eq_some_iff.mpr ⟨nonempty, left⟩
  · intro header name announced
    obtain ⟨cs, -, announced⟩ := Option.bind_eq_some_iff.mp announced
    have announceable := announceable_of_announcedName? announced
    exact ⟨announceable, (itself name).mpr announceable⟩

/-- A name between blanks, of which one is no space, and before a parameter is announced without
either, and announces itself from then on. -/
theorem typeIdentity?_announces_padded :
    let header := " application/vnd.\u00A0demo.Reading\t;v=2;charset=utf-8\n"
    typeIdentity? header = some "demo.Reading" ∧
      typeIdentity? (contentType "demo.Reading") = some "demo.Reading" ∧
      Announces "\u00A0demo.Reading\t;v=2" "demo.Reading" ∧
      typeIdentity? (contentType "\u00A0demo.Reading\t;v=2") = some "demo.Reading" := by
  intro header
  have read : typeIdentity? header = some "demo.Reading" := by decide
  have announces : Announces "\u00A0demo.Reading\t;v=2" "demo.Reading" :=
    announces_iff.mpr (by decide)
  obtain ⟨-, named, -, stable⟩ := typeIdentity?_announces
  exact ⟨read, (stable header _ read).2, announces, named _ _ announces⟩

end Wire

end EventGates
