import EventGates.Text.Blank

/-!
# Content types

A request announces the type of its event in its content type, between a fixed beginning and the
name of the character set. What is read back ends at the first semicolon and has no blanks around
it.
-/

namespace EventGates.Wire

/-- What a content type begins with. -/
def vendorTree : String := "application/vnd."

/-- What a content type ends with. -/
def charset : String := ";charset=utf-8"

/-- The content type that announces a type identity. -/
def contentType (typeName : String) : String := vendorTree ++ typeName ++ charset

/-- The rest of a text after what it must begin with. -/
def afterBeginning? : List Char → List Char → Option (List Char)
  | [], cs => some cs
  | _ :: _, [] => none
  | b :: bs, c :: cs => if b = c then afterBeginning? bs cs else none

/-- A type identity as it is read: up to the first semicolon and without blanks around it, none if
nothing is left. -/
def announcedName? (cs : List Char) : Option String :=
  match Text.trim (cs.takeWhile (· ≠ ';')) with
  | [] => none
  | name => some (String.ofList name)

/-- The type identity that a content type announces. -/
def typeIdentity? (contentType : String) : Option String :=
  (afterBeginning? vendorTree.toList (Text.trim contentType.toList)).bind announcedName?

end EventGates.Wire
