import EventGates.Text.Percent

/-!
# Targets of requests

The target of a request is written in a normal form: dot segments of the path are resolved, an empty
path is a slash, and characters that may not stand in their part are percent-encoded. The fragment
belongs to the text of a target but is not sent.
-/

namespace EventGates

open Text (Bytes)

/-- A target at a node: its path, query and fragment in normal form. -/
structure Url where
  path : String
  query : Option String := none
  fragment : Option String := none
deriving DecidableEq, Repr

namespace Url

/-- Controls, bytes outside ASCII, and the given further bytes are escaped. -/
def escape (more : Bytes) (cs : List Char) : List Char :=
  ((Text.encode cs).flatMap fun b =>
    if b < 0x20 || 0x7F ≤ b || more.contains b then Text.escapeByte b else [b]).map
      fun b => Char.ofNat b.toNat

/-- Further bytes to escape in a fragment: space, quote, angle brackets and backquote. -/
def fragmentBytes : Bytes := [0x20, 0x22, 0x3C, 0x3E, 0x60]

/-- Further bytes to escape in a path: also number sign, question mark and braces. -/
def pathBytes : Bytes := fragmentBytes ++ [0x23, 0x3F, 0x7B, 0x7D]

/-- Further bytes to escape in a query: space, both quotes, number sign and angle brackets. -/
def queryBytes : Bytes := [0x20, 0x22, 0x23, 0x27, 0x3C, 0x3E]

/-- A slash of either direction. -/
def isSlash (c : Char) : Bool := c == '/' || c == '\\'

/-- The parts between slashes. -/
def segments : List Char → List (List Char)
  | [] => [[]]
  | c :: cs =>
    match segments cs with
    | [] => [[c]]
    | s :: ss => if isSlash c then [] :: s :: ss else (c :: s) :: ss

/-- A segment with dots written as escapes read back. -/
def plainDots : List Char → List Char
  | '%' :: '2' :: 'e' :: rest => '.' :: plainDots rest
  | '%' :: '2' :: 'E' :: rest => '.' :: plainDots rest
  | c :: rest => c :: plainDots rest
  | [] => []

/-- A segment that names a drive: a letter and a colon or bar. -/
def isDrive : List Char → Bool
  | [c, d] => c.isAlpha && (d == ':' || d == '|')
  | _ => false

/-- Goes up from the last of the segments before, the nearest one first; a drive is not left. -/
def parent : List (List Char) → List (List Char)
  | [] => []
  | s :: ss => if isDrive s then s :: ss else ss

/-- Resolves dot segments; `before` holds the segments before, the nearest one first. A dot segment
at the end leaves an empty segment. -/
def resolve (before : List (List Char)) : List (List Char) → List (List Char)
  | [] => before.reverse
  | s :: rest =>
    let last := rest.isEmpty
    if plainDots s == ['.', '.'] then
      let before := parent before
      resolve (if last then [] :: before else before) rest
    else if plainDots s == ['.'] then resolve (if last then [] :: before else before) rest
    else resolve (escape pathBytes s :: before) rest

/-- The normal form of a path, which begins with a slash or is empty. -/
def normalPath (cs : List Char) : List Char :=
  match cs with
  | [] => ['/']
  | _ :: rest => (resolve [] (segments rest)).flatMap fun s => '/' :: s

/-- Characters that are dropped from a target wherever they stand. -/
def isDropped (c : Char) : Bool := c == '\t' || c == '\n' || c == '\r'

/-- A text after the authority, without the characters that do not count. -/
def tidy (s : String) : List Char :=
  let cs := s.toList.filter fun c => !isDropped c
  (cs.reverse.dropWhile fun c => c.toNat ≤ 0x20).reverse

/-- The authority ends before a text. -/
def endsAuthority (s : String) : Bool :=
  match tidy s with
  | [] => true
  | c :: _ => isSlash c || c == '?' || c == '#'

/-- The target that a text after the authority names. -/
def parse (s : String) : Url :=
  let cs := tidy s
  let main := cs.takeWhile (· ≠ '#')
  let path := main.takeWhile (· ≠ '?')
  { path := String.ofList (normalPath path)
    query := match main.dropWhile (· ≠ '?') with
      | [] => none
      | _ :: q => some (String.ofList (escape queryBytes q))
    fragment := match cs.dropWhile (· ≠ '#') with
      | [] => none
      | _ :: f => some (String.ofList (escape fragmentBytes f)) }

/-- The text of a target at the node with the given authority. -/
def text (u : Url) (authority : String) : String :=
  "http://" ++ authority ++ u.path ++ (u.query.map ("?" ++ ·)).getD "" ++
    (u.fragment.map ("#" ++ ·)).getD ""

end Url

end EventGates
