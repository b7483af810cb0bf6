import EventGates.Json.Binary64.Shortest
import EventGates.Json.Value
import EventGates.Text.Hex
import EventGates.Text.Utf8

/-!
# The text of a JSON tree

Trees are written without blanks, members in the order of the tree. Inside strings only the quote,
the backslash and control characters are escaped, and the common controls have short escapes.
-/

namespace EventGates

/-- A character inside a JSON string. -/
def Json.escapeChar (c : Char) : List Char :=
  match c with
  | '"' => ['\\', '"']
  | '\\' => ['\\', '\\']
  | '\n' => ['\\', 'n']
  | '\r' => ['\\', 'r']
  | '\t' => ['\\', 't']
  | '\x08' => ['\\', 'b']
  | '\x0c' => ['\\', 'f']
  | c =>
    if c.toNat < 0x20 then
      ['\\', 'u', '0', '0', Text.lowerHexDigit (c.toNat / 16), Text.lowerHexDigit (c.toNat % 16)]
    else [c]

/-- A JSON string. -/
def Json.stringText (s : String) : List Char :=
  '"' :: (s.toList.flatMap escapeChar ++ ['"'])

/-- A JSON number. -/
def Number.text : Number → List Char
  | .natural n => Nat.toDigits 10 n
  | .negative below => '-' :: Nat.toDigits 10 (below + 1)
  | .real x => x.text

namespace Json

mutual

/-- The characters of a tree. -/
def chars : Json → List Char
  | .null => ['n', 'u', 'l', 'l']
  | .bool true => ['t', 'r', 'u', 'e']
  | .bool false => ['f', 'a', 'l', 's', 'e']
  | .number n => n.text
  | .string s => stringText s
  | .array [] => ['[', ']']
  | .array (x :: xs) => '[' :: (chars x ++ itemChars xs)
  | .object [] => ['\x7b', '\x7d']
  | .object ((k, x) :: ms) => '\x7b' :: (stringText k ++ ':' :: (chars x ++ memberChars ms))

/-- The items after the first one, and the closing bracket. -/
def itemChars : List Json → List Char
  | [] => [']']
  | x :: xs => ',' :: (chars x ++ itemChars xs)

/-- The members after the first one, and the closing brace. -/
def memberChars : List (String × Json) → List Char
  | [] => ['\x7d']
  | (k, x) :: ms => ',' :: (stringText k ++ ':' :: (chars x ++ memberChars ms))

end

/-- The text of a tree. -/
def text (x : Json) : String := String.ofList x.chars

/-- The bytes of a tree. -/
def bytes (x : Json) : Text.Bytes := Text.encode x.chars

end Json

/-- The text of a value. -/
def Value.text (v : Value) : String := v.tree.text

end EventGates
