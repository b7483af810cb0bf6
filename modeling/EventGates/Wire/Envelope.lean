import EventGates.Event.Fields
import EventGates.Json.Printer
import EventGates.Json.Skipper
import EventGates.Text.Quoted

/-!
# Bodies

A body is an envelope: the sender, if there is one, and the fields of the event. It is read from an
object with these two members, in any order and beside others that are passed over, or from an array
of the two. Faults of the text and misfits of the envelope are both reported with their place.
-/

namespace EventGates

open Text (Bytes)

/-- How messages name what stands where something else was expected. -/
def Json.description : Json → String
  | .null => "null"
  | .bool b => "boolean `" ++ (if b then "true" else "false") ++ "`"
  | .number (.real x) => "floating point `" ++ String.ofList x.text ++ "`"
  | .number n => "integer `" ++ String.ofList n.text ++ "`"
  | .string s => "string " ++ Text.quote s
  | .array _ => "sequence"
  | .object _ => "map"

namespace Wire

/-- The body that carries an event. -/
def encode (e : Event) : Json :=
  let event := ("event", e.payload.tree)
  .object (match e.sender with
    | none => [event]
    | some sender => [("sender", .string sender), event])

/-- What keeps a JSON text from being an envelope. -/
inductive Misfit where
  | unexpected (found expected : String)
  | repeated (field : String)
  | missingEvent
  | tooShort
deriving DecidableEq, Repr

def Misfit.message : Misfit → String
  | .unexpected found expected => "invalid type: " ++ found ++ ", expected " ++ expected
  | .repeated field => "duplicate field `" ++ field ++ "`"
  | .missingEvent => "missing field `event`"
  | .tooShort => "invalid length 1, expected struct Envelope with 2 elements"

/-- Why a body is refused; a misfit is reported with the number of bytes that lay ahead. -/
inductive BodyError where
  | fault (f : Json.Fault)
  | misfit (m : Misfit) (ahead : Nat)
deriving DecidableEq, Repr

def BodyError.message (body : Bytes) : BodyError → String
  | .fault f => f.message body
  | .misfit m ahead => m.message ++ " at " ++ (Json.Place.of body ahead).message

/-- What a body says. -/
structure Envelope where
  event : Json
  sender : Option String

namespace Envelope

open Json (Fault Reader)
open Json.Reader (skipBlanks)

/-- Reads a part of a body. -/
abbrev Part (α : Type) := Bytes → Except BodyError (α × Bytes)

/-- Reads a part with a JSON reader. -/
def part {α : Type} (r : Reader α) : Part α := fun bs =>
  match r bs with
  | .ok x => .ok x
  | .error f => .error (.fault f)

/-- Values inside an envelope nest one level less deeply than a text. -/
def eventDepth : Nat := Json.Reader.depthLimit - 1

/-- What stands at the front, for a message: brackets are not entered. -/
def found : Reader Json := fun bs =>
  match skipBlanks bs with
  | 0x5B :: rest => .ok (.array [], 0x5B :: rest)
  | 0x7B :: rest => .ok (.object [], 0x7B :: rest)
  | rest => Json.Reader.valueWith none rest

/-- Refuses what stands at the front. -/
def refuse {α : Type} (expected : String) : Part α := fun bs => do
  let (x, rest) ← part found bs
  .error (.misfit (.unexpected x.description expected) rest.length)

/-- The sender: null or a string. -/
def senderPart : Part (Option String) := fun bs =>
  match skipBlanks bs with
  | 0x6E :: rest => do
    let (_, rest) ← part (Json.Reader.literal [0x75, 0x6C, 0x6C] .null) rest
    .ok (none, rest)
  | 0x22 :: rest => do
    let (s, rest) ← part Json.Reader.stringBody rest
    .ok (some s, rest)
  | rest => refuse "a string" rest

def eventPart : Part Json := part (Json.Reader.valueWithin eventDepth)

/-- What has been read of an object; the sender may have been given as absent. -/
structure Partial where
  sender : Option (Option String) := none
  event : Option Json := none

/-- The misfit of an object, found before its end: the closing brace is taken if it comes next. -/
def objectMisfit {α : Type} (m : Misfit) : Part α := fun bs =>
  match skipBlanks bs with
  | 0x7D :: rest => .error (.misfit m rest.length)
  | rest => .error (.misfit m rest.length)

/-- The misfit of an array: the closing bracket or a comma is taken if it comes next. -/
def arrayMisfit {α : Type} (m : Misfit) : Part α := fun bs =>
  match skipBlanks bs with
  | 0x5D :: rest => .error (.misfit m rest.length)
  | 0x2C :: rest => .error (.misfit m (skipBlanks rest).length)
  | rest => .error (.misfit m rest.length)

/-- A member after the opening quote of its key. -/
def memberPart (seen : Partial) : Part Partial := fun bs => do
  let (key, rest) ← part Json.Reader.stringBody bs
  if key = "sender" then
    if seen.sender.isSome then objectMisfit (.repeated "sender") rest
    else do
      let (_, rest) ← part Json.Reader.colon rest
      let (sender, rest) ← senderPart rest
      .ok ({ seen with sender := some sender }, rest)
  else if key = "event" then
    if seen.event.isSome then objectMisfit (.repeated "event") rest
    else do
      let (_, rest) ← part Json.Reader.colon rest
      let (event, rest) ← eventPart rest
      .ok ({ seen with event := some event }, rest)
  else do
    let (_, rest) ← part Json.Reader.colon rest
    match Json.Skipper.value rest with
    | .ok rest => .ok (seen, rest)
    | .error f => .error (.fault f)

/-- The members after the first one, up to the closing brace, which is left; `budget` bounds their
number. -/
def moreMembers : Bytes → Partial → Part Partial
  | [], _, bs => .error (.fault (.next .endInObject bs))
  | _ :: budget, seen, bs =>
    match skipBlanks bs with
    | [] => .error (.fault (.next .endInObject []))
    | 0x7D :: rest => .ok (seen, 0x7D :: rest)
    | 0x2C :: rest =>
      match skipBlanks rest with
      | [] => .error (.fault (.next .endInValue []))
      | 0x22 :: rest => do
        let (seen, rest) ← memberPart seen rest
        moreMembers budget seen rest
      | 0x7D :: rest => .error (.fault (.next .trailingComma (0x7D :: rest)))
      | rest => .error (.fault (.next .keyNotString rest))
    | rest => .error (.fault (.next .expectedCommaOrBrace rest))

/-- The members up to the closing brace, which is left. -/
def members : Part Partial := fun bs =>
  match skipBlanks bs with
  | [] => .error (.fault (.next .endInObject []))
  | 0x7D :: rest => .ok ({}, 0x7D :: rest)
  | 0x22 :: rest => do
    let (seen, rest) ← memberPart {} rest
    moreMembers (0 :: rest) seen rest
  | rest => .error (.fault (.next .keyNotString rest))

/-- An envelope after its opening brace. -/
def objectPart : Part Envelope := fun bs => do
  let (seen, rest) ← members bs
  match seen.event with
  | none => objectMisfit .missingEvent rest
  | some event => .ok (⟨event, seen.sender.join⟩, rest.drop 1)

/-- The end of an array of sender and event. -/
def arrayEnd : Part Unit := fun bs =>
  match skipBlanks bs with
  | [] => .error (.fault (.next .endInList []))
  | 0x5D :: rest => .ok ((), rest)
  | 0x2C :: rest =>
    match skipBlanks rest with
    | 0x5D :: rest => .error (.fault (.next .trailingComma (0x5D :: rest)))
    | rest => .error (.fault (.next .trailingCharacters rest))
  | rest => .error (.fault (.next .trailingCharacters rest))

/-- An envelope after its opening bracket: the sender and the event. -/
def arrayPart : Part Envelope := fun bs =>
  match skipBlanks bs with
  | [] => .error (.fault (.next .endInList []))
  | 0x5D :: rest => arrayMisfit .tooShort (0x5D :: rest)
  | rest => do
    let (sender, rest) ← senderPart rest
    match skipBlanks rest with
    | [] => .error (.fault (.next .endInList []))
    | 0x5D :: rest => arrayMisfit .tooShort (0x5D :: rest)
    | 0x2C :: rest =>
      match skipBlanks rest with
      | [] => .error (.fault (.next .endInValue []))
      | 0x5D :: rest => .error (.fault (.next .trailingComma (0x5D :: rest)))
      | rest => do
        let (event, rest) ← eventPart rest
        let (_, rest) ← arrayEnd rest
        .ok (⟨event, sender⟩, rest)
    | rest => .error (.fault (.next .expectedCommaOrBracket rest))

/-- An envelope of either form. -/
def envelopePart : Part Envelope := fun bs =>
  match skipBlanks bs with
  | [] => .error (.fault (.next .endInValue []))
  | 0x7B :: rest => objectPart rest
  | 0x5B :: rest => arrayPart rest
  | rest => refuse "struct Envelope" rest

/-- The envelope that a body spells. -/
def read (body : Bytes) : Except BodyError Envelope := do
  let (envelope, rest) ← envelopePart body
  let _ ← part Json.Reader.endOfText rest
  .ok envelope

end Envelope

/-- The fields of the event in a body, and its sender. -/
def parseBody (body : Bytes) : Except BodyError (Value × Option String) := do
  let envelope ← Envelope.read body
  .ok (.ofTree envelope.event, envelope.sender)

end Wire

end EventGates
