import EventGates.Fabric.Basic
import EventGates.Gate.Error
import EventGates.Text.Percent
import EventGates.Wire.Catalogue
import EventGates.Wire.ContentType

/-!
# Endpoints

A node serves requests by path. Paths are compared in their plain form, with percent escapes
replaced, so every spelling of a path names one endpoint. The endpoint of a gate turns the body of a
request into an event for the gate's queue, or answers with the reason why not.
-/

namespace EventGates

open Text (Bytes)

/-- A request as it arrives at a node. -/
structure Request where
  method : String := "POST"
  path : String
  /-- The value of the first content type header. -/
  contentType : Option Bytes := none
  body : Bytes := []

/-- The answer to a request. -/
structure Response where
  status : Nat
  body : String := ""
deriving DecidableEq, Repr

namespace Request

/-- The name of the header that holds the content type. -/
def contentTypeHeader : String := "content-type"

/-- The value of the first content type header; the case of letters in names does not count. -/
def contentTypeIn (headers : List (String × Bytes)) : Option Bytes :=
  (headers.find? fun header =>
    header.1.toList.map Char.toLower == contentTypeHeader.toList).map Prod.snd

/-- A byte that may stand in the text of a header: visible ASCII, space or tab. -/
def isHeaderText (b : UInt8) : Bool := (0x20 ≤ b && b ≤ 0x7E) || b == 0x09

/-- The text of a header value, if all of it is text. -/
def headerText? (value : Bytes) : Option String :=
  if value.all isHeaderText then Text.decodeString? value else none

/-- The type identity that the content type announces. -/
def typeName? (r : Request) : Option String :=
  (r.contentType.bind headerText?).bind Wire.typeIdentity?

/-- A query or a fragment begins. -/
def endsPath (c : Char) : Bool := c == '?' || c == '#'

/-- What follows the scheme of a target, if it has one. -/
def afterScheme : List Char → Option (List Char)
  | [] => none
  | ':' :: '/' :: '/' :: rest => some rest
  | _ :: rest => afterScheme rest

/-- The path in the target of a request. A target is a path with a query and a fragment, or the same
after a scheme and an authority, where the empty path is a slash, or a star for the node as a whole,
or an authority alone, which has no path. -/
def targetPath (target : String) : String :=
  let path : List Char := match target.toList with
    | '/' :: rest => ('/' :: rest).takeWhile fun c => !endsPath c
    | ['*'] => ['*']
    | cs =>
      match afterScheme cs with
      | none => []
      | some rest =>
        match (rest.dropWhile fun c => !(c == '/' || endsPath c)).takeWhile (!endsPath ·) with
        | [] => ['/']
        | path => path
  String.ofList path

end Request

/-- The endpoint of a gate. -/
structure Inbound where
  gate : GateId
  catalogue : Wire.Catalogue
  /-- Larger bodies are refused. -/
  maxBodyBytes : Nat

/-- The answer to a body that is too large. -/
def Inbound.unreadable : Response := ⟨500, "Cannot get event data"⟩

/-- The answer to a request without a type identity. -/
def Inbound.untyped : Response := ⟨400, "Missing event type"⟩

/-- Handles a request: at most one event is made of it and offered to the gate. -/
def Inbound.handle (i : Inbound) (f : Fabric) (r : Request) : Fabric × Response :=
  if r.method ≠ "POST" then (f, ⟨405, ""⟩)
  else
    match r.typeName? with
    | none => (f, untyped)
    | some typeName =>
      if i.maxBodyBytes < r.body.length then (f, unreadable)
      else
        match i.catalogue.read typeName r.body with
        | .error cause => (f, ⟨500, cause.message typeName r.body⟩)
        | .ok none => (f.diagnose i.gate .unknownEventType (some typeName) none, ⟨200, ""⟩)
        | .ok (some draft) =>
          let (f, e) := f.makeEvent draft
          (f.offer i.gate e, ⟨200, ""⟩)

/-- What serves a path. -/
inductive Handler where
  | inbound (i : Inbound)
  /-- Answers with the method and a fixed text. -/
  | echo (text : String)

/-- The gate that a handler keeps alive. -/
def Handler.gate? : Handler → Option GateId
  | .inbound i => some i.gate
  | .echo _ => none

def Handler.handle (h : Handler) (f : Fabric) (r : Request) : Fabric × Response :=
  match h with
  | .inbound i => i.handle f r
  | .echo text => (f, ⟨418, r.method ++ " " ++ text⟩)

/-- The handlers of a node, by plain path. -/
structure Endpoints where
  handlers : Table String Handler := {}

namespace Endpoints

def lookup (t : Endpoints) (path : String) : Option Handler := t.handlers.find? (Text.plain path)

/-- Serves a path with a handler, unless it is served already. -/
def register (t : Endpoints) (path : String) (h : Handler) : Except PathTaken Endpoints :=
  if (t.lookup path).isSome then .error ⟨Text.plain path⟩
  else .ok ⟨t.handlers.insert (Text.plain path) h⟩

/-- Stops serving a path; false if it was not served. -/
def unregister (t : Endpoints) (path : String) : Endpoints × Bool :=
  (⟨t.handlers.erase (Text.plain path)⟩, (t.lookup path).isSome)

/-- The plain paths that are served, in order. -/
def paths (t : Endpoints) : List String := t.handlers.keys.mergeSort fun a b => a ≤ b

/-- Answers a request; a reply to a request for the head alone carries no body. -/
def route (t : Endpoints) (f : Fabric) (r : Request) : Fabric × Response :=
  let (f, response) : Fabric × Response := match t.lookup r.path with
    | none => (f, ⟨404, ""⟩)
    | some h => h.handle f r
  (f, if r.method = "HEAD" then { response with body := "" } else response)

end Endpoints

end EventGates
