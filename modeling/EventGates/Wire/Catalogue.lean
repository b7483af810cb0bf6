import EventGates.Event.Decoding

/-!
# Catalogues of event types

A gate that receives bodies knows the reserved types and the custom types it was told of. A body of
an unknown type is not looked at; a known one is read as the payload of its type, or is malformed.
-/

namespace EventGates.Wire

open Text (Bytes)

/-- Why a body of a known type gives no event. -/
inductive MalformedCause where
  | body (e : BodyError)
  | payload (e : DecodeError)
deriving DecidableEq, Repr

/-- The report on a malformed body. -/
def MalformedCause.message (typeName : String) (body : Bytes) (cause : MalformedCause) : String :=
  "malformed " ++ Text.quote typeName ++ " payload: " ++
    match cause with
    | .body e => e.message body
    | .payload e => e.message

/-- The custom types that are known beside the reserved ones. -/
structure Catalogue where
  custom : List String := []
deriving DecidableEq, Repr

namespace Catalogue

/-- Adds a custom type; reserved names and names already there change nothing. -/
def insert (c : Catalogue) (typeName : String) : Catalogue :=
  if isReserved typeName || c.custom.contains typeName then c else ⟨typeName :: c.custom⟩

def ofList (names : List String) : Catalogue := names.foldl insert {}

def knows (c : Catalogue) (typeName : String) : Bool :=
  isReserved typeName || c.custom.contains typeName

/-- What a body of the given type carries, none if the type is unknown. -/
def read (c : Catalogue) (typeName : String) (body : Bytes) :
    Except MalformedCause (Option Draft) :=
  if !c.knows typeName then .ok none
  else
    match parseBody body with
    | .error e => .error (.body e)
    | .ok (value, sender) =>
      if c.custom.contains typeName then .ok (some ⟨.ofCustom typeName value, sender⟩)
      else
        match Payload.ofReserved? typeName value with
        | none => .ok none
        | some (.error e) => .error (.payload e)
        | some (.ok payload) => .ok (some ⟨payload, sender⟩)

end Catalogue

end EventGates.Wire
