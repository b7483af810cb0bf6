import EventGates.Wire.Envelope

/-!
# Payloads from JSON

A reserved payload is read from an object of its fields, in which other members are ignored, or from
an array of the fields in their order. Optional fields have defaults. The members of an object are
examined by increasing key and the first bad one is reported; only then are missing ones.
-/

namespace EventGates

/-- Why a JSON value is no payload of the announced type. -/
inductive DecodeError where
  | unexpected (found expected : String)
  | missing (field : String)
  | tooShort (length : Nat) (expected : String)
  | tooLong (length : Nat)
  | unknownVariant (name : String) (known : List String)
  | notOneMember
deriving DecidableEq, Repr

def DecodeError.message : DecodeError → String
  | .unexpected found expected => "invalid type: " ++ found ++ ", expected " ++ expected
  | .missing field => "missing field `" ++ field ++ "`"
  | .tooShort length expected =>
    "invalid length " ++ toString length ++ ", expected " ++ expected
  | .tooLong length => "invalid length " ++ toString length ++ ", expected fewer elements in array"
  | .unknownVariant name known =>
    "unknown variant `" ++ name ++ "`, expected one of " ++
      ", ".intercalate (known.map fun k => "`" ++ k ++ "`")
  | .notOneMember => "invalid value: map, expected map with a single key"

/-! ## Fields -/

namespace Decoding

/-- Reads a value as something. -/
abbrev Decoder (α : Type) := Json → Except DecodeError α

def unexpected {α : Type} (expected : String) : Decoder α := fun x =>
  .error (.unexpected x.description expected)

def text : Decoder String
  | .string s => .ok s
  | x => unexpected "a string" x

def texts : Decoder (List String)
  | .array xs => xs.mapM text
  | x => unexpected "a sequence" x

def object : Decoder Properties
  | .object ms => .ok (.ofMembers ms)
  | x => unexpected "a map" x

/-- Null stands for an absent value. -/
def optional {α : Type} (decoder : Decoder α) : Decoder (Option α)
  | .null => .ok none
  | x => some <$> decoder x

def anything : Decoder Value := fun x => .ok (.ofTree x)

/-- One of several names. -/
def named {α : Type} (all : List α) (name : α → String) (s : String) : Except DecodeError α :=
  match all.find? fun a => name a == s with
  | some a => .ok a
  | none => .error (.unknownVariant s (all.map name))

/-- One of several names, alone or as the only key of an object with the value null. -/
def variant {α : Type} (all : List α) (name : α → String) : Decoder α
  | .string s => named all name s
  | .object [(s, .null)] => named all name s
  | .object [(s, x)] => do
    let _ ← named all name s
    unexpected "unit" x
  | .object _ => .error .notOneMember
  | x => unexpected "string or map" x

def itemType : Decoder ItemType := variant ItemType.all ItemType.wireName

def capabilitySelection : Decoder CapabilitySelection :=
  variant CapabilitySelection.all CapabilitySelection.wireName

/-- A member of an object, if it is there. -/
def member? {α : Type} (ms : Members) (key : String) (decoder : Decoder α) :
    Except DecodeError (Option α) :=
  match ms.find? key with
  | none => .ok none
  | some x => some <$> decoder x

/-- A field that must be there. -/
def required {α : Type} (key : String) : Option α → Except DecodeError α
  | none => .error (.missing key)
  | some a => .ok a

/-- What messages expect of an array of fields. -/
def arrayName (name : String) (fields : Nat) : String :=
  "struct " ++ name ++ " with " ++ toString fields ++ " elements"

/-- The item for a field that must be there. -/
def itemAt {α : Type} (xs : List Json) (index : Nat) (expected : String) (decoder : Decoder α) :
    Except DecodeError α :=
  match xs[index]? with
  | none => .error (.tooShort index expected)
  | some x => decoder x

/-- The item for a field with a default. -/
def itemOr {α : Type} (xs : List Json) (index : Nat) (default : α) (decoder : Decoder α) :
    Except DecodeError α :=
  match xs[index]? with
  | none => .ok default
  | some x => decoder x

/-- An array holds no more items than there are fields. -/
def atMost (fields : Nat) (xs : List Json) : Except DecodeError Unit :=
  if fields < xs.length then .error (.tooLong xs.length) else .ok ()

end Decoding

/-! ## Payloads -/

open Decoding

namespace NewItem

def ofMembers (ms : Members) : Except DecodeError NewItem := do
  let capabilities ← member? ms "capabilities" texts
  let selection ← member? ms "capabilitySelection" Decoding.capabilitySelection
  let kind ← member? ms "itemType" Decoding.itemType
  let pem ← member? ms "pemUid" text
  let source ← member? ms "sourceItemUid" text
  .ok
    { sourceItemUid := ← required "sourceItemUid" source
      pemUid := ← required "pemUid" pem
      itemType := ← required "itemType" kind
      capabilities := capabilities.getD []
      capabilitySelection := selection.getD .no }

def ofItems (xs : List Json) : Except DecodeError NewItem := do
  let expected := arrayName "NewItem" 5
  let result : NewItem :=
    { sourceItemUid := ← itemAt xs 0 expected text
      pemUid := ← itemAt xs 1 expected text
      itemType := ← itemAt xs 2 expected Decoding.itemType
      capabilities := ← itemOr xs 3 [] texts
      capabilitySelection := ← itemOr xs 4 .no Decoding.capabilitySelection }
  atMost 5 xs
  .ok result

def decode : Decoder NewItem
  | .object ms => ofMembers ms
  | .array xs => ofItems xs
  | x => unexpected "struct NewItem" x

end NewItem

namespace AddItem

def ofMembers (ms : Members) : Except DecodeError AddItem := do
  let capabilities ← member? ms "capabilities" (optional texts)
  let source ← member? ms "sourceItemUid" text
  let properties ← member? ms "userProperties" object
  .ok
    { sourceItemUid := ← required "sourceItemUid" source
      userProperties := properties.getD .empty
      capabilities := capabilities.join }

def ofItems (xs : List Json) : Except DecodeError AddItem := do
  let result : AddItem :=
    { sourceItemUid := ← itemAt xs 0 (arrayName "AddItem" 3) text
      userProperties := ← itemOr xs 1 .empty object
      capabilities := ← itemOr xs 2 none (optional texts) }
  atMost 3 xs
  .ok result

def decode : Decoder AddItem
  | .object ms => ofMembers ms
  | .array xs => ofItems xs
  | x => unexpected "struct AddItem" x

end AddItem

namespace ItemAdded

def ofMembers (ms : Members) : Except DecodeError ItemAdded := do
  let capabilities ← member? ms "capabilities" texts
  let configuration ← member? ms "configuration" (optional anything)
  let kind ← member? ms "itemType" Decoding.itemType
  let pem ← member? ms "pemUid" text
  let source ← member? ms "sourceItemUid" text
  let properties ← member? ms "userProperties" object
  .ok
    { sourceItemUid := ← required "sourceItemUid" source
      pemUid := ← required "pemUid" pem
      itemType := ← required "itemType" kind
      userProperties := properties.getD .empty
      capabilities := capabilities.getD []
      configuration := configuration.join }

def ofItems (xs : List Json) : Except DecodeError ItemAdded := do
  let expected := arrayName "ItemAdded" 6
  let result : ItemAdded :=
    { sourceItemUid := ← itemAt xs 0 expected text
      pemUid := ← itemAt xs 1 expected text
      itemType := ← itemAt xs 2 expected Decoding.itemType
      userProperties := ← itemOr xs 3 .empty object
      capabilities := ← itemOr xs 4 [] texts
      configuration := ← itemOr xs 5 none (optional anything) }
  atMost 6 xs
  .ok result

def decode : Decoder ItemAdded
  | .object ms => ofMembers ms
  | .array xs => ofItems xs
  | x => unexpected "struct ItemAdded" x

end ItemAdded

namespace Payload

/-- The payload of a reserved type, none if the type is not reserved. -/
def ofReserved? (typeName : String) (value : Value) : Option (Except DecodeError Payload) :=
  if typeName = NewItem.typeName then some (.newItem <$> NewItem.decode value.tree)
  else if typeName = AddItem.typeName then some (.addItem <$> AddItem.decode value.tree)
  else if typeName = ItemAdded.typeName then some (.itemAdded <$> ItemAdded.decode value.tree)
  else none

/-- The payload of a custom type. -/
def ofCustom (typeName : String) (value : Value) : Payload := .custom ⟨typeName, value⟩

end Payload

end EventGates
