import EventGates.Json.Value

/-!
# Events

An event announces that a device found an item, asks for an item to be added, confirms that one was
added, or carries data of an application's own. It is numbered when it is made and may name the
address it was sent from. Every payload has a type identity; the first three are reserved.
-/

namespace EventGates

/-- What a physical item does. -/
inductive ItemType where
  | sensor
  | actuator
  | sensorAndActuator
  | other
deriving DecidableEq, Repr

/-- Whether a user has to choose among the capabilities of an item. -/
inductive CapabilitySelection where
  | no
  | single
  | multiple
deriving DecidableEq, Repr

/-- An item was found that is not yet part of the environment. -/
structure NewItem where
  sourceItemUid : String
  pemUid : String
  itemType : ItemType
  capabilities : List String := []
  capabilitySelection : CapabilitySelection := .no

/-- An application asks for an item to be added. -/
structure AddItem where
  sourceItemUid : String
  userProperties : Properties := .empty
  capabilities : Option (List String) := none

/-- An item was added. -/
structure ItemAdded where
  sourceItemUid : String
  pemUid : String
  itemType : ItemType
  userProperties : Properties := .empty
  capabilities : List String := []
  configuration : Option Value := none

/-- Data of an application's own type. -/
structure CustomEvent where
  typeName : String
  data : Value

/-- What an event says. -/
inductive Payload where
  | newItem (p : NewItem)
  | addItem (p : AddItem)
  | itemAdded (p : ItemAdded)
  | custom (p : CustomEvent)

/-- An event in circulation. -/
structure Event where
  /-- Number of events made before it. -/
  seq : Nat
  sender : Option String := none
  payload : Payload

/-- What an event says and who sends it, before it is numbered. -/
structure Draft where
  payload : Payload
  sender : Option String := none

/-- The event made of a draft. -/
def Draft.number (d : Draft) (seq : Nat) : Event := ⟨seq, d.sender, d.payload⟩

/-! ## Type identities -/

def NewItem.typeName : String := "gatefabric.pem.NewItem"

def AddItem.typeName : String := "gatefabric.pem.AddItem"

def ItemAdded.typeName : String := "gatefabric.pem.ItemAdded"

/-- The identities that no custom event may use. -/
def isReserved (typeName : String) : Bool :=
  typeName == NewItem.typeName || typeName == AddItem.typeName || typeName == ItemAdded.typeName

/-- The identity under which a payload is announced. -/
def Payload.typeName : Payload → String
  | .newItem _ => NewItem.typeName
  | .addItem _ => AddItem.typeName
  | .itemAdded _ => ItemAdded.typeName
  | .custom c => c.typeName

/-- The identity under which an event is announced. -/
def Event.typeName (e : Event) : String := e.payload.typeName

/-- A custom payload. -/
def Payload.isCustom : Payload → Bool
  | .custom _ => true
  | _ => false

/-! ## Names of the enumerated fields -/

/-- The name in messages. -/
def ItemType.label : ItemType → String
  | .sensor => "Sensor"
  | .actuator => "Actuator"
  | .sensorAndActuator => "SensorAndActuator"
  | .other => "Other"

/-- The name in a body. -/
def ItemType.wireName : ItemType → String
  | .sensor => "SENSOR"
  | .actuator => "ACTUATOR"
  | .sensorAndActuator => "SENSOR_AND_ACTUATOR"
  | .other => "OTHER"

/-- Every item type, in the order in which messages list them. -/
def ItemType.all : List ItemType := [.sensor, .actuator, .sensorAndActuator, .other]

/-- The name in a body. -/
def CapabilitySelection.wireName : CapabilitySelection → String
  | .no => "NO"
  | .single => "SINGLE"
  | .multiple => "MULTIPLE"

/-- Every selection, in the order in which messages list them. -/
def CapabilitySelection.all : List CapabilitySelection := [.no, .single, .multiple]

/-! ## Equality of payloads -/

namespace Payload

/-- Equality of payloads, numbers being compared by value within their class. -/
def same : Payload → Payload → Bool
  | .newItem p, .newItem q =>
    p.sourceItemUid == q.sourceItemUid && p.pemUid == q.pemUid && p.itemType == q.itemType &&
      p.capabilities == q.capabilities && p.capabilitySelection == q.capabilitySelection
  | .addItem p, .addItem q =>
    p.sourceItemUid == q.sourceItemUid && p.capabilities == q.capabilities &&
      Json.sameMembers p.userProperties.members q.userProperties.members
  | .itemAdded p, .itemAdded q =>
    p.sourceItemUid == q.sourceItemUid && p.pemUid == q.pemUid && p.itemType == q.itemType &&
      p.capabilities == q.capabilities &&
      Json.sameMembers p.userProperties.members q.userProperties.members &&
      match p.configuration, q.configuration with
      | none, none => true
      | some v, some w => v.tree.same w.tree
      | _, _ => false
  | .custom p, .custom q => p.typeName == q.typeName && p.data.tree.same q.data.tree
  | _, _ => false

/-- The identifier by which listeners report a payload: the item, or the custom type. -/
def key : Payload → String
  | .newItem p => p.sourceItemUid
  | .addItem p => p.sourceItemUid
  | .itemAdded p => p.sourceItemUid
  | .custom p => p.typeName

end Payload

end EventGates
