import EventGates.Event.Basic

/-!
# Payloads as JSON

A payload is written as an object of its fields in a fixed order; an absent field is null. A custom
payload is its data.
-/

namespace EventGates

/-- A list of texts. -/
def Json.texts (ss : List String) : Json := .array (ss.map .string)

/-- The fields of a payload, in their order. -/
def Payload.tree : Payload → Json
  | .newItem p => .object
    [("sourceItemUid", .string p.sourceItemUid), ("pemUid", .string p.pemUid),
      ("itemType", .string p.itemType.wireName), ("capabilities", .texts p.capabilities),
      ("capabilitySelection", .string p.capabilitySelection.wireName)]
  | .addItem p => .object
    [("sourceItemUid", .string p.sourceItemUid),
      ("userProperties", .object p.userProperties.members),
      ("capabilities", (p.capabilities.map .texts).getD .null)]
  | .itemAdded p => .object
    [("sourceItemUid", .string p.sourceItemUid), ("pemUid", .string p.pemUid),
      ("itemType", .string p.itemType.wireName),
      ("userProperties", .object p.userProperties.members),
      ("capabilities", .texts p.capabilities),
      ("configuration", (p.configuration.map Value.tree).getD .null)]
  | .custom p => p.data.tree

end EventGates
