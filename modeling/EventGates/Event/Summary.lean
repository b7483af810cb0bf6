import EventGates.Event.Basic
import EventGates.Text.Quoted

/-!
# Summaries of events

Listeners are called by the kind of an event. The summary of an event is the line that a log keeps
of it: what happened, and the few fields by which a reader recognises it.
-/

namespace EventGates

/-- The kinds of events that listeners tell apart. -/
inductive EventKind where
  | newItem
  | addItem
  | itemAdded
  | custom
deriving DecidableEq, Repr

namespace EventKind

def label : EventKind → String
  | newItem => "new_item"
  | addItem => "add_item"
  | itemAdded => "item_added"
  | custom => "custom"

def all : List EventKind := [newItem, addItem, itemAdded, custom]

/-- The kind with the given label. -/
def ofLabel? (s : String) : Option EventKind := all.find? fun k => k.label == s

end EventKind

def Payload.kind : Payload → EventKind
  | .newItem _ => .newItem
  | .addItem _ => .addItem
  | .itemAdded _ => .itemAdded
  | .custom _ => .custom

def Event.kind (e : Event) : EventKind := e.payload.kind

/-- A line of a log. -/
structure Summary where
  message : String
  fields : List (String × String)
deriving DecidableEq, Repr

/-- The line about an event. -/
def Event.summary (e : Event) : Summary :=
  match e.payload with
  | .newItem p =>
    ⟨"new item", [("pem", p.pemUid), ("item", p.sourceItemUid), ("kind", p.itemType.label)]⟩
  | .addItem p =>
    ⟨"add item",
      [("item", p.sourceItemUid), ("props", toString p.userProperties.members.length)]⟩
  | .itemAdded p =>
    ⟨"item added",
      [("pem", p.pemUid), ("item", p.sourceItemUid), ("sender", Text.quoteOption e.sender)]⟩
  | .custom p =>
    ⟨"custom event", [("event_type", p.typeName), ("sender", Text.quoteOption e.sender)]⟩

end EventGates
