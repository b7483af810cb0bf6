import EventGates.Proofs.Json.Spelling
import EventGates.Proofs.Json.Strings

/-!
# Trees are told apart by their texts

The first character of a text tells what kind of tree it is of, and the text ends by itself, but for
numerals, which end where a character comes that is none of theirs. So what two trees are written as
is the same, up to such a character, only if they are the same tree (`eq_of_chars`); the induction is
on one of the trees, together with its items and members. `bytes_injective` says so of whole texts.
-/

namespace EventGates.Json

open Numeral (isPart)

/-- What comes next is no part of a numeral. -/
def Stops (rest : List Char) : Prop := ∀ c ∈ rest.head?, isPart c = false

/-! ## Parts of texts -/

/-- A numeral ends where none of its characters comes. -/
lemma eq_of_text_append {m n : Number} {rest rest' : List Char} (stop : Stops rest)
    (stop' : Stops rest') (same : m.text ++ rest = n.text ++ rest') : m = n ∧ rest = rest' := by
  have front : ∀ (n : Number) {rest : List Char}, Stops rest →
      (n.text ++ rest).takeWhile isPart = n.text := by
    intro n rest stop
    rw [List.takeWhile_append_of_pos n.text_parts.2]
    cases rest with
    | nil => exact List.append_nil _
    | cons c rest =>
      rw [List.takeWhile_cons_of_neg (by simp [stop c rfl]), List.append_nil]
  have texts : m.text = n.text := by rw [← front m stop, same, front n stop']
  obtain rfl := Number.text_injective texts
  exact ⟨rfl, List.append_cancel_left same⟩

/-- A string ends at its closing quote. -/
lemma eq_of_stringText_append {s t : String} {rest rest' : List Char}
    (same : stringText s ++ rest = stringText t ++ rest') : s = t ∧ rest = rest' := by
  obtain ⟨body, written, read⟩ := Reader.stringBody_stringText s (Text.encode rest)
  obtain ⟨body', written', read'⟩ := Reader.stringBody_stringText t (Text.encode rest')
  have bytes := congrArg Text.encode same
  rw [Text.encode_append, Text.encode_append, written, written', List.cons_append,
    List.cons_append] at bytes
  rw [(List.cons.inj bytes).2, read'] at read
  obtain ⟨rfl, -⟩ := Prod.mk.inj (Except.ok.inj read)
  exact ⟨rfl, List.append_cancel_left same⟩

/-! ## Kinds of trees -/

/-- The kind of a tree. -/
inductive Kind where
  | null
  | bool
  | number
  | string
  | array
  | object
deriving DecidableEq

def kind : Json → Kind
  | .null => .null
  | .bool _ => .bool
  | .number _ => .number
  | .string _ => .string
  | .array _ => .array
  | .object _ => .object

/-- The kind of the trees whose texts begin with a character. -/
def opened (c : Char) : Option Kind :=
  if c = 'n' then some .null
  else if c = 't' ∨ c = 'f' then some .bool
  else if c = '"' then some .string
  else if c = '[' then some .array
  else if c = '\x7b' then some .object
  else if c = '-' ∨ c.isDigit = true then some .number
  else none

/-- The first character of a text tells the kind of the tree. -/
lemma chars_eq_cons (x : Json) : ∃ c cs, x.chars = c :: cs ∧ opened c = some x.kind := by
  cases x with
  | null => exact ⟨_, _, rfl, rfl⟩
  | bool b =>
    cases b with
    | false => exact ⟨_, _, rfl, rfl⟩
    | true => exact ⟨_, _, rfl, rfl⟩
  | string s => exact ⟨_, _, rfl, rfl⟩
  | array xs =>
    cases xs with
    | nil => exact ⟨_, _, rfl, rfl⟩
    | cons x xs => exact ⟨_, _, rfl, rfl⟩
  | object ms =>
    cases ms with
    | nil => exact ⟨_, _, rfl, rfl⟩
    | cons m ms => exact ⟨_, _, rfl, rfl⟩
  | number n =>
    obtain ⟨⟨c, cs, written, first⟩, -⟩ := n.text_parts
    refine ⟨c, cs, written, ?_⟩
    have other : ∀ d : Char, d ≠ '-' → d.isDigit = false → c ≠ d := by
      rintro d noMinus noDigit rfl
      obtain minus | digit := first
      · exact noMinus minus
      · rw [noDigit] at digit
        cases digit
    rw [opened, if_neg (other 'n' (by decide) (by decide)),
      if_neg (not_or.mpr ⟨other 't' (by decide) (by decide), other 'f' (by decide) (by decide)⟩),
      if_neg (other '"' (by decide) (by decide)), if_neg (other '[' (by decide) (by decide)),
      if_neg (other '\x7b' (by decide) (by decide)), if_pos first]
    rfl

/-- Texts that begin alike are of trees of one kind. -/
lemma kind_of_chars {x y : Json} {rest rest' : List Char}
    (same : x.chars ++ rest = y.chars ++ rest') : x.kind = y.kind := by
  obtain ⟨c, cs, written, kind⟩ := x.chars_eq_cons
  obtain ⟨d, ds, written', kind'⟩ := y.chars_eq_cons
  rw [written, written'] at same
  rw [(List.cons.inj same).1, kind'] at kind
  exact (Option.some.inj kind).symm

/-- No tree begins with a bracket that closes an array. -/
lemma chars_append_ne (x : Json) (rest rest' : List Char) : x.chars ++ rest ≠ ']' :: rest' := by
  obtain ⟨c, cs, written, kind⟩ := x.chars_eq_cons
  rw [written]
  intro same
  rw [(List.cons.inj same).1] at kind
  cases kind

lemma stops_itemChars (xs : List Json) (rest : List Char) : Stops (itemChars xs ++ rest) := by
  cases xs with
  | nil =>
    rintro c ⟨⟩
    decide
  | cons x xs =>
    rintro c ⟨⟩
    decide

lemma stops_memberChars (ms : List (String × Json)) (rest : List Char) :
    Stops (memberChars ms ++ rest) := by
  cases ms with
  | nil =>
    rintro c ⟨⟩
    decide
  | cons m ms =>
    rintro c ⟨⟩
    decide

/-! ## Whole trees -/

lemma chars_array_append (x : Json) (xs : List Json) (rest : List Char) :
    (Json.array (x :: xs)).chars ++ rest = '[' :: (x.chars ++ (itemChars xs ++ rest)) := by
  rw [chars, List.cons_append, List.append_assoc]

lemma itemChars_append (x : Json) (xs : List Json) (rest : List Char) :
    itemChars (x :: xs) ++ rest = ',' :: (x.chars ++ (itemChars xs ++ rest)) := by
  rw [itemChars, List.cons_append, List.append_assoc]

lemma chars_object_append (k : String) (x : Json) (ms : List (String × Json)) (rest : List Char) :
    (Json.object ((k, x) :: ms)).chars ++ rest =
      '\x7b' :: (stringText k ++ ':' :: (x.chars ++ (memberChars ms ++ rest))) := by
  rw [chars, List.cons_append, List.append_assoc, List.cons_append, List.append_assoc]

lemma memberChars_append (k : String) (x : Json) (ms : List (String × Json)) (rest : List Char) :
    memberChars ((k, x) :: ms) ++ rest =
      ',' :: (stringText k ++ ':' :: (x.chars ++ (memberChars ms ++ rest))) := by
  rw [memberChars, List.cons_append, List.append_assoc, List.cons_append, List.append_assoc]

mutual

/-- Two trees are the same if they are written alike up to where a numeral would end. -/
theorem eq_of_chars : ∀ {x y : Json} {rest rest' : List Char}, Stops rest → Stops rest' →
    x.chars ++ rest = y.chars ++ rest' → x = y ∧ rest = rest'
  | .null, y, rest, rest', _, _, same => by
    have kind := kind_of_chars same
    cases y with
    | null => exact ⟨rfl, List.append_cancel_left same⟩
    | _ => cases kind
  | .bool a, y, rest, rest', _, _, same => by
    have kind := kind_of_chars same
    cases y with
    | bool b =>
      cases a with
      | false =>
        cases b with
        | false => exact ⟨rfl, List.append_cancel_left same⟩
        | true => cases (List.cons.inj same).1
      | true =>
        cases b with
        | false => cases (List.cons.inj same).1
        | true => exact ⟨rfl, List.append_cancel_left same⟩
    | _ => cases kind
  | .number m, y, rest, rest', stop, stop', same => by
    have kind := kind_of_chars same
    cases y with
    | number n =>
      obtain ⟨rfl, tail⟩ := eq_of_text_append stop stop' same
      exact ⟨rfl, tail⟩
    | _ => cases kind
  | .string s, y, rest, rest', _, _, same => by
    have kind := kind_of_chars same
    cases y with
    | string t =>
      obtain ⟨rfl, tail⟩ := eq_of_stringText_append same
      exact ⟨rfl, tail⟩
    | _ => cases kind
  | .array [], y, rest, rest', _, _, same => by
    have kind := kind_of_chars same
    cases y with
    | array ys =>
      cases ys with
      | nil => exact ⟨rfl, List.append_cancel_left same⟩
      | cons y ys =>
        rw [chars_array_append] at same
        exact (chars_append_ne y _ _ (List.cons.inj same).2.symm).elim
    | _ => cases kind
  | .array (x :: xs), y, rest, rest', _, _, same => by
    have kind := kind_of_chars same
    rw [chars_array_append] at same
    cases y with
    | array ys =>
      cases ys with
      | nil => exact (chars_append_ne x _ _ (List.cons.inj same).2).elim
      | cons y ys =>
        rw [chars_array_append] at same
        obtain ⟨rfl, items⟩ := eq_of_chars (stops_itemChars xs rest) (stops_itemChars ys rest')
          (List.cons.inj same).2
        obtain ⟨rfl, tail⟩ := eq_of_itemChars items
        exact ⟨rfl, tail⟩
    | _ => cases kind
  | .object [], y, rest, rest', _, _, same => by
    have kind := kind_of_chars same
    cases y with
    | object ns =>
      cases ns with
      | nil => exact ⟨rfl, List.append_cancel_left same⟩
      | cons n ns =>
        rw [chars_object_append] at same
        cases (List.cons.inj (List.cons.inj same).2).1
    | _ => cases kind
  | .object ((k, x) :: ms), y, rest, rest', _, _, same => by
    have kind := kind_of_chars same
    rw [chars_object_append] at same
    cases y with
    | object ns =>
      cases ns with
      | nil => cases (List.cons.inj (List.cons.inj same).2).1
      | cons n ns =>
        rw [chars_object_append] at same
        obtain ⟨rfl, value⟩ := eq_of_stringText_append (List.cons.inj same).2
        obtain ⟨rfl, members⟩ := eq_of_chars (stops_memberChars ms rest)
          (stops_memberChars ns rest') (List.cons.inj value).2
        obtain ⟨rfl, tail⟩ := eq_of_memberChars members
        exact ⟨rfl, tail⟩
    | _ => cases kind

/-- The same of the items after the first one. -/
theorem eq_of_itemChars : ∀ {xs ys : List Json} {rest rest' : List Char},
    itemChars xs ++ rest = itemChars ys ++ rest' → xs = ys ∧ rest = rest'
  | [], ys, rest, rest', same => by
    cases ys with
    | nil => exact ⟨rfl, List.append_cancel_left same⟩
    | cons y ys => cases (List.cons.inj same).1
  | x :: xs, ys, rest, rest', same => by
    cases ys with
    | nil => cases (List.cons.inj same).1
    | cons y ys =>
      rw [itemChars_append, itemChars_append] at same
      obtain ⟨rfl, items⟩ := eq_of_chars (stops_itemChars xs rest) (stops_itemChars ys rest')
        (List.cons.inj same).2
      obtain ⟨rfl, tail⟩ := eq_of_itemChars items
      exact ⟨rfl, tail⟩

/-- The same of the members after the first one. -/
theorem eq_of_memberChars : ∀ {ms ns : List (String × Json)} {rest rest' : List Char},
    memberChars ms ++ rest = memberChars ns ++ rest' → ms = ns ∧ rest = rest'
  | [], ns, rest, rest', same => by
    cases ns with
    | nil => exact ⟨rfl, List.append_cancel_left same⟩
    | cons n ns => cases (List.cons.inj same).1
  | (k, x) :: ms, ns, rest, rest', same => by
    cases ns with
    | nil => cases (List.cons.inj same).1
    | cons n ns =>
      rw [memberChars_append, memberChars_append] at same
      obtain ⟨rfl, value⟩ := eq_of_stringText_append (List.cons.inj same).2
      obtain ⟨rfl, members⟩ := eq_of_chars (stops_memberChars ms rest)
        (stops_memberChars ns rest') (List.cons.inj value).2
      obtain ⟨rfl, tail⟩ := eq_of_memberChars members
      exact ⟨rfl, tail⟩

end

/-- Different trees have different bytes. -/
theorem bytes_injective : Function.Injective bytes := by
  intro x y same
  have chars : x.chars = y.chars := by
    have decoded := congrArg Text.decode? same
    rw [bytes, bytes, Text.decode?_encode, Text.decode?_encode] at decoded
    exact Option.some.inj decoded
  have nothing : Stops [] := nofun
  exact (eq_of_chars nothing nothing (congrArg (· ++ []) chars)).1

end EventGates.Json
