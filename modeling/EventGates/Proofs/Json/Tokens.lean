import EventGates.Proofs.Json.NumeralTokens
import EventGates.Proofs.Text.Bytes
import Mathlib.Data.List.TakeWhile

/-!
# Tokens are read by the grammar

A reader takes what the grammar allows if it takes nothing else and takes it wherever it stands in
front of something that could not go on with a numeral (`Takes`). This is said here of words,
numerals and strings, and of a colon. The pieces of a string stand for bytes, which are those of one
text or of none (`Text.encode_of_validPart`).
-/

namespace EventGates

/-- Both steps succeed if one after the other does. -/
lemma bind_eq_ok_iff {ε α β : Type} {x : Except ε α} {f : α → Except ε β} {y : β} :
    (x >>= f) = .ok y ↔ ∃ a, x = .ok a ∧ f a = .ok y := by
  cases x with
  | error e => exact iff_of_false nofun nofun
  | ok a =>
    constructor
    · exact fun second => ⟨a, rfl, second⟩
    · rintro ⟨_, ⟨⟩, second⟩
      exact second

namespace Json.Grammar

open Text (Bytes encode)
open Reader (skipBlanks isBlankByte isDigit endsNumeral endsNumeral_cons isPlain hexEscape)

variable {ε α : Type}

/-- What is taken from the front of a byte sequence: a thing, and the rest is left. -/
abbrev Intake (α : Type) := Bytes → α → Bytes → Prop

/-- What a reader takes. -/
def takes (r : Bytes → Except ε (α × Bytes)) : Intake α := fun bs x rest => r bs = .ok (x, rest)

/-- What is taken is what the grammar allows. -/
structure Takes (T : Intake α) (R : α → Bytes → Prop) : Prop where
  sound {bs rest : Bytes} {x : α} : T bs x rest → ∃ tok, R x tok ∧ bs = tok ++ rest
  complete {tok rest : Bytes} {x : α} : R x tok → endsNumeral rest = true → T (tok ++ rest) x rest

/-- What takes the same is by the same grammar. -/
lemma Takes.congr {T T' : Intake α} {R : α → Bytes → Prop} (taken : Takes T R)
    (same : ∀ {bs x rest}, T' bs x rest ↔ T bs x rest) : Takes T' R where
  sound read := taken.sound (same.mp read)
  complete spells stop := same.mpr (taken.complete spells stop)

/-! ## Blanks -/

lemma Blank.nil : Blank [] := nofun

/-- A numeral ends before blanks. -/
lemma Blank.endsNumeral {w rest : Bytes} (blank : Blank w) (stop : endsNumeral rest = true) :
    Reader.endsNumeral (w ++ rest) = true := by
  cases w with
  | nil => exact stop
  | cons b w =>
    have first := blank b List.mem_cons_self
    simp only [isBlankByte, Bool.or_eq_true, beq_iff_eq] at first
    obtain ((rfl | rfl) | rfl) | rfl := first <;> rfl

/-- Blanks are skipped up to what is none. -/
lemma Blank.skip {w rest : Bytes} {b : UInt8} (blank : Blank w) (other : isBlankByte b = false) :
    skipBlanks (w ++ b :: rest) = b :: rest := by
  rw [skipBlanks, List.dropWhile_append_of_pos blank,
    List.dropWhile_cons_of_neg (by simp [other])]

/-- What is skipped are blanks. -/
lemma exists_blank (bs : Bytes) : ∃ w, Blank w ∧ bs = w ++ skipBlanks bs :=
  ⟨bs.takeWhile isBlankByte, List.all_eq_true.mp List.all_takeWhile,
    List.takeWhile_append_dropWhile.symm⟩

/-- What is left when blanks are skipped begins with something else. -/
lemma isBlankByte_of_skipBlanks {bs rest : Bytes} {b : UInt8} (left : skipBlanks bs = b :: rest) :
    isBlankByte b = false := by
  have first := List.head?_dropWhile_not isBlankByte bs
  rw [← skipBlanks, left] at first
  simpa using first

/-- What blanks are skipped of has none to skip. -/
lemma skipBlanks_skipBlanks (bs : Bytes) : skipBlanks (skipBlanks bs) = skipBlanks bs := by
  cases left : skipBlanks bs with
  | nil => rfl
  | cons b rest => exact List.dropWhile_cons_of_neg (by simp [isBlankByte_of_skipBlanks left])

/-- Some byte comes first behind blanks. -/
lemma skipBlanks_eq_cons_iff {bs rest : Bytes} {b : UInt8} (other : isBlankByte b = false) :
    skipBlanks bs = b :: rest ↔ ∃ w, Blank w ∧ bs = w ++ b :: rest := by
  constructor
  · intro left
    obtain ⟨w, blank, parts⟩ := exists_blank bs
    exact ⟨w, blank, left ▸ parts⟩
  · rintro ⟨w, blank, rfl⟩
    exact blank.skip other

/-- Nothing but blanks is left. -/
lemma skipBlanks_eq_nil_iff {bs : Bytes} : skipBlanks bs = [] ↔ Blank bs :=
  List.dropWhile_eq_nil_iff

/-! ## Words -/

/-- The letters of a word stand one after the other. -/
lemma literal_eq_ok_iff {letters bs rest : Bytes} {x y : Json} :
    Reader.literal letters x bs = .ok (y, rest) ↔ y = x ∧ bs = letters ++ rest := by
  induction letters generalizing bs with
  | nil =>
    simp only [Reader.literal, Except.ok.injEq, Prod.mk.injEq, List.nil_append]
    exact and_congr_left' eq_comm
  | cons letter letters ih =>
    cases bs with
    | nil => exact iff_of_false nofun fun taken => nomatch taken.2
    | cons b bs =>
      rw [Reader.literal]
      split
      · next same =>
        rw [ih, same, List.cons_append, List.cons_inj_right]
      · next other =>
        refine iff_of_false nofun ?_
        rintro ⟨-, same⟩
        exact other (List.cons.inj same).1

/-- A colon comes behind blanks. -/
lemma colon_eq_ok_iff {bs rest : Bytes} :
    Reader.colon bs = .ok ((), rest) ↔ ∃ w, Blank w ∧ bs = w ++ 0x3A :: rest := by
  rw [← skipBlanks_eq_cons_iff rfl, Reader.colon]
  split
  · next left => simp [left]
  · next rest' left => simp [left]
  · next other => exact iff_of_false nofun (other rest)

/-! ## Numerals -/

lemma takes_number : Takes (takes Reader.number) SpellsNumber where
  sound := spells_of_number
  complete := number_of_spells

/-! ## Strings -/

lemma hexEscape_eq_ok_iff {n : Nat} {bs rest : Bytes} :
    hexEscape bs = .ok (n, rest) ↔ ∃ tok, Hex n tok ∧ bs = tok ++ rest := by
  constructor
  · intro read
    unfold hexEscape at read
    split at read
    · split at read
      · next first second third fourth =>
        cases read
        exact ⟨_, .mk first second third fourth, rfl⟩
      · cases read
    · cases read
  · rintro ⟨_, ⟨first, second, third, fourth⟩, rfl⟩
    simp only [List.cons_append, List.nil_append, hexEscape, first, second, third, fourth]

/-- The second half of a character is an escape of its own. -/
lemma exists_hex_of_lowSurrogate {high n : Nat} {bs rest : Bytes}
    (read : Reader.lowSurrogate high bs = .ok (n, rest)) :
    ∃ low tok, Hex low tok ∧ (0xDC00 ≤ low ∧ low ≤ 0xDFFF) ∧
      n = (high - 0xD800) * 1024 + (low - 0xDC00) + 0x10000 ∧
      bs = 0x5C :: 0x75 :: (tok ++ rest) := by
  unfold Reader.lowSurrogate at read
  split at read
  · cases read
  · cases read
  · obtain ⟨⟨low, left⟩, digits, inRange⟩ := bind_eq_ok_iff.mp read
    obtain ⟨tok, hex, rfl⟩ := hexEscape_eq_ok_iff.mp digits
    simp only at inRange
    split at inRange
    · next range =>
      cases inRange
      exact ⟨low, tok, hex, range, rfl, rfl⟩
    · cases inRange
  · cases read
  · cases read

/-- An escape by number stands for the character that it is read as. -/
lemma piece_of_unicodeEscape {n : Nat} {bs rest : Bytes}
    (read : Reader.unicodeEscape bs = .ok (n, rest)) :
    ∃ tok, Piece (String.utf8EncodeChar (Char.ofNat n)) (0x5C :: 0x75 :: tok) ∧
      bs = tok ++ rest := by
  rw [Reader.unicodeEscape] at read
  obtain ⟨⟨k, left⟩, digits, half⟩ := bind_eq_ok_iff.mp read
  obtain ⟨hex, spells, rfl⟩ := hexEscape_eq_ok_iff.mp digits
  simp only at half
  split at half
  · cases half
  · next noLow =>
    split at half
    · next isHigh =>
      obtain ⟨low, hex', spells', isLow, rfl, rfl⟩ := exists_hex_of_lowSurrogate half
      refine ⟨_, .pair spells spells' isHigh isLow, ?_⟩
      simp only [List.cons_append, List.append_assoc]
    · next noHigh =>
      cases half
      have basic : ¬(0xD800 ≤ n ∧ n ≤ 0xDFFF) := by omega
      exact ⟨_, .number spells basic, rfl⟩

/-- What an escape is read as, it stands for. -/
lemma piece_of_escape {c bs rest : Bytes} (read : Reader.escape bs = .ok (c, rest)) :
    ∃ tok, Piece c (0x5C :: tok) ∧ bs = tok ++ rest := by
  cases bs with
  | nil => cases read
  | cons letter bs =>
    rw [Reader.escape] at read
    split at read
    · next byNumber =>
      obtain ⟨⟨n, left⟩, number, same⟩ := bind_eq_ok_iff.mp read
      cases same
      obtain ⟨tok, piece, rfl⟩ := piece_of_unicodeEscape number
      exact ⟨_, piece, by rw [byNumber]; rfl⟩
    · split at read
      · next short =>
        cases read
        exact ⟨[letter], .short short, rfl⟩
      · cases read

/-- No letter of a short escape announces a number. -/
lemma ne_u_of_shortEscape? {letter b : UInt8} (short : Reader.shortEscape? letter = some b) :
    letter ≠ 0x75 := by
  rintro rfl
  cases short

/-- A piece of a string is a plain byte, or an escape that is read as what it stands for. -/
lemma Piece.plain_or_escape {c tok : Bytes} (piece : Piece c tok) :
    (∃ b, isPlain b = true ∧ c = [b] ∧ tok = [b]) ∨
      ∃ letters, tok = 0x5C :: letters ∧
        ∀ rest, Reader.escape (letters ++ rest) = .ok (c, rest) := by
  cases piece with
  | plain plain => exact .inl ⟨_, plain, rfl, rfl⟩
  | short short =>
    refine .inr ⟨_, rfl, fun rest => ?_⟩
    rw [List.cons_append, Reader.escape, if_neg (ne_u_of_shortEscape? short), short]
    rfl
  | number hex basic =>
    refine .inr ⟨_, rfl, fun rest => ?_⟩
    rw [List.cons_append, Reader.escape, if_pos rfl, Reader.unicodeEscape,
      hexEscape_eq_ok_iff.mpr ⟨_, hex, rfl⟩]
    simp only [bind, Except.bind]
    rw [if_neg (by omega), if_neg (by omega)]
  | pair hex hex' isHigh isLow =>
    refine .inr ⟨_, rfl, fun rest => ?_⟩
    rw [List.cons_append, List.append_assoc, Reader.escape, if_pos rfl, Reader.unicodeEscape,
      hexEscape_eq_ok_iff.mpr ⟨_, hex, rfl⟩]
    simp only [bind, Except.bind]
    rw [if_neg (by omega), if_pos isHigh]
    simp only [List.cons_append, Reader.lowSurrogate, hexEscape_eq_ok_iff.mpr ⟨_, hex', rfl⟩, bind,
      Except.bind]
    rw [if_pos isLow]

/-- What is no quote, backslash or control stands for itself. -/
lemma isPlain_iff {b : UInt8} : isPlain b = true ↔ b ≠ 0x22 ∧ b ≠ 0x5C ∧ ¬b < 0x20 := by
  simp only [isPlain, Bool.and_eq_true, bne_iff_ne, ne_eq, Bool.not_eq_true',
    decide_eq_false_iff_not, and_assoc]

/-- What is read up to the closing quote is what the pieces stand for. -/
lemma content_of_stringBytes {budget bs content rest : Bytes}
    (read : Reader.stringBytes budget bs = .ok (content, rest)) :
    ∃ tok, Content content tok ∧ bs = tok ++ rest := by
  induction budget generalizing bs content with
  | nil => cases read
  | cons x budget ih =>
    cases bs with
    | nil => cases read
    | cons b bs =>
      rw [Reader.stringBytes] at read
      split at read
      · next quote =>
        cases read
        exact ⟨_, .quote, by rw [quote]; rfl⟩
      · next noQuote =>
        split at read
        · next backslash =>
          obtain ⟨⟨c, left⟩, first, read⟩ := bind_eq_ok_iff.mp read
          obtain ⟨⟨cs, left'⟩, more, same⟩ := bind_eq_ok_iff.mp read
          cases same
          obtain ⟨tok, piece, rfl⟩ := piece_of_escape first
          obtain ⟨toks, pieces, rfl⟩ := ih more
          refine ⟨_, .piece piece pieces, ?_⟩
          rw [backslash, List.append_assoc]
          rfl
        · next noBackslash =>
          split at read
          · cases read
          · next noControl =>
            obtain ⟨⟨cs, left⟩, more, same⟩ := bind_eq_ok_iff.mp read
            cases same
            obtain ⟨toks, pieces, rfl⟩ := ih more
            have plain : isPlain b = true := isPlain_iff.mpr ⟨noQuote, noBackslash, noControl⟩
            exact ⟨_, .piece (.plain plain) pieces, rfl⟩

/-- The pieces of a string are read as what they stand for. -/
lemma Content.stringBytes {content tok budget : Bytes} (pieces : Content content tok)
    (enough : tok.length ≤ budget.length) (rest : Bytes) :
    Reader.stringBytes budget (tok ++ rest) = .ok (content, rest) := by
  induction pieces generalizing budget with
  | quote =>
    cases budget with
    | nil => cases enough
    | cons x budget => rfl
  | @piece c cs tok toks piece _ ih =>
    rw [List.length_append] at enough
    obtain ⟨b, plain, rfl, rfl⟩ | ⟨letters, rfl, read⟩ := piece.plain_or_escape
    · cases budget with
      | nil => simp at enough
      | cons x budget =>
        obtain ⟨noQuote, noBackslash, noControl⟩ := isPlain_iff.mp plain
        have left : toks.length ≤ budget.length := by
          simp only [List.length_cons, List.length_nil] at enough
          omega
        have later := ih left
        rw [List.append_assoc, List.singleton_append, Reader.stringBytes, if_neg noQuote,
          if_neg noBackslash, if_neg noControl, later]
        rfl
    · cases budget with
      | nil => simp at enough
      | cons x budget =>
        have left : toks.length ≤ budget.length := by
          simp only [List.length_cons] at enough
          omega
        have later := ih left
        rw [List.append_assoc, List.cons_append, Reader.stringBytes, if_neg (by decide), if_pos rfl,
          read]
        simp only [bind, Except.bind, later]

/-- A string after its opening quote. -/
lemma takes_stringBody : Takes (takes Reader.stringBody) SpellsBody where
  sound {bs rest s} := by
    intro read
    rw [takes, Reader.stringBody] at read
    obtain ⟨⟨content, left⟩, all, read⟩ := bind_eq_ok_iff.mp read
    simp only at read
    split at read
    · next cs valid =>
      cases read
      obtain ⟨tok, pieces, parts⟩ := content_of_stringBytes all
      refine ⟨tok, ?_, parts⟩
      rw [SpellsBody, Text.encodeString, String.toList_ofList, ← Text.encode_of_validPart valid]
      exact pieces
    · cases read
  complete {tok rest s} := by
    intro pieces _
    have enough : tok.length ≤ (0 :: (tok ++ rest)).length := by
      rw [List.length_cons, List.length_append]
      omega
    rw [takes, Reader.stringBody, Content.stringBytes pieces enough rest]
    simp only [bind, Except.bind, Text.encodeString, Text.validPart_encode, String.ofList_toList]

end Json.Grammar

end EventGates
