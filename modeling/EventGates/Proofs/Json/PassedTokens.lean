import EventGates.Proofs.Json.Lists

/-!
# Tokens are passed over by the grammar

A numeral that nobody asked for is passed over to its end, whatever number it spells, and so is a
string, whatever bytes it stands for.
-/

namespace EventGates.Json.Grammar

open Text (Bytes)
open Reader (isDigit isPlain startsWithDigit startsWithDigit_of_endsNumeral endsNumeral
  endsNumeral_cons ne_of_isDigit)

/-! ## Numerals -/

/-- Digits are passed over up to what is none. -/
lemma someDigits_eq_ok_iff {fault : Bytes → Fault} {bs rest : Bytes} :
    Skipper.someDigits fault bs = .ok rest ↔
      startsWithDigit rest = false ∧ ∃ ds, Digits ds ∧ bs = ds ++ rest := by
  constructor
  · intro read
    rw [Skipper.someDigits] at read
    split at read
    · next first =>
      cases read
      obtain ⟨ds, digits, parts, -⟩ := exists_digits first
      refine ⟨?_, ds, digits, parts⟩
      have stops := List.head?_dropWhile_not isDigit bs
      cases left : bs.dropWhile isDigit with
      | nil => rfl
      | cons b bs' => simpa [left, startsWithDigit] using stops
    · cases read
  · rintro ⟨stop, _ | ⟨d, ds⟩, digits, rfl⟩
    · exact absurd rfl digits.1
    · have first : startsWithDigit (d :: ds ++ rest) = true := digits.2 d List.mem_cons_self
      rw [Skipper.someDigits, if_pos first, (dropWhile_digits digits.2 stop).1]

/-- The sign of an exponent is passed over. -/
lemma skipper_exponentPart_append {sign bs : Bytes} (signed : ExponentSign sign)
    (unsigned : sign = [] → ∀ b ∈ bs.head?, b ≠ 0x2B ∧ b ≠ 0x2D) :
    Skipper.exponentPart (sign ++ bs) =
      Skipper.someDigits (fun bs => .here .invalidNumber (bs.drop 1)) bs := by
  obtain rfl | rfl | rfl := signed
  · cases bs with
    | nil => rfl
    | cons b bs =>
      obtain ⟨plus, minus⟩ := unsigned rfl b rfl
      simp [Skipper.exponentPart, plus, minus]
  · rfl
  · rfl

lemma passes_exponentPart :
    Takes (passes Skipper.exponentPart) fun _ : Unit => SignedDigits where
  sound {bs rest _} := by
    intro read
    obtain ⟨sign, bs, signed, rfl, unsigned⟩ := exists_sign bs
    rw [passes, skipper_exponentPart_append signed unsigned] at read
    obtain ⟨-, ds, digits, rfl⟩ := someDigits_eq_ok_iff.mp read
    exact ⟨_, .mk signed digits, (List.append_assoc _ _ _).symm⟩
  complete {_ rest _} := by
    rintro @⟨sign, ds, signed, digits⟩ stop
    have unsigned : sign = [] → ∀ b ∈ (ds ++ rest).head?, b ≠ 0x2B ∧ b ≠ 0x2D := by
      rintro -
      obtain ⟨some, digits⟩ := digits
      obtain ⟨d, ds, rfl⟩ := List.exists_cons_of_ne_nil some
      rintro _ ⟨⟩
      have digit := digits d List.mem_cons_self
      exact ⟨ne_of_isDigit digit rfl, ne_of_isDigit digit rfl⟩
    rw [passes, List.append_assoc, skipper_exponentPart_append signed unsigned]
    exact someDigits_eq_ok_iff.mpr ⟨startsWithDigit_of_endsNumeral stop, ds, digits, rfl⟩

lemma passes_optionalExponent :
    Takes (passes Skipper.optionalExponent) fun _ : Unit => Exponent where
  sound {bs rest u} := by
    intro read
    unfold passes Skipper.optionalExponent at read
    split at read
    · obtain ⟨_, ⟨signed, digits⟩, rfl⟩ := passes_exponentPart.sound (x := u) read
      exact ⟨_, .some (.inl rfl) signed digits, rfl⟩
    · obtain ⟨_, ⟨signed, digits⟩, rfl⟩ := passes_exponentPart.sound (x := u) read
      exact ⟨_, .some (.inr rfl) signed digits, rfl⟩
    · cases read
      exact ⟨[], .none, rfl⟩
  complete {tok rest u} := by
    rintro exponent stop
    cases exponent with
    | none =>
      cases rest with
      | nil => rfl
      | cons b rest =>
        obtain ⟨-, -, small, capital⟩ := endsNumeral_cons stop
        simp [passes, Skipper.optionalExponent, small, capital]
    | some letter signed digits =>
      have part := passes_exponentPart.complete (x := u) (.mk signed digits) stop
      obtain rfl | rfl := letter
      · exact part
      · exact part

/-- The ending of a numeral is passed over. -/
lemma passes_afterDigits : Takes (passes Skipper.afterDigits) fun _ : Unit => Ending where
  sound {bs rest u} := by
    intro read
    unfold passes Skipper.afterDigits at read
    split at read
    · obtain ⟨left, some, more⟩ := bind_eq_ok_iff.mp read
      obtain ⟨-, ds, digits, rfl⟩ := someDigits_eq_ok_iff.mp some
      obtain ⟨e, exponent, rfl⟩ := passes_optionalExponent.sound (x := u) more
      refine ⟨_, .mk (.some digits) exponent, ?_⟩
      rw [List.append_assoc]
      rfl
    · obtain ⟨e, exponent, rfl⟩ := passes_optionalExponent.sound (x := u) read
      exact ⟨_, .mk .none exponent, rfl⟩
  complete {_ rest u} := by
    rintro @⟨f, e, fraction, exponent⟩ stop
    have part := passes_optionalExponent.complete (x := u) exponent stop
    cases fraction with
    | none =>
      have noPoint : ∀ bs, e ++ rest ≠ 0x2E :: bs := by
        intro bs same
        cases exponent with
        | none =>
          rw [List.nil_append] at same
          exact (endsNumeral_cons (same ▸ stop)).2.1 rfl
        | some letter _ _ =>
          obtain rfl | rfl := letter
          · cases (List.cons.inj same).1
          · cases (List.cons.inj same).1
      show Skipper.afterDigits (e ++ rest) = .ok rest
      unfold Skipper.afterDigits
      split
      · next same => exact absurd same (noPoint _)
      · exact part
    | @some ds digits =>
      have some : Skipper.someDigits (.next .invalidNumber) (ds ++ (e ++ rest)) = .ok (e ++ rest) :=
        someDigits_eq_ok_iff.mpr ⟨exponent.noDigit stop, ds, digits, rfl⟩
      rw [passes, List.append_assoc]
      exact bind_eq_ok_iff.mpr ⟨_, some, part⟩

lemma passes_unsignedNumber : Takes (passes Skipper.unsignedNumber) fun _ : Unit => Unsigned where
  sound {bs rest u} := by
    intro read
    unfold passes Skipper.unsignedNumber at read
    split at read
    · split at read
      · cases read
      · obtain ⟨_, ⟨fraction, exponent⟩, rfl⟩ := passes_afterDigits.sound (x := u) read
        exact ⟨_, .mk .zero fraction exponent, rfl⟩
    · next other =>
      obtain ⟨left, some, more⟩ := bind_eq_ok_iff.mp read
      obtain ⟨-, ds, digits, rfl⟩ := someDigits_eq_ok_iff.mp some
      obtain ⟨_, ⟨fraction, exponent⟩, rfl⟩ := passes_afterDigits.sound (x := u) more
      obtain ⟨d, ds, rfl⟩ := List.exists_cons_of_ne_nil digits.1
      have nonzero : d ≠ 0x30 := fun zero => other _ (by rw [zero]; rfl)
      exact ⟨_, .mk (.digits nonzero digits) fraction exponent, (List.append_assoc _ _ _).symm⟩
  complete {_ rest u} := by
    rintro @⟨whole, f, e, digits, fraction, exponent⟩ stop
    have ending := Ending.mk fraction exponent
    have noDigit := ending.noDigit stop
    have part := passes_afterDigits.complete (x := u) ending stop
    rw [passes, List.append_assoc]
    cases digits with
    | zero =>
      show Skipper.unsignedNumber (0x30 :: (f ++ e ++ rest)) = .ok rest
      simp only [Skipper.unsignedNumber, noDigit]
      exact part
    | @digits d ds nonzero digits =>
      have some : Skipper.someDigits (fun bs => .here .invalidNumber (bs.drop 1))
          (d :: (ds ++ (f ++ e ++ rest))) = .ok (f ++ e ++ rest) :=
        someDigits_eq_ok_iff.mpr ⟨noDigit, _, digits, rfl⟩
      rw [List.cons_append]
      unfold Skipper.unsignedNumber
      split
      · next same => exact absurd (List.cons.inj same).1 nonzero
      · exact bind_eq_ok_iff.mpr ⟨_, some, part⟩

/-! ## Strings -/

/-- What is passed over up to the closing quote are pieces of a string. -/
lemma passed_of_stringBody {budget bs rest : Bytes}
    (read : Skipper.stringBody budget bs = .ok rest) :
    ∃ tok, PassedContent tok ∧ bs = tok ++ rest := by
  induction budget generalizing bs with
  | nil => cases read
  | cons _ budget ih =>
    cases bs with
    | nil => cases read
    | cons b bs =>
      unfold Skipper.stringBody at read
      split at read
      · next quote =>
        cases read
        exact ⟨_, .quote, by rw [quote]; rfl⟩
      · next noQuote =>
        split at read
        · next backslash =>
          subst backslash
          split at read
          · cases read
          · next letter bs =>
            split at read
            · next byNumber =>
              obtain ⟨⟨n, left⟩, digits, more⟩ := bind_eq_ok_iff.mp read
              obtain ⟨tok, hex, rfl⟩ := hexEscape_eq_ok_iff.mp digits
              obtain ⟨toks, pieces, rfl⟩ := ih more
              refine ⟨_, .piece (.number hex) pieces, ?_⟩
              rw [byNumber, List.append_assoc]
              rfl
            · split at read
              · next short =>
                obtain ⟨toks, pieces, rfl⟩ := ih read
                exact ⟨_, .piece (.short short) pieces, rfl⟩
              · cases read
        · next noBackslash =>
          split at read
          · cases read
          · next noControl =>
            obtain ⟨toks, pieces, rfl⟩ := ih read
            have plain : isPlain b = true := isPlain_iff.mpr ⟨noQuote, noBackslash, noControl⟩
            exact ⟨_, .piece (.plain plain) pieces, rfl⟩

/-- The pieces of a string are passed over. -/
lemma PassedContent.stringBody {tok budget : Bytes} (pieces : PassedContent tok)
    (enough : tok.length ≤ budget.length) (rest : Bytes) :
    Skipper.stringBody budget (tok ++ rest) = .ok rest := by
  induction pieces generalizing budget with
  | quote =>
    cases budget with
    | nil => cases enough
    | cons _ budget => rfl
  | @piece tok toks piece _ ih =>
    cases budget with
    | nil =>
      rw [List.length_append] at enough
      cases piece <;> simp at enough
    | cons _ budget =>
      have later : Skipper.stringBody budget (toks ++ rest) = .ok rest := by
        apply ih
        rw [List.length_append, List.length_cons] at enough
        cases piece <;> simp at enough <;> omega
      rw [List.append_assoc]
      cases piece with
      | plain plain =>
        obtain ⟨noQuote, noBackslash, noControl⟩ := isPlain_iff.mp plain
        simp only [List.singleton_append, Skipper.stringBody, if_neg noQuote, if_neg noBackslash,
          if_neg noControl, later]
      | @short letter short =>
        have noNumber : letter ≠ 0x75 := by
          rintro rfl
          cases short
        simp only [List.cons_append, List.nil_append, Skipper.stringBody, if_neg noNumber,
          if_pos short]
        exact later
      | number hex =>
        exact bind_eq_ok_iff.mpr ⟨_, hexEscape_eq_ok_iff.mpr ⟨_, hex, rfl⟩, later⟩

lemma passes_string : Takes (passes Skipper.string) fun _ : Unit => PassedContent where
  sound read := passed_of_stringBody read
  complete {tok rest _} := by
    intro pieces _
    apply pieces.stringBody
    rw [List.length_cons, List.length_append]
    omega

end EventGates.Json.Grammar
