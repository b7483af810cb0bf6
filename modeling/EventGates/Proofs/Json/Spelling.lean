import EventGates.Json.Printer
import EventGates.Proofs.Json.Shortest
import Mathlib.Data.List.TakeWhile

/-!
# Numerals spell their numbers

The text of a floating-point number is a decimal numeral, with a point or with a power of ten, whose
value is that of the shortest decimal. So numbers are written differently if they are different,
which `text_injective` says of floating-point numbers and `Number.text_injective` of all three
classes: whole numbers have neither a point nor a power.
-/

namespace EventGates

namespace Numeral

/-- A text up to the first `c`, and what comes after it. -/
def cut (c : Char) : List Char → List Char × List Char
  | [] => ([], [])
  | d :: ds => if d = c then ([], ds) else (d :: (cut c ds).1, (cut c ds).2)

lemma cut_append {c : Char} {front : List Char} (free : c ∉ front) (back : List Char) :
    cut c (front ++ c :: back) = (front, back) := by
  induction front with
  | nil => exact if_pos rfl
  | cons d ds ih =>
    rw [List.mem_cons, not_or] at free
    rw [List.cons_append, cut, if_neg (Ne.symm free.1), ih free.2]

lemma cut_of_not_mem {c : Char} {cs : List Char} (free : c ∉ cs) : cut c cs = (cs, []) := by
  induction cs with
  | nil => rfl
  | cons d ds ih =>
    rw [List.mem_cons, not_or] at free
    rw [cut, if_neg (Ne.symm free.1), ih free.2]

/-- The exponent after the letter `e`. -/
def power : List Char → ℤ
  | '-' :: ds => -(Nat.ofDigitChars 10 ds 0 : ℤ)
  | '+' :: ds => Nat.ofDigitChars 10 ds 0
  | _ => 0

/-- The value of a numeral without a sign. -/
def value (cs : List Char) : ℚ :=
  let (front, exponent) := cut 'e' cs
  let (whole, fraction) := cut '.' front
  Nat.ofDigitChars 10 (whole ++ fraction) 0 * 10 ^ (power exponent - fraction.length)

/-- A character of a numeral. -/
def isPart (c : Char) : Bool := c.isDigit || c == '-' || c == '+' || c == '.' || c == 'e'

/-- A numeral of a floating-point number: it begins with a digit, and not all of it is digits. -/
structure Spells (cs : List Char) (q : ℚ) : Prop where
  begins : ∃ c ds, cs = c :: ds ∧ c.isDigit = true
  marked : ∃ c ∈ cs, c.isDigit = false
  parts : ∀ c ∈ cs, isPart c = true
  value : value cs = q

/-- A text after its sign. -/
def signed (negative : Bool) (cs : List Char) : List Char :=
  if negative then '-' :: cs else cs

/-- A sign is no digit. -/
lemma eq_of_signed {a b : Bool} {c d : Char} {cs ds : List Char} (first : c.isDigit = true)
    (first' : d.isDigit = true) (same : signed a (c :: cs) = signed b (d :: ds)) :
    a = b ∧ c :: cs = d :: ds := by
  cases a with
  | false =>
    cases b with
    | false => exact ⟨rfl, same⟩
    | true =>
      obtain ⟨rfl, -⟩ := List.cons.inj same
      cases first
  | true =>
    cases b with
    | false =>
      obtain ⟨rfl, -⟩ := List.cons.inj same
      cases first'
    | true => exact ⟨rfl, (List.cons.inj same).2⟩

lemma isPart_of_isDigit {c : Char} (h : c.isDigit = true) : isPart c = true := by
  simp only [isPart, h, Bool.true_or]

/-- Among digits there is no other character. -/
lemma not_mem_of_digits {ds : List Char} (digits : ∀ c ∈ ds, c.isDigit = true) {c : Char}
    (other : c.isDigit = false) : c ∉ ds := by
  intro mem
  rw [digits c mem] at other
  cases other

lemma isDigit_of_mem_zero : ∀ c ∈ ['0'], c.isDigit = true := List.forall_mem_singleton.mpr rfl

end Numeral

namespace Binary64

open Numeral

/-! ## The two notations -/

variable {ds : List Char}

/-- Zeros at the end of digits. -/
lemma ofDigitChars_padded (ds : List Char) (n : Nat) :
    Nat.ofDigitChars 10 (ds ++ List.replicate n '0') 0 = Nat.ofDigitChars 10 ds 0 * 10 ^ n := by
  rw [Nat.ofDigitChars_append, Nat.ofDigitChars_replicate_zero, mul_comm]

/-- Digits around a point. -/
lemma spells_point (whole fraction : List Char) (some : whole ≠ [])
    (front : ∀ c ∈ whole, c.isDigit = true) (back : ∀ c ∈ fraction, c.isDigit = true) :
    Spells (whole ++ '.' :: fraction)
      (Nat.ofDigitChars 10 (whole ++ fraction) 0 * 10 ^ (-(fraction.length : ℤ))) := by
  have noPower : 'e' ∉ whole ++ '.' :: fraction := by
    simp only [List.mem_append, List.mem_cons, not_or]
    exact ⟨not_mem_of_digits front (by decide), by decide, not_mem_of_digits back (by decide)⟩
  have noPoint : '.' ∉ whole := not_mem_of_digits front (by decide)
  refine ⟨?_, ⟨'.', by simp, by decide⟩, ?_, ?_⟩
  · obtain ⟨c, cs, rfl⟩ := List.exists_cons_of_ne_nil some
    exact ⟨c, _, rfl, front c List.mem_cons_self⟩
  · simp only [List.mem_append, List.mem_cons]
    rintro c (mem | rfl | mem)
    · exact isPart_of_isDigit (front c mem)
    · rfl
    · exact isPart_of_isDigit (back c mem)
  · simp only [Numeral.value, cut_of_not_mem noPower, cut_append noPoint, power, zero_sub]

/-- The exponent is read after its sign. -/
lemma power_toDigits (e : ℤ) :
    power ((if e < 0 then '-' else '+') :: Nat.toDigits 10 e.natAbs) = e := by
  split
  · rw [power, Nat.ofDigitChars_ten_toDigits]
    omega
  · rw [power, Nat.ofDigitChars_ten_toDigits]
    omega

/-- A digit and a fraction, unless that is empty, and a power of ten. -/
lemma spells_power {c : Char} {point fraction : List Char} (first : c.isDigit = true)
    (back : ∀ d ∈ fraction, d.isDigit = true)
    (shape : point = [] ∧ fraction = [] ∨ point = '.' :: fraction) (e : ℤ) :
    Spells (c :: point ++ 'e' :: (if e < 0 then '-' else '+') :: Nat.toDigits 10 e.natAbs)
      (Nat.ofDigitChars 10 (c :: fraction) 0 * 10 ^ (e - fraction.length)) := by
  have noDigit : ∀ d : Char, d.isDigit = false → c ≠ d := by
    rintro d other rfl
    rw [first] at other
    cases other
  have cutPoint : cut '.' (c :: point) = ([c], fraction) := by
    rw [cut, if_neg (noDigit '.' (by decide))]
    obtain ⟨rfl, rfl⟩ | rfl := shape
    · rfl
    · rfl
  have parts : ∀ d ∈ point, isPart d = true ∧ d ≠ 'e' := by
    obtain ⟨rfl, rfl⟩ | rfl := shape
    · exact nofun
    · intro d mem
      obtain rfl | mem := List.mem_cons.mp mem
      · decide
      · refine ⟨isPart_of_isDigit (back d mem), ?_⟩
        rintro rfl
        exact Bool.false_ne_true (back 'e' mem)
  have noPower : 'e' ∉ c :: point := by
    rw [List.mem_cons, not_or]
    exact ⟨(noDigit 'e' (by decide)).symm, fun mem => (parts _ mem).2 rfl⟩
  refine ⟨⟨c, _, rfl, first⟩, ⟨'e', by simp, by decide⟩, ?_, ?_⟩
  · simp only [List.mem_append, List.mem_cons]
    rintro d ((rfl | mem) | rfl | rfl | mem)
    · exact isPart_of_isDigit first
    · exact (parts d mem).1
    · decide
    · split
      · decide
      · decide
    · exact isPart_of_isDigit (Nat.isDigit_of_mem_toDigits (by decide) (by decide) mem)
  · simp only [Numeral.value, cut_append noPower, cutPoint, power_toDigits, List.singleton_append]

/-- Notation with a power spells digits whose first one has the given exponent. -/
lemma spells_withPower (some : ds ≠ []) (digits : ∀ c ∈ ds, c.isDigit = true) (e : ℤ) :
    Spells (withPower ds e) (Nat.ofDigitChars 10 ds 0 * 10 ^ (e + 1 - ds.length)) := by
  obtain ⟨c, fraction, rfl⟩ := List.exists_cons_of_ne_nil some
  have first := digits c List.mem_cons_self
  have back : ∀ d ∈ fraction, d.isDigit = true := fun d mem =>
    digits d (List.mem_cons_of_mem c mem)
  have shift : e + 1 - (c :: fraction).length = e - fraction.length := by
    rw [List.length_cons]
    omega
  rw [shift]
  cases fraction with
  | nil => exact spells_power first back (.inl ⟨rfl, rfl⟩) e
  | cons d ds =>
    have spelt := spells_power first back (.inr rfl) e
    simpa [withPower] using spelt

/-- Positional notation spells digits whose first one has the given exponent. -/
lemma spells_positional (digits : ∀ c ∈ ds, c.isDigit = true) (e : ℤ) :
    Spells (positional ds e) (Nat.ofDigitChars 10 ds 0 * 10 ^ (e + 1 - ds.length)) := by
  cases e with
  | ofNat e =>
    let zeros := e + 2 - ds.length
    let padded := ds ++ List.replicate zeros '0'
    have long : padded.length = ds.length + zeros := by simp [padded]
    have all : ∀ c ∈ padded, c.isDigit = true := by
      intro c mem
      obtain own | zero := List.mem_append.mp mem
      · exact digits c own
      · rw [List.eq_of_mem_replicate zero]
        decide
    have some : padded.take (e + 1) ≠ [] := by
      rw [← List.length_pos_iff, List.length_take]
      omega
    have spelt := spells_point (padded.take (e + 1)) (padded.drop (e + 1)) some
      (fun c mem => all c (List.mem_of_mem_take mem))
      (fun c mem => all c (List.mem_of_mem_drop mem))
    have shift : -((padded.drop (e + 1)).length : ℤ) = e + 1 - ds.length - zeros := by
      rw [List.length_drop]
      omega
    have value : ((Nat.ofDigitChars 10 ds 0 * 10 ^ zeros : Nat) : ℚ) *
        10 ^ ((e : ℤ) + 1 - ds.length - zeros) =
          Nat.ofDigitChars 10 ds 0 * 10 ^ ((e : ℤ) + 1 - ds.length) := by
      rw [zpow_sub₀ (by norm_num) _ (zeros : ℤ), zpow_natCast]
      push_cast
      field_simp
    rw [List.take_append_drop, ofDigitChars_padded, shift, value] at spelt
    exact spelt
  | negSucc e =>
    have all : ∀ c ∈ List.replicate e '0' ++ ds, c.isDigit = true := by
      intro c mem
      obtain zero | own := List.mem_append.mp mem
      · rw [List.eq_of_mem_replicate zero]
        decide
      · exact digits c own
    have spelt := spells_point ['0'] (List.replicate e '0' ++ ds) nofun isDigit_of_mem_zero all
    have zeros : Nat.ofDigitChars 10 (['0'] ++ (List.replicate e '0' ++ ds)) 0 =
        Nat.ofDigitChars 10 ds 0 := by
      rw [Nat.ofDigitChars_append, Nat.ofDigitChars_append]
      show Nat.ofDigitChars 10 ds (Nat.ofDigitChars 10 (List.replicate e '0') 0) = _
      rw [Nat.ofDigitChars_replicate_zero, mul_zero]
    have shift : -((List.replicate e '0' ++ ds).length : ℤ) = .negSucc e + 1 - ds.length := by
      rw [List.length_append, List.length_replicate]
      omega
    rw [zeros, shift] at spelt
    exact spelt

/-! ## Texts of numbers -/

/-- What is left of digits without the zeros at their end, and those zeros. -/
lemma exists_zeros (all : List Char) :
    ∃ n, all = (all.reverse.dropWhile (· == '0')).reverse ++ List.replicate n '0' := by
  refine ⟨(all.reverse.takeWhile (· == '0')).length, ?_⟩
  have zeros : (all.reverse.takeWhile (· == '0')).reverse =
      List.replicate (all.reverse.takeWhile (· == '0')).length '0' := by
    rw [List.eq_replicate_iff]
    refine ⟨List.length_reverse, fun c mem => ?_⟩
    exact beq_iff_eq.mp (List.mem_takeWhile_imp (p := (· == '0')) (List.mem_reverse.mp mem))
  rw [← zeros, ← List.reverse_append, List.takeWhile_append_dropWhile, List.reverse_reverse]

/-- The digits of a positive decimal and the exponent of the first one give its value. -/
lemma value_scientific {d : Decimal} (pos : 0 < d.digits) :
    d.scientific.1 ≠ [] ∧ (∀ c ∈ d.scientific.1, c.isDigit = true) ∧
      Nat.ofDigitChars 10 d.scientific.1 0 *
        (10 : ℚ) ^ (d.scientific.2 + 1 - d.scientific.1.length) = d.value := by
  obtain ⟨n, all⟩ := exists_zeros (Nat.toDigits 10 d.digits)
  have digits : d.scientific.1 = ((Nat.toDigits 10 d.digits).reverse.dropWhile (· == '0')).reverse :=
    rfl
  have exponent : d.scientific.2 = d.exponent + (Nat.toDigits 10 d.digits).length - 1 := rfl
  rw [← digits] at all
  generalize d.scientific.1 = ds at all ⊢
  have number := Nat.ofDigitChars_ten_toDigits (n := d.digits)
  rw [all, ofDigitChars_padded] at number
  refine ⟨?_, ?_, ?_⟩
  · rintro rfl
    rw [Nat.ofDigitChars_nil, Nat.zero_mul] at number
    omega
  · intro c mem
    exact Nat.isDigit_of_mem_toDigits (b := 10) (by decide) (by decide)
      (all ▸ List.mem_append_left _ mem)
  · have shift : d.scientific.2 + 1 - ds.length = n + d.exponent := by
      rw [exponent, all, List.length_append, List.length_replicate]
      omega
    rw [shift, zpow_add₀ (by norm_num), zpow_natCast, ← mul_assoc, Decimal.value, ← number]
    push_cast
    rfl

/-- A number other than zero spells its shortest decimal. -/
lemma spells_magnitudeText {x : Binary64} (pos : 0 < x.mantissa) :
    Spells x.magnitudeText x.shortest.value := by
  have digits : 0 < x.shortest.digits := by
    have value := value_shortest_pos pos
    apply Nat.pos_of_ne_zero
    intro zero
    rw [Decimal.value, zero, Nat.cast_zero, zero_mul] at value
    exact lt_irrefl _ value
  obtain ⟨some, all, value⟩ := value_scientific digits
  have zero : x.isZero = false := beq_eq_false_iff_ne.mpr pos.ne'
  rw [magnitudeText, zero, if_neg Bool.false_ne_true]
  show Spells (if _ then _ else _) _
  split
  · exact value ▸ spells_positional all _
  · exact value ▸ spells_withPower some all _

/-- Zero is written with a point. -/
lemma spells_zero {x : Binary64} (zero : x.mantissa = 0) : Spells x.magnitudeText 0 := by
  have written : x.magnitudeText = ['0'] ++ '.' :: ['0'] := if_pos (beq_iff_eq.mpr zero)
  have nothing : Nat.ofDigitChars 10 (['0'] ++ ['0']) 0 = 0 := by decide
  have spelt := spells_point ['0'] ['0'] nofun isDigit_of_mem_zero isDigit_of_mem_zero
  rw [nothing, Nat.cast_zero, zero_mul] at spelt
  rw [written]
  exact spelt

/-- What is written of a magnitude is the numeral of some value. -/
lemma exists_spells (x : Binary64) : ∃ q, Spells x.magnitudeText q := by
  obtain zero | pos := Nat.eq_zero_or_pos x.mantissa
  · exact ⟨_, spells_zero zero⟩
  · exact ⟨_, spells_magnitudeText pos⟩

/-- Different magnitudes are written differently. -/
lemma eq_of_magnitudeText {x y : Binary64} (same : x.magnitudeText = y.magnitudeText) :
    x.mantissa = y.mantissa ∧ x.exponent = y.exponent := by
  have least : ∀ {z : Binary64}, z.mantissa = 0 → z.exponent = minExponent := by
    intro z none
    have full := z.fits.full
    rw [none] at full
    exact full.resolve_right (by decide)
  obtain hx | hx := Nat.eq_zero_or_pos x.mantissa
  · obtain hy | hy := Nat.eq_zero_or_pos y.mantissa
    · exact ⟨hx.trans hy.symm, (least hx).trans (least hy).symm⟩
    · have pos := value_shortest_pos hy
      rw [← (spells_magnitudeText hy).value, ← same, (spells_zero hx).value] at pos
      exact (lt_irrefl _ pos).elim
  · obtain hy | hy := Nat.eq_zero_or_pos y.mantissa
    · have pos := value_shortest_pos hx
      rw [← (spells_magnitudeText hx).value, same, (spells_zero hy).value] at pos
      exact (lt_irrefl _ pos).elim
    · refine eq_of_value_shortest hx hy ?_
      rw [← (spells_magnitudeText hx).value, ← (spells_magnitudeText hy).value, same]

/-- Different floating-point numbers are written differently. -/
theorem text_injective : Function.Injective text := by
  intro x y same
  obtain ⟨_, ⟨c, cs, hx, first⟩, -, -, -⟩ := x.exists_spells
  obtain ⟨_, ⟨d, ds, hy, first'⟩, -, -, -⟩ := y.exists_spells
  have written : signed x.negative (c :: cs) = signed y.negative (d :: ds) := by
    rw [← hx, ← hy]
    exact same
  obtain ⟨sign, magnitudes⟩ := eq_of_signed first first' written
  obtain ⟨mantissa, exponent⟩ := eq_of_magnitudeText (hx.trans (magnitudes.trans hy.symm))
  obtain ⟨negative, m, e, fits⟩ := x
  cases sign
  cases mantissa
  cases exponent
  rfl

end Binary64

/-! ## Numbers of all classes -/

namespace Number

open Numeral

/-- The digits of a whole number. -/
lemma digits_toDigits (n : Nat) :
    (∃ c cs, Nat.toDigits 10 n = c :: cs ∧ c.isDigit = true) ∧
      ∀ c ∈ Nat.toDigits 10 n, c.isDigit = true := by
  have digits : ∀ c ∈ Nat.toDigits 10 n, c.isDigit = true := fun c mem =>
    Nat.isDigit_of_mem_toDigits (by decide) (by decide) mem
  obtain ⟨c, cs, written⟩ := List.exists_cons_of_ne_nil (Nat.toDigits_ne_nil (n := n) (b := 10))
  exact ⟨⟨c, cs, written, digits c (written ▸ List.mem_cons_self)⟩, digits⟩

/-- The sign that is written of a number. -/
def sign : Number → Bool
  | natural _ => false
  | negative _ => true
  | real x => x.negative

/-- What is written of a number without its sign. -/
def numeral : Number → List Char
  | natural n => Nat.toDigits 10 n
  | negative below => Nat.toDigits 10 (below + 1)
  | real x => x.magnitudeText

lemma text_eq (n : Number) : n.text = signed n.sign n.numeral := by
  cases n with
  | natural n => rfl
  | negative below => rfl
  | real x => rfl

/-- A numeral begins with a digit, and all of it is characters of numerals. -/
lemma numeral_parts (n : Number) :
    (∃ c cs, n.numeral = c :: cs ∧ c.isDigit = true) ∧ ∀ c ∈ n.numeral, isPart c = true := by
  cases n with
  | natural n =>
    obtain ⟨begins, digits⟩ := digits_toDigits n
    exact ⟨begins, fun c mem => isPart_of_isDigit (digits c mem)⟩
  | negative below =>
    obtain ⟨begins, digits⟩ := digits_toDigits (below + 1)
    exact ⟨begins, fun c mem => isPart_of_isDigit (digits c mem)⟩
  | real x =>
    obtain ⟨_, spelt⟩ := x.exists_spells
    exact ⟨spelt.begins, spelt.parts⟩

/-- A text of a number begins with a sign or a digit, and all of it is characters of numerals. -/
lemma text_parts (n : Number) :
    (∃ c cs, n.text = c :: cs ∧ (c = '-' ∨ c.isDigit = true)) ∧ ∀ c ∈ n.text, isPart c = true := by
  obtain ⟨⟨c, cs, written, digit⟩, parts⟩ := n.numeral_parts
  rw [text_eq]
  cases n.sign with
  | false => exact ⟨⟨c, cs, written, .inr digit⟩, parts⟩
  | true =>
    refine ⟨⟨'-', _, rfl, .inl rfl⟩, fun d mem => ?_⟩
    obtain rfl | mem := List.mem_cons.mp mem
    · decide
    · exact parts d mem

/-- The numeral of a floating-point number is none of a whole number. -/
lemma toDigits_ne_magnitudeText (n : Nat) (x : Binary64) : Nat.toDigits 10 n ≠ x.magnitudeText := by
  intro same
  obtain ⟨_, spelt⟩ := x.exists_spells
  obtain ⟨c, mem, other⟩ := spelt.marked
  rw [(digits_toDigits n).2 c (same ▸ mem)] at other
  cases other

/-- Whole numbers are told apart by their digits. -/
lemma eq_of_toDigits {m n : Nat} (same : Nat.toDigits 10 m = Nat.toDigits 10 n) : m = n := by
  rw [← Nat.ofDigitChars_ten_toDigits (n := m), same, Nat.ofDigitChars_ten_toDigits]

/-- Different numbers are written differently. -/
theorem text_injective : Function.Injective text := by
  intro m n same
  obtain ⟨⟨c, cs, hm, first⟩, -⟩ := m.numeral_parts
  obtain ⟨⟨d, ds, hn, first'⟩, -⟩ := n.numeral_parts
  have written : signed m.sign (c :: cs) = signed n.sign (d :: ds) := by
    rw [← hm, ← hn, ← text_eq, ← text_eq, same]
  obtain ⟨sign, numerals⟩ := eq_of_signed first first' written
  rw [← hm, ← hn] at numerals
  cases m with
  | natural m =>
    cases n with
    | natural n => rw [Fin.ext (eq_of_toDigits numerals)]
    | negative below => cases sign
    | real y => exact (toDigits_ne_magnitudeText m y numerals).elim
  | negative below =>
    cases n with
    | natural n => cases sign
    | negative below' => rw [Fin.ext (Nat.succ.inj (eq_of_toDigits numerals))]
    | real y => exact (toDigits_ne_magnitudeText _ y numerals).elim
  | real x =>
    cases n with
    | natural n => exact (toDigits_ne_magnitudeText n x numerals.symm).elim
    | negative below => exact (toDigits_ne_magnitudeText _ x numerals.symm).elim
    | real y => rw [Binary64.text_injective same]

end Number

end EventGates
