import EventGates.Json.Binary64.Shortest
import Mathlib.Algebra.Order.Field.Power
import Mathlib.Algebra.Order.Field.Rat
import Mathlib.Data.Nat.Cast.Order.Field
import Mathlib.Tactic.FieldSimp
import Mathlib.Tactic.Linarith
import Mathlib.Tactic.Positivity
import Mathlib.Tactic.Push
import Mathlib.Tactic.Ring

/-!
# Shortest decimals read back

The decimal under which a number is written lies between the ends of what reads as that number
(`reads_shortest`): with seventeen digits the grid of decimals is finer than the interval is
wide, so one of the two neighbours of the number lies in it. What reads as a number reads as no other
number (`eq_of_reads`), since an end that two intervals share belongs to the number with the even
mantissa.
-/

namespace EventGates

/-! ## Quotients as rational numbers -/

namespace Ratio

/-- The rational number that a quotient is. -/
def value (r : Ratio) : ℚ := r.num / r.den

lemma value_scaled (n base : Nat) (exponent : Int) :
    (scaled n base exponent).value = n * (base : ℚ) ^ exponent := by
  cases exponent with
  | ofNat e => simp [scaled, value]
  | negSucc e => simp [scaled, value, zpow_negSucc, div_eq_mul_inv]

lemma den_scaled_pos (n : Nat) {base : Nat} (pos : 0 < base) (exponent : Int) :
    0 < (scaled n base exponent).den := by
  cases exponent with
  | ofNat e => exact Nat.one_pos
  | negSucc e => exact Nat.pow_pos pos

lemma num_scaled_pos {n base : Nat} (some : 0 < n) (pos : 0 < base) (exponent : Int) :
    0 < (scaled n base exponent).num := by
  cases exponent with
  | ofNat e => exact Nat.mul_pos some (Nat.pow_pos pos)
  | negSucc e => exact some

lemma le_iff {a b : Ratio} (ha : 0 < a.den) (hb : 0 < b.den) :
    a.le b = true ↔ a.value ≤ b.value := by
  have ha' : (0 : ℚ) < a.den := by exact_mod_cast ha
  have hb' : (0 : ℚ) < b.den := by exact_mod_cast hb
  rw [le, decide_eq_true_eq, value, value, div_le_div_iff₀ ha' hb']
  norm_cast

lemma lt_iff {a b : Ratio} (ha : 0 < a.den) (hb : 0 < b.den) :
    a.lt b = true ↔ a.value < b.value := by
  have ha' : (0 : ℚ) < a.den := by exact_mod_cast ha
  have hb' : (0 : ℚ) < b.den := by exact_mod_cast hb
  rw [lt, decide_eq_true_eq, value, value, div_lt_div_iff₀ ha' hb']
  norm_cast

lemma value_div (a b : Ratio) : (a.div b).value = a.value / b.value := by
  simp only [div, value, Nat.cast_mul]
  rw [div_div_div_eq]

/-- A quotient lies between its whole part and the next whole number. -/
lemma floor_le_value {r : Ratio} (h : 0 < r.den) : (r.floor : ℚ) ≤ r.value := by
  have h' : (0 : ℚ) < r.den := by exact_mod_cast h
  rw [value, le_div_iff₀ h', floor]
  exact_mod_cast Nat.div_mul_le_self r.num r.den

lemma value_lt_floor {r : Ratio} (h : 0 < r.den) : r.value < r.floor + 1 := by
  have h' : (0 : ℚ) < r.den := by exact_mod_cast h
  rw [value, div_lt_iff₀ h', floor]
  exact_mod_cast Nat.lt_mul_of_div_lt (Nat.lt_succ_self (r.num / r.den)) h

end Ratio

namespace Binary64

variable (x : Binary64)

/-! ## What reads as a number -/

/-- A quarter of the weight of the last digit. -/
def quarter : ℚ := 2 ^ (x.exponent - 2)

lemma quarter_pos : 0 < x.quarter := zpow_pos (by norm_num) _

/-- How many quarters what reads as a number reaches below it. -/
def reach : Nat := if x.mantissa = leastFull ∧ minExponent < x.exponent then 1 else 2

/-- A rational number that reads as `x`. -/
def Reads (q : ℚ) : Prop :=
  if x.mantissa % 2 = 0 then
    x.readingInterval.1.value ≤ q ∧ q ≤ x.readingInterval.2.value
  else x.readingInterval.1.value < q ∧ q < x.readingInterval.2.value

/-- The text reads back if its value does. -/
lemma readsBack_iff {r : Ratio} (h : 0 < r.den) : x.readsBack r = true ↔ x.Reads r.value := by
  have low : 0 < x.readingInterval.1.den := Ratio.den_scaled_pos _ Nat.two_pos _
  have high : 0 < x.readingInterval.2.den := Ratio.den_scaled_pos _ Nat.two_pos _
  simp only [readsBack, Reads]
  split
  · rw [Bool.and_eq_true, Ratio.le_iff low h, Ratio.le_iff h high]
  · rw [Bool.and_eq_true, Ratio.lt_iff low h, Ratio.lt_iff h high]

/-- What lies strictly between the ends reads as the number. -/
lemma reads_of_between {q : ℚ} (low : x.readingInterval.1.value < q)
    (high : q < x.readingInterval.2.value) : x.Reads q := by
  rw [Reads]
  split
  · exact ⟨low.le, high.le⟩
  · exact ⟨low, high⟩

variable {x} {q : ℚ}

/-- What reads as the number lies between the ends. -/
lemma Reads.between (h : x.Reads q) :
    x.readingInterval.1.value ≤ q ∧ q ≤ x.readingInterval.2.value := by
  rw [Reads] at h
  split at h
  · exact h
  · exact ⟨h.1.le, h.2.le⟩

/-- An end reads as the number only if the mantissa is even. -/
lemma Reads.even (h : x.Reads q)
    (ends : q = x.readingInterval.1.value ∨ q = x.readingInterval.2.value) :
    x.mantissa % 2 = 0 := by
  by_contra odd
  rw [Reads, if_neg odd] at h
  obtain rfl | rfl := ends
  · exact lt_irrefl _ h.1
  · exact lt_irrefl _ h.2

lemma value_magnitude (x : Binary64) : x.magnitude.value = 4 * x.mantissa * x.quarter := by
  have two : (2 : ℚ) ^ x.exponent = 4 * x.quarter := by
    rw [quarter, zpow_sub₀ (by norm_num)]
    norm_num
    ring
  rw [magnitude, Ratio.value_scaled, Nat.cast_ofNat, two]
  ring

lemma high_eq (x : Binary64) :
    x.readingInterval.2.value = ((4 * x.mantissa + 2 : Nat) : ℚ) * x.quarter := by
  rw [readingInterval, Ratio.value_scaled, Nat.cast_ofNat, quarter]

lemma low_eq (x : Binary64) :
    x.readingInterval.1.value = ((4 * x.mantissa - x.reach : Nat) : ℚ) * x.quarter := by
  rw [readingInterval, Ratio.value_scaled, Nat.cast_ofNat, quarter, reach]

/-! ## Numbers have no texts in common -/

/-- In quarters of the lesser number, and with an exponent that is greater by `k`, what reads as the
greater number begins where what reads as the lesser one ends, or further up. -/
lemma quarters_le {x y : Binary64} {k : Nat} (shift : x.exponent + k = y.exponent)
    (before : k = 0 → x.mantissa < y.mantissa) :
    4 * x.mantissa + 2 ≤ (4 * y.mantissa - y.reach) * 2 ^ k ∧
      (4 * x.mantissa + 2 = (4 * y.mantissa - y.reach) * 2 ^ k →
        ¬(x.mantissa % 2 = 0 ∧ y.mantissa % 2 = 0)) := by
  have below := x.fits.below
  have least := x.fits.least
  have full := y.fits.full
  have reach : y.reach = if y.mantissa = leastFull ∧ minExponent < y.exponent then 1 else 2 := rfl
  rw [leastFull] at below full reach
  cases k with
  | zero =>
    have less := before rfl
    have full' := x.fits.full
    rw [leastFull] at full'
    split at reach
    · omega
    · omega
  | succ k =>
    have grown : (4 * y.mantissa - y.reach) * 2 ≤ (4 * y.mantissa - y.reach) * 2 ^ (k + 1) := by
      apply Nat.mul_le_mul_left
      have one := Nat.one_le_two_pow (n := k)
      omega
    split at reach
    · omega
    · omega

/-- What reads as the lesser number lies below what reads as the greater one, but for an end that
they may share, which does not read as both. -/
lemma Reads.false {x y : Binary64} (hx : x.Reads q) (hy : y.Reads q) {k : Nat}
    (shift : x.exponent + k = y.exponent) (before : k = 0 → x.mantissa < y.mantissa) : False := by
  have scaled : y.quarter = 2 ^ k * x.quarter := by
    rw [quarter, quarter, ← shift, ← zpow_natCast, ← zpow_add₀ (by norm_num)]
    congr 1
    omega
  obtain ⟨le, odd⟩ := quarters_le shift before
  have high := high_eq x
  have low : y.readingInterval.1.value =
      ((4 * y.mantissa - y.reach) * 2 ^ k : Nat) * x.quarter := by
    rw [low_eq, scaled, Nat.cast_mul, Nat.cast_pow, Nat.cast_ofNat, mul_assoc]
  have apart : x.readingInterval.2.value ≤ y.readingInterval.1.value := by
    rw [high, low]
    exact mul_le_mul_of_nonneg_right (by exact_mod_cast le) x.quarter_pos.le
  have top : q = x.readingInterval.2.value :=
    le_antisymm hx.between.2 (apart.trans hy.between.1)
  have bottom : q = y.readingInterval.1.value :=
    le_antisymm (hx.between.2.trans apart) hy.between.1
  refine odd ?_ ⟨hx.even (.inr top), hy.even (.inl bottom)⟩
  have same := top.symm.trans bottom
  rw [high, low] at same
  exact_mod_cast mul_right_cancel₀ x.quarter_pos.ne' same

/-- What reads as a number reads as no other number of that sign. -/
theorem eq_of_reads {x y : Binary64} (hx : x.Reads q) (hy : y.Reads q) :
    x.mantissa = y.mantissa ∧ x.exponent = y.exponent := by
  obtain less | same | greater := lt_trichotomy x.exponent y.exponent
  · obtain ⟨k, shift⟩ := Int.le.dest less.le
    exact (hx.false hy shift fun none => by omega).elim
  · refine ⟨?_, same⟩
    obtain less | equal | greater := lt_trichotomy x.mantissa y.mantissa
    · exact (hx.false hy (k := 0) (by omega) fun _ => less).elim
    · exact equal
    · exact (hy.false hx (k := 0) (by omega) fun _ => greater).elim
  · obtain ⟨k, shift⟩ := Int.le.dest greater.le
    exact (hy.false hx shift fun none => by omega).elim

/-! ## Seventeen digits are enough -/

/-- A positive whole number has as many digits as its power of ten says. -/
lemma pow_floorLog10_le {n : Nat} (pos : 0 < n) :
    10 ^ floorLog10 n ≤ n ∧ n < 10 ^ (floorLog10 n + 1) := by
  have some : 0 < (Nat.toDigits 10 n).length := Nat.length_toDigits_pos
  have same : floorLog10 n + 1 = (Nat.toDigits 10 n).length := Nat.sub_add_cancel some
  refine ⟨?_, ?_⟩
  · by_contra above
    obtain none | many := Nat.eq_zero_or_pos (floorLog10 n)
    · rw [none] at above
      omega
    · have short := (Nat.length_toDigits_le_iff (by decide) many).mpr (Nat.lt_of_not_le above)
      omega
  · exact (Nat.length_toDigits_le_iff (by decide) (Nat.succ_pos _)).mp same.ge

/-- The leading digit of a quotient counts no more than the quotient. -/
lemma pow_leadingExponent_le {r : Ratio} (num : 0 < r.num) (den : 0 < r.den) :
    (10 : ℚ) ^ leadingExponent r ≤ r.value := by
  have num' : (0 : ℚ) < r.num := by exact_mod_cast num
  have den' : (0 : ℚ) < r.den := by exact_mod_cast den
  rw [leadingExponent, Ratio.value, le_div_iff₀ den']
  split
  · next whole =>
    have least := (pow_floorLog10_le (Nat.div_pos whole den)).1
    rw [zpow_natCast]
    exact_mod_cast (Nat.mul_le_mul_right _ least).trans (Nat.div_mul_le_self r.num r.den)
  · next fraction =>
    obtain ⟨-, greatest⟩ := pow_floorLog10_le (Nat.div_pos (Nat.le_of_not_le fraction) num)
    dsimp only
    generalize floorLog10 (r.den / r.num) = j at greatest ⊢
    have ten : (0 : ℚ) < 10 ^ j := by positivity
    split
    · next power =>
      have power' : (r.den : ℚ) = r.num * 10 ^ j := by exact_mod_cast power
      rw [zpow_neg, zpow_natCast, inv_mul_le_iff₀ ten, power', mul_comm]
    · have less : (r.den : ℚ) < 10 ^ (j + 1) * r.num := by
        exact_mod_cast Nat.lt_mul_of_div_lt greatest num
      have exponent : -(j : Int) - 1 = -((j + 1 : Nat) : Int) := by omega
      rw [exponent, zpow_neg, zpow_natCast, inv_mul_le_iff₀ (by positivity)]
      exact less.le

/-- On a grid that is finer than the interval of a number is wide, one of the neighbours of the
number reads as it. -/
lemma reads_neighbour {x : Binary64} (pos : 0 < x.mantissa) {step : ℚ} {n : Nat}
    (below : n * step ≤ x.magnitude.value) (above : x.magnitude.value < (n + 1 : Nat) * step)
    (fine : step < (2 + x.reach) * x.quarter) :
    x.Reads (n * step) ∨ x.Reads ((n + 1 : Nat) * step) := by
  have quarter := x.quarter_pos
  have reach : x.reach = 1 ∨ x.reach = 2 := by
    rw [Binary64.reach]
    split
    · exact .inl rfl
    · exact .inr rfl
  have cast : ((4 * x.mantissa - x.reach : Nat) : ℚ) = 4 * x.mantissa - x.reach := by
    rw [Nat.cast_sub (by omega)]
    push_cast
    rfl
  have reach' : (0 : ℚ) < x.reach := by
    obtain h | h := reach
    · rw [h]
      norm_num
    · rw [h]
      norm_num
  have low := low_eq x
  have high := high_eq x
  rw [cast] at low
  push_cast at high above
  rw [value_magnitude] at below above
  by_cases first : x.readingInterval.1.value < n * step
  · refine .inl (x.reads_of_between first (below.trans_lt ?_))
    rw [high]
    nlinarith
  · refine .inr (x.reads_of_between ?_ ?_)
    · rw [low]
      push_cast
      nlinarith
    · rw [high]
      push_cast
      nlinarith

/-- With seventeen digits the grid of decimals is fine enough for every number. -/
lemma step_lt_width {x : Binary64} (pos : 0 < x.mantissa) :
    (10 : ℚ) ^ (leadingExponent x.magnitude - 16) < (2 + x.reach) * x.quarter := by
  have leading := pow_leadingExponent_le (r := x.magnitude)
    (Ratio.num_scaled_pos pos Nat.two_pos _) (Ratio.den_scaled_pos _ Nat.two_pos _)
  rw [value_magnitude] at leading
  have quarter := x.quarter_pos
  have few : 4 * (x.mantissa : ℚ) < (2 + x.reach) * 10 ^ 16 := by
    have below := x.fits.below
    rw [leastFull] at below
    have : 4 * x.mantissa < (2 + x.reach) * 10 ^ 16 := by
      rw [reach]
      split
      · next least =>
        rw [least.1, leastFull]
        omega
      · omega
    exact_mod_cast this
  rw [zpow_sub₀ (by norm_num), div_lt_iff₀ (by positivity)]
  calc (10 : ℚ) ^ leadingExponent x.magnitude
    _ ≤ 4 * x.mantissa * x.quarter := leading
    _ < (2 + x.reach) * 10 ^ 16 * x.quarter := mul_lt_mul_of_pos_right few quarter
    _ = (2 + x.reach) * x.quarter * 10 ^ 16 := by ring

/-- The value of a decimal. -/
def Decimal.value (d : Decimal) : ℚ := d.digits * 10 ^ d.exponent

/-- A decimal reads back if its value does. -/
lemma readsBack_ratio_iff (x : Binary64) (d : Decimal) :
    x.readsBack d.ratio = true ↔ x.Reads d.value := by
  have den : 0 < d.ratio.den := Ratio.den_scaled_pos _ (by decide) _
  rw [readsBack_iff x den, Decimal.ratio, Ratio.value_scaled, Nat.cast_ofNat, Decimal.value]

/-- With seventeen digits there is a decimal that reads back. -/
lemma isSome_onGrid {x : Binary64} (pos : 0 < x.mantissa) : (x.onGrid 17).isSome = true := by
  have width := step_lt_width pos
  have exponent : leadingExponent x.magnitude - (17 : Nat) + 1 = leadingExponent x.magnitude - 16 := by
    omega
  simp only [onGrid, exponent]
  generalize leadingExponent x.magnitude - 16 = e at width ⊢
  have step : (0 : ℚ) < 10 ^ e := by positivity
  have cell : (x.magnitude.div (.scaled 1 10 e)).value = x.magnitude.value / 10 ^ e := by
    rw [Ratio.value_div, Ratio.value_scaled]
    norm_num
  have den : 0 < (x.magnitude.div (.scaled 1 10 e)).den :=
    Nat.mul_pos (Ratio.den_scaled_pos _ Nat.two_pos _)
      (Ratio.num_scaled_pos Nat.one_pos (by decide) _)
  generalize x.magnitude.div (.scaled 1 10 e) = c at cell den ⊢
  have below := Ratio.floor_le_value den
  have above := Ratio.value_lt_floor den
  rw [cell, le_div_iff₀ step] at below
  rw [cell, div_lt_iff₀ step] at above
  have either : ∃ d, (d = (⟨c.floor, e⟩ : Decimal) ∨ d = ⟨c.floor + 1, e⟩) ∧
      x.readsBack d.ratio = true := by
    obtain low | high := reads_neighbour pos below (by exact_mod_cast above) width
    · exact ⟨⟨c.floor, e⟩, .inl rfl, (readsBack_ratio_iff x _).mpr low⟩
    · exact ⟨⟨c.floor + 1, e⟩, .inr rfl, (readsBack_ratio_iff x _).mpr high⟩
  obtain ⟨d, which, back⟩ := either
  rw [List.find?_isSome]
  split
  · exact ⟨d, by simpa using which, back⟩
  · exact ⟨d, by simpa using which.symm, back⟩

/-- The decimal under which a number is written reads back. -/
theorem reads_shortest {x : Binary64} (pos : 0 < x.mantissa) : x.Reads x.shortest.value := by
  have found : ((List.range' 1 17).findSome? x.onGrid).isSome = true := by
    rw [List.findSome?_isSome_iff]
    exact ⟨17, by decide, isSome_onGrid pos⟩
  obtain ⟨d, tried⟩ := Option.isSome_iff_exists.mp found
  obtain ⟨count, -, here⟩ := List.exists_of_findSome?_eq_some tried
  have back := List.find?_some here
  rw [shortest, tried, Option.getD_some, ← readsBack_ratio_iff]
  exact back

/-- Numbers that are written under decimals of one value are the same but for the sign. -/
theorem eq_of_value_shortest {x y : Binary64} (hx : 0 < x.mantissa) (hy : 0 < y.mantissa)
    (same : x.shortest.value = y.shortest.value) :
    x.mantissa = y.mantissa ∧ x.exponent = y.exponent :=
  eq_of_reads (reads_shortest hx) (same ▸ reads_shortest hy)

/-- The decimal under which a number other than zero is written is not zero. -/
lemma value_shortest_pos {x : Binary64} (pos : 0 < x.mantissa) : 0 < x.shortest.value := by
  have low := (reads_shortest pos).between.1
  have some : 0 < 4 * x.mantissa - x.reach := by
    rw [reach]
    split
    · omega
    · omega
  have some' : (0 : ℚ) < (4 * x.mantissa - x.reach : Nat) := by exact_mod_cast some
  rw [low_eq] at low
  exact (mul_pos some' x.quarter_pos).trans_le low

end Binary64

end EventGates
