import CardSearch.Proofs.Rounding
/-!
Shortest decimals. The decimal that is written for a number lies in the interval of the ratios that are
rounded to the number. Main statement: a grid of at most seventeen digits meets this interval, and the
decimal is a point of the first grid that does.
-/
namespace CardSearch.Number

open Binary64

namespace Decimal

def value (number : Decimal) : ℚ :=
  Nat.ofDigitChars 10 number.digits 0 * 10 ^ (number.point - number.digits.length)

/-- A decimal has digits, and the first of them is not zero. -/
structure IsProper (number : Decimal) : Prop where
  digit : ∀ c ∈ number.digits, c.isDigit = true
  leading : ∃ c ∈ number.digits.head?, c ≠ '0'

variable {number : Decimal}

theorem IsProper.ne_nil (proper : number.IsProper) : number.digits ≠ [] := by
  obtain ⟨c, head, -⟩ := proper.leading
  intro none
  rw [none] at head
  contradiction

theorem IsProper.head?_ne_zero (proper : number.IsProper) : number.digits.head? ≠ some '0' := by
  obtain ⟨c, head, notZero⟩ := proper.leading
  intro zero
  rw [Option.mem_def, zero, Option.some.injEq] at head
  exact notZero head.symm

end Decimal

namespace Shortest

variable {m : Nat} {e : Int}

/-! ### Stored forms -/

theorem log2_le (range : InRange m e) : m.log2 ≤ 52 := by
  rcases Nat.eq_zero_or_pos m with rfl | positive
  · decide
  · exact Nat.le_of_lt_succ ((Nat.log2_lt (by omega)).mpr range.small)

theorem fullMantissa_eq (range : InRange m e) :
    ∃ k : Nat, fullMantissa m e = (m * 2 ^ k, e - k) ∧ leastExponent ≤ e - k ∧
      (m.log2 + k = 52 ∨ m.log2 + k < 52 ∧ e - k = leastExponent) := by
  have bits := log2_le range
  have least := range.least
  refine ⟨_, rfl, ?_⟩
  omega

theorem isStored_fullMantissa (range : InRange m e) (positive : 0 < m) :
    IsStored (fullMantissa m e).1 (fullMantissa m e).2 := by
  have bits := log2_le range
  have greatest := range.greatest
  obtain ⟨k, full, above, filled⟩ := fullMantissa_eq range
  have low : 2 ^ m.log2 * 2 ^ k ≤ m * 2 ^ k := Nat.mul_le_mul_right _ (Nat.log2_self_le (by omega))
  have high : m * 2 ^ k < 2 ^ (m.log2 + 1) * 2 ^ k :=
    Nat.mul_lt_mul_of_pos_right Nat.lt_log2_self (Nat.two_pow_pos k)
  rw [← Nat.pow_add] at low high
  have tiny : leastExponent = -1074 := rfl
  rw [full]
  refine ⟨Nat.mul_pos positive (Nat.two_pow_pos k), ?_, above, ?_, ?_⟩
  · exact high.trans_le (Nat.pow_le_pow_right (by decide) (by omega))
  · simp only
    omega
  · rcases filled with all | ⟨-, lowest⟩
    · rw [all] at low
      exact .inl low
    · exact .inr lowest

theorem ofMantissa_fullMantissa (negative : Bool) (range : InRange m e) (odd : m % 2 = 1) :
    ofMantissa negative (fullMantissa m e).1 (fullMantissa m e).2 =
      .finite negative m e (.inl odd) := by
  obtain ⟨k, full, -⟩ := fullMantissa_eq range
  simp only [full, ofMantissa, reduce_mul_pow odd, Int.sub_add_cancel]

theorem fullMantissa_value (range : InRange m e) :
    ((fullMantissa m e).1 : ℚ) * 2 ^ (fullMantissa m e).2 = m * 2 ^ e := by
  obtain ⟨k, full, -⟩ := fullMantissa_eq range
  rw [full, Nat.cast_mul, Nat.cast_pow, Nat.cast_ofNat, ← zpow_natCast, mul_assoc,
    ← zpow_add₀ two_ne_zero, add_sub_cancel]

/-! ### Intervals -/

theorem interval_denominator_pos : 0 < (interval m e).denominator := ratioOf_snd_pos ..

/-- The bounds of an interval and the value between them, in quarters of the last bit. -/
theorem interval_bounds (positive : 0 < (fullMantissa m e).1) :
    ((interval m e).low : ℚ) / (interval m e).denominator =
        ((fullMantissa m e).1 - reachBelow (fullMantissa m e).1 (fullMantissa m e).2) *
          2 ^ (fullMantissa m e).2 ∧
      ((interval m e).value : ℚ) / (interval m e).denominator =
        (fullMantissa m e).1 * 2 ^ (fullMantissa m e).2 ∧
      ((interval m e).high : ℚ) / (interval m e).denominator =
        ((fullMantissa m e).1 + 1 / 2) * 2 ^ (fullMantissa m e).2 := by
  rw [interval]
  generalize fullMantissa m e = full at positive ⊢
  obtain ⟨m, e⟩ := full
  have quarter : ((Binary64.ratioOf 1 (e - 2)).1 : ℚ) / (Binary64.ratioOf 1 (e - 2)).2 =
      2 ^ e / 4 := by
    rw [ratioOf_value, Nat.cast_one, one_mul, zpow_sub₀ two_ne_zero]
    norm_num
  simp only at positive ⊢
  simp only [Nat.cast_mul, mul_div_assoc, quarter]
  refine ⟨?_, ?_, ?_⟩
  · rw [reachBelow, Nat.pow_eq]
    split
    · rw [Nat.cast_sub (by omega)]
      push_cast
      ring
    · rw [Nat.cast_sub (by omega)]
      push_cast
      ring
  · push_cast
    ring
  · push_cast
    ring

theorem holds_iff {a b : Nat} (positive : 0 < (fullMantissa m e).1) (denominator : 0 < b) :
    (interval m e).holds a b = true ↔
      RoundsTo (fullMantissa m e).1 (fullMantissa m e).2 (a / b) := by
  obtain ⟨low, -, high⟩ := interval_bounds positive
  have above : 0 < (interval m e).denominator := interval_denominator_pos
  have closed : (interval m e).closed = ((fullMantissa m e).1 % 2 == 0) := rfl
  rw [Interval.holds, closed]
  by_cases even : (fullMantissa m e).1 % 2 = 0
  · simp only [even, beq_self_eq_true, if_true, Bool.and_eq_true, decide_eq_true_eq,
      ← ratio_le_iff above denominator, ← ratio_le_iff denominator above, low, high]
    exact ⟨fun between => ⟨between.1, between.2, fun odd => by omega⟩,
      fun near => ⟨near.low, near.high⟩⟩
  · have reach : reachBelow (fullMantissa m e).1 (fullMantissa m e).2 = 1 / 2 :=
      if_neg fun power => even (by rw [power.1]; rfl)
    simp only [beq_eq_false_iff_ne.mpr even, Bool.false_eq_true, if_false, Bool.and_eq_true,
      decide_eq_true_eq, ← ratio_lt_iff above denominator, ← ratio_lt_iff denominator above, low, high,
      reach]
    exact ⟨fun between => ⟨by rw [reach]; exact between.1.le, between.2.le, fun _ => between⟩,
      fun near => near.inside (by omega)⟩

/-! ### Points -/

theorem ten_zpow_pos (k : Int) : (0 : ℚ) < 10 ^ k := zpow_pos (by norm_num) k

theorem ten_zpow_toNat {k : Int} (nonneg : 0 ≤ k) : ((10 ^ k.toNat : ℕ) : ℚ) = 10 ^ k := by
  rw [Nat.cast_pow, Nat.cast_ofNat, ← zpow_natCast, Int.toNat_of_nonneg nonneg]

theorem ten_zpow_neg_toNat {k : Int} (negative : k ≤ 0) :
    ((10 ^ (-k).toNat : ℕ) : ℚ) = (10 ^ k)⁻¹ := by
  rw [ten_zpow_toNat (by omega), zpow_neg]

theorem above_iff {a b : Nat} (denominator : 0 < b) (point : Int) :
    (if point ≥ 0 then a < b * Nat.pow 10 point.toNat else a * Nat.pow 10 (-point).toNat < b) ↔
      (a : ℚ) / b < 10 ^ point := by
  have below : (0 : ℚ) < b := by exact_mod_cast denominator
  rw [div_lt_iff₀' below]
  simp only [Nat.pow_eq]
  split
  · rename_i nonneg
    rw [← ten_zpow_toNat nonneg]
    norm_cast
  · rename_i negative
    have small : (a : ℚ) < b * 10 ^ point ↔ (a : ℚ) * (10 ^ point)⁻¹ < b := by
      rw [← div_eq_mul_inv, div_lt_iff₀ (ten_zpow_pos point)]
    rw [small, ← ten_zpow_neg_toNat (by omega)]
    norm_cast

/-- The search for the point goes up from the start and passes no power of ten above the value. -/
theorem pointOf_spec {a b : Nat} (denominator : 0 < b) (fuel : Nat) {start : Int}
    (low : (10 : ℚ) ^ (start - 1) ≤ a / b) :
    start ≤ pointOf a b fuel start ∧ (10 : ℚ) ^ (pointOf a b fuel start - 1) ≤ a / b := by
  induction fuel generalizing start with
  | zero => exact ⟨le_refl start, low⟩
  | succ fuel ih =>
    rw [pointOf]
    simp only [above_iff denominator]
    split
    · exact ⟨le_refl start, low⟩
    · rename_i notAbove
      have next : (10 : ℚ) ^ (start + 1 - 1) ≤ a / b := by
        rw [Int.add_sub_cancel]
        exact not_lt.mp notAbove
      obtain ⟨up, power⟩ := ih next
      exact ⟨by omega, power⟩

/-- Powers of two by powers of ten. The exponents of the numbers are so small that the two grow alike. -/
theorem ten_zpow_le_two_zpow {k : Int} (least : -1080 ≤ k) : (10 : ℚ) ^ (k * 3 / 10 - 21) ≤ 2 ^ k := by
  have thousand : (10 : ℚ) ^ (3 * (k / 10)) = 1000 ^ (k / 10) := by
    rw [zpow_mul]
    norm_num
  have binary : (2 : ℚ) ^ (10 * (k / 10)) = 1000 ^ (k / 10) * (1024 / 1000) ^ (k / 10) := by
    rw [zpow_mul, ← mul_zpow]
    norm_num
  have slack : (10 : ℚ) ^ (-19 : Int) ≤ (1024 / 1000) ^ (k / 10) :=
    calc (10 : ℚ) ^ (-19 : Int) ≤ (1024 / 1000) ^ (-108 : Int) := by norm_num
      _ ≤ (1024 / 1000) ^ (k / 10) := zpow_le_zpow_right₀ (by norm_num) (by omega)
  calc (10 : ℚ) ^ (k * 3 / 10 - 21) ≤ 10 ^ (3 * (k / 10) + -19) :=
        zpow_le_zpow_right₀ (by norm_num) (by omega)
    _ = 1000 ^ (k / 10) * 10 ^ (-19 : Int) := by rw [zpow_add₀ (by norm_num), thousand]
    _ ≤ 1000 ^ (k / 10) * (1024 / 1000) ^ (k / 10) :=
        mul_le_mul_of_nonneg_left slack (zpow_nonneg (by norm_num) _)
    _ = 2 ^ (10 * (k / 10)) := binary.symm
    _ ≤ 2 ^ k := zpow_le_zpow_right₀ one_le_two (by omega)

/-! ### Grids -/

theorem gridPoint_snd_pos (count : Nat) (places : Int) : 0 < (gridPoint count places).2 := by
  rw [gridPoint]
  split
  · exact Nat.pow_pos (by decide)
  · exact Nat.one_pos

theorem gridPoint_value (count : Nat) (places : Int) :
    ((gridPoint count places).1 : ℚ) / (gridPoint count places).2 = count / 10 ^ places := by
  rw [gridPoint]
  split
  · rename_i nonneg
    rw [Nat.pow_eq, ten_zpow_toNat nonneg]
  · rename_i negative
    rw [Nat.pow_eq, Nat.cast_mul, ten_zpow_neg_toNat (by omega), Nat.cast_one, div_one, div_eq_mul_inv]

theorem holds_of_onGrid? {range : Interval} {places : Int} {count : Nat}
    (found : onGrid? range places = some count) :
    range.holds (gridPoint count places).1 (gridPoint count places).2 = true := by
  rw [onGrid?] at found
  simp only at found
  split at found
  · rename_i low high
    cases found
    split
    · exact low
    · exact high
  · rename_i low _
    cases found
    exact low
  · rename_i _ high
    cases found
    exact high
  · contradiction

theorem gridPoint_bounds {range : Interval} (denominator : 0 < range.denominator) (places : Int)
    {count : Nat} (counted : range.value * (gridPoint 1 places).2 /
      (range.denominator * (gridPoint 1 places).1) = count) :
    (count : ℚ) / 10 ^ places ≤ (range.value : ℚ) / range.denominator ∧
      (range.value : ℚ) / range.denominator < ((count + 1 : Nat) : ℚ) / 10 ^ places := by
  have grid := ten_zpow_pos places
  have below : 0 < (gridPoint 1 places).2 := gridPoint_snd_pos ..
  have step : ((gridPoint 1 places).1 : ℚ) / (gridPoint 1 places).2 = 1 / 10 ^ places := by
    rw [gridPoint_value, Nat.cast_one]
  generalize gridPoint 1 places = pair at counted below step
  obtain ⟨up, down⟩ := pair
  simp only at counted below step
  have downPos : (0 : ℚ) < down := by exact_mod_cast below
  have upPos : (0 : ℚ) < up := by
    rw [div_eq_iff downPos.ne'] at step
    rw [step]
    positivity
  have whole : 0 < range.denominator * up := Nat.mul_pos denominator (by exact_mod_cast upPos)
  have inverse : (down : ℚ) / up = 10 ^ places := by
    rw [← inv_div, step, one_div, inv_inv]
  have scaled : ((range.value * down : Nat) : ℚ) / (range.denominator * up : Nat) =
      range.value / range.denominator * 10 ^ places := by
    rw [Nat.cast_mul, Nat.cast_mul, mul_div_mul_comm, inverse]
  have bounds := quotient_bounds (range.value * down) whole
  rw [scaled, counted] at bounds
  rw [div_le_iff₀ grid, lt_div_iff₀ grid, Nat.cast_add, Nat.cast_one]
  exact bounds

theorem onGrid?_ne_none {places : Int} (positive : 0 < (fullMantissa m e).1)
    (fine : (1 : ℚ) / 10 ^ places < (reachBelow (fullMantissa m e).1 (fullMantissa m e).2 + 1 / 2) *
      2 ^ (fullMantissa m e).2) : onGrid? (interval m e) places ≠ none := by
  intro none
  obtain ⟨-, value, -⟩ := interval_bounds positive
  have inside : ∀ count : Nat, RoundsTo (fullMantissa m e).1 (fullMantissa m e).2 (count / 10 ^ places) →
      (interval m e).holds (gridPoint count places).1 (gridPoint count places).2 = true := by
    intro count near
    rwa [holds_iff positive (gridPoint_snd_pos ..), gridPoint_value]
  rw [onGrid?] at none
  simp only at none
  split at none
  · contradiction
  · contradiction
  · contradiction
  rename_i low high
  generalize counted : (interval m e).value * (gridPoint 1 places).2 /
    ((interval m e).denominator * (gridPoint 1 places).1) = count at low high
  obtain ⟨under, beyond⟩ := gridPoint_bounds interval_denominator_pos places counted
  rw [value] at under beyond
  have step : ((count + 1 : Nat) : ℚ) / 10 ^ places - count / 10 ^ places = 1 / 10 ^ places := by
    rw [Nat.cast_add, Nat.cast_one, add_div, add_sub_cancel_left]
  rcases roundsTo_of_around under beyond (step ▸ fine) with near | near
  · exact absurd (inside count near) (by rw [low]; decide)
  · exact absurd (inside (count + 1) near) (by rw [high]; decide)

theorem firstGrid_spec {range : Interval} {point : Int} {fuel digits : Nat}
    (meets : onGrid? range ((digits + fuel : Nat) - point) ≠ none) :
    onGrid? range (firstGrid range point (fuel + 1) digits).2 =
        some (firstGrid range point (fuel + 1) digits).1 ∧
      (firstGrid range point (fuel + 1) digits).2 ≤ (digits + fuel : Nat) - point := by
  induction fuel generalizing digits with
  | zero =>
    obtain ⟨count, found⟩ := Option.ne_none_iff_exists'.mp meets
    rw [Nat.add_zero] at found ⊢
    simp only [firstGrid, found]
    exact ⟨trivial, le_refl _⟩
  | succ fuel ih =>
    rw [firstGrid]
    cases found : onGrid? range (digits - point) with
    | some count => exact ⟨found, by simp only; omega⟩
    | none =>
      rw [← Nat.add_assoc, Nat.add_right_comm] at meets ⊢
      exact ih meets

/-! ### Digits -/

theorem head_toDigits {n : Nat} (zero : (Nat.toDigits 10 n).head? = some '0') : n = 0 := by
  induction n using Nat.strongRecOn with
  | ind n ih =>
    rw [Nat.toDigits_eq_if (by decide)] at zero
    by_cases small : n < 10
    · have each : ∀ n < 10, [n.digitChar].head? = some '0' → n = 0 := by decide
      rw [if_pos small] at zero
      exact each n small zero
    · rw [if_neg small, List.head?_append_of_ne_nil _ Nat.toDigits_ne_nil] at zero
      have none := ih (n / 10) (by omega) zero
      omega

theorem isDigit_toDigits {n : Nat} : ∀ c ∈ Nat.toDigits 10 n, c.isDigit = true := fun _ =>
  Nat.isDigit_of_mem_toDigits (by decide) (by decide)

theorem dropLastZeros_append (digits : List Char) :
    ∃ k, dropLastZeros digits ++ List.replicate k '0' = digits := by
  refine ⟨(digits.reverse.takeWhile (· == '0')).length, ?_⟩
  have zeros : digits.reverse.takeWhile (· == '0') =
      List.replicate (digits.reverse.takeWhile (· == '0')).length '0' :=
    List.eq_replicate_of_mem fun c member => by
      simpa using List.all_eq_true.mp List.all_takeWhile c member
  rw [dropLastZeros, ← List.reverse_replicate, ← zeros, ← List.reverse_append,
    List.takeWhile_append_dropWhile, List.reverse_reverse]

/-! ### Decimals -/

/-- The decimal of a number is a point of a grid, written without its last zeros. -/
theorem decimal_eq (range : InRange m e) (positive : 0 < m) :
    ∃ count places, decimal m e = ⟨dropLastZeros (Nat.toDigits 10 count),
        (Nat.toDigits 10 count).length - places⟩ ∧
      RoundsTo (fullMantissa m e).1 (fullMantissa m e).2 (count / 10 ^ places) ∧ places ≤ 360 := by
  have stored := isStored_fullMantissa range positive
  have least : -1074 ≤ e := range.least
  obtain ⟨-, value, -⟩ := interval_bounds stored.positive
  generalize started : ((m.log2 : Int) + e) * 3 / 10 - 20 = guess
  have start : (10 : ℚ) ^ (guess - 1) ≤ (interval m e).value / (interval m e).denominator := by
    rw [value, fullMantissa_value range]
    calc (10 : ℚ) ^ (guess - 1) = 10 ^ (((m.log2 : Int) + e) * 3 / 10 - 21) := by
          congr 1
          omega
      _ ≤ 2 ^ ((m.log2 : Int) + e) := ten_zpow_le_two_zpow (by omega)
      _ = 2 ^ (m.log2 : Int) * 2 ^ e := zpow_add₀ two_ne_zero ..
      _ ≤ m * 2 ^ e := mul_le_mul_of_nonneg_right (log2_bounds positive).1 (two_zpow_pos e).le
  obtain ⟨up, power⟩ := pointOf_spec interval_denominator_pos 60 start
  generalize pointed : pointOf (interval m e).value (interval m e).denominator 60 guess = point
    at up power
  -- Seventeen digits are more than the bits of a mantissa can tell apart.
  have seventeen : onGrid? (interval m e) ((1 + 16 : Nat) - point) ≠ none := by
    refine onGrid?_ne_none stored.positive ?_
    rw [value] at power
    calc (1 : ℚ) / 10 ^ (((1 + 16 : Nat) : Int) - point) = 10 ^ (point - 1 - 16) := by
          rw [one_div, ← zpow_neg]
          congr 1
          push_cast
          ring
      _ = 10 ^ (point - 1) / 10 ^ (16 : Int) := zpow_sub₀ (by norm_num) ..
      _ ≤ (fullMantissa m e).1 * 2 ^ (fullMantissa m e).2 / 10 ^ (16 : Int) :=
          div_le_div_of_nonneg_right power (by norm_num)
      _ = (fullMantissa m e).1 / 10 ^ (16 : Int) * 2 ^ (fullMantissa m e).2 := by ring
      _ < _ := mul_lt_mul_of_pos_right stored.bits_lt (two_zpow_pos _)
  obtain ⟨found, few⟩ := firstGrid_spec seventeen
  refine ⟨(firstGrid (interval m e) point 17 1).1, (firstGrid (interval m e) point 17 1).2, ?_, ?_, ?_⟩
  · simp only [decimal, started, pointed]
  · rw [← gridPoint_value, ← holds_iff stored.positive (gridPoint_snd_pos ..)]
    exact holds_of_onGrid? found
  · push_cast at few
    omega

theorem isProper_decimal (range : InRange m e) (positive : 0 < m) : (decimal m e).IsProper := by
  obtain ⟨count, places, written, near, -⟩ := decimal_eq range positive
  have some : count ≠ 0 := by
    rintro rfl
    have above := near.pos (isStored_fullMantissa range positive)
    rw [Nat.cast_zero, zero_div] at above
    exact lt_irrefl 0 above
  obtain ⟨k, parts⟩ := dropLastZeros_append (Nat.toDigits 10 count)
  have head : (Nat.toDigits 10 count).head? ≠ .some '0' := fun zero => some (head_toDigits zero)
  rw [written]
  constructor
  · intro c member
    have digit : c ∈ Nat.toDigits 10 count := parts ▸ List.mem_append_left _ member
    exact isDigit_toDigits c digit
  · simp only
    cases digits : dropLastZeros (Nat.toDigits 10 count) with
    | nil =>
      rw [digits, List.nil_append] at parts
      cases k with
      | zero => exact absurd parts.symm Nat.toDigits_ne_nil
      | succ k => exact absurd (by rw [← parts]; rfl) head
    | cons c rest =>
      rw [digits] at parts
      exact ⟨c, rfl, fun zero => head (by rw [← parts, zero]; rfl)⟩

theorem roundsTo_decimal (range : InRange m e) (positive : 0 < m) :
    RoundsTo (fullMantissa m e).1 (fullMantissa m e).2 (decimal m e).value ∧
      -360 ≤ (decimal m e).point - (decimal m e).digits.length := by
  obtain ⟨count, places, written, near, few⟩ := decimal_eq range positive
  obtain ⟨k, parts⟩ := dropLastZeros_append (Nat.toDigits 10 count)
  have length := congrArg List.length parts
  have counted := congrArg (Nat.ofDigitChars 10 · 0) parts
  simp only [Nat.ofDigitChars_append, Nat.ofDigitChars_replicate_zero,
    Nat.ofDigitChars_ten_toDigits] at counted
  rw [List.length_append, List.length_replicate] at length
  generalize dropLastZeros (Nat.toDigits 10 count) = digits at written length counted
  have scale : ((Nat.toDigits 10 count).length : Int) - places - digits.length = k - places := by omega
  rw [written, Decimal.value, scale, ← counted]
  refine ⟨?_, by omega⟩
  have value : (Nat.ofDigitChars 10 digits 0 : ℚ) * 10 ^ ((k : Int) - places) =
      (count : ℚ) / 10 ^ places := by
    rw [← counted, zpow_sub₀ (by norm_num), zpow_natCast]
    push_cast
    ring
  rwa [value]

theorem ofDecimal_eq {negative : Bool} {n : Nat} {k : Int} (range : InRange m e) (odd : m % 2 = 1)
    (near : RoundsTo (fullMantissa m e).1 (fullMantissa m e).2 (n * 10 ^ k)) (least : -360 ≤ k) :
    ofDecimal negative n k = .finite negative m e (.inl odd) := by
  have stored := isStored_fullMantissa range (by omega)
  have above := near.pos stored
  have some : n ≠ 0 := by
    rintro rfl
    rw [Nat.cast_zero, zero_mul] at above
    exact lt_irrefl 0 above
  rw [← ofMantissa_fullMantissa negative range odd, ofDecimal, if_neg some]
  by_cases nonneg : k ≥ 0
  · have notHuge : k ≤ 400 := by
      have one : (1 : ℚ) ≤ n := by exact_mod_cast Nat.one_le_iff_ne_zero.mpr some
      have size : ((fullMantissa m e).1 : ℚ) + 1 ≤ 2 ^ (53 : Int) := by exact_mod_cast stored.small
      have bound : (10 : ℚ) ^ k < 10 ^ (401 : Int) :=
        calc (10 : ℚ) ^ k ≤ n * 10 ^ k := le_mul_of_one_le_left (ten_zpow_pos k).le one
          _ ≤ ((fullMantissa m e).1 + 1 / 2) * 2 ^ (fullMantissa m e).2 := near.high
          _ ≤ 2 ^ (53 : Int) * 2 ^ (fullMantissa m e).2 :=
            mul_le_mul_of_nonneg_right (by linarith) (two_zpow_pos _).le
          _ ≤ 2 ^ (53 : Int) * 2 ^ (971 : Int) :=
            mul_le_mul_of_nonneg_left (zpow_le_zpow_right₀ one_le_two stored.greatest) (by norm_num)
          _ < 10 ^ (401 : Int) := by
            have whole : 2 ^ 53 * 2 ^ 971 < 10 ^ 401 := by decide +kernel
            exact_mod_cast whole
      have order := (zpow_lt_zpow_iff_right₀ (by norm_num)).mp bound
      omega
    rw [if_pos nonneg, if_neg (by omega)]
    refine ofRatio_of_roundsTo stored Nat.one_pos ?_
    rwa [Nat.pow_eq, Nat.cast_mul, ten_zpow_toNat nonneg, Nat.cast_one, div_one]
  · have notTiny : ¬ ((n.log2 : Int) + 10 * k / 3 < -1200) := by omega
    rw [if_neg nonneg]
    simp only [notTiny, if_false]
    refine ofRatio_of_roundsTo stored (Nat.pow_pos (by decide)) ?_
    rwa [Nat.pow_eq, ten_zpow_neg_toNat (by omega), div_inv_eq_mul]

end Shortest

end CardSearch.Number
