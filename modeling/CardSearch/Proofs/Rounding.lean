import CardSearch.Number.Shortest
import CardSearch.Proofs.NumberEquality
import Mathlib.Algebra.Order.Archimedean.Basic
import Mathlib.Algebra.Order.Field.Power
import Mathlib.Algebra.Order.Ring.Rat
import Mathlib.Tactic.FieldSimp
import Mathlib.Tactic.Linarith
import Mathlib.Tactic.NormNum
import Mathlib.Tactic.Positivity
/-!
Rounding to floating-point numbers. Around each number lie the ratios that are nearer to it than to
any other number, half-way ones going to the even mantissa. Main statement: each of these ratios is
rounded to the number.
-/
namespace CardSearch.Number.Binary64

/-- Whether 64 bits can hold the number `mantissa * 2 ^ exponent`. -/
structure InRange (mantissa : Nat) (exponent : Int) : Prop where
  small : mantissa < 2 ^ 53
  least : leastExponent ≤ exponent
  greatest : exponent + mantissa.log2 < 1024

def Fits : Binary64 → Prop
  | .finite _ mantissa exponent _ => InRange mantissa exponent
  | _ => True

instance (mantissa : Nat) (exponent : Int) : Decidable (InRange mantissa exponent) :=
  decidable_of_iff
    (mantissa < 2 ^ 53 ∧ leastExponent ≤ exponent ∧ exponent + mantissa.log2 < 1024)
    ⟨fun ⟨small, least, greatest⟩ => ⟨small, least, greatest⟩,
      fun ⟨small, least, greatest⟩ => ⟨small, least, greatest⟩⟩

instance : DecidablePred Fits
  | .finite _ mantissa exponent _ => inferInstanceAs (Decidable (InRange mantissa exponent))
  | .infinite _ => .isTrue trivial
  | .notANumber => .isTrue trivial

/-! ### Ratios -/

theorem two_zpow_pos (e : Int) : (0 : ℚ) < 2 ^ e := zpow_pos (by norm_num) e

theorem two_zpow_toNat {e : Int} (nonneg : 0 ≤ e) : ((2 ^ e.toNat : ℕ) : ℚ) = 2 ^ e := by
  rw [Nat.cast_pow, Nat.cast_ofNat, ← zpow_natCast, Int.toNat_of_nonneg nonneg]

theorem two_zpow_neg_toNat {e : Int} (negative : e ≤ 0) : ((2 ^ (-e).toNat : ℕ) : ℚ) = (2 ^ e)⁻¹ := by
  rw [two_zpow_toNat (by omega), zpow_neg]

theorem ratio_le_iff {p q r s : Nat} (left : 0 < q) (right : 0 < s) :
    (p : ℚ) / q ≤ r / s ↔ p * s ≤ r * q := by
  rw [div_le_div_iff₀ (by exact_mod_cast left) (by exact_mod_cast right)]
  norm_cast

theorem ratio_lt_iff {p q r s : Nat} (left : 0 < q) (right : 0 < s) :
    (p : ℚ) / q < r / s ↔ p * s < r * q := by
  rw [div_lt_div_iff₀ (by exact_mod_cast left) (by exact_mod_cast right)]
  norm_cast

theorem quotient_bounds (p : Nat) {q : Nat} (positive : 0 < q) :
    ((p / q : Nat) : ℚ) ≤ p / q ∧ (p : ℚ) / q < (p / q : Nat) + 1 := by
  have denominator : (0 : ℚ) < q := by exact_mod_cast positive
  rw [le_div_iff₀ denominator, div_lt_iff₀ denominator]
  have low := Nat.div_mul_le_self p q
  have high := Nat.lt_mul_div_succ p positive
  rw [Nat.mul_comm] at high
  exact ⟨by exact_mod_cast low, by exact_mod_cast high⟩

theorem ratioOf_snd_pos (m : Nat) (e : Int) : 0 < (ratioOf m e).2 := by
  rw [ratioOf]
  split
  · exact Nat.one_pos
  · exact Nat.two_pow_pos _

theorem ratioOf_value (m : Nat) (e : Int) :
    ((ratioOf m e).1 : ℚ) / (ratioOf m e).2 = m * 2 ^ e := by
  rw [ratioOf]
  split
  · rename_i nonneg
    rw [Nat.pow_eq, Nat.cast_mul, two_zpow_toNat nonneg, Nat.cast_one, div_one]
  · rename_i negative
    rw [Nat.pow_eq, two_zpow_neg_toNat (by omega), div_inv_eq_mul]

theorem scaled_snd_pos {a b : Nat} (positive : 0 < b) (e : Int) : 0 < (scaled a b e).2 := by
  rw [scaled]
  split
  · exact Nat.mul_pos positive (Nat.two_pow_pos _)
  · exact positive

theorem scaled_value (a b : Nat) (e : Int) :
    ((scaled a b e).1 : ℚ) / (scaled a b e).2 = a / b / 2 ^ e := by
  rw [scaled]
  split
  · rename_i nonneg
    rw [Nat.pow_eq, Nat.cast_mul, two_zpow_toNat nonneg, div_div]
  · rename_i negative
    rw [Nat.pow_eq, Nat.cast_mul, two_zpow_neg_toNat (by omega)]
    field_simp

/-! ### Whole numbers -/

theorem quotient_near {p q n : Nat} (positive : 0 < q) (below : 2 * (q * n) ≤ 2 * p + q)
    (above : 2 * p ≤ 2 * (q * n) + q) : p / q = n ∨ p / q + 1 = n := by
  -- `q * (p / q) + p % q` stands for `p`
  have parts := Nat.div_add_mod p q
  have rest := Nat.mod_lt p positive
  have atMost : p / q ≤ n := by
    by_contra more
    have grown : q * (n + 1) ≤ q * (p / q) := Nat.mul_le_mul_left q (by omega)
    rw [Nat.mul_succ] at grown
    omega
  have atLeast : n ≤ p / q + 1 := by
    by_contra less
    have grown : q * (p / q + 2) ≤ q * n := Nat.mul_le_mul_left q (by omega)
    rw [Nat.mul_add] at grown
    omega
  omega

theorem roundedQuotient_eq {p q n : Nat} (positive : 0 < q) (low : (n : ℚ) - 1 / 2 ≤ p / q)
    (high : (p : ℚ) / q ≤ n + 1 / 2)
    (inside : n % 2 = 1 → (n : ℚ) - 1 / 2 < p / q ∧ (p : ℚ) / q < n + 1 / 2) :
    roundedQuotient p q = n := by
  have denominator : (0 : ℚ) < q := by exact_mod_cast positive
  -- the bounds without fractions
  have below : 2 * (q * n) ≤ 2 * p + q := by
    rw [le_div_iff₀ denominator] at low
    have whole : (2 * (q * n) : ℚ) ≤ 2 * p + q := by linarith
    exact_mod_cast whole
  have above : 2 * p ≤ 2 * (q * n) + q := by
    rw [div_le_iff₀ denominator] at high
    have whole : (2 * p : ℚ) ≤ 2 * (q * n) + q := by linarith
    exact_mod_cast whole
  have strictly : n % 2 = 1 → 2 * (q * n) < 2 * p + q ∧ 2 * p < 2 * (q * n) + q := by
    intro odd
    obtain ⟨beyond, under⟩ := inside odd
    rw [lt_div_iff₀ denominator] at beyond
    rw [div_lt_iff₀ denominator] at under
    have first : (2 * (q * n) : ℚ) < 2 * p + q := by linarith
    have second : (2 * p : ℚ) < 2 * (q * n) + q := by linarith
    exact ⟨by exact_mod_cast first, by exact_mod_cast second⟩
  have parts := Nat.div_add_mod p q
  have rest := Nat.mod_lt p positive
  rw [roundedQuotient]
  simp only [Bool.or_eq_true, decide_eq_true_eq, Bool.and_eq_true, beq_iff_eq]
  rcases quotient_near positive below above with same | next
  · rw [same] at parts ⊢
    rw [if_neg]
    rintro (more | ⟨half, odd⟩)
    · omega
    · have := (strictly odd).2
      omega
  · rw [← next, Nat.mul_succ] at below strictly
    rw [if_pos, next]
    by_cases half : 2 * (p % q) = q
    · refine .inr ⟨half, ?_⟩
      by_contra even
      have := (strictly (by omega)).1
      omega
    · exact .inl (by omega)

/-! ### Binades -/

variable {negative : Bool} {m a b : Nat} {e : Int}

theorem log2_bounds {n : Nat} (positive : 0 < n) :
    (2 : ℚ) ^ (n.log2 : Int) ≤ n ∧ (n : ℚ) < 2 ^ ((n.log2 : Int) + 1) := by
  have low : 2 ^ n.log2 ≤ n := Nat.log2_self_le (by omega)
  have high : n < 2 ^ (n.log2 + 1) := Nat.lt_log2_self
  rw [← Nat.cast_succ, zpow_natCast, zpow_natCast]
  exact ⟨by exact_mod_cast low, by exact_mod_cast high⟩

theorem binade_eq {k : Int} (numerator : 0 < a) (denominator : 0 < b)
    (low : (2 : ℚ) ^ (k + 52) ≤ a / b) (high : (a : ℚ) / b < 2 ^ (k + 53)) : binade a b = k := by
  obtain ⟨aLow, aHigh⟩ := log2_bounds numerator
  obtain ⟨bLow, bHigh⟩ := log2_bounds denominator
  have below : (0 : ℚ) < b := by exact_mod_cast denominator
  rw [binade]
  generalize guessed : (a.log2 : Int) - b.log2 - 52 = guess
  have notAbove : k ≤ guess := by
    have bound : (2 : ℚ) ^ (k + 52) < 2 ^ ((a.log2 : Int) + 1 - b.log2) := by
      refine low.trans_lt ?_
      rw [zpow_sub₀ two_ne_zero]
      exact div_lt_div₀ aHigh bLow (two_zpow_pos _).le (two_zpow_pos _)
    have order := (zpow_lt_zpow_iff_right₀ one_lt_two).mp bound
    omega
  have notBelow : guess ≤ k + 1 := by
    have bound : (2 : ℚ) ^ ((a.log2 : Int) - (b.log2 + 1)) < 2 ^ (k + 53) := by
      refine lt_of_le_of_lt ?_ high
      rw [zpow_sub₀ two_ne_zero]
      exact div_le_div₀ (by positivity) aLow below bHigh.le
    have order := (zpow_lt_zpow_iff_right₀ one_lt_two).mp bound
    omega
  have test : (scaled a b guess).1 < (scaled a b guess).2 * Nat.pow 2 52 ↔
      (a : ℚ) / b < 2 ^ (guess + 52) := by
    have positive : (0 : ℚ) < (scaled a b guess).2 := by
      exact_mod_cast scaled_snd_pos denominator guess
    rw [zpow_add₀ two_ne_zero, ← div_lt_iff₀' (two_zpow_pos guess), ← scaled_value,
      div_lt_iff₀' positive]
    have whole : ((2 : ℚ) ^ (52 : Int)) = (Nat.pow 2 52 : Nat) := by
      rw [Nat.pow_eq, Nat.cast_pow, ← zpow_natCast]
      rfl
    rw [whole, ← Nat.cast_mul, Nat.cast_lt]
  rcases (show guess = k ∨ guess = k + 1 by omega) with rfl | rfl
  · exact if_neg (test.not.mpr (not_lt.mpr low))
  · rw [if_pos (test.mpr (by rwa [add_assoc]))]
    omega

/-! ### The nearest number -/

/-- A mantissa and an exponent in the form in which numbers of 64 bits hold them: the mantissa has all
its bits unless the exponent is the least. -/
structure IsStored (m : Nat) (e : Int) : Prop where
  positive : 0 < m
  small : m < 2 ^ 53
  least : leastExponent ≤ e
  greatest : e ≤ 971
  filled : 2 ^ 52 ≤ m ∨ e = leastExponent

/-- How far the ratios below a number reach that are rounded to it, in units of its last bit. Below a
power of two, numbers lie half as far apart. -/
def reachBelow (m : Nat) (e : Int) : ℚ := if m = 2 ^ 52 ∧ leastExponent < e then 1 / 4 else 1 / 2

/-- The ratios that are nearer to `m * 2 ^ e` than to any other number, and the half-way ones too if the
mantissa is even. -/
structure RoundsTo (m : Nat) (e : Int) (r : ℚ) : Prop where
  low : (m - reachBelow m e) * 2 ^ e ≤ r
  high : r ≤ (m + 1 / 2) * 2 ^ e
  inside : m % 2 = 1 → (m - 1 / 2) * 2 ^ e < r ∧ r < (m + 1 / 2) * 2 ^ e

theorem IsStored.log2_lt (stored : IsStored m e) : e + m.log2 < 1024 := by
  have bits : m.log2 < 53 := (Nat.log2_lt (by have := stored.positive; omega)).mpr stored.small
  have := stored.greatest
  omega

theorem reachBelow_le : reachBelow m e ≤ 1 / 2 := by
  rw [reachBelow]
  split <;> norm_num

theorem reachBelow_pos : 0 < reachBelow m e := by
  rw [reachBelow]
  split <;> norm_num

theorem IsStored.bits_lt (stored : IsStored m e) : (m : ℚ) / 10 ^ (16 : Int) < reachBelow m e + 1 / 2 := by
  rw [div_lt_iff₀ (by norm_num), reachBelow]
  split
  · rename_i power
    rw [power.1]
    norm_num
  · have small : (m : ℚ) < 2 ^ (53 : Int) := by exact_mod_cast stored.small
    exact small.trans (by norm_num)

theorem RoundsTo.pos {r : ℚ} (stored : IsStored m e) (near : RoundsTo m e r) : 0 < r := by
  refine lt_of_lt_of_le ?_ near.low
  have one : (1 : ℚ) ≤ m := by exact_mod_cast stored.positive
  have reach := reachBelow_le (m := m) (e := e)
  exact mul_pos (by linarith) (two_zpow_pos e)

theorem roundsTo_of_between {r : ℚ} (beyond : (m - reachBelow m e) * 2 ^ e < r)
    (under : r < (m + 1 / 2) * 2 ^ e) : RoundsTo m e r := by
  refine ⟨beyond.le, under.le, fun odd => ?_⟩
  have reach : reachBelow m e = 1 / 2 := if_neg fun power => by
    rw [power.1] at odd
    exact absurd odd (by decide)
  rw [reach] at beyond
  exact ⟨beyond, under⟩

/-- Of two ratios around a number that are closer together than those rounded to it, one is rounded to
it. -/
theorem roundsTo_of_around {x y : ℚ} (under : x ≤ m * 2 ^ e) (beyond : m * 2 ^ e < y)
    (close : y - x < (reachBelow m e + 1 / 2) * 2 ^ e) : RoundsTo m e x ∨ RoundsTo m e y := by
  have unit := two_zpow_pos e
  have reach := reachBelow_pos (m := m) (e := e)
  by_cases inside : (m - reachBelow m e) * 2 ^ e < x
  · refine .inl (roundsTo_of_between inside (under.trans_lt ?_))
    exact mul_lt_mul_of_pos_right (by linarith) unit
  · refine .inr (roundsTo_of_between (lt_trans ?_ beyond) (by linarith))
    exact mul_lt_mul_of_pos_right (by linarith) unit

theorem ofMantissa_double (positive : 0 < m) :
    ofMantissa negative (2 * m) (e - 1) = ofMantissa negative m e := by
  have same : reduce (2 * m) (e - 1) = reduce m e := by
    rw [reduce, if_neg (by omega), if_pos (by omega), Nat.mul_div_cancel_left m (by decide),
      Int.sub_add_cancel]
  simp only [ofMantissa, same]

theorem roundedAt_eq (denominator : 0 < b) (low : (m - 1 / 2) * 2 ^ e ≤ (a : ℚ) / b)
    (high : (a : ℚ) / b ≤ (m + 1 / 2) * 2 ^ e)
    (inside : m % 2 = 1 → (m - 1 / 2) * 2 ^ e < (a : ℚ) / b ∧ (a : ℚ) / b < (m + 1 / 2) * 2 ^ e)
    (range : e + m.log2 < 1024) : roundedAt negative a b e = ofMantissa negative m e := by
  have unit := two_zpow_pos e
  have nearest : roundedQuotient (scaled a b e).1 (scaled a b e).2 = m := by
    refine roundedQuotient_eq (scaled_snd_pos denominator e) ?_ ?_ fun odd => ?_
    · rwa [scaled_value, le_div_iff₀ unit]
    · rwa [scaled_value, div_le_iff₀ unit]
    · rw [scaled_value, lt_div_iff₀ unit, div_lt_iff₀ unit]
      exact inside odd
  simp only [roundedAt, nearest]
  exact if_neg fun beyond => absurd beyond.2 (by omega)

theorem binade_bounds (numerator : 0 < a) (denominator : 0 < b) :
    (2 : ℚ) ^ (binade a b + 52) ≤ a / b ∧ (a : ℚ) / b < 2 ^ (binade a b + 53) := by
  have positive : (0 : ℚ) < a / b := div_pos (by exact_mod_cast numerator) (by exact_mod_cast denominator)
  obtain ⟨n, low, high⟩ := exists_mem_Ico_zpow positive one_lt_two
  have low' : (2 : ℚ) ^ (n - 52 + 52) ≤ a / b := by rwa [Int.sub_add_cancel]
  have high' : (a : ℚ) / b < 2 ^ (n - 52 + 53) := by rwa [show n - 52 + 53 = n + 1 by ring]
  rw [binade_eq numerator denominator low' high']
  exact ⟨low', high'⟩

/-- The binade is never above the exponent, since the mantissa has at most 53 bits. -/
theorem RoundsTo.binade_le {r : ℚ} {k : Int} (near : RoundsTo m e r) (stored : IsStored m e)
    (low : (2 : ℚ) ^ (k + 52) ≤ r) : k ≤ e := by
  have size : (m : ℚ) + 1 ≤ 2 ^ (53 : Int) := by exact_mod_cast stored.small
  have bound : (2 : ℚ) ^ (k + 52) < 2 ^ (53 + e) := by
    rw [zpow_add₀ two_ne_zero 53]
    refine low.trans_lt (near.high.trans_lt ?_)
    exact mul_lt_mul_of_pos_right (by linarith) (two_zpow_pos e)
  have order := (zpow_lt_zpow_iff_right₀ one_lt_two).mp bound
  omega

theorem RoundsTo.half_le {r : ℚ} (near : RoundsTo m e r) : (m - 1 / 2) * 2 ^ e ≤ r := by
  have reach := reachBelow_le (m := m) (e := e)
  exact (mul_le_mul_of_nonneg_right (by linarith) (two_zpow_pos e).le).trans near.low

theorem RoundsTo.power_of_lt {r : ℚ} (near : RoundsTo m e r) (stored : IsStored m e)
    (least : leastExponent < e) (below : r < 2 ^ (52 : Int) * 2 ^ e) :
    m = 2 ^ 52 ∧ (2 ^ 52 - 1 / 4) * 2 ^ e ≤ r := by
  have full : 2 ^ 52 ≤ m := stored.filled.resolve_right least.ne'
  have bound := lt_of_mul_lt_mul_right (near.half_le.trans_lt below) (two_zpow_pos e).le
  have size : (m : ℚ) < 2 ^ (52 : Int) + 1 := by linarith
  have whole : m < 2 ^ 52 + 1 := by exact_mod_cast size
  have power : m = 2 ^ 52 := by omega
  have low := near.low
  rw [reachBelow, if_pos ⟨power, least⟩, power] at low
  exact ⟨power, by exact_mod_cast low⟩

/-- Just below a power of two, rounding in the binade below arrives at the power too. -/
theorem roundedAt_below_power (denominator : 0 < b) (greatest : e ≤ 971)
    (low : (2 ^ 52 - 1 / 4) * 2 ^ e ≤ (a : ℚ) / b) (below : (a : ℚ) / b < 2 ^ (52 : Int) * 2 ^ e) :
    roundedAt negative a b (e - 1) = ofMantissa negative (2 ^ 52) e := by
  have half : (2 : ℚ) ^ e = 2 * 2 ^ (e - 1) := by
    rw [← zpow_one_add₀ two_ne_zero]
    congr 1
    omega
  rw [← ofMantissa_double (by decide)]
  rw [half] at low below
  refine roundedAt_eq denominator ?_ ?_ (fun odd => absurd odd (by decide)) ?_
  · refine le_trans (le_of_eq ?_) low
    push_cast
    ring
  · refine below.le.trans ?_
    push_cast
    nlinarith [two_zpow_pos (e - 1)]
  · rw [show 2 * 2 ^ 52 = 2 ^ 53 by norm_num, Nat.log2_two_pow]
    omega

theorem ofRatio_of_roundsTo (stored : IsStored m e) (denominator : 0 < b)
    (near : RoundsTo m e (a / b)) : ofRatio negative a b = ofMantissa negative m e := by
  have numerator : 0 < a := by
    rcases Nat.eq_zero_or_pos a with rfl | some
    · have positive := near.pos stored
      rw [Nat.cast_zero, zero_div] at positive
      exact absurd positive (lt_irrefl 0)
    · exact some
  have nonzero : (decide (a = 0) || decide (b = 0)) = false := by
    rw [decide_eq_false (by omega), decide_eq_false (by omega), Bool.or_false]
  obtain ⟨low, high⟩ := binade_bounds numerator denominator
  have notAbove := near.binade_le stored low
  rw [ofRatio, nonzero, if_neg (by decide)]
  by_cases stays : max (binade a b) leastExponent = e
  · rw [stays]
    exact roundedAt_eq denominator near.half_le near.high near.inside stored.log2_lt
  · have least := stored.least
    have below : (a : ℚ) / b < 2 ^ (52 : Int) * 2 ^ e := by
      rw [← zpow_add₀ two_ne_zero]
      exact high.trans_le (zpow_le_zpow_right₀ one_le_two (by omega))
    obtain ⟨rfl, near_power⟩ := near.power_of_lt stored (by omega) below
    have next : binade a b = e - 1 := by
      have bound : (2 : ℚ) ^ (51 + e) < 2 ^ (binade a b + 53) := by
        rw [zpow_add₀ two_ne_zero 51]
        refine lt_of_le_of_lt (le_trans ?_ near_power) high
        exact mul_le_mul_of_nonneg_right (by norm_num) (two_zpow_pos e).le
      have order := (zpow_lt_zpow_iff_right₀ one_lt_two).mp bound
      omega
    rw [show max (binade a b) leastExponent = e - 1 by omega]
    exact roundedAt_below_power denominator stored.greatest near_power below

end CardSearch.Number.Binary64
