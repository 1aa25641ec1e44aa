import CardSearch.Validation
import Mathlib.Tactic.Ring
/-!
Equality of numbers of different kinds. A whole number of any size has an exact form with an odd
mantissa, so it equals a floating-point number exactly if their forms agree, and equality is symmetric
and transitive although it is decided differently for each pair of kinds.
-/
namespace CardSearch

open Number (Binary64 IsReduced)

namespace Number.Binary64

/-! ### Exact forms of whole numbers -/

theorem reduce_mul_pow {m : Nat} (odd : m % 2 = 1) (k : Nat) (e : Int) :
    reduce (m * 2 ^ k) e = (m, e + k) := by
  induction k generalizing e with
  | zero =>
    have nonzero : m ≠ 0 := by omega
    rw [reduce]
    simp [nonzero, odd]
  | succ k ih =>
    have positive : 0 < m * 2 ^ k := Nat.mul_pos (by omega) (Nat.two_pow_pos k)
    have double : m * 2 ^ (k + 1) = 2 * (m * 2 ^ k) := by ring
    have half : 2 * (m * 2 ^ k) / 2 = m * 2 ^ k := by omega
    rw [double, reduce, if_neg (by omega), if_pos (by omega), half, ih]
    push_cast
    ring_nf

theorem reduce_shift (m : Nat) (e : Int) :
    ∃ k : Nat, m = (reduce m e).1 * 2 ^ k ∧ (m ≠ 0 → (reduce m e).2 = e + k) := by
  fun_induction reduce m e with
  | case1 e => exact ⟨0, by simp, by simp⟩
  | case2 m e nonzero even ih =>
    obtain ⟨k, whole, power⟩ := ih
    refine ⟨k + 1, ?_, fun _ => ?_⟩
    · rw [pow_succ, ← Nat.mul_assoc, ← whole]
      omega
    · rw [power (by omega)]
      push_cast
      ring
  | case3 m e nonzero odd => exact ⟨0, by simp, by simp⟩

def exactly (n : Int) : Binary64 := ofMantissa (n < 0) n.natAbs 0

theorem toInt?_exactly (n : Int) : (exactly n).toInt? = some n := by
  obtain ⟨k, whole, power⟩ := reduce_shift n.natAbs 0
  by_cases zero : n = 0
  · subst n
    simp [exactly, ofMantissa, toInt?, toRatio?, ratioOf, reduce]
  have shift := power (by omega)
  have size : ratioOf (reduce n.natAbs 0).1 (reduce n.natAbs 0).2 = (n.natAbs, 1) := by
    rw [ratioOf, if_pos (by omega), shift, Int.zero_add, Int.toNat_natCast, Nat.pow_eq, ← whole]
  by_cases negative : n < 0
  · simp only [toInt?, exactly, ofMantissa, toRatio?, size, negative, decide_true, if_true]
    congr 1
    omega
  · simp only [toInt?, exactly, ofMantissa, toRatio?, size, negative, decide_false, if_false,
      Bool.false_eq_true]
    congr 1
    omega

/-! ### One form for each value -/

def unsignedZero : Binary64 → Binary64
  | .finite negative mantissa exponent reduced =>
    .finite (negative && mantissa != 0) mantissa exponent reduced
  | x => x

theorem sameValue_iff {x y : Binary64} :
    x.sameValue y = true ↔ x ≠ .notANumber ∧ x.unsignedZero = y.unsignedZero := by
  cases x with
  | notANumber => simp [sameValue]
  | infinite s => cases y <;> simp [sameValue, unsignedZero]
  | finite s m e reduced =>
    cases y with
    | notANumber => simp [sameValue, unsignedZero]
    | infinite t => simp [sameValue, unsignedZero]
    | finite t l f other =>
      simp only [sameValue, unsignedZero, ne_eq, reduceCtorEq, not_false_eq_true, true_and,
        Bool.and_eq_true, Bool.or_eq_true, beq_iff_eq, finite.injEq]
      by_cases zero : m = 0
      · have first : e = 0 := by unfold IsReduced at reduced; omega
        by_cases same : m = l
        · have second : f = 0 := by unfold IsReduced at other; omega
          simp [← same, zero, first, second]
        · simp [same]
      · by_cases same : m = l
        · have kept : (l != 0) = true := by simpa using same ▸ zero
          simp [same, same ▸ zero, kept, and_comm]
        · simp [same]

theorem sameValue_comm (x y : Binary64) : x.sameValue y = y.sameValue x := by
  rw [Bool.eq_iff_iff, sameValue_iff, sameValue_iff]
  cases x <;> cases y <;> simp [unsignedZero, eq_comm]

theorem sameValue_trans {x y z : Binary64} (first : x.sameValue y = true)
    (second : y.sameValue z = true) : x.sameValue z = true := by
  rw [sameValue_iff] at first second ⊢
  exact ⟨first.1, first.2.trans second.2⟩

theorem toInt?_congr {x y : Binary64} (same : x.sameValue y = true) : x.toInt? = y.toInt? := by
  have forget : ∀ x : Binary64, x.unsignedZero.toInt? = x.toInt? := by
    intro x
    cases x with
    | finite s m e reduced =>
      by_cases zero : m = 0
      · have exponent : e = 0 := by unfold IsReduced at reduced; omega
        subst zero exponent
        cases s <;> rfl
      · have kept : (s && m != 0) = s := by simp [zero]
        rw [unsignedZero, kept]
    | infinite s => rfl
    | notANumber => rfl
  rw [← forget x, (sameValue_iff.mp same).2, forget]

theorem toInt?_finite {s : Bool} {m : Nat} {e : Int} (reduced : IsReduced m e) :
    (finite s m e reduced).toInt? =
      if 0 ≤ e then some (if s then -((m * 2 ^ e.toNat : Nat) : Int) else (m * 2 ^ e.toNat : Nat))
      else none := by
  rw [toInt?, toRatio?, ratioOf]
  by_cases bound : 0 ≤ e
  · simp [bound, Nat.pow_eq]
  · have power : 1 < 2 ^ (-e).toNat := Nat.one_lt_two_pow (by omega)
    simp only [ge_iff_le, bound, if_false, Nat.pow_eq]
    split
    · rename_i same
      simp only [Option.some.injEq, Prod.mk.injEq] at same
      omega
    · rfl

theorem toInt?_eq_some_iff {x : Binary64} {n : Int} :
    x.toInt? = some n ↔ x.sameValue (exactly n) = true := by
  constructor
  · intro whole
    cases x with
    | notANumber => simp [toInt?, toRatio?] at whole
    | infinite s => simp [toInt?, toRatio?] at whole
    | finite s m e reduced =>
      rw [toInt?_finite] at whole
      split at whole
      · rename_i bound
        obtain ⟨k, rfl⟩ := Int.eq_ofNat_of_zero_le bound
        rw [Int.toNat_natCast, Option.some.injEq] at whole
        have size : n.natAbs = m * 2 ^ k := by
          rw [← whole]
          split
          · rw [Int.natAbs_neg, Int.natAbs_natCast]
          · rw [Int.natAbs_natCast]
        rcases reduced with odd | ⟨rfl, -⟩
        · have positive : 0 < m * 2 ^ k := Nat.mul_pos (by omega) (Nat.two_pow_pos k)
          have sign : decide (n < 0) = s := by
            rw [← whole]
            generalize m * 2 ^ k = p at positive
            cases s
            · simp
            · simpa using positive
          simp [exactly, ofMantissa, size, reduce_mul_pow odd, sign, sameValue]
        · have zero : n = 0 := by omega
          simp [exactly, ofMantissa, zero, reduce, sameValue]
      · contradiction
  · intro same
    rw [toInt?_congr same, toInt?_exactly]

end Number.Binary64

/-! ### Numbers of any kind -/

namespace Value.Numeric

open Number.Binary64 (exactly)

def exact : Numeric → Binary64
  | int n => exactly n
  | float x => x

theorem same_eq (a b : Numeric) : a.same b = a.exact.sameValue b.exact := by
  rw [Bool.eq_iff_iff]
  cases a with
  | int n =>
    cases b with
    | int k =>
      rw [same, exact, exact, ← Number.Binary64.toInt?_eq_some_iff, Number.Binary64.toInt?_exactly]
      simp
    | float y =>
      rw [same, exact, exact, Number.Binary64.sameValue_comm, ← Number.Binary64.toInt?_eq_some_iff]
      simp
  | float x =>
    cases b with
    | int k =>
      rw [same, exact, exact, ← Number.Binary64.toInt?_eq_some_iff]
      simp
    | float y => rfl

theorem same_comm (a b : Numeric) : a.same b = b.same a := by
  rw [same_eq, same_eq, Number.Binary64.sameValue_comm]

theorem same_trans {a b c : Numeric} (first : a.same b = true) (second : b.same c = true) :
    a.same c = true := by
  rw [same_eq] at first second ⊢
  exact Number.Binary64.sameValue_trans first second

end Value.Numeric

end CardSearch
