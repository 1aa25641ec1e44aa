/-!
Floating-point numbers of 64 bits by their exact values. A finite number is a whole mantissa times a
power of two; the mantissa is odd unless the number is zero, so each value has one form for either
sign. Results are rounded to the nearest number, ties to the even mantissa.
-/
namespace CardSearch.Number

def IsReduced (mantissa : Nat) (exponent : Int) : Prop :=
  mantissa % 2 = 1 ∨ mantissa = 0 ∧ exponent = 0

inductive Binary64 where
  /-- The value `mantissa * 2 ^ exponent`, with a sign also for zero. -/
  | finite (negative : Bool) (mantissa : Nat) (exponent : Int)
    (reduced : IsReduced mantissa exponent)
  | infinite (negative : Bool)
  | notANumber
deriving Repr, DecidableEq

namespace Binary64

def roundedQuotient (a b : Nat) : Nat :=
  let quotient := a / b
  let rest := 2 * (a % b)
  if rest > b || rest == b && quotient % 2 == 1 then quotient + 1 else quotient

/-- Divides out the factors of two of a mantissa; zero has the exponent zero. -/
def reduce (mantissa : Nat) (exponent : Int) : Nat × Int :=
  if mantissa = 0 then (0, 0)
  else if mantissa % 2 = 0 then reduce (mantissa / 2) (exponent + 1)
  else (mantissa, exponent)
termination_by mantissa
decreasing_by omega

theorem isReduced_reduce (mantissa : Nat) (exponent : Int) :
    IsReduced (reduce mantissa exponent).1 (reduce mantissa exponent).2 := by
  fun_induction reduce mantissa exponent with
  | case1 exponent => exact .inr ⟨rfl, rfl⟩
  | case2 mantissa exponent nonzero even ih => exact ih
  | case3 mantissa exponent nonzero odd => exact .inl (by omega)

def signedZero (negative : Bool) : Binary64 := .finite negative 0 0 (.inr ⟨rfl, rfl⟩)

def ofMantissa (negative : Bool) (mantissa : Nat) (exponent : Int) : Binary64 :=
  .finite negative _ _ (isReduced_reduce mantissa exponent)

def ratioOf (mantissa : Nat) (exponent : Int) : Nat × Nat :=
  if exponent ≥ 0 then (mantissa * Nat.pow 2 exponent.toNat, 1)
  else (mantissa, Nat.pow 2 (-exponent).toNat)

def leastExponent : Int := -1074

def scaled (a b : Nat) (exponent : Int) : Nat × Nat :=
  if exponent ≥ 0 then (a, b * Nat.pow 2 exponent.toNat) else (a * Nat.pow 2 (-exponent).toNat, b)

def binade (a b : Nat) : Int :=
  let guess := (a.log2 : Int) - b.log2 - 52
  if (scaled a b guess).1 < (scaled a b guess).2 * Nat.pow 2 52 then guess - 1 else guess

def roundedAt (negative : Bool) (a b : Nat) (exponent : Int) : Binary64 :=
  let mantissa := roundedQuotient (scaled a b exponent).1 (scaled a b exponent).2
  if mantissa ≠ 0 ∧ exponent + mantissa.log2 ≥ 1024 then .infinite negative
  else ofMantissa negative mantissa exponent

def ofRatio (negative : Bool) (a b : Nat) : Binary64 :=
  if a = 0 || b = 0 then signedZero negative
  else roundedAt negative a b (max (binade a b) leastExponent)

def ofInt (n : Int) : Binary64 := ofRatio (n < 0) n.natAbs 1

/-- The number nearest to `digits * 10 ^ exponent`. Exponents far outside the range of the numbers
lead to infinity or zero at once. -/
def ofDecimal (negative : Bool) (digits : Nat) (exponent : Int) : Binary64 :=
  if digits = 0 then signedZero negative
  else
    let scale := (digits.log2 : Int) + 10 * exponent / 3
    if exponent ≥ 0 then
      if exponent > 400 then .infinite negative
      else ofRatio negative (digits * Nat.pow 10 exponent.toNat) 1
    else if scale < -1200 then signedZero negative
    else ofRatio negative digits (Nat.pow 10 (-exponent).toNat)

def toRatio? : Binary64 → Option (Int × Nat)
  | .finite negative mantissa exponent _ =>
    let (a, b) := ratioOf mantissa exponent
    some (if negative then -(a : Int) else a, b)
  | _ => none

def toInt? (x : Binary64) : Option Int :=
  match x.toRatio? with
  | some (a, 1) => some a
  | _ => none

def truncate? (x : Binary64) : Option Int := x.toRatio?.map fun (a, b) => a.tdiv b

def isNegative : Binary64 → Bool
  | .finite negative mantissa _ _ => negative && mantissa != 0
  | .infinite negative => negative
  | .notANumber => false

def sameValue : Binary64 → Binary64 → Bool
  | .finite s m e _, .finite s' m' e' _ => m == m' && (m == 0 || e == e' && s == s')
  | .infinite s, .infinite s' => s == s'
  | _, _ => false

def add : Binary64 → Binary64 → Binary64
  | .notANumber, _ => .notANumber
  | _, .notANumber => .notANumber
  | .infinite s, .infinite s' => if s = s' then .infinite s else .notANumber
  | .infinite s, _ => .infinite s
  | _, .infinite s => .infinite s
  | .finite s m e _, .finite s' m' e' _ =>
    let low := min e e'
    let signed (negative : Bool) (mantissa : Nat) (exponent : Int) : Int :=
      let whole : Int := ((mantissa * Nat.pow 2 (exponent - low).toNat : Nat) : Int)
      if negative then -whole else whole
    let sum := signed s m e + signed s' m' e'
    if sum = 0 then signedZero (s && s')
    else
      let (a, b) := ratioOf sum.natAbs low
      ofRatio (sum < 0) a b

/-- The order of values; it fails where one of the numbers is none. -/
def lessOrEqual (x y : Binary64) : Bool :=
  match x, y with
  | .notANumber, _ => false
  | _, .notANumber => false
  | .infinite true, _ => true
  | _, .infinite false => true
  | .infinite false, _ => false
  | _, .infinite true => false
  | x, y =>
    match x.toRatio?, y.toRatio? with
    | some (a, b), some (c, d) => a * d ≤ c * b
    | _, _ => false

def zero : Binary64 := signedZero false

def one : Binary64 := .finite false 1 0 (.inl rfl)

end Binary64

end CardSearch.Number
