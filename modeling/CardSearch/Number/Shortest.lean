import CardSearch.Number.Binary64
/-!
The shortest decimal that reads back as a given floating-point number, and its written form: plain
where the point falls among or near the digits, and with an exponent elsewhere.
-/
namespace CardSearch.Number

/-- The number `0.d₁d₂… * 10 ^ point` with the decimal digits of `digits`. -/
structure Decimal where
  digits : List Char
  point : Int
deriving Repr, DecidableEq

namespace Shortest

/-- The decimals that round to a number lie between two bounds, which belong to the interval where
`closed` is set. All three are ratios over one denominator. -/
structure Interval where
  low : Nat
  value : Nat
  high : Nat
  denominator : Nat
  closed : Bool
deriving Repr

def fullMantissa (mantissa : Nat) (exponent : Int) : Nat × Int :=
  let room := min (52 - (mantissa.log2 : Int)) (exponent - Binary64.leastExponent)
  (mantissa * Nat.pow 2 room.toNat, exponent - room.toNat)

def interval (mantissa : Nat) (exponent : Int) : Interval :=
  let (m, e) := fullMantissa mantissa exponent
  let below := if m = Nat.pow 2 52 ∧ e > Binary64.leastExponent then 4 * m - 1 else 4 * m - 2
  let shift := e - 2
  let (up, down) := Binary64.ratioOf 1 shift
  ⟨below * up, 4 * m * up, (4 * m + 2) * up, down, m % 2 == 0⟩

def Interval.holds (range : Interval) (a b : Nat) : Bool :=
  let x := a * range.denominator
  let low := range.low * b
  let high := range.high * b
  if range.closed then low ≤ x && x ≤ high else low < x && x < high

def pointOf (a b : Nat) : (fuel : Nat) → Int → Int
  | 0, point => point
  | fuel + 1, point =>
    let above :=
      if point ≥ 0 then a < b * Nat.pow 10 point.toNat else a * Nat.pow 10 (-point).toNat < b
    if above then point else pointOf a b fuel (point + 1)

def gridPoint (count : Nat) (places : Int) : Nat × Nat :=
  if places ≥ 0 then (count, Nat.pow 10 places.toNat) else (count * Nat.pow 10 (-places).toNat, 1)

def onGrid? (range : Interval) (places : Int) : Option Nat :=
  let (scaleUp, scaleDown) := gridPoint 1 places
  let count := range.value * scaleDown / (range.denominator * scaleUp)
  let inside (n : Nat) := let (a, b) := gridPoint n places; range.holds a b
  let rest := 2 * (range.value * scaleDown % (range.denominator * scaleUp))
  let whole := range.denominator * scaleUp
  let preferLow := rest < whole || rest == whole && count % 2 == 0
  match inside count, inside (count + 1) with
  | true, true => some (if preferLow then count else count + 1)
  | true, false => some count
  | false, true => some (count + 1)
  | false, false => none

def firstGrid (range : Interval) (point : Int) : (fuel digits : Nat) → Nat × Int
  | 0, digits => (0, (digits : Int) - point)
  | fuel + 1, digits =>
    let places := (digits : Int) - point
    match onGrid? range places with
    | some count => (count, places)
    | none => firstGrid range point fuel (digits + 1)

def dropLastZeros (digits : List Char) : List Char := (digits.reverse.dropWhile (· == '0')).reverse

def decimal (mantissa : Nat) (exponent : Int) : Decimal :=
  let range := interval mantissa exponent
  let guess := ((mantissa.log2 : Int) + exponent) * 3 / 10 - 20
  let point := pointOf range.value range.denominator 60 guess
  let (count, places) := firstGrid range point 17 1
  let digits := Nat.toDigits 10 count
  ⟨dropLastZeros digits, (digits.length : Int) - places⟩

end Shortest

/-- Where a written number changes to an exponent, and how the exponent looks. -/
structure DecimalStyle where
  leastPoint : Int
  greatestPoint : Int
  fraction : Bool
  plus : String
  exponentDigits : Nat
deriving Repr

def DecimalStyle.plain : DecimalStyle := ⟨-3, 16, true, "+", 2⟩

def padded (width : Nat) (digits : List Char) : List Char :=
  List.replicate (width - digits.length) '0' ++ digits

def Decimal.write (style : DecimalStyle) (number : Decimal) : List Char :=
  let length : Int := number.digits.length
  if style.leastPoint ≤ number.point ∧ number.point ≤ style.greatestPoint then
    if number.point ≤ 0 then
      '0' :: '.' :: List.replicate (-number.point).toNat '0' ++ number.digits
    else if number.point ≥ length then
      number.digits ++ List.replicate (number.point - length).toNat '0' ++
        if style.fraction then ['.', '0'] else []
    else number.digits.take number.point.toNat ++ '.' :: number.digits.drop number.point.toNat
  else
    let exponent := number.point - 1
    let mantissa :=
      match number.digits with
      | first :: second :: rest => first :: '.' :: second :: rest
      | digits => digits
    mantissa ++ 'e' :: (if exponent < 0 then ['-'] else style.plus.toList) ++
      padded style.exponentDigits (Nat.toDigits 10 exponent.natAbs)

def Binary64.write (style : DecimalStyle) : Binary64 → List Char
  | .notANumber => "nan".toList
  | .infinite negative => (if negative then "-inf" else "inf").toList
  | .finite negative mantissa exponent _ =>
    (if negative then ['-'] else []) ++
      if mantissa = 0 then (if style.fraction then "0.0" else "0").toList
      else (Shortest.decimal mantissa exponent).write style

end CardSearch.Number
