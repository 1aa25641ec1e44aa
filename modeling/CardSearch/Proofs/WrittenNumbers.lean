import CardSearch.Json.Reader
import CardSearch.Proofs.ShortestDecimals
/-!
Numbers in JSON documents. A number is read up to the first character that cannot belong to it. Main
statements: the digits of a whole number are read as this number, and the shortest decimal of a
floating-point number is read as the very number it was written for.
-/
namespace CardSearch.Json

open Number

variable {rest digits : Text}

/-- What may stand behind a value: the end, a comma, a closing bracket or brace, or a new line. -/
def Follows (rest : Text) : Prop := ∀ c ∈ rest.head?, c ∈ [',', ']', '}', '\n']

def Stops (rest : Text) : Prop := ∀ c ∈ rest.head?, c.isDigit = false

theorem follows_not_number (follows : Follows rest) :
    ∀ c ∈ rest.head?, c.isDigit = false ∧ c ≠ '.' ∧ c ≠ 'e' ∧ c ≠ 'E' := by
  have each : ∀ c ∈ ([',', ']', '}', '\n'] : Text),
      c.isDigit = false ∧ c ≠ '.' ∧ c ≠ 'e' ∧ c ≠ 'E' := by decide
  exact fun c member => each c (follows c member)

theorem Follows.stops (follows : Follows rest) : Stops rest := fun c member =>
  (follows_not_number follows c member).1

/-! ### Parts of numbers -/

theorem digits?_append (some : digits ≠ []) (all : ∀ c ∈ digits, c.isDigit = true)
    (stops : Stops rest) : digits? (digits ++ rest) = Option.some (digits, rest) := by
  have behind : rest.takeWhile Char.isDigit = [] := by
    cases rest with
    | nil => rfl
    | cons c rest =>
      rw [List.takeWhile_cons, stops c rfl]
      rfl
  have taken : (digits ++ rest).takeWhile Char.isDigit = digits := by
    rw [List.takeWhile_append_of_pos all, behind, List.append_nil]
  rw [digits?]
  simp only [taken, List.isEmpty_eq_false_iff.mpr some, Bool.false_eq_true, if_false,
    List.drop_left]

theorem decimal_eq_ofDigitChars : decimal digits = Nat.ofDigitChars 10 digits 0 :=
  Nat.ofDigitChars_eq_foldl.symm

def fractionText : Option Text → Text
  | none => []
  | some digits => '.' :: digits

theorem fraction?_fractionText {fraction : Option Text}
    (digits : ∀ digits ∈ fraction, digits ≠ [] ∧ ∀ c ∈ digits, c.isDigit = true)
    (stops : ∀ c ∈ rest.head?, c.isDigit = false ∧ c ≠ '.') :
    fraction? (fractionText fraction ++ rest) = some (fraction, rest) := by
  cases fraction with
  | none =>
    cases rest with
    | nil => rfl
    | cons c rest =>
      rw [fractionText, List.nil_append, fraction?]
      exact fun _ same => (stops c rfl).2 (List.cons.inj same).1
  | some decimals =>
    obtain ⟨some, all⟩ := digits decimals rfl
    rw [fractionText, List.cons_append, fraction?,
      digits?_append some all fun c member => (stops c member).1]
    rfl

def exponentText : Option Int → Text
  | none => []
  | some exponent => 'e' :: (if exponent < 0 then ['-'] else ['+']) ++
      padded 2 (Nat.toDigits 10 exponent.natAbs)

theorem exponent?_exponentText (exponent : Option Int) (follows : Follows rest) :
    exponent? (exponentText exponent ++ rest) = some (exponent, rest) := by
  cases exponent with
  | none =>
    cases rest with
    | nil => rfl
    | cons c rest =>
      obtain ⟨-, -, small, capital⟩ := follows_not_number follows c rfl
      unfold exponentText exponent?
      exact if_neg (by simp [small, capital])
  | some exponent =>
    have some : padded 2 (Nat.toDigits 10 exponent.natAbs) ≠ [] :=
      List.append_ne_nil_of_right_ne_nil _ Nat.toDigits_ne_nil
    have all : ∀ c ∈ padded 2 (Nat.toDigits 10 exponent.natAbs), c.isDigit = true := by
      intro c member
      rcases List.mem_append.mp member with zero | digit
      · rw [List.eq_of_mem_replicate zero]
        decide
      · exact Shortest.isDigit_toDigits c digit
    have size : decimal (padded 2 (Nat.toDigits 10 exponent.natAbs)) = exponent.natAbs := by
      rw [decimal_eq_ofDigitChars, padded, Nat.ofDigitChars_append, Nat.ofDigitChars_replicate_zero,
        Nat.mul_zero, Nat.ofDigitChars_ten_toDigits]
    have read := digits?_append some all follows.stops
    rw [exponentText]
    by_cases below : exponent < 0
    · have signed : -(exponent.natAbs : Int) = exponent := by omega
      simp only [below, if_true, List.cons_append, List.nil_append, exponent?, beq_self_eq_true,
        Bool.true_or, read, Option.bind_eq_bind, Option.bind_some, size, signed]
      rfl
    · have signed : (exponent.natAbs : Int) = exponent := by omega
      simp only [below, if_false, List.cons_append, List.nil_append, exponent?, beq_self_eq_true,
        Bool.true_or, if_true, read, Option.bind_eq_bind, Option.bind_some, size, signed]
      rfl

theorem stops_exponentText (exponent : Option Int) (follows : Follows rest) :
    ∀ c ∈ (exponentText exponent ++ rest).head?, c.isDigit = false ∧ c ≠ '.' := by
  intro c member
  cases exponent with
  | none =>
    obtain ⟨notDigit, notPoint, -⟩ := follows_not_number follows c member
    exact ⟨notDigit, notPoint⟩
  | some exponent =>
    cases member
    decide

theorem stops_fractionText (fraction : Option Text)
    (stops : ∀ c ∈ rest.head?, c.isDigit = false ∧ c ≠ '.') : Stops (fractionText fraction ++ rest) := by
  intro c member
  cases fraction with
  | none => exact (stops c member).1
  | some decimals =>
    cases member
    decide

/-! ### Numerals -/

/-- A number as the grammar has it, without its sign: digits, of which the first is zero only if it is
the only one, a fraction and an exponent. -/
structure Numeral where
  digits : Text
  fraction : Option Text
  exponent : Option Int
  filled : digits ≠ []
  led : digits.head? = some '0' → digits.length = 1
  digit : ∀ c ∈ digits, c.isDigit = true
  decimals : ∀ decimals ∈ fraction, decimals ≠ [] ∧ ∀ c ∈ decimals, c.isDigit = true

namespace Numeral

variable (numeral : Numeral)

def text : Text := numeral.digits ++ (fractionText numeral.fraction ++ exponentText numeral.exponent)

def isWhole : Bool := numeral.fraction.isNone && numeral.exponent.isNone

def mantissa : Nat := decimal (numeral.digits ++ numeral.fraction.getD [])

def scale : Int := numeral.exponent.getD 0 - (numeral.fraction.getD []).length

def read? (reading : Reading) (negative : Bool) : Option Value :=
  if numeral.isWhole then
    whole? reading (if negative then -(decimal numeral.digits : Int) else decimal numeral.digits)
  else finite? (.ofDecimal negative numeral.mantissa numeral.scale)

theorem head?_signed (negative : Bool) :
    ∃ c ∈ ((if negative then ['-'] else []) ++ numeral.text).head?, c.isDigit = true ∨ c = '-' := by
  cases negative with
  | true => exact ⟨'-', rfl, .inr rfl⟩
  | false =>
    obtain ⟨c, tail, parts⟩ := List.exists_cons_of_ne_nil numeral.filled
    refine ⟨c, ?_, .inl (numeral.digit c (parts ▸ List.mem_cons_self))⟩
    rw [text, parts]
    rfl

theorem number?_text (reading : Reading) (negative : Bool) (follows : Follows rest) :
    number? reading ((if negative then ['-'] else []) ++ (numeral.text ++ rest)) =
      (numeral.read? reading negative).map (·, rest) := by
  obtain ⟨digits, fraction, exponent, filled, led, all, decimals⟩ := numeral
  have stops := stops_exponentText exponent follows
  have first := digits?_append filled all (stops_fractionText fraction stops)
  have second := fraction?_fractionText decimals stops
  have third := exponent?_exponentText exponent follows
  have solid : (digits.head? == some '0' && decide (digits.length ≠ 1)) = false := by
    by_cases zero : digits.head? = some '0'
    · rw [led zero]
      simp
    · rw [beq_eq_false_iff_ne.mpr zero, Bool.false_and]
  simp only [text, read?, isWhole, mantissa, scale, List.append_assoc, Option.map_eq_bind]
  cases negative with
  | true =>
    rw [if_pos rfl, List.singleton_append]
    unfold number?
    simp only [first, second, third, solid, Option.bind_eq_bind, Option.bind_some, Bool.false_eq_true,
      if_false]
    split <;> rfl
  | false =>
    rw [if_neg (by decide), List.nil_append]
    unfold number?
    split
    rename_i signed text parts
    split at parts
    · -- A text that begins with a sign does not begin with digits.
      rename_i same
      obtain ⟨c, tail, rfl⟩ := List.exists_cons_of_ne_nil filled
      have digit := all c List.mem_cons_self
      rw [(List.cons.inj same).1] at digit
      exact absurd digit (by decide)
    · cases parts
      simp only [first, second, third, solid, Option.bind_eq_bind, Option.bind_some, Bool.false_eq_true,
        if_false]
      split <;> rfl

end Numeral

/-! ### Whole numbers -/

def Numeral.ofNat (n : Nat) : Numeral where
  digits := Nat.toDigits 10 n
  fraction := none
  exponent := none
  filled := Nat.toDigits_ne_nil
  led zero := by
    rw [Shortest.head_toDigits zero]
    rfl
  digit := Shortest.isDigit_toDigits
  decimals := nofun

theorem toList_toString_int (n : Int) :
    (toString n).toList = (if decide (n < 0) then ['-'] else []) ++ (Numeral.ofNat n.natAbs).text := by
  have plain : ∀ n : Nat, (Numeral.ofNat n).text = Nat.toDigits 10 n := fun n => by
    exact List.append_nil _
  rw [plain]
  cases n with
  | ofNat n =>
    rw [show toString (Int.ofNat n) = toString n from rfl, Nat.toString_eq_ofList_toDigits,
      String.toList_ofList, if_neg (show ¬ decide (Int.ofNat n < 0) by simp)]
    rfl
  | negSucc n =>
    rw [show toString (Int.negSucc n) = "-" ++ toString (n + 1) from rfl, String.toList_append,
      Nat.toString_eq_ofList_toDigits, if_pos (decide_eq_true (Int.negSucc_lt_zero n))]
    congr 1
    exact String.toList_ofList

theorem read?_ofNat (reading : Reading) (n : Int) :
    (Numeral.ofNat n.natAbs).read? reading (n < 0) = whole? reading n := by
  have size : decimal (Numeral.ofNat n.natAbs).digits = n.natAbs := by
    rw [decimal_eq_ofDigitChars]
    exact Nat.ofDigitChars_ten_toDigits
  have sign : (if n < 0 then -(n.natAbs : Int) else n.natAbs) = n := by omega
  have whole : (Numeral.ofNat n.natAbs).isWhole = true := rfl
  simp only [Numeral.read?, whole, if_true, size, decide_eq_true_eq, sign]

/-! ### Floating-point numbers -/

/-- A numeral writes a decimal as a floating-point number. -/
structure Writes (numeral : Numeral) (number : Decimal) : Prop where
  text : numeral.text = number.write .plain
  notWhole : numeral.isWhole = false
  value : (numeral.mantissa : ℚ) * 10 ^ numeral.scale = number.value
  scale : -360 ≤ number.point - number.digits.length → -360 ≤ numeral.scale

section

variable {point : Int} (proper : Decimal.IsProper ⟨digits, point⟩)
include proper

theorem writes_small (low : -3 ≤ point) (high : point ≤ 0) :
    ∃ numeral, Writes numeral ⟨digits, point⟩ := by
  refine ⟨{
    digits := ['0']
    fraction := some (List.replicate (-point).toNat '0' ++ digits)
    exponent := none
    filled := List.cons_ne_nil _ _
    led := fun _ => rfl
    digit := by simp
    decimals := ?_ }, ?_, rfl, ?_, ?_⟩
  · rintro _ ⟨⟩
    refine ⟨List.append_ne_nil_of_right_ne_nil _ proper.ne_nil, fun c member => ?_⟩
    rcases List.mem_append.mp member with zero | digit
    · rw [List.eq_of_mem_replicate zero]
      decide
    · exact proper.digit c digit
  · rw [Decimal.write, if_pos ⟨low, Int.le_trans high (by decide)⟩, if_pos high]
    simp [Numeral.text, fractionText, exponentText]
  · have size : decimal (['0'] ++ (List.replicate (-point).toNat '0' ++ digits)) =
        Nat.ofDigitChars 10 digits 0 := by
      simp [decimal_eq_ofDigitChars, Nat.ofDigitChars_append, Nat.ofDigitChars_replicate_zero,
        Nat.ofDigitChars_cons]
    have scale : 0 - ((List.replicate (-point).toNat '0' ++ digits).length : Int) =
        point - digits.length := by
      rw [List.length_append, List.length_replicate]
      omega
    simp only [Numeral.mantissa, Numeral.scale, Option.getD_some, Option.getD_none, size, scale,
      Decimal.value]
  · simp only [Numeral.scale, Option.getD_some, Option.getD_none, List.length_append,
      List.length_replicate]
    omega

theorem writes_large (low : 0 < point) (high : point ≤ 16) (behind : digits.length ≤ point) :
    ∃ numeral, Writes numeral ⟨digits, point⟩ := by
  refine ⟨{
    digits := digits ++ List.replicate (point - digits.length).toNat '0'
    fraction := some ['0']
    exponent := none
    filled := List.append_ne_nil_of_left_ne_nil proper.ne_nil _
    led := ?_
    digit := ?_
    decimals := by simp }, ?_, rfl, ?_, ?_⟩
  · rw [List.head?_append_of_ne_nil _ proper.ne_nil]
    exact fun zero => absurd zero proper.head?_ne_zero
  · intro c member
    rcases List.mem_append.mp member with digit | zero
    · exact proper.digit c digit
    · rw [List.eq_of_mem_replicate zero]
      decide
  · rw [Decimal.write, if_pos ⟨Int.le_trans (by decide) low.le, high⟩, if_neg (by simp only; omega),
      if_pos behind]
    simp [Numeral.text, fractionText, exponentText, DecimalStyle.plain]
  · obtain ⟨zeros, rfl⟩ : ∃ zeros : Nat, point = digits.length + zeros :=
      ⟨(point - digits.length).toNat, by omega⟩
    have size : decimal (digits ++ List.replicate zeros '0' ++ ['0']) =
        10 ^ zeros * 10 * Nat.ofDigitChars 10 digits 0 := by
      simp [decimal_eq_ofDigitChars, Nat.ofDigitChars_append, Nat.ofDigitChars_replicate_zero,
        Nat.ofDigitChars_cons]
      ring
    simp only [Numeral.mantissa, Numeral.scale, Option.getD_some, Option.getD_none, Decimal.value,
      add_sub_cancel_left, Int.toNat_natCast, size, List.length_singleton]
    push_cast
    rw [zpow_natCast]
    norm_num
    ring
  · exact fun _ => show (-360 : Int) ≤ 0 - 1 by decide

theorem writes_between (low : 0 < point) (high : point ≤ 16) (among : point < digits.length) :
    ∃ numeral, Writes numeral ⟨digits, point⟩ := by
  have some : digits.take point.toNat ≠ [] := by
    simp [List.take_eq_nil_iff, proper.ne_nil, low]
  have led : (digits.take point.toNat).head? = Option.some '0' →
      (digits.take point.toNat).length = 1 := by
    rw [List.head?_take, if_neg (by omega)]
    exact fun zero => absurd zero proper.head?_ne_zero
  refine ⟨{
    digits := digits.take point.toNat
    fraction := Option.some (digits.drop point.toNat)
    exponent := none
    filled := some
    led := led
    digit := fun c member => proper.digit c (List.mem_of_mem_take member)
    decimals := ?_ }, ?_, rfl, ?_, ?_⟩
  · rintro _ ⟨⟩
    refine ⟨?_, fun c member => proper.digit c (List.mem_of_mem_drop member)⟩
    rw [List.ne_nil_iff_length_pos, List.length_drop]
    omega
  · rw [Decimal.write, if_pos ⟨Int.le_trans (by decide) low.le, high⟩, if_neg (by simp only; omega),
      if_neg (by simp only; omega)]
    simp [Numeral.text, fractionText, exponentText]
  · have scale : 0 - ((digits.drop point.toNat).length : Int) = point - digits.length := by
      rw [List.length_drop]
      omega
    simp only [Numeral.mantissa, Numeral.scale, Option.getD_some, Option.getD_none,
      List.take_append_drop, scale, decimal_eq_ofDigitChars, Decimal.value]
  · simp only [Numeral.scale, Option.getD_some, Option.getD_none, List.length_drop]
    omega

theorem writes_exponent
    (far : ¬ (DecimalStyle.plain.leastPoint ≤ point ∧ point ≤ DecimalStyle.plain.greatestPoint)) :
    ∃ numeral, Writes numeral ⟨digits, point⟩ := by
  obtain ⟨first, decimals, rfl⟩ := List.exists_cons_of_ne_nil proper.ne_nil
  have one : ∀ c ∈ [first], c.isDigit = true := by
    simpa using proper.digit first List.mem_cons_self
  cases decimals with
  | nil =>
    refine ⟨{
      digits := [first]
      fraction := none
      exponent := some (point - 1)
      filled := List.cons_ne_nil _ _
      led := fun _ => rfl
      digit := one
      decimals := nofun }, ?_, rfl, ?_, ?_⟩
    · rw [Decimal.write, if_neg far]
      simp [Numeral.text, fractionText, exponentText, DecimalStyle.plain]
    · simp [Numeral.mantissa, Numeral.scale, Decimal.value, decimal_eq_ofDigitChars]
    · simp [Numeral.scale]
  | cons second decimals =>
    refine ⟨{
      digits := [first]
      fraction := some (second :: decimals)
      exponent := some (point - 1)
      filled := List.cons_ne_nil _ _
      led := fun _ => rfl
      digit := one
      decimals := ?_ }, ?_, rfl, ?_, ?_⟩
    · rintro _ ⟨⟩
      exact ⟨List.cons_ne_nil _ _, fun c member => proper.digit c (List.mem_cons_of_mem first member)⟩
    · rw [Decimal.write, if_neg far]
      simp [Numeral.text, fractionText, exponentText, DecimalStyle.plain]
    · have scale : point - 1 - ((second :: decimals).length : Int) =
          point - (first :: second :: decimals).length := by
        simp only [List.length_cons]
        omega
      simp only [Numeral.mantissa, Numeral.scale, Option.getD_some, scale, decimal_eq_ofDigitChars,
        List.singleton_append, Decimal.value]
    · simp only [Numeral.scale, Option.getD_some, List.length_cons]
      omega

end

theorem exists_writes {number : Decimal} (proper : number.IsProper) :
    ∃ numeral, Writes numeral number := by
  obtain ⟨digits, point⟩ := number
  by_cases plain : DecimalStyle.plain.leastPoint ≤ point ∧ point ≤ DecimalStyle.plain.greatestPoint
  · obtain ⟨low, high⟩ := plain
    by_cases front : point ≤ 0
    · exact writes_small proper low front
    · by_cases behind : digits.length ≤ point
      · exact writes_large proper (by omega) high behind
      · exact writes_between proper (by omega) high (by omega)
  · exact writes_exponent proper plain

def Numeral.zero : Numeral where
  digits := ['0']
  fraction := some ['0']
  exponent := none
  filled := List.cons_ne_nil _ _
  led := fun _ => rfl
  digit := by simp
  decimals := by simp

/-- A floating-point number that 64 bits can hold is written as a numeral that is read as the number. -/
theorem exists_numeral {negative : Bool} {mantissa : Nat} {exponent : Int}
    (reduced : Number.IsReduced mantissa exponent) (range : Binary64.InRange mantissa exponent) :
    ∃ numeral : Numeral,
      (Binary64.finite negative mantissa exponent reduced).write .plain =
        (if negative then ['-'] else []) ++ numeral.text ∧
      ∀ reading, numeral.read? reading negative =
        some (.float (.finite negative mantissa exponent reduced)) := by
  by_cases zero : mantissa = 0
  · obtain rfl : exponent = 0 := by
      unfold Number.IsReduced at reduced
      omega
    subst zero
    exact ⟨Numeral.zero, rfl, fun _ => rfl⟩
  · have odd : mantissa % 2 = 1 := reduced.resolve_right fun other => zero other.1
    have positive : 0 < mantissa := by omega
    obtain ⟨numeral, text, notWhole, value, scale⟩ :=
      exists_writes (Shortest.isProper_decimal range positive)
    obtain ⟨near, least⟩ := Shortest.roundsTo_decimal range positive
    rw [← value] at near
    refine ⟨numeral, ?_, fun reading => ?_⟩
    · rw [Binary64.write, if_neg zero, text]
    · rw [Numeral.read?, notWhole, Shortest.ofDecimal_eq range odd near (scale least)]
      rfl

end CardSearch.Json
