import CardSearch.Json.Printer
import CardSearch.Json.Reader
/-!
Strings in JSON documents. Characters outside ASCII may be written by the numbers of their code units,
two for those beyond the first plane. Main statement: a string that is written is read back, whatever
follows it.
-/
namespace CardSearch.Json

open Text

variable {text rest : Text} {c : Char} {unit low : Nat}

/-! ### Code units by number -/

theorem hexValue?_digitChar {n : Nat} (small : n < 16) : hexValue? n.digitChar = some n := by
  have each : ∀ n < 16, hexValue? n.digitChar = some n := by decide
  exact each n small

theorem hexDigits_four :
    hexDigits 4 unit = [(unit / 16 / 16 / 16 % 16).digitChar, (unit / 16 / 16 % 16).digitChar,
      (unit / 16 % 16).digitChar, (unit % 16).digitChar] := rfl

theorem unit?_hexDigits (small : unit < 0x10000) :
    unit? (unit / 16 / 16 / 16 % 16).digitChar (unit / 16 / 16 % 16).digitChar
      (unit / 16 % 16).digitChar (unit % 16).digitChar = some unit := by
  have digit : ∀ n, hexValue? (n % 16).digitChar = some (n % 16) := fun n =>
    hexValue?_digitChar (Nat.mod_lt _ (by decide))
  simp only [unit?, digit, Option.bind_eq_bind, Option.bind_some, Option.pure_def, Option.some.injEq]
  omega

theorem content?_escapeUnit (small : unit < 0x10000)
    (alone : isHighSurrogate unit = false ∧ isLowSurrogate unit = false) :
    content? (escapeUnit unit ++ rest) =
      (content? rest).map fun (content, rest) => (Char.ofNat unit :: content, rest) := by
  rw [escapeUnit, hexDigits_four]
  simp only [List.cons_append, List.nil_append]
  rw [content?, unit?_hexDigits small]
  simp only [alone.1, alone.2, Bool.false_eq_true, if_false]

theorem content?_escapePair (high : 0xd800 ≤ unit ∧ unit < 0xdc00)
    (second : 0xdc00 ≤ low ∧ low < 0xe000) :
    content? (escapeUnit unit ++ (escapeUnit low ++ rest)) =
      (content? rest).map fun (content, rest) =>
        (Char.ofNat (0x10000 + (unit - 0xd800) * 0x400 + (low - 0xdc00)) :: content, rest) := by
  have isHigh : isHighSurrogate unit = true := by simpa [isHighSurrogate] using high
  have isLow : isLowSurrogate low = true := by simpa [isLowSurrogate] using second
  rw [escapeUnit, escapeUnit, hexDigits_four, hexDigits_four]
  simp only [List.cons_append, List.nil_append]
  rw [content?, unit?_hexDigits (by omega)]
  simp only [isHigh, if_true]
  rw [unit?_hexDigits (by omega)]
  simp only [isLow, if_true]

/-! ### Characters -/

theorem toNat_cases (c : Char) : c.toNat < 0xd800 ∨ 0xdfff < c.toNat ∧ c.toNat < 0x110000 := c.valid

theorem content?_escapeByNumber :
    content? (escapeByNumber c ++ rest) =
      (content? rest).map fun (content, rest) => (c :: content, rest) := by
  have range := toNat_cases c
  rw [escapeByNumber]
  by_cases small : c.toNat < 0x10000
  · have alone : isHighSurrogate c.toNat = false ∧ isLowSurrogate c.toNat = false := by
      simp only [isHighSurrogate, isLowSurrogate, Bool.and_eq_false_iff, decide_eq_false_iff_not]
      omega
    rw [if_pos small, content?_escapeUnit small alone, Char.ofNat_toNat]
  · have joined : 0x10000 + (0xd800 + (c.toNat - 0x10000) / 0x400 - 0xd800) * 0x400 +
        (0xdc00 + (c.toNat - 0x10000) % 0x400 - 0xdc00) = c.toNat := by omega
    rw [if_neg small, List.append_assoc, content?_escapePair (by omega) (by omega), joined,
      Char.ofNat_toNat]

theorem content?_short {letter : Char} (known : shortEscape? letter = some c) (other : letter ≠ 'u') :
    content? ('\\' :: letter :: rest) =
      (content? rest).map fun (content, rest) => (c :: content, rest) := by
  rw [content?, known]
  exact fun _ _ _ _ _ same _ => other same

theorem content?_plain (quote : c ≠ '"') (backslash : c ≠ '\\') (printed : 0x20 ≤ c.toNat) :
    content? (c :: rest) = (content? rest).map fun (content, rest) => (c :: content, rest) := by
  rw [content?, if_neg (Nat.not_lt.mpr printed)]
  · exact fun same => quote same
  · exact fun _ _ _ _ _ same _ => backslash same
  · exact fun _ _ same _ => backslash same

theorem content?_escapeChar (asciiOnly : Bool) :
    content? (escapeChar asciiOnly c ++ rest) =
      (content? rest).map fun (content, rest) => (c :: content, rest) := by
  have range := toNat_cases c
  rw [escapeChar]
  split
  · rename_i marked
    rw [Bool.or_eq_true, beq_iff_eq, beq_iff_eq] at marked
    rcases marked with rfl | rfl
    · exact content?_short rfl (by decide)
    · exact content?_short rfl (by decide)
  · rename_i unmarked
    rw [Bool.or_eq_true, beq_iff_eq, beq_iff_eq, not_or] at unmarked
    by_cases newline : c = '\n'
    · subst newline
      exact content?_short rfl (by decide)
    by_cases back : c = '\r'
    · subst back
      exact content?_short rfl (by decide)
    by_cases tab : c = '\t'
    · subst tab
      exact content?_short rfl (by decide)
    by_cases backspace : c = '\x08'
    · subst backspace
      exact content?_short rfl (by decide)
    by_cases feed : c = '\x0c'
    · subst feed
      exact content?_short rfl (by decide)
    simp only [beq_iff_eq, newline, back, tab, backspace, feed, if_false]
    split
    · have alone : isHighSurrogate c.toNat = false ∧ isLowSurrogate c.toNat = false := by
        simp only [isHighSurrogate, isLowSurrogate, Bool.and_eq_false_iff, decide_eq_false_iff_not]
        omega
      rw [content?_escapeUnit (by omega) alone, Char.ofNat_toNat]
    · split
      · exact content?_escapeByNumber
      · exact content?_plain unmarked.1 unmarked.2 (by omega)

theorem content?_written (asciiOnly : Bool) :
    content? (text.flatMap (escapeChar asciiOnly) ++ '"' :: rest) = some (text, rest) := by
  induction text with
  | nil => simp [content?]
  | cons c text ih =>
    rw [List.flatMap_cons, List.append_assoc, content?_escapeChar, ih]
    rfl

end CardSearch.Json
