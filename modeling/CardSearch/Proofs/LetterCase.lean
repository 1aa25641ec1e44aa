import CardSearch.Text.Blank
import CardSearch.Text.DecimalDigit
import CardSearch.Text.LetterCase
import Mathlib.Data.List.Basic
/-!
Texts that lowering leaves alone, and what lowering can produce. A sigma looks at the letters around
it, but never past a character that is neither a letter nor a mark on one, so a text may be lowered
in the parts between such characters.
-/
namespace CardSearch.Text

/-! ### Texts in lower case -/

/-- A character that stands for itself in lower case, whatever is around it. -/
def IsLowered (c : Char) : Prop :=
  c ≠ 'Σ' ∧ c ≠ 'İ' ∧ lowerCodeFrom capitals c.toNat = c.toNat

instance (c : Char) : Decidable (IsLowered c) := by
  unfold IsLowered
  infer_instance

theorem lowerChar_of_isLowered {c : Char} (lowered : IsLowered c) (afterLetter : Bool)
    (rest : Text) : lowerChar afterLetter c rest = [c] := by
  obtain ⟨notSigma, notDotted, same⟩ := lowered
  simp [lowerChar, notSigma, notDotted, same]

private theorem isLowered_of_lowerChar {c : Char} {afterLetter : Bool} {rest tail more : Text}
    (same : lowerChar afterLetter c rest ++ tail = c :: more) : IsLowered c ∧ tail = more := by
  by_cases sigma : c = 'Σ'
  · subst c
    rw [lowerChar] at same
    by_cases final : (afterLetter && endsWord rest) = true <;> simp [final] at same
  by_cases dotted : c = 'İ'
  · subst c
    simp [lowerChar] at same
  simp only [lowerChar, beq_iff_eq, sigma, dotted, if_false, List.cons_append, List.nil_append,
    List.cons.injEq] at same
  refine ⟨⟨sigma, dotted, ?_⟩, same.2⟩
  have shown := same.1
  by_cases valid : (lowerCodeFrom capitals c.toNat).isValidChar
  · rw [Char.ofNat, dif_pos valid] at shown
    exact congrArg Char.toNat shown
  · rw [Char.ofNat, dif_neg valid] at shown
    rw [← shown] at valid
    exact absurd (by decide) valid

/-- Lowering leaves a text alone exactly if it leaves each of its characters alone. -/
theorem lower_eq_self_iff {text : Text} : lower text = text ↔ ∀ c ∈ text, IsLowered c := by
  have from' : ∀ afterLetter, lowerFrom afterLetter text = text ↔ ∀ c ∈ text, IsLowered c := by
    induction text with
    | nil => simp [lowerFrom]
    | cons c rest ih =>
      intro afterLetter
      rw [List.forall_mem_cons, ← ih (afterLetterThen afterLetter c), lowerFrom]
      constructor
      · exact isLowered_of_lowerChar
      · rintro ⟨lowered, same⟩
        rw [lowerChar_of_isLowered lowered, same]
        rfl
  exact from' false

theorem lowerCode_of_isLowered {c : Char} (lowered : IsLowered c) : lowerCode c.toNat = c.toNat := by
  have notDotted : c.toNat ≠ 0x130 := fun same => lowered.2.1 (Char.toNat_inj.mp same)
  rw [lowerCode, if_neg (by simpa using notDotted), lowered.2.2]

/-! ### Families of capitals -/

theorem Capitals.holds_iff {family : Capitals} {code : Nat} :
    family.holds code = true ↔
      (family.first ≤ code ∧ code ≤ family.last) ∧ (code - family.first) % family.step = 0 := by
  simp [holds]

private theorem lowerCodeFrom_cases (families : List Capitals) (code : Nat) :
    lowerCodeFrom families code = code ∨
      ∃ family ∈ families, family.holds code = true ∧
        lowerCodeFrom families code = (code + family.shift).toNat := by
  induction families with
  | nil => exact .inl rfl
  | cons family families ih =>
    rw [lowerCodeFrom]
    split
    · exact .inl rfl
    · split
      · rename_i holds
        exact .inr ⟨family, by simp, holds, rfl⟩
      · rcases ih with same | ⟨other, member, holds, shifted⟩
        · exact .inl same
        · exact .inr ⟨other, by simp [member], holds, shifted⟩

private def apartFromCapitals (first last : Nat) : Bool :=
  (capitals.all fun family => family.last < first || last < family.first) &&
    ['Σ', 'İ'].all fun c => c.toNat < first || last < c.toNat

private theorem isLowered_of_apart {c : Char} {first last : Nat}
    (apart : apartFromCapitals first last = true) (above : first ≤ c.toNat)
    (below : c.toNat ≤ last) : IsLowered c := by
  rw [apartFromCapitals, Bool.and_eq_true] at apart
  obtain ⟨families, exceptions⟩ := apart
  simp only [List.all_cons, List.all_nil, Bool.and_true, Bool.and_eq_true, Bool.or_eq_true,
    decide_eq_true_eq] at exceptions
  refine ⟨?_, ?_, ?_⟩
  · rintro rfl
    omega
  · rintro rfl
    omega
  · rcases lowerCodeFrom_cases capitals c.toNat with same | ⟨family, member, holds, _⟩
    · exact same
    · have within := (Capitals.holds_iff.mp holds).1
      have apart := List.all_eq_true.mp families family member
      simp only [Bool.or_eq_true, decide_eq_true_eq] at apart
      omega

private theorem digits_apartFromCapitals :
    (digitZeros.all fun nought => apartFromCapitals nought (nought + 9)) = true := by
  decide +kernel

private theorem digits_apart_blanks :
    (digitZeros.all fun nought => blankRanges.all fun range =>
      range.2 < nought || nought + 9 < range.1) = true := by
  decide +kernel

private theorem exists_digitZero {c : Char} (digit : isDigit c = true) :
    ∃ nought ∈ digitZeros, nought ≤ c.toNat ∧ c.toNat ≤ nought + 9 := by
  rw [isDigit, digitValue?, Option.isSome_map, List.find?_isSome] at digit
  obtain ⟨nought, member, within⟩ := digit
  simp only [Bool.and_eq_true, decide_eq_true_eq] at within
  exact ⟨nought, member, within.1, by omega⟩

private theorem exists_range {ranges : List (Nat × Nat)} {code : Nat}
    (inside : inRanges ranges code = true) :
    ∃ range ∈ ranges, range.1 ≤ code ∧ code ≤ range.2 := by
  induction ranges with
  | nil => simp [inRanges] at inside
  | cons range ranges ih =>
    obtain ⟨first, last⟩ := range
    rw [inRanges] at inside
    split at inside
    · contradiction
    · rename_i above
      simp only [Bool.or_eq_true, decide_eq_true_eq] at inside
      rcases inside with below | later
      · exact ⟨(first, last), by simp, Nat.not_lt.mp above, below⟩
      · obtain ⟨range, member, within⟩ := ih later
        exact ⟨range, by simp [member], within⟩

private theorem inRanges_eq_false {ranges : List (Nat × Nat)} {code first last : Nat}
    (apart : (ranges.all fun range => range.2 < first || last < range.1) = true)
    (above : first ≤ code) (below : code ≤ last) : inRanges ranges code = false := by
  refine Bool.eq_false_iff.mpr fun inside => ?_
  obtain ⟨range, member, start, stop⟩ := exists_range inside
  have apart := List.all_eq_true.mp apart range member
  simp only [Bool.or_eq_true, decide_eq_true_eq] at apart
  omega

theorem isLowered_of_isDigit {c : Char} (digit : isDigit c = true) : IsLowered c := by
  obtain ⟨nought, member, above, below⟩ := exists_digitZero digit
  exact isLowered_of_apart (List.all_eq_true.mp digits_apartFromCapitals nought member) above below

theorem isBlank_of_isDigit {c : Char} (digit : isDigit c = true) : isBlank c = false := by
  obtain ⟨nought, member, above, below⟩ := exists_digitZero digit
  exact inRanges_eq_false (List.all_eq_true.mp digits_apart_blanks nought member) above below

/-! ### Lowering in parts -/

def IsNeutral (c : Char) : Prop := IsLowered c ∧ isCased c = false ∧ isCasingMark c = false

instance (c : Char) : Decidable (IsNeutral c) := by
  unfold IsNeutral
  infer_instance

private theorem blanks_neutral :
    (blankRanges.all fun blanks => apartFromCapitals blanks.1 blanks.2 &&
      (casedRanges.all fun range => range.2 < blanks.1 || blanks.2 < range.1) &&
      casingMarkRanges.all fun range => range.2 < blanks.1 || blanks.2 < range.1) = true := by
  decide +kernel

theorem isNeutral_of_isBlank {c : Char} (blank : isBlank c = true) : IsNeutral c := by
  obtain ⟨blanks, inside, above, below⟩ := exists_range blank
  have apart := List.all_eq_true.mp blanks_neutral blanks inside
  rw [Bool.and_eq_true, Bool.and_eq_true] at apart
  obtain ⟨⟨lowered, uncased⟩, unmarked⟩ := apart
  exact ⟨isLowered_of_apart lowered above below, inRanges_eq_false uncased above below,
    inRanges_eq_false unmarked above below⟩

private theorem endsWord_append {later : Text} (ends : endsWord later = true) (before : Text) :
    endsWord (before ++ later) = endsWord before := by
  rw [endsWord] at ends
  rw [endsWord, endsWord, List.dropWhile_append]
  cases marks : before.dropWhile isCasingMark with
  | nil => simpa using ends
  | cons d rest => simp

private theorem lowerFrom_append {later : Text} (ends : endsWord later = true) (afterLetter : Bool)
    (before : Text) :
    lowerFrom afterLetter (before ++ later) =
      lowerFrom afterLetter before ++ lowerFrom (before.foldl afterLetterThen afterLetter) later := by
  induction before generalizing afterLetter with
  | nil => rfl
  | cons d before ih =>
    have same : lowerChar afterLetter d (before ++ later) = lowerChar afterLetter d before := by
      rw [lowerChar, lowerChar, endsWord_append ends]
    rw [List.cons_append, lowerFrom, lowerFrom, same, ih, List.append_assoc, List.foldl_cons]

private theorem lowerFrom_cons {c : Char} (lowered : IsLowered c) (afterLetter : Bool) (text : Text) :
    lowerFrom afterLetter (c :: text) = c :: lowerFrom (afterLetterThen afterLetter c) text := by
  rw [lowerFrom, lowerChar_of_isLowered lowered, List.singleton_append]

theorem lower_append {c : Char} (neutral : IsNeutral c) (before later : Text) :
    lower (before ++ c :: later) = lower before ++ c :: lower later := by
  obtain ⟨lowered, uncased, unmarked⟩ := neutral
  have ends : endsWord (c :: later) = true := by simp [endsWord, unmarked, uncased]
  have next (afterLetter : Bool) : afterLetterThen afterLetter c = false := by
    simp [afterLetterThen, uncased, unmarked]
  rw [lower, lowerFrom_append ends, lowerFrom_cons lowered, next]
  rfl

theorem lower_cons {c : Char} (lowered : IsLowered c) (uncased : isCased c = false) (text : Text) :
    lower (c :: text) = c :: lower text := by
  have next : afterLetterThen false c = false := by simp [afterLetterThen, uncased]
  rw [lower, lowerFrom_cons lowered, next]
  rfl

theorem lower_concat {c : Char} (lowered : IsLowered c) (uncased : isCased c = false) (text : Text) :
    lower (text ++ [c]) = lower text ++ [c] := by
  have ends : endsWord [c] = true := by
    cases mark : isCasingMark c <;> simp [endsWord, mark, uncased]
  rw [lower, lowerFrom_append ends, lowerFrom_cons lowered]
  rfl

theorem lower_blanks_append {blanks : Text} (blank : ∀ c ∈ blanks, isBlank c = true) (text : Text) :
    lower (blanks ++ text) = blanks ++ lower text := by
  induction blanks with
  | nil => rfl
  | cons c blanks ih =>
    rw [List.forall_mem_cons] at blank
    have neutral := isNeutral_of_isBlank blank.1
    rw [List.cons_append, lower_cons neutral.1 neutral.2.1, ih blank.2, List.cons_append]

theorem lower_append_blanks {blanks : Text} (blank : ∀ c ∈ blanks, isBlank c = true) (text : Text) :
    lower (text ++ blanks) = lower text ++ blanks := by
  induction blanks generalizing text with
  | nil => simp
  | cons c blanks ih =>
    rw [List.forall_mem_cons] at blank
    have neutral := isNeutral_of_isBlank blank.1
    rw [List.append_cons, ih blank.2, lower_concat neutral.1 neutral.2.1, ← List.append_cons]

theorem lower_joinWith_space (parts : List Text) :
    lower (joinWith [' '] parts) = joinWith [' '] (parts.map lower) := by
  induction parts with
  | nil => rfl
  | cons part parts ih =>
    by_cases single : parts = []
    · rw [single]
      rfl
    · rw [List.map_cons, joinWith_cons single, joinWith_cons (by simpa using single), ← ih,
        List.singleton_append, List.singleton_append, lower_append (by decide)]

/-! ### What lowering cannot produce -/

/-- No capital is lowered to a code point between two others, ends included. -/
private def apartFromLowered (first last : Nat) : Bool :=
  (capitals.all fun family => (family.last + family.shift).toNat < first ||
    last < (family.first + family.shift).toNat) &&
    ['\x00', 'i', '\u0307', 'σ', 'ς'].all fun c => c.toNat < first || last < c.toNat

private theorem eq_of_lowerCodeFrom {code first last : Nat}
    (apart : apartFromLowered first last = true) (above : first ≤ lowerCodeFrom capitals code)
    (below : lowerCodeFrom capitals code ≤ last) : lowerCodeFrom capitals code = code := by
  rw [apartFromLowered, Bool.and_eq_true] at apart
  rcases lowerCodeFrom_cases capitals code with same | ⟨family, member, holds, shifted⟩
  · exact same
  · have within := (Capitals.holds_iff.mp holds).1
    have apart := List.all_eq_true.mp apart.1 family member
    simp only [Bool.or_eq_true, decide_eq_true_eq] at apart
    omega

private theorem eq_of_mem_lowerChar {c d : Char} {first last : Nat} {afterLetter : Bool}
    {rest : Text} (apart : apartFromLowered first last = true) (above : first ≤ d.toNat)
    (below : d.toNat ≤ last) (member : d ∈ lowerChar afterLetter c rest) : d = c ∧ IsLowered c := by
  have exceptions := (Bool.and_eq_true_iff.mp apart).2
  simp only [List.all_cons, List.all_nil, Bool.and_true, Bool.and_eq_true, Bool.or_eq_true,
    decide_eq_true_eq] at exceptions
  obtain ⟨zero, i, dot, sigma, final⟩ := exceptions
  rw [lowerChar] at member
  split at member
  · rw [List.mem_singleton] at member
    split at member <;> rw [member] at above below <;> omega
  · rename_i notSigma
    split at member
    · simp only [List.mem_cons, List.not_mem_nil, or_false] at member
      rcases member with same | same <;> rw [same] at above below <;> omega
    · rename_i notDotted
      rw [List.mem_singleton] at member
      by_cases valid : (lowerCodeFrom capitals c.toNat).isValidChar
      · have code : d.toNat = lowerCodeFrom capitals c.toNat := by
          rw [member, Char.ofNat, dif_pos valid]
          rfl
        rw [code] at above below
        have fixed := eq_of_lowerCodeFrom apart above below
        exact ⟨Char.toNat_inj.mp (code.trans fixed), by simpa using notSigma,
          by simpa using notDotted, fixed⟩
      · rw [Char.ofNat, dif_neg valid] at member
        have nul : d.toNat = ('\x00').toNat := by rw [member]; rfl
        omega

private theorem mem_of_mem_lowerFrom {d : Char} {first last : Nat} {afterLetter : Bool} {text : Text}
    (apart : apartFromLowered first last = true) (above : first ≤ d.toNat)
    (below : d.toNat ≤ last) (member : d ∈ lowerFrom afterLetter text) :
    d ∈ text ∧ IsLowered d := by
  induction text generalizing afterLetter with
  | nil => contradiction
  | cons c rest ih =>
    rw [lowerFrom, List.mem_append] at member
    rcases member with here | later
    · obtain ⟨rfl, lowered⟩ := eq_of_mem_lowerChar apart above below here
      exact ⟨List.mem_cons_self .., lowered⟩
    · exact ⟨List.mem_cons_of_mem _ (ih later).1, (ih later).2⟩

/-- The marks up to the small letters and the capitals from A to Z among them, the marks behind the small
letters, and the dotted capital. -/
private theorem marks_apartFromLowered : apartFromLowered 0x21 0x60 = true ∧
    apartFromLowered 0x7b 0x7e = true ∧ apartFromLowered 0x130 0x130 = true := by
  decide +kernel

private theorem blanks_apartFromLowered :
    (blankRanges.all fun range => apartFromLowered range.1 range.2) = true := by
  decide +kernel

/-- A lowered text holds a punctuation mark only if the text holds it, and no capital from A to
Z. -/
theorem mem_of_mem_lower {c : Char} {text : Text} (above : 0x21 ≤ c.toNat) (below : c.toNat ≤ 0x5a)
    (member : c ∈ lower text) : c ∈ text ∧ IsLowered c :=
  mem_of_mem_lowerFrom marks_apartFromLowered.1 above (by omega) member

theorem mem_of_mem_lower_of_bracket {c : Char} {text : Text}
    (bracket : 0x5b ≤ c.toNat ∧ c.toNat ≤ 0x60 ∨ 0x7b ≤ c.toNat ∧ c.toNat ≤ 0x7e)
    (member : c ∈ lower text) : c ∈ text := by
  rcases bracket with ⟨above, below⟩ | ⟨above, below⟩
  · exact (mem_of_mem_lowerFrom marks_apartFromLowered.1 (by omega) below member).1
  · exact (mem_of_mem_lowerFrom marks_apartFromLowered.2.1 above below member).1

theorem eq_of_lowerCode {code : Nat} (above : 0x21 ≤ lowerCode code)
    (below : lowerCode code ≤ 0x5a) : lowerCode code = code := by
  rw [lowerCode] at above below ⊢
  split at below
  · contradiction
  · rename_i notDotted
    rw [if_neg notDotted] at above ⊢
    exact eq_of_lowerCodeFrom marks_apartFromLowered.1 above (by omega)

theorem mem_of_mem_lower_of_isBlank {c : Char} {text : Text} (blank : isBlank c = true)
    (member : c ∈ lower text) : c ∈ text := by
  obtain ⟨range, inside, above, below⟩ := exists_range blank
  have apart := List.all_eq_true.mp blanks_apartFromLowered range inside
  exact (mem_of_mem_lowerFrom apart above below member).1

private theorem lowerChar_ne_nil (afterLetter : Bool) (c : Char) (rest : Text) :
    lowerChar afterLetter c rest ≠ [] := by
  rw [lowerChar]
  split
  · simp
  · split <;> simp

private theorem lowerFrom_ne_nil (afterLetter : Bool) {text : Text} (some : text ≠ []) :
    lowerFrom afterLetter text ≠ [] := by
  cases text with
  | nil => exact absurd rfl some
  | cons c rest => simp [lowerFrom, lowerChar_ne_nil]

theorem lower_ne_nil {text : Text} (some : text ≠ []) : lower text ≠ [] :=
  lowerFrom_ne_nil false some

private theorem eq_of_mem_lowerChar_of_isBlank {c d : Char} {afterLetter : Bool} {rest : Text}
    (blank : isBlank d = true) (member : d ∈ lowerChar afterLetter c rest) : d = c := by
  obtain ⟨range, inside, above, below⟩ := exists_range blank
  have apart := List.all_eq_true.mp blanks_apartFromLowered range inside
  exact (eq_of_mem_lowerChar apart above below member).1

theorem head?_of_lower {c : Char} {text : Text} (blank : isBlank c = true)
    (first : (lower text).head? = some c) : text.head? = some c := by
  cases text with
  | nil => exact first
  | cons d rest =>
    rw [lower, lowerFrom, List.head?_append_of_ne_nil _ (lowerChar_ne_nil false d rest)] at first
    rw [eq_of_mem_lowerChar_of_isBlank blank (List.mem_of_head? first)]
    rfl

private theorem getLast?_of_lowerFrom {c : Char} {afterLetter : Bool} {text : Text}
    (blank : isBlank c = true) (last : (lowerFrom afterLetter text).getLast? = some c) :
    text.getLast? = some c := by
  induction text generalizing afterLetter with
  | nil => exact last
  | cons d rest ih =>
    rw [lowerFrom] at last
    cases rest with
    | nil =>
      rw [lowerFrom, List.append_nil] at last
      rw [eq_of_mem_lowerChar_of_isBlank blank (List.mem_of_getLast? last)]
      rfl
    | cons e rest =>
      rw [List.getLast?_append_of_ne_nil _ (lowerFrom_ne_nil _ (by simp))] at last
      rw [List.getLast?_cons_cons]
      exact ih last

theorem getLast?_of_lower {c : Char} {text : Text} (blank : isBlank c = true)
    (last : (lower text).getLast? = some c) : text.getLast? = some c :=
  getLast?_of_lowerFrom blank last

/-! ### Lowering twice -/

/-- No family holds a code point from `first` to `last`, or only some that lie an odd number of steps
behind `first` if those do not count. -/
private def passesOver (first last : Nat) (evenOnly : Bool) : List Capitals → Bool
  | [] => true
  | family :: families =>
    Nat.blt last family.first ||
      ((Nat.blt family.last first ||
        (evenOnly && family.step == 2 && (first + family.first) % 2 == 1)) &&
          passesOver first last evenOnly families)

private theorem lowerCodeFrom_of_passesOver {first last code : Nat} {evenOnly : Bool}
    {families : List Capitals} (passed : passesOver first last evenOnly families = true)
    (above : first ≤ code) (below : code ≤ last)
    (even : evenOnly = true → (code - first) % 2 = 0) : lowerCodeFrom families code = code := by
  induction families with
  | nil => rfl
  | cons family families ih =>
    rw [passesOver, Bool.or_eq_true, Bool.and_eq_true, Bool.or_eq_true, Nat.blt_eq, Nat.blt_eq] at passed
    rw [lowerCodeFrom]
    split
    · rfl
    · rename_i reached
      obtain early | ⟨apart, later⟩ := passed
      · omega
      · have free : family.holds code = false := by
          rw [Bool.eq_false_iff, ne_eq, Capitals.holds_iff]
          rintro ⟨⟨_, inside⟩, step⟩
          rcases apart with behind | odd
          · omega
          · simp only [Bool.and_eq_true, beq_iff_eq] at odd
            have steady := even odd.1.1
            rw [odd.1.2] at step
            omega
        rw [free]
        simpa using ih later

private theorem lowered_passesOver :
    (capitals.all fun family =>
      passesOver (family.first + family.shift).toNat (family.last + family.shift).toNat
        (family.step == 2 || family.first == family.last) capitals) = true ∧
      (capitals.all fun family => 0 ≤ family.first + family.shift) = true := by
  decide +kernel

theorem eq_or_mem_capitalsOf (code : Nat) :
    code = lowerCode code ∨ code ∈ capitalsOf (lowerCode code) := by
  by_cases dotted : code = 0x130
  · subst dotted
    exact .inr (List.mem_append_left _ (by decide))
  rw [lowerCode, if_neg (by simpa using dotted)]
  rcases lowerCodeFrom_cases capitals code with same | ⟨family, member, holds, shifted⟩
  · exact .inl same.symm
  by_cases same : code = lowerCodeFrom capitals code
  · exact .inl same
  have positive := List.all_eq_true.mp lowered_passesOver.2 family member
  obtain ⟨⟨above, -⟩, -⟩ := Capitals.holds_iff.mp holds
  rw [decide_eq_true_eq] at positive
  have back : ((lowerCodeFrom capitals code : Int) - family.shift).toNat = code := by omega
  refine .inr (List.mem_append_right _ (List.mem_filterMap.mpr ⟨family, member, ?_⟩))
  dsimp only
  rw [back, holds, if_pos (by simpa using same)]

private theorem lowerCodeFrom_lowerCodeFrom (code : Nat) :
    lowerCodeFrom capitals (lowerCodeFrom capitals code) = lowerCodeFrom capitals code := by
  rcases lowerCodeFrom_cases capitals code with same | ⟨family, member, holds, shifted⟩
  · rw [same, same]
  · have passed := List.all_eq_true.mp lowered_passesOver.1 family member
    have positive := List.all_eq_true.mp lowered_passesOver.2 family member
    obtain ⟨within, step⟩ := Capitals.holds_iff.mp holds
    rw [decide_eq_true_eq] at positive
    rw [shifted]
    refine lowerCodeFrom_of_passesOver passed (by omega) (by omega) fun even => ?_
    rw [Bool.or_eq_true, beq_iff_eq, beq_iff_eq] at even
    rcases even with two | single
    · rw [two] at step
      omega
    · omega

private theorem isLowered_of_mem_lowerChar {c d : Char} {afterLetter : Bool} {rest : Text}
    (member : d ∈ lowerChar afterLetter c rest) : IsLowered d := by
  rw [lowerChar] at member
  split at member
  · rw [List.mem_singleton] at member
    subst d
    split <;> decide +kernel
  · split at member
    · simp only [List.mem_cons, List.not_mem_nil, or_false] at member
      rcases member with rfl | rfl <;> decide +kernel
    · rename_i notDotted
      rw [List.mem_singleton] at member
      by_cases valid : (lowerCodeFrom capitals c.toNat).isValidChar
      · have code : d.toNat = lowerCodeFrom capitals c.toNat := by
          rw [member, Char.ofNat, dif_pos valid]
          rfl
        have fixed : lowerCodeFrom capitals d.toNat = d.toNat := by
          rw [code, lowerCodeFrom_lowerCodeFrom]
        refine ⟨?_, ?_, fixed⟩
        · rintro rfl
          revert fixed
          decide +kernel
        · rintro rfl
          have same : lowerCodeFrom capitals c.toNat = c.toNat := by
            refine eq_of_lowerCodeFrom marks_apartFromLowered.2.2 ?_ ?_ <;> rw [← code] <;> decide
          rw [same] at code
          simp [← Char.toNat_inj, ← code] at notDotted
      · rw [member, Char.ofNat, dif_neg valid]
        decide +kernel

private theorem isLowered_of_mem_lowerFrom {d : Char} {afterLetter : Bool} {text : Text}
    (member : d ∈ lowerFrom afterLetter text) : IsLowered d := by
  induction text generalizing afterLetter with
  | nil => contradiction
  | cons c rest ih =>
    rw [lowerFrom, List.mem_append] at member
    rcases member with here | later
    · exact isLowered_of_mem_lowerChar here
    · exact ih later

theorem isLowered_of_mem_lower {d : Char} {text : Text} (member : d ∈ lower text) : IsLowered d :=
  isLowered_of_mem_lowerFrom member

@[simp] theorem lower_lower (text : Text) : lower (lower text) = lower text :=
  lower_eq_self_iff.mpr fun _ member => isLowered_of_mem_lower member

end CardSearch.Text
