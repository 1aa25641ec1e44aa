import CardSearch.Proofs.GroupTruth
import Mathlib.Data.List.Induction
/-!
Queries in which groups were replaced, read before and after some of the groups have turned true. One
letter stands for each placeholder, so a query and what became of it are one text that is filled in two
ways. Placeholders hold nothing that the evaluator looks for, so a text that is filled in is cut where
the text with the stand-ins is cut. Main statements: this holds of masks, connectives, words, groups
and proximity clauses.
-/
namespace CardSearch.Query

open Text

/-! ### Filling in placeholders -/

def blanked (text : Text) : Text := List.replicate text.length blankMark

/-- `T` and `F` stand for groups that are true or false all along, `G` for one that turns true; the
other letters stand for the same groups inside a phrase of a mask. -/
def standIns : Text := ['T', 'F', 'G', 'U', 'H', 'V']

def fill (later : Bool) (c : Char) : Text :=
  if c = 'T' then truePlaceholder
  else if c = 'F' then falsePlaceholder
  else if c = 'G' then placeholder later
  else if c = 'U' then blanked truePlaceholder
  else if c = 'H' then blanked falsePlaceholder
  else if c = 'V' then blanked (placeholder later)
  else [c]

def filled (later : Bool) (text : Text) : Text := text.flatMap (fill later)

/-- Characters that nothing is looked for by: the stand-ins and what is filled in for them. -/
def inert : Text := ['_', 'T', 'R', 'U', 'E', 'F', 'A', 'L', 'S', 'G', 'H', 'V']

variable {later : Bool} {c : Char} {s m : Text}

theorem fill_of_plain (plain : c ∉ standIns) : fill later c = [c] := by
  simp only [standIns, List.mem_cons, List.not_mem_nil, or_false, not_or] at plain
  simp [fill, plain]

theorem fill_of_standIn (later : Bool) (standIn : c ∈ standIns) :
    ∃ run, fill later c = blankMark :: run ∧ ∀ d ∈ fill later c, d ∈ inert := by
  have blanks : ∀ text : Text, ∀ d ∈ blanked text, d ∈ inert := by
    intro text d member
    rw [(List.mem_replicate.mp member).2]
    decide
  simp only [standIns, List.mem_cons, List.not_mem_nil, or_false] at standIn
  obtain rfl | rfl | rfl | rfl | rfl | rfl := standIn
  · cases later <;> exact ⟨_, rfl, by decide⟩
  · cases later <;> exact ⟨_, rfl, by decide⟩
  · cases later <;> exact ⟨_, rfl, by decide⟩
  · exact ⟨_, rfl, blanks _⟩
  · exact ⟨_, rfl, blanks _⟩
  · cases later <;> exact ⟨_, rfl, blanks _⟩

theorem inert_of_standIn (standIn : c ∈ standIns) : c ∈ inert := by
  revert c
  decide

@[simp] theorem filled_nil : filled later [] = [] := rfl

@[simp] theorem filled_cons : filled later (c :: s) = fill later c ++ filled later s :=
  List.flatMap_cons

@[simp] theorem filled_append (a b : Text) :
    filled later (a ++ b) = filled later a ++ filled later b := List.flatMap_append

theorem filled_of_plain (plain : ∀ c ∈ s, c ∉ standIns) : filled later s = s := by
  induction s with
  | nil => rfl
  | cons c s ih =>
    rw [List.forall_mem_cons] at plain
    rw [filled_cons, fill_of_plain plain.1, ih plain.2]
    rfl

theorem fill_ne_nil (later : Bool) (c : Char) : fill later c ≠ [] := by
  by_cases standIn : c ∈ standIns
  · obtain ⟨run, same, -⟩ := fill_of_standIn later standIn
    simp [same]
  · simp [fill_of_plain standIn]

theorem filled_eq_nil_iff : filled later s = [] ↔ s = [] := by
  cases s with
  | nil => simp
  | cons c s => simp [fill_ne_nil]

theorem mem_filled_iff {d : Char} (spare : d ∉ inert) : d ∈ filled later s ↔ d ∈ s := by
  induction s with
  | nil => simp
  | cons c s ih =>
    rw [filled_cons, List.mem_append, ih, List.mem_cons]
    apply or_congr_left
    by_cases standIn : c ∈ standIns
    · obtain ⟨run, -, all⟩ := fill_of_standIn later standIn
      constructor
      · intro inside
        exact absurd (all d inside) spare
      · rintro rfl
        exact absurd (inert_of_standIn standIn) spare
    · rw [fill_of_plain standIn, List.mem_singleton]

theorem contains_filled {d : Char} (spare : d ∉ inert) :
    (filled later s).contains d = s.contains d := by
  rw [Bool.eq_iff_iff, List.contains_iff_mem, List.contains_iff_mem, mem_filled_iff spare]

/-! ### Scanning and trimming -/

section

variable {p : Char → Bool} {text : Text}

theorem dropWhile_eq_self (stops : text.head?.any p = false) : text.dropWhile p = text := by
  cases text with
  | nil => rfl
  | cons c text => exact List.dropWhile_cons_of_neg (by simpa using stops)

theorem takeWhile_eq_nil (stops : text.head?.any p = false) : text.takeWhile p = [] := by
  cases text with
  | nil => rfl
  | cons c text => exact List.takeWhile_cons_of_neg (by simpa using stops)

end

section

variable {p : Char → Bool} (overlooks : ∀ d ∈ inert, p d = false)

include overlooks

theorem plain_of_passes (passes : p c = true) : c ∉ standIns := by
  intro standIn
  rw [overlooks c (inert_of_standIn standIn)] at passes
  contradiction

theorem fill_fails (later : Bool) (fails : p c = false) : ∀ d ∈ fill later c, p d = false := by
  intro d member
  by_cases standIn : c ∈ standIns
  · obtain ⟨run, -, all⟩ := fill_of_standIn later standIn
    exact overlooks d (all d member)
  · rw [fill_of_plain standIn, List.mem_singleton] at member
    rwa [member]

theorem head_filled (later : Bool) (s : Text) :
    (filled later s).head?.any p = s.head?.any p := by
  cases s with
  | nil => rfl
  | cons c s =>
    by_cases standIn : c ∈ standIns
    · obtain ⟨run, same, -⟩ := fill_of_standIn later standIn
      rw [filled_cons, same]
      simp [overlooks c (inert_of_standIn standIn), overlooks blankMark (by decide)]
    · rw [filled_cons, fill_of_plain standIn]
      rfl

theorem filled_eq_passing_append :
    filled later s = s.takeWhile p ++ filled later (s.dropWhile p) := by
  have plain : ∀ d ∈ s.takeWhile p, d ∉ standIns :=
    fun d member => plain_of_passes overlooks (List.mem_takeWhile_imp member)
  conv_lhs => rw [← List.takeWhile_append_dropWhile (p := p) (l := s)]
  rw [filled_append, filled_of_plain plain]

theorem head_filled_dropWhile : (filled later (s.dropWhile p)).head?.any p = false := by
  have stops := List.head?_dropWhile_not p s
  rw [head_filled overlooks]
  cases first : (s.dropWhile p).head? with
  | none => rfl
  | some c => simpa [first] using stops

theorem dropWhile_filled : (filled later s).dropWhile p = filled later (s.dropWhile p) := by
  rw [filled_eq_passing_append overlooks,
    List.dropWhile_append_of_pos fun d member => List.mem_takeWhile_imp member,
    dropWhile_eq_self (head_filled_dropWhile overlooks)]

theorem takeWhile_filled : (filled later s).takeWhile p = s.takeWhile p := by
  rw [filled_eq_passing_append overlooks,
    List.takeWhile_append_of_pos fun d member => List.mem_takeWhile_imp member,
    takeWhile_eq_nil (head_filled_dropWhile overlooks), List.append_nil]

end

theorem isBlank_inert : ∀ d ∈ inert, isBlank d = false := by decide

theorem trimStart_filled (s : Text) : trimStart (filled later s) = filled later (trimStart s) :=
  dropWhile_filled isBlank_inert

theorem trimEnd_filled (s : Text) : trimEnd (filled later s) = filled later (trimEnd s) := by
  induction s using List.reverseRecOn with
  | nil => rfl
  | append_singleton s c ih =>
    rw [filled_append]
    by_cases blank : isBlank c = true
    · have single : filled later [c] = [c] := filled_of_plain (by
        simpa using plain_of_passes isBlank_inert blank)
      have blanks : ∀ d ∈ [c], isBlank d = true := by simpa using blank
      rw [single, trimEnd_append_blanks blanks, trimEnd_append_blanks blanks, ih]
    · have solid : isBlank c = false := by simpa using blank
      have filledSolid := fill_fails isBlank_inert later solid
      have kept : trimEnd (s ++ [c]) = s ++ [c] := trimEnd_eq_self (by simpa using solid)
      rw [kept, filled_append]
      apply trimEnd_eq_self
      intro d last
      rw [filled_cons, filled_nil, List.append_nil,
        List.getLast?_append_of_ne_nil _ (fill_ne_nil later c)] at last
      exact filledSolid d (List.mem_of_getLast? last)

theorem trim_filled (s : Text) : trim (filled later s) = filled later (trim s) := by
  rw [trim, trimStart_filled, trimEnd_filled, trim]

/-! ### Places in a text that is filled in -/

def placeIn (later : Bool) (text : Text) (place : Nat) : Nat :=
  (filled later (text.take place)).length

theorem placeIn_cons (place : Nat) :
    placeIn later (c :: s) (place + 1) = (fill later c).length + placeIn later s place := by
  simp [placeIn]

theorem filled_split (place : Nat) :
    filled later s = filled later (s.take place) ++ filled later (s.drop place) := by
  rw [← filled_append, List.take_append_drop]

theorem take_placeIn (place : Nat) :
    (filled later s).take (placeIn later s place) = filled later (s.take place) := by
  rw [filled_split place, placeIn]
  exact List.take_left

theorem drop_placeIn (place : Nat) :
    (filled later s).drop (placeIn later s place) = filled later (s.drop place) := by
  rw [filled_split place, placeIn]
  exact List.drop_left

theorem placeIn_add {place width : Nat} (plain : ∀ c ∈ (s.drop place).take width, c ∉ standIns)
    (inside : place + width ≤ s.length) :
    placeIn later s (place + width) = placeIn later s place + width := by
  have length : ((s.drop place).take width).length = width := by
    rw [List.length_take, List.length_drop]
    omega
  rw [placeIn, List.take_add, filled_append, List.length_append, filled_of_plain plain, length]
  rfl

/-! ### Looking for a piece -/

section

variable {piece : Text} (spare : ∀ d ∈ piece, d ∉ inert)

include spare

theorem prefix_filled_iff : piece <+: filled later s ↔ piece <+: s := by
  induction piece generalizing s with
  | nil => simp
  | cons d piece ih =>
    obtain ⟨fresh, rest⟩ := List.forall_mem_cons.mp spare
    cases s with
    | nil => simp
    | cons c s =>
      by_cases standIn : c ∈ standIns
      · obtain ⟨run, same, -⟩ := fill_of_standIn later standIn
        have first : d ≠ blankMark := by
          rintro rfl
          exact fresh (by decide)
        have other : d ≠ c := by
          rintro rfl
          exact fresh (inert_of_standIn standIn)
        simp [same, List.cons_prefix_cons, first, other]
      · simp [fill_of_plain standIn, List.cons_prefix_cons, ih rest]

theorem find?_skip (some : piece ≠ []) {front : Text} (skipped : ∀ d ∈ front, d ∈ inert) (rest : Text) :
    Text.find? piece (front ++ rest) = (Text.find? piece rest).map (front.length + ·) := by
  induction front with
  | nil => simp
  | cons d front ih =>
    rw [List.forall_mem_cons] at skipped
    have differs : ¬ piece.isPrefixOf (d :: (front ++ rest)) = true := by
      rw [List.isPrefixOf_iff_prefix]
      cases piece with
      | nil => contradiction
      | cons e piece =>
        rw [List.cons_prefix_cons]
        rintro ⟨rfl, -⟩
        exact spare e (List.mem_cons_self ..) skipped.1
    rw [List.cons_append, Text.find?, if_neg differs, ih skipped.2, Option.map_map]
    congr 1
    funext place
    simp only [Function.comp_apply, List.length_cons]
    omega

/-- A piece without inert characters is found where it was found before filling in. -/
theorem find?_filled (some : piece ≠ []) :
    Text.find? piece (filled later s) = (Text.find? piece s).map (placeIn later s) := by
  induction s with
  | nil =>
    cases piece with
    | nil => contradiction
    | cons d piece => rfl
  | cons c s ih =>
    have shifted : ∀ (found : Option Nat),
        (found.map (placeIn later s)).map ((fill later c).length + ·) =
          (found.map (· + 1)).map (placeIn later (c :: s)) := by
      intro found
      cases found with
      | none => rfl
      | some place => simp [placeIn_cons]
    by_cases standIn : c ∈ standIns
    · obtain ⟨run, -, all⟩ := fill_of_standIn later standIn
      have differs : ¬ piece.isPrefixOf (c :: s) = true := by
        rw [List.isPrefixOf_iff_prefix]
        cases piece with
        | nil => contradiction
        | cons d piece =>
          rw [List.cons_prefix_cons]
          rintro ⟨rfl, -⟩
          exact spare d (List.mem_cons_self ..) (inert_of_standIn standIn)
      rw [filled_cons, find?_skip spare some all, ih, shifted, Text.find?, if_neg differs]
    · have same : piece.isPrefixOf (c :: filled later s) = piece.isPrefixOf (c :: s) := by
        have whole : filled later (c :: s) = c :: filled later s := by
          rw [filled_cons, fill_of_plain standIn, List.singleton_append]
        rw [Bool.eq_iff_iff, List.isPrefixOf_iff_prefix, List.isPrefixOf_iff_prefix, ← whole]
        exact prefix_filled_iff spare
      have single : fill later c = [c] := fill_of_plain standIn
      rw [filled_cons, single, List.singleton_append, Text.find?, same, Text.find?]
      split
      · rfl
      · rw [ih, ← shifted, single]
        congr 1
        funext place
        simp [Nat.add_comm]

end

/-! ### Masks -/

def veil (c : Char) : Char :=
  if c = 'T' ∨ c = 'U' then 'U'
  else if c = 'F' ∨ c = 'H' then 'H'
  else if c = 'G' ∨ c = 'V' then 'V'
  else blankMark

theorem fill_veil (later : Bool) (c : Char) : fill later (veil c) = blanked (fill later c) := by
  by_cases standIn : c ∈ standIns
  · simp only [standIns, List.mem_cons, List.not_mem_nil, or_false] at standIn
    obtain rfl | rfl | rfl | rfl | rfl | rfl := standIn <;> cases later <;> decide
  · rw [fill_of_plain standIn]
    simp only [standIns, List.mem_cons, List.not_mem_nil, or_false, not_or] at standIn
    have hidden : veil c = blankMark := by simp [veil, standIn]
    rw [hidden, fill_of_plain (by decide)]
    rfl

def hide (c shown : Char) : Char := if shown = blankMark then veil c else c

theorem hide_self (c : Char) : hide c c = c := by
  unfold hide
  split
  · rename_i same
    rw [same]
    decide
  · rfl

def shadeFrom (scan : MaskScan) (text : Text) : Text := List.zipWith hide text (maskFrom scan text)

theorem shadeFrom_shown {scan next : MaskScan} {rest : Text}
    (step : maskFrom scan (c :: rest) = c :: maskFrom next rest) :
    shadeFrom scan (c :: rest) = c :: shadeFrom next rest := by
  rw [shadeFrom, step, List.zipWith_cons_cons, hide_self]
  rfl

def shade (text : Text) : Text := shadeFrom (.outside none) text

theorem not_mem_inert_of_isQuote {quote : Char} (isQuoted : isQuote quote = true) : quote ∉ inert := by
  obtain rfl | rfl := isQuote_iff.mp isQuoted
  · decide
  · decide

section

variable {quote : Char} (isQuoted : isQuote quote = true)

include isQuoted

theorem closesWith_filled : closesWith quote (filled later s) = closesWith quote s := by
  have fresh := not_mem_inert_of_isQuote isQuoted
  have other : ∀ d ∈ inert, (d == quote) = false := by
    intro d member
    rw [beq_eq_false_iff_ne]
    rintro rfl
    exact fresh member
  cases s with
  | nil => rfl
  | cons c s =>
    by_cases standIn : c ∈ standIns
    · obtain ⟨run, same, -⟩ := fill_of_standIn later standIn
      have here := other c (inert_of_standIn standIn)
      have there := other blankMark (by decide)
      rw [filled_cons, same, List.cons_append]
      cases s <;> cases hrun : run ++ filled later _ <;> simp [closesWith, here, there]
    · have next := head_filled (p := endsTerm) (by decide) later s
      rw [filled_cons, fill_of_plain standIn, List.singleton_append]
      cases s with
      | nil => rfl
      | cons d s =>
        cases first : filled later (d :: s) with
        | nil =>
          rw [filled_eq_nil_iff] at first
          contradiction
        | cons e rest =>
          rw [first] at next
          have ends : endsTerm e = endsTerm d := by simpa using next
          rw [endsTerm, endsTerm] at ends
          rw [closesWith, closesWith, ends]

omit isQuoted in
theorem phraseLength?_cons (line : c ≠ '\n') (rest : Text) :
    phraseLength? quote (c :: rest) =
      if closesWith quote rest then some 1 else (phraseLength? quote rest).map (· + 1) := by
  have inside : (c == '\n') = false := beq_eq_false_iff_ne.mpr line
  rw [phraseLength?, inside]
  rfl

omit isQuoted in
theorem phraseLength?_skip {front : Text} (some : front ≠ []) (skipped : ∀ d ∈ front, d ≠ '\n')
    (unquoted : ∀ d ∈ front.tail, d ≠ quote) (rest : Text) :
    phraseLength? quote (front ++ rest) =
      if closesWith quote rest then Option.some front.length
      else (phraseLength? quote rest).map (front.length + ·) := by
  induction front with
  | nil => contradiction
  | cons d front ih =>
    obtain ⟨line, lines⟩ := List.forall_mem_cons.mp skipped
    rw [List.cons_append, phraseLength?_cons line]
    cases front with
    | nil => simp [Nat.add_comm]
    | cons e front =>
      obtain ⟨other, others⟩ := List.forall_mem_cons.mp unquoted
      have open' : ¬ closesWith quote ((e :: front) ++ rest) = true := by
        cases hrest : front ++ rest <;> simp [closesWith, other, hrest]
      rw [if_neg open', ih (by simp) lines others]
      split
      · rfl
      · rw [Option.map_map]
        congr 1
        funext n
        simp only [Function.comp_apply, List.length_cons]
        omega

theorem phraseLength?_filled (later : Bool) (s : Text) :
    phraseLength? quote (filled later s) = (phraseLength? quote s).map (placeIn later s) := by
  induction s with
  | nil => rfl
  | cons c s ih =>
    by_cases newline : c = '\n'
    · subst newline
      have plain : fill later '\n' = ['\n'] := fill_of_plain (by decide)
      rw [filled_cons, plain]
      rfl
    · have skipped : ∀ d ∈ fill later c, d ≠ '\n' := by
        have fails := fill_fails (c := c) (p := (· == '\n')) (by decide) later (by simpa using newline)
        simpa using fails
      have unquoted : ∀ d ∈ (fill later c).tail, d ≠ quote := by
        intro d member
        by_cases standIn : c ∈ standIns
        · obtain ⟨run, -, all⟩ := fill_of_standIn later standIn
          rintro rfl
          exact not_mem_inert_of_isQuote isQuoted (all d (List.mem_of_mem_tail member))
        · rw [fill_of_plain standIn] at member
          contradiction
      rw [filled_cons, phraseLength?_skip (fill_ne_nil later c) skipped unquoted,
        closesWith_filled isQuoted, ih, phraseLength?_cons newline]
      split
      · simp [placeIn]
      · cases phraseLength? quote s with
        | none => rfl
        | some n => simp [placeIn_cons]

end

theorem maskFrom_nil (scan : MaskScan) : maskFrom scan [] = [] := by
  cases scan <;> rfl

theorem maskFrom_inside_zero (text : Text) :
    maskFrom (.inside 0) text = maskFrom (.outside (some blankMark)) text := by
  cases text with
  | nil => rfl
  | cons c rest =>
    have closed : (isQuote c && opensAfter (some blankMark)) = false := by
      rw [Bool.and_eq_false_iff]
      exact .inr (by decide)
    rw [maskFrom, maskFrom, closed]
    rfl

theorem maskFrom_inside_fill (front rest : Text) (left : Nat) :
    maskFrom (.inside (front.length + left)) (front ++ rest) =
      blanked front ++ maskFrom (.inside left) rest := by
  induction front with
  | nil => simp [blanked]
  | cons d front ih =>
    have more : (d :: front).length + left = front.length + left + 1 := by
      rw [List.length_cons]
      omega
    rw [more, List.cons_append, maskFrom, ih]
    rfl

theorem maskFrom_outside_fill {before : Option Char} (closed : (isQuote c && opensAfter before) = false)
    (rest : Text) : maskFrom (.outside before) (fill later c ++ rest) =
      fill later c ++ maskFrom (.outside (some c)) rest := by
  by_cases standIn : c ∈ standIns
  · obtain ⟨run, same, all⟩ := fill_of_standIn later standIn
    have quoteless : ∀ d ∈ fill later c, isQuote d = false := fun d member => by
      have overlooked : ∀ d ∈ inert, isQuote d = false := by decide
      exact overlooked d (all d member)
    obtain ⟨last, there⟩ : ∃ last, (fill later c).getLast? = some last := by
      rw [same]
      exact ⟨_, List.getLast?_eq_getLast_of_ne_nil (by simp)⟩
    have inside := all last (List.mem_of_getLast? there)
    have closes : ∀ d ∈ inert, opensAfter (some d) = false := by decide
    rw [maskFrom_of_unquoted (unquoted_of_quoteless quoteless), there]
    congr 1
    apply maskFrom_outside_congr
    rw [Option.some_or, closes last inside, closes c (inert_of_standIn standIn)]
  · rw [fill_of_plain standIn, List.singleton_append, maskFrom, closed]
    rfl

def MaskScan.filledIn (later : Bool) : MaskScan → Text → MaskScan
  | .outside before, _ => .outside before
  | .inside left, text => .inside (placeIn later text left)

theorem maskFrom_filled (scan : MaskScan) (s : Text) :
    maskFrom (scan.filledIn later s) (filled later s) = filled later (shadeFrom scan s) := by
  -- Quotes open the same phrases in both texts. Inside a phrase a whole placeholder is hidden where
  -- one stand-in is, so the scan is as far inside as the filled text is long.
  fun_induction maskFrom scan s with
  | case1 scan => simp [shadeFrom, maskFrom_nil]
  | case2 c rest ih =>
    have closed : (isQuote c && opensAfter (some blankMark)) = false := by
      rw [Bool.and_eq_false_iff]
      exact .inr (by decide)
    have step : maskFrom (.inside 0) (c :: rest) = c :: maskFrom (.outside (some c)) rest := rfl
    rw [shadeFrom_shown step, filled_cons, filled_cons, ← ih]
    exact (maskFrom_inside_zero _).trans (maskFrom_outside_fill closed _)
  | case3 left c rest ih =>
    rw [shadeFrom, maskFrom, List.zipWith_cons_cons, ← shadeFrom, filled_cons, filled_cons, ← ih,
      hide, if_pos rfl, fill_veil, MaskScan.filledIn, placeIn_cons]
    exact maskFrom_inside_fill _ _ _
  | case4 before c rest opens length found ih =>
    have isQuoted := (Bool.and_eq_true_iff.mp opens).1
    have plain : c ∉ standIns := fun standIn =>
      not_mem_inert_of_isQuote isQuoted (inert_of_standIn standIn)
    have inner := phraseLength?_filled isQuoted later rest
    rw [found, Option.map_some] at inner
    have step : maskFrom (.outside before) (c :: rest) = c :: maskFrom (.inside length) rest := by
      rw [maskFrom, if_pos opens, found]
    rw [shadeFrom_shown step, filled_cons, filled_cons, fill_of_plain plain, ← ih,
      List.singleton_append, MaskScan.filledIn, maskFrom, if_pos opens, inner]
    rfl
  | case5 before c rest opens unclosed ih =>
    have isQuoted := (Bool.and_eq_true_iff.mp opens).1
    have plain : c ∉ standIns := fun standIn =>
      not_mem_inert_of_isQuote isQuoted (inert_of_standIn standIn)
    have inner := phraseLength?_filled isQuoted later rest
    rw [unclosed, Option.map_none] at inner
    have step : maskFrom (.outside before) (c :: rest) = c :: maskFrom (.outside (some c)) rest := by
      rw [maskFrom, if_pos opens, unclosed]
    rw [shadeFrom_shown step, filled_cons, filled_cons, fill_of_plain plain, ← ih,
      List.singleton_append, MaskScan.filledIn, maskFrom, if_pos opens, inner]
    rfl
  | case6 before c rest other ih =>
    have closed : (isQuote c && opensAfter before) = false := by simpa using other
    have step : maskFrom (.outside before) (c :: rest) = c :: maskFrom (.outside (some c)) rest := by
      rw [maskFrom, closed]
      rfl
    rw [shadeFrom_shown step, filled_cons, filled_cons, ← ih]
    exact maskFrom_outside_fill closed _

theorem mask_filled (s : Text) : mask (filled later s) = filled later (shade s) :=
  maskFrom_filled (.outside none) s

end CardSearch.Query
