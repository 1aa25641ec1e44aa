import CardSearch.Proofs.Occurrence
import CardSearch.Query.Evaluate
/-!
The mask of a text that is put together from parts. Where the mask shows a blank or a closing
parenthesis, no phrase is open, and what stands on either side is masked as if it stood alone; the
same holds for the blanks that trimming takes away. So a mask computed once may be cut along with
its query.
-/
namespace CardSearch.Query

open Text

def endsTerm (c : Char) : Bool := isBlank c || c == ')'

theorem isQuote_of_endsTerm {c : Char} (ends : endsTerm c = true) : isQuote c = false := by
  rw [endsTerm, Bool.or_eq_true] at ends
  rcases ends with blank | closes
  · by_cases quote : isQuote c = true
    · rw [isQuote, Bool.or_eq_true, beq_iff_eq, beq_iff_eq] at quote
      rcases quote with rfl | rfl <;> exact absurd blank (by decide)
    · exact Bool.eq_false_iff.mpr quote
  · rw [beq_iff_eq.mp closes]
    rfl

theorem endsTerm_ne_blankMark {c : Char} (ends : endsTerm c = true) : c ≠ blankMark := by
  rintro rfl
  exact absurd ends (by decide)

/-! ### The length of a phrase -/

variable {quote : Char} {before later : Text} {c : Char}

private theorem closesWith_append (isQuoted : isQuote quote = true) (ends : endsTerm c = true) :
    closesWith quote (before ++ c :: later) = closesWith quote before := by
  have other : (c == quote) = false := by
    rw [beq_eq_false_iff_ne]
    rintro rfl
    rw [isQuote_of_endsTerm ends] at isQuoted
    contradiction
  match before with
  | [] => cases later <;> simp [closesWith, other]
  | [d] =>
    rw [endsTerm] at ends
    simp [closesWith, ends]
  | d :: e :: rest => rfl

/-- A phrase that closes in front of the end of a term has the same length when more follows. -/
private theorem phraseLength?_append_some (isQuoted : isQuote quote = true)
    (ends : endsTerm c = true) {n : Nat} (found : phraseLength? quote before = some n) :
    phraseLength? quote (before ++ c :: later) = some n := by
  induction before generalizing n with
  | nil => cases found
  | cons d rest ih =>
    simp only [phraseLength?, List.cons_append, closesWith_append isQuoted ends] at found ⊢
    split
    · simp_all
    · split
      · simp_all
      · rename_i newline open'
        simp only [newline, open', if_false, Bool.false_eq_true] at found
        obtain ⟨k, inner, rfl⟩ := Option.map_eq_some_iff.mp found
        rw [ih inner]
        rfl

/-- A phrase that does not close in front of the end of a term reaches beyond it. -/
private theorem phraseLength?_append_none (isQuoted : isQuote quote = true)
    (ends : endsTerm c = true) (unclosed : phraseLength? quote before = none) {n : Nat}
    (found : phraseLength? quote (before ++ c :: later) = some n) : before.length < n := by
  induction before generalizing n with
  | nil =>
    rw [List.nil_append, phraseLength?] at found
    split at found
    · cases found
    · split at found
      · cases found
        exact Nat.one_pos
      · obtain ⟨k, _, rfl⟩ := Option.map_eq_some_iff.mp found
        exact Nat.succ_pos k
  | cons d rest ih =>
    simp only [phraseLength?, List.cons_append, closesWith_append isQuoted ends] at found unclosed
    split at found
    · cases found
    · rename_i newline
      simp only [newline, if_false, Bool.false_eq_true] at unclosed
      split at found
      · simp_all
      · rename_i open'
        simp only [open', if_false, Bool.false_eq_true, Option.map_eq_none_iff] at unclosed
        obtain ⟨k, inner, rfl⟩ := Option.map_eq_some_iff.mp found
        have := ih unclosed inner
        simp only [List.length_cons]
        omega

theorem phraseLength?_closes {text : Text} {n : Nat}
    (found : phraseLength? quote text = some n) : text[n]? = some quote := by
  induction text generalizing n with
  | nil => cases found
  | cons d rest ih =>
    rw [phraseLength?] at found
    split at found
    · cases found
    · split at found
      · rename_i closes
        cases found
        match rest with
        | [] => simp [closesWith] at closes
        | [e] => simpa [closesWith] using closes
        | e :: f :: more =>
          simp only [closesWith, Bool.and_eq_true, beq_iff_eq] at closes
          simp [closes.1]
      · obtain ⟨k, inner, rfl⟩ := Option.map_eq_some_iff.mp found
        simpa using ih inner

/-! ### Cutting a mask -/

theorem mask_ne_nil {query : Text} (some : query ≠ []) : mask query ≠ [] := by
  rw [ne_eq, ← List.length_eq_zero_iff, mask_length, List.length_eq_zero_iff]
  exact some

theorem maskFrom_inside_shows {left i : Nat} {text : Text} {d : Char} (deep : i < left)
    (shown : (maskFrom (.inside left) text)[i]? = some d) : d = blankMark := by
  induction text generalizing left i with
  | nil => cases left <;> simp [maskFrom] at shown
  | cons e rest ih =>
    cases left with
    | zero => omega
    | succ left =>
      cases i with
      | zero => simpa [maskFrom, eq_comm] using shown
      | succ i => exact ih (Nat.lt_of_succ_lt_succ deep) (by simpa [maskFrom] using shown)

/-- What is masked behind a place depends on whether a phrase may open there, and on nothing else
in front of it. -/
theorem maskFrom_outside_congr {a b : Option Char} (same : opensAfter a = opensAfter b)
    (text : Text) : maskFrom (.outside a) text = maskFrom (.outside b) text := by
  cases text with
  | nil => rfl
  | cons d rest => simp only [maskFrom, same]

theorem maskFrom_outside_cons {before : Option Char} {later : Text} (plain : isQuote c = false) :
    maskFrom (.outside before) (c :: later) = c :: maskFrom (.outside (some c)) later := by
  simp [maskFrom, plain]

theorem maskFrom_append (scan : MaskScan) (ends : endsTerm c = true)
    (shown : (maskFrom scan (before ++ c :: later))[before.length]? = some c) :
    maskFrom scan (before ++ c :: later) =
      maskFrom scan before ++ c :: maskFrom (.outside (some c)) later := by
  induction before generalizing scan with
  | nil =>
    cases scan with
    | outside a => exact maskFrom_outside_cons (isQuote_of_endsTerm ends)
    | inside left =>
      cases left with
      | zero => rfl
      | succ left =>
        have hidden := maskFrom_inside_shows (Nat.succ_pos left) shown
        exact absurd hidden (endsTerm_ne_blankMark ends)
  | cons d rest ih =>
    cases scan with
    | inside left =>
      cases left with
      | zero =>
        simp only [List.cons_append, maskFrom, List.length_cons, List.getElem?_cons_succ] at shown ⊢
        rw [ih _ shown]
      | succ left =>
        simp only [List.cons_append, maskFrom, List.length_cons, List.getElem?_cons_succ] at shown ⊢
        rw [ih _ shown]
    | outside a =>
      by_cases opens : (isQuote d && opensAfter a) = true
      · have isQuoted := (Bool.and_eq_true_iff.mp opens).1
        simp only [List.cons_append, maskFrom, opens, if_true] at shown ⊢
        cases closed : phraseLength? d rest with
        | some n =>
          rw [phraseLength?_append_some isQuoted ends closed] at shown ⊢
          simp only [List.length_cons, List.getElem?_cons_succ] at shown ⊢
          rw [ih _ shown]
          rfl
        | none =>
          cases reached : phraseLength? d (rest ++ c :: later) with
          | none =>
            rw [reached] at shown
            simp only [List.length_cons, List.getElem?_cons_succ] at shown ⊢
            rw [ih _ shown]
            rfl
          | some n =>
            -- the phrase would hide the place that the mask shows
            have deep := phraseLength?_append_none isQuoted ends closed reached
            rw [reached] at shown
            simp only [List.length_cons, List.getElem?_cons_succ] at shown
            exact absurd (maskFrom_inside_shows deep shown) (endsTerm_ne_blankMark ends)
      · simp only [List.cons_append, maskFrom, opens, if_false, Bool.false_eq_true] at shown ⊢
        simp only [List.length_cons, List.getElem?_cons_succ] at shown
        rw [ih _ shown]

private theorem maskFrom_shows (scan : MaskScan) {text : Text} {k : Nat}
    (unquoted : ∀ j d, k ≤ j → text[j]? = some d → isQuote d = false)
    (closes : ∀ left, scan = .inside left → ∃ d, isQuote d = true ∧ text[left]? = some d) :
    (maskFrom scan text)[k]? = text[k]? := by
  induction text generalizing scan k with
  | nil => simp [maskFrom]
  | cons d rest ih =>
    have deeper : ∀ i, k = i + 1 → ∀ j e, i ≤ j → rest[j]? = some e → isQuote e = false := by
      intro i same j e later here
      exact unquoted (j + 1) e (by omega) (by simpa using here)
    cases scan with
    | inside left =>
      cases left with
      | zero =>
        cases k with
        | zero => rfl
        | succ k => simpa [maskFrom] using ih (.outside (some d)) (deeper k rfl) (by simp)
      | succ left =>
        obtain ⟨e, isQuoted, there⟩ := closes _ rfl
        cases k with
        | zero => rw [unquoted _ e (Nat.zero_le _) there] at isQuoted; contradiction
        | succ k =>
          simpa [maskFrom] using ih (.inside left) (deeper k rfl) fun other same => by
            cases same
            exact ⟨e, isQuoted, by simpa using there⟩
    | outside a =>
      by_cases opens : (isQuote d && opensAfter a) = true
      · simp only [maskFrom, opens, if_true]
        cases closed : phraseLength? d rest with
        | some n =>
          cases k with
          | zero => rfl
          | succ k =>
            simpa using ih (.inside n) (deeper k rfl) fun other same => by
              cases same
              exact ⟨d, (Bool.and_eq_true_iff.mp opens).1, phraseLength?_closes closed⟩
        | none =>
          cases k with
          | zero => rfl
          | succ k => simpa using ih (.outside (some d)) (deeper k rfl) (by simp)
      · simp only [maskFrom, opens, if_false, Bool.false_eq_true]
        cases k with
        | zero => rfl
        | succ k => simpa using ih (.outside (some d)) (deeper k rfl) (by simp)

theorem mask_append (blank : isBlank c = true)
    (shown : (mask (before ++ c :: later))[before.length]? = some c) :
    mask (before ++ c :: later) = mask before ++ c :: mask later := by
  have opens : opensAfter (some c) = opensAfter none := by simp [opensAfter, blank]
  have cut := maskFrom_append (.outside none) (by simp [endsTerm, blank]) shown
  rw [mask, cut, maskFrom_outside_congr opens]
  rfl

/-- Behind a character that the mask shows, only that character decides on the mask. -/
theorem maskFrom_behind (scan : MaskScan) {front rest : Text} (quoteless : isQuote c = false)
    (visible : c ≠ blankMark)
    (shown : (maskFrom scan (front ++ c :: rest))[front.length]? = some c) :
    (maskFrom scan (front ++ c :: rest)).drop (front.length + 1) =
      maskFrom (.outside (some c)) rest := by
  induction front generalizing scan with
  | nil =>
    cases scan with
    | outside before =>
      rw [List.nil_append, maskFrom_outside_cons quoteless]
      rfl
    | inside left =>
      cases left with
      | zero => rfl
      | succ left => exact absurd (maskFrom_inside_shows (Nat.succ_pos left) shown) visible
  | cons e front ih =>
    -- the scan goes on behind the first character in some state, whatever it is
    obtain ⟨d, next, step⟩ : ∃ d next, maskFrom scan (e :: (front ++ c :: rest)) =
        d :: maskFrom next (front ++ c :: rest) := by
      match scan with
      | .inside 0 => exact ⟨_, _, rfl⟩
      | .inside (left + 1) => exact ⟨_, _, rfl⟩
      | .outside before =>
        rw [maskFrom]
        split
        · split <;> exact ⟨_, _, rfl⟩
        · exact ⟨_, _, rfl⟩
    rw [List.cons_append, step] at shown ⊢
    exact ih next (by simpa using shown)

theorem parts_of_getElem? {text : Text} {place : Nat} (there : text[place]? = some c) :
    ∃ front later, text = front ++ c :: later ∧ front.length = place := by
  obtain ⟨bound, here⟩ := List.getElem?_eq_some_iff.mp there
  refine ⟨text.take place, text.drop (place + 1), ?_, List.length_take_of_le bound.le⟩
  rw [← here, ← List.drop_eq_getElem_cons bound, List.take_append_drop]

/-- In front of the end of a term that its mask shows, a query is masked by itself. -/
theorem mask_take {query : Text} {k : Nat} (ends : endsTerm c = true)
    (shown : (mask query)[k]? = some c) : mask (query.take k) = (mask query).take k := by
  obtain ⟨front, later, rfl, rfl⟩ := parts_of_getElem? (mask_keeps shown (endsTerm_ne_blankMark ends))
  rw [List.take_left, mask, mask, maskFrom_append (.outside none) ends shown,
    List.take_left' (maskFrom_length _ _)]

theorem mask_drop {query : Text} {k : Nat} (quoteless : isQuote c = false) (visible : c ≠ blankMark)
    (opens : opensAfter (some c) = true) (shown : (mask query)[k]? = some c) :
    mask (query.drop (k + 1)) = (mask query).drop (k + 1) := by
  obtain ⟨front, later, rfl, rfl⟩ := parts_of_getElem? (mask_keeps shown visible)
  have start : opensAfter none = opensAfter (some c) := opens.symm
  rw [mask, mask, maskFrom_behind (.outside none) quoteless visible shown, List.append_cons,
    List.drop_left' (by simp), maskFrom_outside_congr start]

theorem mask_cut {query : Text} {k : Nat} (blank : isBlank c = true)
    (shown : (mask query)[k]? = some c) :
    mask (query.take k) = (mask query).take k ∧
      mask (query.drop (k + 1)) = (mask query).drop (k + 1) := by
  have ends : endsTerm c = true := by simp [endsTerm, blank]
  have opens : opensAfter (some c) = true := by simp [opensAfter, blank]
  exact ⟨mask_take ends shown, mask_drop (isQuote_of_endsTerm ends) (endsTerm_ne_blankMark ends) opens
    shown⟩

/-! ### Connectives that a mask shows -/

section

variable {connective : Connective} {query : Text} {k : Nat}

private theorem Connective.getElem?_of_shown (shown : connective.spelling <+: (mask query).drop k)
    (i : Nat) (inside : i < connective.spelling.length) :
    (mask query)[k + i]? = connective.spelling[i]? := by
  obtain ⟨rest, whole⟩ := shown
  rw [← List.getElem?_drop, ← whole, List.getElem?_append_left inside]

theorem mask_take_of_shown (shown : connective.spelling <+: (mask query).drop k) :
    mask (query.take k) = (mask query).take k := by
  have here := Connective.getElem?_of_shown shown 0 connective.spelling_length_pos
  have first : connective.spelling[0]? = some ' ' := by cases connective <;> rfl
  exact (mask_cut (by decide) (here.trans first)).1

theorem mask_drop_of_shown (shown : connective.spelling <+: (mask query).drop k) :
    mask (query.drop (k + connective.spelling.length)) =
      (mask query).drop (k + connective.spelling.length) := by
  have positive := connective.spelling_length_pos
  have here := Connective.getElem?_of_shown shown (connective.spelling.length - 1) (by omega)
  have last : connective.spelling[connective.spelling.length - 1]? = some ' ' := by
    cases connective <;> rfl
  have cut := (mask_cut (by decide) (here.trans last)).2
  have width : k + (connective.spelling.length - 1) + 1 = k + connective.spelling.length := by omega
  rwa [width] at cut

theorem spelling_of_shown (shown : connective.spelling <+: (mask query).drop k) :
    connective.spelling <+: query.drop k := by
  rw [List.prefix_iff_getElem?]
  intro i inside
  have here := Connective.getElem?_of_shown shown i inside
  have visible : connective.spelling[i] ≠ blankMark := by
    have none : blankMark ∉ connective.spelling := by cases connective <;> decide
    exact fun hidden => none (hidden ▸ List.getElem_mem inside)
  rw [List.getElem?_drop]
  exact mask_keeps (here.trans (List.getElem?_eq_getElem inside)) visible

theorem mask_before (found : connective.find? (mask query) = some k) :
    mask (query.take k) = (mask query).take k :=
  mask_take_of_shown (find?_eq_some_iff.mp found).1

theorem mask_behind (found : connective.find? (mask query) = some k) :
    mask (query.drop (k + connective.spelling.length)) =
      (mask query).drop (k + connective.spelling.length) :=
  mask_drop_of_shown (find?_eq_some_iff.mp found).1

/-- A query has no place where its mask shows the connective, or it is cut at the first and what is behind
is a query again. -/
@[elab_as_elim] theorem Connective.cut_induction (connective : Connective) {motive : Text → Prop}
    (whole : ∀ query, connective.find? (mask query) = none → motive query)
    (cut : ∀ query k, connective.find? (mask query) = some k →
      motive (query.drop (k + connective.spelling.length)) → motive query) (query : Text) :
    motive query := by
  induction size : query.length using Nat.strong_induction_on generalizing query with
  | _ n ih =>
    cases found : connective.find? (mask query) with
    | none => exact whole query found
    | some k =>
      have bound := Connective.find?_bound found
      have positive := connective.spelling_length_pos
      rw [mask_length] at bound
      exact cut query k found (ih _ (by rw [← size, List.length_drop]; omega) _ rfl)

end

/-! ### Blanks around a text -/

private theorem maskFrom_blanks {front : Text} {a : Option Char} (opens : opensAfter a = true)
    (blank : ∀ d ∈ front, isBlank d = true) (text : Text) :
    maskFrom (.outside a) (front ++ text) = front ++ mask text := by
  induction front generalizing a with
  | nil => exact maskFrom_outside_congr opens text
  | cons d front ih =>
    have here := blank d (by simp)
    rw [List.cons_append, maskFrom_outside_cons (isQuote_of_endsTerm (by simp [endsTerm, here])),
      ih (by simp [opensAfter, here]) fun e member => blank e (by simp [member])]
    rfl

private theorem mask_append_blanks {text back : Text} (blank : ∀ d ∈ back, isBlank d = true) :
    mask (text ++ back) = mask text ++ back := by
  cases back with
  | nil => simp
  | cons d back =>
    have here := blank d (by simp)
    have unquoted : ∀ j e, text.length ≤ j → (text ++ d :: back)[j]? = some e →
        isQuote e = false := by
      intro j e later there
      rw [List.getElem?_append_right later] at there
      have member := blank e (List.mem_of_getElem? there)
      exact isQuote_of_endsTerm (by simp [endsTerm, member])
    have shown : (mask (text ++ d :: back))[text.length]? = some d := by
      rw [mask, maskFrom_shows _ unquoted (by simp)]
      simp
    have later : ∀ e ∈ back, isBlank e = true := fun e member => blank e (by simp [member])
    have rest : mask back = back := by
      simpa [mask, maskFrom] using maskFrom_blanks (a := none) rfl later []
    rw [mask_append here shown, rest]

private theorem trimMask_append {query front shown back : Text}
    (start : trimStart query = trim query ++ back) (whole : query = front ++ (trim query ++ back))
    (same : shown.length = (trim query).length) : trimMask query (front ++ (shown ++ back)) = shown := by
  have skipped : query.length - (trimStart query).length = front.length := by
    have total := congrArg List.length whole
    rw [List.length_append, ← start] at total
    omega
  rw [trimMask, skipped, List.drop_left, List.take_left' same]

/-- The mask of a trimmed query is the part of the query's mask that belongs to it. -/
theorem mask_trim (query : Text) : mask (trim query) = trimMask query (mask query) := by
  obtain ⟨front, back, blankFront, blankBack, start, whole⟩ := trim_parts query
  have masked : mask query = front ++ (mask (trim query) ++ back) := by
    conv_lhs => rw [whole]
    rw [mask, maskFrom_blanks rfl blankFront, mask_append_blanks blankBack]
  rw [masked, trimMask_append start whole (mask_length _)]

theorem trimMask_behind {connective : Connective} {query : Text} {k : Nat}
    (found : connective.find? (mask query) = some k) :
    trimMask (query.drop (k + connective.spelling.length))
        ((mask query).drop (k + connective.spelling.length)) =
      mask (trim (query.drop (k + connective.spelling.length))) := by
  rw [mask_trim, mask_behind found]

theorem trimMask_self (query : Text) : trimMask query query = trim query := by
  obtain ⟨front, back, -, -, start, whole⟩ := trim_parts query
  calc
    trimMask query query = trimMask query (front ++ (trim query ++ back)) := by rw [← whole]
    _ = trim query := trimMask_append start whole rfl

theorem mask_trim_inside (query : Text) : mask (trim query) <:+: mask query := by
  rw [mask_trim]
  exact (List.take_prefix _ _).isInfix.trans (List.drop_suffix _ _).isInfix

end CardSearch.Query
