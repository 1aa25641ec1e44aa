import CardSearch.Text.Blank
import Mathlib.Data.List.Basic
import Mathlib.Data.List.TakeWhile
/-!
Where a piece occurs in a text, and how words and trimming behave when a text is put together from
parts. Offsets of a first occurrence and membership among the words are the two ways in which the
rest of the theory speaks about separators.
-/
namespace CardSearch.Text

/-! ### Occurrences -/

private theorem find?_cons (piece rest : Text) (c : Char) :
    find? piece (c :: rest) =
      if piece <+: c :: rest then some 0 else (find? piece rest).map (· + 1) := by
  rw [find?]
  simp only [List.isPrefixOf_iff_prefix]

theorem find?_eq_some_iff {piece text : Text} {k : Nat} :
    find? piece text = some k ↔
      piece <+: text.drop k ∧ k ≤ text.length ∧ ∀ j, j < k → ¬ piece <+: text.drop j := by
  induction text generalizing k with
  | nil =>
    cases piece with
    | nil =>
      simp only [find?, List.isEmpty_nil, if_true, Option.some.injEq, List.length_nil]
      constructor
      · rintro rfl
        exact ⟨List.prefix_rfl, Nat.le_refl 0, fun j before => absurd before (Nat.not_lt_zero j)⟩
      · intro first
        omega
    | cons c piece => simp [find?]
  | cons c rest ih =>
    rw [find?_cons]
    split
    · rename_i starts
      constructor
      · intro found
        cases Option.some.inj found
        exact ⟨starts, Nat.zero_le _, fun j before => absurd before (Nat.not_lt_zero j)⟩
      · rintro ⟨_, _, first⟩
        cases k with
        | zero => rfl
        | succ k => exact absurd starts (first 0 (Nat.succ_pos k))
    · rename_i notHere
      cases k with
      | zero => simp [notHere]
      | succ k =>
        simp only [Option.map_eq_some_iff, Nat.add_right_cancel_iff, exists_eq_right, ih,
          List.drop_succ_cons, List.length_cons, Nat.add_le_add_iff_right]
        constructor
        · rintro ⟨here, bound, first⟩
          refine ⟨here, bound, ?_⟩
          intro j before
          cases j with
          | zero => exact notHere
          | succ j => exact first j (Nat.lt_of_succ_lt_succ before)
        · rintro ⟨here, bound, first⟩
          exact ⟨here, bound, fun j before => first (j + 1) (Nat.succ_lt_succ before)⟩

theorem occurs_iff {piece text : Text} : occurs piece text = true ↔ piece <:+: text := by
  induction text with
  | nil => simp [occurs]
  | cons c rest ih =>
    rw [occurs, Bool.or_eq_true, ih, List.isPrefixOf_iff_prefix, List.infix_cons_iff]

theorem find?_eq_none_iff {piece text : Text} : find? piece text = none ↔ ¬ piece <:+: text := by
  induction text with
  | nil => cases piece <;> simp [find?]
  | cons c rest ih =>
    rw [find?_cons, List.infix_cons_iff]
    split
    · rename_i starts
      simp [starts]
    · rename_i notHere
      simp only [Option.map_eq_none_iff, ih, notHere, false_or]

theorem drop_of_find? {piece text : Text} {k : Nat} (found : find? piece text = some k) :
    text.drop k = piece ++ text.drop (k + piece.length) := by
  obtain ⟨rest, same⟩ := (find?_eq_some_iff.mp found).1
  rw [← List.drop_drop, ← same, List.drop_left]

/-! ### Words -/

private theorem wordsAlong_ne_nil (c : Char) (text mask : Text) {m : Char}
    (solid : isBlank m = false) : wordsAlong (c :: text) (m :: mask) ≠ [] := by
  cases mask with
  | nil => simp [wordsAlong, solid]
  | cons n mask =>
    simp only [wordsAlong, solid, Bool.false_eq_true, if_false]
    split
    · simp
    · split <;> simp

theorem wordsAlong_append {text mask later laterMask : Text} {c m : Char}
    (same : mask.length = text.length) (blank : isBlank m = true) :
    wordsAlong (text ++ c :: later) (mask ++ m :: laterMask) =
      wordsAlong text mask ++ wordsAlong later laterMask := by
  induction text generalizing mask with
  | nil =>
    cases List.length_eq_zero_iff.mp same
    simp [wordsAlong, blank]
  | cons a text ih =>
    cases mask with
    | nil => simp at same
    | cons b mask =>
      have shorter : mask.length = text.length := by simpa using same
      simp only [List.cons_append, wordsAlong, ih shorter]
      split
      · rfl
      · cases mask with
        | nil =>
          cases List.length_eq_zero_iff.mp shorter.symm
          simp [wordsAlong, blank]
        | cons n mask =>
          simp only [List.cons_append]
          split
          · rfl
          · rename_i solid
            cases text with
            | nil => simp at shorter
            | cons d text =>
              have some := wordsAlong_ne_nil d text mask (Bool.eq_false_iff.mpr solid)
              cases cut : wordsAlong (d :: text) (n :: mask) with
              | nil => exact absurd cut some
              | cons word words => rfl

/-- Words behind a stretch that is part of the first of them, or a word of its own. -/
def joinFront (front : Text) : (joined : Bool) → (words : List Text) → List Text
  | true, word :: words => (front ++ word) :: words
  | _, words => front :: words

theorem wordsAlong_blank {text mask : Text} {c d : Char} (blank : isBlank d = true) :
    wordsAlong (c :: text) (d :: mask) = wordsAlong text mask := by
  cases mask <;> simp [wordsAlong, blank]

theorem wordsAlong_solid {text mask : Text} {c d : Char} (solid : isBlank d = false) :
    wordsAlong (c :: text) (d :: mask) =
      joinFront [c] (mask.head?.any fun e => !isBlank e) (wordsAlong text mask) := by
  cases mask with
  | nil => cases text <;> simp [wordsAlong, solid, joinFront]
  | cons e mask =>
    cases blank : isBlank e with
    | true => simp [wordsAlong, solid, joinFront, blank]
    | false =>
      simp only [wordsAlong, solid, Bool.false_eq_true, if_false, blank, List.head?_cons,
        Option.any_some, Bool.not_false]
      cases wordsAlong text (e :: mask) <;> rfl

theorem wordsAlong_run {front shown text mask : Text} (same : shown.length = front.length)
    (some : front ≠ []) (solid : ∀ d ∈ shown, isBlank d = false) :
    wordsAlong (front ++ text) (shown ++ mask) =
      joinFront front (mask.head?.any fun e => !isBlank e) (wordsAlong text mask) := by
  induction front generalizing shown with
  | nil => contradiction
  | cons c front ih =>
    cases shown with
    | nil => contradiction
    | cons d shown =>
      obtain ⟨first, others⟩ := List.forall_mem_cons.mp solid
      rw [List.cons_append, List.cons_append, wordsAlong_solid first]
      cases front with
      | nil =>
        obtain rfl : shown = [] := List.length_eq_zero_iff.mp (by simpa using same)
        rfl
      | cons e front =>
        cases shown with
        | nil => simp at same
        | cons f shown =>
          have joined : isBlank f = false := others f (List.mem_cons_self ..)
          rw [ih (by simpa using same) (by simp) others, List.cons_append, List.head?_cons,
            Option.any_some, joined]
          cases mask.head?.any fun e => !isBlank e with
          | false => rfl
          | true => cases wordsAlong text mask <;> rfl

theorem joinFront_nil (front : Text) (joined : Bool) : joinFront front joined [] = [front] := by
  cases joined <;> rfl

theorem mem_joinFront {front word : Text} {joined : Bool} {words : List Text}
    (member : word ∈ joinFront front joined words) :
    word = front ∨ word ∈ words ∨ ∃ rest ∈ words, word = front ++ rest := by
  unfold joinFront at member
  split at member
  · obtain first | other := List.mem_cons.mp member
    · exact .inr (.inr ⟨_, List.mem_cons_self .., first⟩)
    · exact .inr (.inl (List.mem_cons_of_mem _ other))
  · obtain first | other := List.mem_cons.mp member
    · exact .inl first
    · exact .inr (.inl other)

theorem subset_of_mem_wordsAlong {text mask word : Text} (member : word ∈ wordsAlong text mask) :
    word ⊆ text := by
  induction text generalizing mask word with
  | nil => cases mask <;> simp [wordsAlong] at member
  | cons d text ih =>
    cases mask with
    | nil => simp [wordsAlong] at member
    | cons e mask =>
      cases blank : isBlank e with
      | true =>
        rw [wordsAlong_blank blank] at member
        exact List.subset_cons_of_subset d (ih member)
      | false =>
        rw [wordsAlong_solid blank] at member
        obtain rfl | other | ⟨rest, there, rfl⟩ := mem_joinFront member
        · exact List.cons_subset_cons d (List.nil_subset text)
        · exact List.subset_cons_of_subset d (ih other)
        · exact List.cons_subset_cons d (ih there)

theorem wordsAlong_of_solid {text mask : Text} (same : mask.length = text.length)
    (some : mask ≠ []) (solid : ∀ m ∈ mask, isBlank m = false) :
    wordsAlong text mask = [text] := by
  have nonempty : text ≠ [] := by
    rintro rfl
    exact some (List.length_eq_zero_iff.mp same)
  have single : wordsAlong (text ++ []) (mask ++ []) = [text] := wordsAlong_run same nonempty solid
  rwa [List.append_nil, List.append_nil] at single

theorem words_append (before : Text) {later : Text} {c : Char} (blank : isBlank c = true) :
    words (before ++ c :: later) = words before ++ words later :=
  wordsAlong_append rfl blank

theorem words_of_solid {word : Text} (some : word ≠ []) (solid : ∀ c ∈ word, isBlank c = false) :
    words word = [word] :=
  wordsAlong_of_solid rfl some solid

@[simp] theorem words_nil : words [] = [] := rfl

theorem words_cons_blank {later : Text} {c : Char} (blank : isBlank c = true) :
    words (c :: later) = words later :=
  words_append [] blank

theorem words_cons_solid {c : Char} (solid : isBlank c = false) (text : Text) :
    words (c :: text) = joinFront [c] (text.head?.any fun e => !isBlank e) (words text) :=
  wordsAlong_solid solid

theorem words_blanks_append {blanks later : Text} (blank : ∀ c ∈ blanks, isBlank c = true) :
    words (blanks ++ later) = words later := by
  induction blanks with
  | nil => rfl
  | cons c blanks ih =>
    rw [List.cons_append, words_cons_blank (blank c (by simp)),
      ih fun d member => blank d (by simp [member])]

theorem mem_words_between {before word later : Text} {c d : Char} (first : isBlank c = true)
    (last : isBlank d = true) (some : word ≠ []) (solid : ∀ e ∈ word, isBlank e = false) :
    word ∈ words (before ++ c :: (word ++ d :: later)) := by
  rw [words_append _ first, words_append _ last, words_of_solid some solid]
  simp

theorem words_ne_nil {text : Text} (some : ∃ c ∈ text, isBlank c = false) : words text ≠ [] := by
  obtain ⟨c, member, solid⟩ := some
  induction text with
  | nil => contradiction
  | cons d text ih =>
    by_cases blank : isBlank d = true
    · rw [words_cons_blank blank]
      rcases List.mem_cons.mp member with rfl | later
      · rw [blank] at solid
        contradiction
      · exact ih later
    · exact wordsAlong_ne_nil d text text (Bool.eq_false_iff.mpr blank)

/-! ### Trimming -/

theorem trimStart_parts (text : Text) :
    ∃ front, (∀ c ∈ front, isBlank c = true) ∧ text = front ++ trimStart text :=
  ⟨text.takeWhile isBlank, fun _ member => List.mem_takeWhile_imp member,
    List.takeWhile_append_dropWhile.symm⟩

theorem trimEnd_parts (text : Text) :
    ∃ back, (∀ c ∈ back, isBlank c = true) ∧ text = trimEnd text ++ back := by
  refine ⟨(text.reverse.takeWhile isBlank).reverse, ?_, ?_⟩
  · intro c member
    exact List.mem_takeWhile_imp (List.mem_reverse.mp member)
  · rw [trimEnd, ← List.reverse_append, List.takeWhile_append_dropWhile, List.reverse_reverse]

theorem trim_parts (text : Text) :
    ∃ front back, (∀ c ∈ front, isBlank c = true) ∧ (∀ c ∈ back, isBlank c = true) ∧
      trimStart text = trim text ++ back ∧ text = front ++ (trim text ++ back) := by
  obtain ⟨front, blankFront, start⟩ := trimStart_parts text
  obtain ⟨back, blankBack, stop⟩ := trimEnd_parts (trimStart text)
  refine ⟨front, back, blankFront, blankBack, stop, ?_⟩
  rw [trim, ← stop]
  exact start

theorem trim_inside (text : Text) : trim text <:+: text := by
  obtain ⟨front, back, -, -, -, whole⟩ := trim_parts text
  exact ⟨front, back, by rw [List.append_assoc, ← whole]⟩

theorem trimStart_eq_self {text : Text}
    (first : ∀ c, text.head? = some c → isBlank c = false) : trimStart text = text := by
  cases text with
  | nil => rfl
  | cons c text => simp [trimStart, first c rfl]

theorem trimEnd_eq_self {text : Text}
    (last : ∀ c, text.getLast? = some c → isBlank c = false) : trimEnd text = text := by
  have first : ∀ c, text.reverse.head? = some c → isBlank c = false := by simpa using last
  have kept := trimStart_eq_self first
  rw [trimEnd, ← trimStart, kept, List.reverse_reverse]

def Tight (text : Text) : Prop :=
  (∀ c, text.head? = some c → isBlank c = false) ∧ ∀ c, text.getLast? = some c → isBlank c = false

theorem Tight.trim_eq {text : Text} (tight : Tight text) : trim text = text := by
  rw [trim, trimStart_eq_self tight.1, trimEnd_eq_self tight.2]

theorem tight_trim (text : Text) : Tight (trim text) := by
  constructor
  · intro c head
    obtain ⟨back, _, stop⟩ := trimEnd_parts (trimStart text)
    have started : (trimStart text).head? = some c := by
      rw [stop, ← trim, List.head?_append, head]
      rfl
    have first := List.head?_dropWhile_not isBlank text
    rw [← trimStart, started] at first
    exact first
  · intro c last
    have first := List.head?_dropWhile_not isBlank (trimStart text).reverse
    rw [trim, trimEnd, List.getLast?_reverse] at last
    rw [last] at first
    exact first

@[simp] theorem trim_trim (text : Text) : trim (trim text) = trim text := (tight_trim text).trim_eq

theorem trimEnd_append_blanks {text blanks : Text} (blank : ∀ c ∈ blanks, isBlank c = true) :
    trimEnd (text ++ blanks) = trimEnd text := by
  rw [trimEnd, trimEnd, List.reverse_append,
    List.dropWhile_append_of_pos fun c member => blank c (List.mem_reverse.mp member)]

theorem trim_between_blanks {front back : Text} (blankFront : ∀ c ∈ front, isBlank c = true)
    (blankBack : ∀ c ∈ back, isBlank c = true) (text : Text) :
    trim (front ++ (text ++ back)) = trim text := by
  rw [trim, trimStart, List.dropWhile_append_of_pos blankFront, List.dropWhile_append, trim]
  split
  · rename_i none
    rw [List.dropWhile_eq_nil_iff.mpr blankBack, trimStart, List.isEmpty_iff.mp none]
  · exact trimEnd_append_blanks blankBack

private theorem infix_behind_blanks {piece blanks text : Text}
    (first : ∀ c, piece.head? = some c → isBlank c = false) (filled : piece ≠ [])
    (blank : ∀ c ∈ blanks, isBlank c = true) (inside : piece <:+: blanks ++ text) :
    piece <:+: text := by
  induction blanks with
  | nil => exact inside
  | cons c blanks ih =>
    rw [List.forall_mem_cons] at blank
    obtain atFront | later := List.infix_cons_iff.mp inside
    · obtain none | ⟨rest, rfl, -⟩ := List.prefix_cons_iff.mp atFront
      · contradiction
      · have solid := first c rfl
        rw [blank.1] at solid
        contradiction
    · exact ih blank.2 later

/-- Trimming a text keeps every piece of it that neither begins nor ends with a blank. -/
theorem Tight.infix_trim {piece text : Text} (tight : Tight piece) (filled : piece ≠ [])
    (inside : piece <:+: text) : piece <:+: trim text := by
  obtain ⟨front, back, blankFront, blankBack, -, whole⟩ := trim_parts text
  rw [whole] at inside
  have behind := infix_behind_blanks tight.1 filled blankFront inside
  have last : ∀ c, piece.reverse.head? = some c → isBlank c = false := by simpa using tight.2
  rw [← List.reverse_infix, List.reverse_append] at behind
  exact List.reverse_infix.mp (infix_behind_blanks last (by simpa using filled)
    (fun c member => blankBack c (List.mem_reverse.mp member)) behind)

theorem Tight.append {a b : Text} (first : Tight a) (last : Tight b) (some : a ≠ [])
    (other : b ≠ []) (between : Text) : Tight (a ++ (between ++ b)) := by
  constructor
  · intro c head
    rw [List.head?_append_of_ne_nil _ some] at head
    exact first.1 c head
  · intro c tail
    rw [List.getLast?_append_of_ne_nil _ (by simp [other]),
      List.getLast?_append_of_ne_nil _ other] at tail
    exact last.2 c tail

theorem tight_of_solid {text : Text} (solid : ∀ c ∈ text, isBlank c = false) : Tight text :=
  ⟨fun c head => solid c (List.mem_of_mem_head? (by simp [head])),
    fun c last => solid c (List.mem_of_getLast? last)⟩

theorem tight_enclosed {opening closing : Char} (opens : isBlank opening = false)
    (closes : isBlank closing = false) (text : Text) :
    Tight (opening :: (text ++ [closing])) := by
  constructor
  · intro c head
    cases head
    exact opens
  · intro c last
    rw [← List.cons_append, List.getLast?_concat] at last
    cases last
    exact closes

end CardSearch.Text
