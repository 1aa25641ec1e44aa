import CardSearch.Proofs.Assembly
/-!
The value of a query that connectives join from parts. A part is plain if its mask shows no
parenthesis, and layered over some connectives if it is no clause and none but these stand in it.
Parts of one layer that are joined by the next connective are evaluated one by one.
-/
namespace CardSearch.Query

open Text

/-- A part of a query with no parenthesis outside its phrases. -/
structure Plain (part : Text) : Prop where
  ne_nil : part ≠ []
  tight : Tight part
  closed : Closed part
  opens : '(' ∉ mask part
  closes : ')' ∉ mask part

/-- A plain part that is no clause and in which no connective stands but the allowed ones. -/
structure Layered (allowed : List Connective) (part : Text) : Prop extends Plain part where
  markerless : ∀ word ∈ words (mask part), ¬ IsMarker word
  keywords : ∀ connective, connective ∉ allowed → connective.keyword ∉ words (mask part)

variable {a b between part : Text} {allowed : List Connective} {connective : Connective}

/-! ### Joined parts -/

theorem findGroup?_of_not_mem {mask : Text} (absent : '(' ∉ mask) : findGroup? mask = none := by
  induction mask with
  | nil => rfl
  | cons c mask ih =>
    rw [List.mem_cons, not_or] at absent
    have other : (c == '(') = false := beq_eq_false_iff_ne.mpr (Ne.symm absent.1)
    rw [findGroup?, ih absent.2, other]
    rfl

theorem Plain.settled (plain : Plain part) : Settled part :=
  ⟨plain.tight, findGroup?_of_not_mem plain.opens⟩

theorem Plain.join (separator : Separator between) (first : Plain a) (last : Plain b) :
    Plain (a ++ (between ++ b)) where
  ne_nil := by simp [first.ne_nil]
  tight := first.tight.append last.tight first.ne_nil last.ne_nil between
  closed := separator.closed_join first.closed last.closed
  opens := by
    rw [separator.mask_join first.closed]
    simp [first.opens, separator.opens, last.opens]
  closes := by
    rw [separator.mask_join first.closed]
    simp [first.closes, separator.closes, last.closes]

theorem Layered.join (separator : Separator between)
    (allows : ∀ word ∈ words between, ¬ IsMarker word ∧
      ∀ connective, connective ∉ allowed → word ≠ connective.keyword)
    (first : Layered allowed a) (last : Layered allowed b) :
    Layered allowed (a ++ (between ++ b)) where
  toPlain := first.toPlain.join separator last.toPlain
  markerless := by
    rw [separator.mask_join first.closed, separator.words_join]
    intro word member
    simp only [List.mem_append] at member
    rcases member with before | inside | after
    · exact first.markerless word before
    · exact (allows word inside).1
    · exact last.markerless word after
  keywords := by
    intro connective absent
    rw [separator.mask_join first.closed, separator.words_join]
    simp only [List.mem_append, not_or]
    refine ⟨first.keywords connective absent, ?_, last.keywords connective absent⟩
    intro inside
    exact (allows _ inside).2 connective absent rfl

theorem Layered.mono {more : List Connective} (wider : allowed ⊆ more)
    (layered : Layered allowed part) : Layered more part where
  toPlain := layered.toPlain
  markerless := layered.markerless
  keywords := by
    intro connective absent
    exact layered.keywords connective fun member => absent (wider member)

theorem Connective.words_spelling (connective : Connective) :
    words connective.spelling = [connective.keyword] := by
  rw [connective.spelling_eq, words_cons_blank (by decide), words_append _ (by decide), words_nil,
    words_of_solid connective.keyword_ne_nil connective.keyword_solid]
  rfl

theorem not_isMarker_keyword (connective : Connective) : ¬ IsMarker connective.keyword := by
  rintro ⟨digits, dropped, _⟩
  cases connective <;> contradiction

theorem Layered.join_connective (member : connective ∈ allowed) (first : Layered allowed a)
    (last : Layered allowed b) : Layered allowed (a ++ (connective.spelling ++ b)) := by
  refine first.join connective.separator ?_ last
  intro word inside
  rw [connective.words_spelling, List.mem_singleton] at inside
  subst word
  refine ⟨not_isMarker_keyword connective, ?_⟩
  rintro other absent same
  have equal : connective = other := by
    revert same
    cases connective <;> cases other <;> decide
  exact absent (equal ▸ member)

theorem words_spaces (more : Nat) : words (spaces more) = [] := by
  have blank : ∀ c ∈ spaces more, isBlank c = true := by
    intro c member
    rw [(List.mem_replicate.mp member).2]
    decide
  rw [← List.append_nil (spaces more), words_blanks_append blank, words_nil]

theorem Layered.join_spaces (more : Nat) (first : Layered allowed a) (last : Layered allowed b) :
    Layered allowed (a ++ (spaces more ++ b)) := by
  refine first.join (separator_spaces more) ?_ last
  intro word inside
  rw [words_spaces] at inside
  contradiction

/-! ### Parts without blanks -/

theorem isQuote_iff {c : Char} : isQuote c = true ↔ c = '"' ∨ c = '\'' := by
  rw [isQuote, Bool.or_eq_true, beq_iff_eq, beq_iff_eq]

theorem not_isMarker_of_isQuote {quote : Char} (isQuoted : isQuote quote = true) (rest : Text) :
    ¬ IsMarker (quote :: rest) := by
  rintro ⟨digits, dropped, _⟩
  rcases isQuote_iff.mp isQuoted with rfl | rfl <;> contradiction

/-- A stretch without blanks and parentheses and with no quote in front is its own mask. -/
theorem plain_of_solid {part : Text} (ne_nil : part ≠ [])
    (solid : ∀ c ∈ part, isBlank c = false) (opens : '(' ∉ part) (closes : ')' ∉ part)
    (first : ∀ c, part.head? = some c → isQuote c = false) : mask part = part ∧ Plain part := by
  have unquoted : Unquoted none part := by
    refine unquoted_of_solid (fun c head => by simp [first c head]) fun c member => ⟨solid c member, ?_⟩
    rintro rfl
    exact opens member
  have shown := mask_of_unquoted unquoted
  exact ⟨shown, ne_nil, tight_of_solid solid, closed_of_unquoted unquoted, by rwa [shown],
    by rwa [shown]⟩

theorem layered_of_solid {part : Text} (plain : Plain part) (solid : ∀ c ∈ mask part, isBlank c = false)
    (markerless : ¬ IsMarker (mask part))
    (free : ∀ connective : Connective, mask part ≠ connective.keyword) : Layered [] part := by
  have ne_nil : mask part ≠ [] := mask_ne_nil plain.ne_nil
  refine ⟨plain, ?_, ?_⟩
  · rw [words_of_solid ne_nil solid]
    intro word member
    rw [List.mem_singleton.mp member]
    exact markerless
  · intro connective _
    rw [words_of_solid ne_nil solid, List.mem_singleton]
    exact (free connective).symm

theorem mask_placeholder (truth : Bool) : mask (placeholder truth) = placeholder truth := by
  cases truth <;> rfl

theorem layered_placeholder (truth : Bool) : Layered [] (placeholder truth) := by
  have plain : Plain (placeholder truth) := by
    have first : ∀ c, (placeholder truth).head? = some c → isQuote c = false := by
      intro c head
      cases truth <;> cases head <;> rfl
    refine (plain_of_solid ?_ ?_ ?_ ?_ first).2 <;> cases truth <;> decide
  apply layered_of_solid plain <;> rw [mask_placeholder]
  · cases truth <;> decide
  · rintro ⟨digits, dropped, _⟩
    cases truth <;> contradiction
  · intro connective
    cases truth <;> cases connective <;> decide

/-! ### Cutting joined parts -/

theorem Layered.find?_eq_none (layered : Layered allowed part) (absent : connective ∉ allowed) :
    connective.find? (mask part) = none :=
  Connective.find?_eq_none (layered.keywords connective absent)

theorem Layered.find?_join (first : Layered allowed a) (absent : connective ∉ allowed) (b : Text) :
    connective.find? (mask (a ++ (connective.spelling ++ b))) = some a.length := by
  rw [connective.separator.mask_join first.closed,
    Connective.find?_append (first.keywords connective absent), mask_length]

theorem splitAlong_of_find?_eq_none {query mask : Text} (unseen : connective.find? mask = none) :
    splitAlong connective query mask = [query] := by
  rw [splitAlong]
  split
  · rfl
  · rename_i k found
    rw [unseen] at found
    contradiction

theorem splitAlong_of_find? {query mask : Text} {k : Nat} (found : connective.find? mask = some k) :
    splitAlong connective query mask =
      query.take k :: splitAlong connective (query.drop (k + connective.spelling.length))
        (mask.drop (k + connective.spelling.length)) := by
  rw [splitAlong]
  split
  · simp_all
  · rename_i j other
    obtain rfl : k = j := Option.some.inj (found.symm.trans other)
    rfl

theorem infix_of_mem_splitAlong {query mask : Text}
    (member : part ∈ splitAlong connective query mask) :
    part <:+: query := by
  fun_induction splitAlong connective query mask with
  | case1 query mask unseen =>
    obtain rfl := List.mem_singleton.mp member
    exact List.infix_refl part
  | case2 query mask k found width ih =>
    obtain rfl | later := List.mem_cons.mp member
    · exact (List.take_prefix _ _).isInfix
    · exact (ih later).trans (List.drop_suffix _ _).isInfix

theorem subset_of_mem_conjuncts {query mask term : Text} (member : term ∈ conjuncts query mask) :
    term ⊆ query := by
  unfold conjuncts at member
  split at member
  · obtain ⟨part, there, rfl⟩ := List.mem_map.mp member
    exact ((trim_inside part).trans (infix_of_mem_splitAlong there)).subset
  · exact subset_of_mem_wordsAlong member

/-- The part in front of a connective that it does not hold is the first of the cut. -/
theorem Layered.splitAlong_join (first : Layered allowed a) (absent : connective ∉ allowed)
    (b : Text) :
    splitAlong connective (a ++ (connective.spelling ++ b))
      (mask (a ++ (connective.spelling ++ b))) = a :: splitAlong connective b (mask b) := by
  have width : (mask a ++ connective.spelling).length = a.length + connective.spelling.length := by
    rw [List.length_append, mask_length]
  rw [splitAlong_of_find? (first.find?_join absent b), connective.separator.mask_join first.closed,
    List.take_left, ← List.append_assoc, ← List.append_assoc, List.drop_left' List.length_append,
    List.drop_left' width]

/-! ### Values of joined parts -/

variable {test : (term text : Text) → Bool} {text : Text}

theorem Layered.read?_eq_none (layered : Layered allowed part) :
    Proximity.read? part (mask part) = none :=
  Proximity.read?_eq_none layered.markerless

theorem Layered.any_splitAlong (layered : Layered allowed part) :
    (splitAlong .or part (mask part)).any (value test text) = value test text part := by
  by_cases several : Connective.or.find? (mask part) = none
  · rw [splitAlong_of_find?_eq_none several]
    simp
  · rw [layered.settled.value_of_or layered.read?_eq_none several]

theorem value_or (first : Layered [.and, .not] a) (last : Layered [.and, .not, .or] b) :
    value test text (a ++ (Connective.or.spelling ++ b)) =
      (value test text a || value test text b) := by
  have whole : Layered [.and, .not, .or] (a ++ (Connective.or.spelling ++ b)) :=
    (first.mono (by simp)).join_connective (by simp) last
  have found : Connective.or.find? (mask (a ++ (Connective.or.spelling ++ b))) = some a.length :=
    first.find?_join (by decide) b
  rw [whole.settled.value_of_or whole.read?_eq_none (by simp [found]),
    first.splitAlong_join (by decide), List.any_cons, last.any_splitAlong]

theorem value_not (first : Layered [.and] a) (last : Layered [.and, .not] b) :
    value test text (a ++ (Connective.not.spelling ++ b)) =
      (value test text a && !value test text b) := by
  have whole : Layered [.and, .not] (a ++ (Connective.not.spelling ++ b)) :=
    (first.mono (by simp)).join_connective (by simp) last
  have found : Connective.not.find? (mask (a ++ (Connective.not.spelling ++ b))) = some a.length :=
    first.find?_join (by decide) b
  rw [whole.settled.value_of_not whole.read?_eq_none (whole.find?_eq_none (by decide)) found,
    List.take_left, ← List.append_assoc, List.drop_left' List.length_append]

theorem value_terms (layered : Layered [.and] part) :
    value test text part = (conjuncts part (mask part)).all (termValue test text) :=
  layered.settled.value_of_terms layered.read?_eq_none (layered.find?_eq_none (by decide))
    (layered.find?_eq_none (by decide))

theorem Layered.conjuncts_eq (layered : Layered [] part) :
    conjuncts part (mask part) = wordsAlong part (mask part) := by
  rw [conjuncts, layered.find?_eq_none (by decide)]
  rfl

theorem Layered.conjuncts_join (first : Layered [] a) (b : Text) :
    conjuncts (a ++ (Connective.and.spelling ++ b)) (mask (a ++ (Connective.and.spelling ++ b))) =
      a :: (splitAlong .and b (mask b)).map trim := by
  rw [conjuncts, first.find?_join (by decide), first.splitAlong_join (by decide)]
  simp [first.tight.trim_eq]

theorem Closed.wordsAlong_join (first : Closed a) (more : Nat) (b : Text) :
    wordsAlong (a ++ (spaces more ++ b)) (mask (a ++ (spaces more ++ b))) =
      wordsAlong a (mask a) ++ wordsAlong b (mask b) := by
  have skip : ∀ count, wordsAlong (List.replicate count ' ' ++ b)
      (List.replicate count ' ' ++ mask b) = wordsAlong b (mask b) := by
    intro count
    induction count with
    | zero => rfl
    | succ count ih =>
      have blank : isBlank ' ' = true := by decide
      simp only [List.replicate_succ, List.cons_append, wordsAlong, blank, if_true, ih]
  rw [(separator_spaces more).mask_join first, spaces, List.replicate_succ, List.cons_append,
    List.cons_append, wordsAlong_append (mask_length a) (by decide), skip]

end CardSearch.Query
