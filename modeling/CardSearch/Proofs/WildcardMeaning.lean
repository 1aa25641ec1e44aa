import CardSearch.Proofs.LongestMatch
import CardSearch.Proofs.WildcardReading
import CardSearch.Proofs.WildcardSpans
/-!
What a literal wildcard term matches. The pattern of the term is run character by character; a star
gives back as little as possible. Main statement: the term matches exactly if the text holds a span
that the parts of the term cover from edge to edge, and the span found is the leftmost one and the
longest of those.
-/
namespace CardSearch.Query

open Text Pattern Pattern.Cursor

variable {text term : Text} {parts : List Text} {c d : Char} {i : Nat}

/-! ### Running the pattern of a term -/

def Wildcard.behindEdge (term : Text) : Pattern :=
  ofList (term.map Wildcard.literalPart ++ [Wildcard.edge])

theorem behindEdge_cons :
    Wildcard.behindEdge (c :: term) = .seq (Wildcard.literalPart c) (Wildcard.behindEdge term) := by
  cases term <;> rfl

theorem literal_eq : Wildcard.literal term = .seq Wildcard.edge (Wildcard.behindEdge term) := by
  cases term <;> rfl

theorem isWordAt_eq (text : Text) : isWordAt false text = text.head?.any isWordChar := by
  cases text <;> rfl

theorem holds_wordEdge :
    Anchor.holds (within text i) (.wordEdge false false) = decide (IsWordEdge text i) := by
  have somewhere : IsWordEdge text i →
      ((within text i).behind.isEmpty && (within text i).ahead.isEmpty) = false := by
    intro edge
    rw [Bool.and_eq_false_iff, List.isEmpty_eq_false_iff, List.isEmpty_eq_false_iff,
      ← not_and_or]
    rintro ⟨behind, ahead⟩
    rw [IsWordEdge, List.reverse_eq_nil_iff.mp behind, show text.drop i = [] from ahead] at edge
    exact edge rfl
  have differs : (isWordAt false (within text i).behind != isWordAt false (within text i).ahead) =
      decide (IsWordEdge text i) := by
    rw [isWordAt_eq, isWordAt_eq, within, List.head?_reverse, Bool.eq_iff_iff, bne_iff_ne,
      decide_eq_true_iff, IsWordEdge]
  rw [Anchor.holds, differs, Bool.bne_false]
  by_cases edge : IsWordEdge text i
  · rw [somewhere edge]
    rfl
  · rw [decide_eq_false edge, Bool.and_false]

theorem run_edge {captures : List (Nat × Text)} {next : Continuation} :
    Wildcard.edge.run ⟨within text i, captures⟩ next =
      if IsWordEdge text i then next ⟨within text i, captures⟩ else none := by
  rw [Wildcard.edge, Pattern.run, holds_wordEdge]
  simp only [decide_eq_true_eq]

def lineRest (text : Text) (place : Nat) : Nat := runLength (.any false) none (text.drop place)

theorem lineRest_le (inside : i ≤ text.length) : i + lineRest text i ≤ text.length := by
  have count := (List.takeWhile_sublist (l := text.drop i) (CharTest.accepts · (.any false))).length_le
  rw [List.length_drop] at count
  have same : lineRest text i = ((text.drop i).takeWhile (CharTest.accepts · (.any false))).length := rfl
  omega

theorem newline_not_mem_take_iff {n : Nat} (inside : n ≤ text.length) :
    '\n' ∉ text.take n ↔ n ≤ (text.takeWhile (· != '\n')).length := by
  induction text generalizing n with
  | nil =>
    obtain rfl := Nat.le_zero.mp inside
    simp
  | cons c text ih =>
    cases n with
    | zero => simp
    | succ n =>
      rw [List.take_succ_cons, List.mem_cons, not_or, List.takeWhile_cons]
      by_cases newline : c = '\n'
      · subst newline
        simp
      · rw [if_pos (bne_iff_ne.mpr newline), List.length_cons, Nat.add_le_add_iff_right]
        exact (and_iff_right fun same => newline same.symm).trans (ih (Nat.le_of_succ_le_succ inside))

theorem reaches_star_iff_of_le (inside : i ≤ text.length) :
    Reaches text ('*' :: term) i j ↔ ∃ k ≤ lineRest text i, Reaches text term (i + k) j := by
  have line : ∀ k, i + k ≤ text.length → ('\n' ∉ slice text i (i + k) ↔ k ≤ lineRest text i) := by
    intro k bound
    rw [slice, Nat.add_sub_cancel_left]
    exact newline_not_mem_take_iff (by rw [List.length_drop]; omega)
  rw [reaches_star_iff]
  constructor
  · rintro ⟨k, ⟨begins, clear⟩, reaches⟩
    obtain ⟨k, rfl⟩ := Nat.exists_eq_add_of_le begins
    have bounds := reaches.bounds
    exact ⟨k, (line k (Nat.le_trans bounds.1 bounds.2)).mp clear, reaches⟩
  · rintro ⟨k, bound, reaches⟩
    have bounds := reaches.bounds
    exact ⟨i + k, ⟨Nat.le_add_right _ _, (line k (Nat.le_trans bounds.1 bounds.2)).mpr bound⟩, reaches⟩

section

variable {captures : List (Nat × Text)} {next : Continuation}

theorem run_star (inside : i ≤ text.length) :
    (Wildcard.literalPart '*').run ⟨within text i, captures⟩ next =
      tryShorter (fun place => next ⟨place, captures⟩) (lineRest text i)
        (within text (i + lineRest text i)) := by
  rw [← forward_within (lineRest_le inside)]
  rfl

theorem run_letter (plain : c ≠ '*') (there : text[i]? = some d) (same : SameLetter c d) :
    (Wildcard.literalPart c).run ⟨within text i, captures⟩ next =
      next ⟨within text (i + 1), captures⟩ := by
  obtain ⟨inside, found⟩ := List.getElem?_eq_some_iff.mp there
  have ahead : (within text i).ahead = d :: text.drop (i + 1) :=
    found ▸ List.drop_eq_getElem_cons inside
  rw [Wildcard.literalPart, if_neg (by simpa using plain), Pattern.run]
  have accepts : CharTest.accepts d (.letter c.toNat .allScripts) = true := same
  simp only [ahead]
  rw [if_pos accepts, next_within inside]

theorem run_letter_eq_none (plain : c ≠ '*')
    (differs : ∀ d, text[i]? = some d → ¬ SameLetter c d) :
    (Wildcard.literalPart c).run ⟨within text i, captures⟩ next = none := by
  rw [Wildcard.literalPart, if_neg (by simpa using plain), Pattern.run]
  cases there : text[i]? with
  | none =>
    have ahead : (within text i).ahead = [] :=
      List.drop_eq_nil_of_le (List.getElem?_eq_none_iff.mp there)
    simp only [ahead]
  | some d =>
    obtain ⟨inside, found⟩ := List.getElem?_eq_some_iff.mp there
    have ahead : (within text i).ahead = d :: text.drop (i + 1) :=
      found ▸ List.drop_eq_getElem_cons inside
    simp only [ahead]
    exact if_neg (differs d there)

/-- The pattern of a term goes on to the last place that the term leads to and that is the edge of a
word. -/
theorem run_behindEdge (inside : i ≤ text.length) :
    Answers (fun stop => ⟨within text stop, captures⟩)
      ((Wildcard.behindEdge term).run ⟨within text i, captures⟩ some)
      fun stop => Reaches text term i stop ∧ IsWordEdge text stop := by
  induction term generalizing i with
  | nil =>
    rw [show Wildcard.behindEdge [] = Wildcard.edge from rfl, run_edge]
    by_cases edge : IsWordEdge text i
    · rw [if_pos edge]
      refine ⟨some i, rfl, ⟨.done inside, edge⟩, ?_⟩
      rintro stop ⟨reaches, -⟩
      cases reaches
      exact Nat.le_refl _
    · rw [if_neg edge]
      refine ⟨none, rfl, ?_⟩
      rintro stop ⟨reaches, closes⟩
      cases reaches
      exact edge closes
  | cons c term ih =>
    rw [behindEdge_cons, Pattern.run]
    by_cases star : c = '*'
    · subst star
      have room := lineRest_le inside
      have shorter : Answers (fun stop => ⟨within text stop, captures⟩)
          (tryShorter (fun place => (Wildcard.behindEdge term).run ⟨place, captures⟩ some)
            (lineRest text i) (within text (i + lineRest text i)))
          fun stop => ∃ k ≤ lineRest text i, Reaches text term (i + k) stop ∧ IsWordEdge text stop :=
        tryShorter_answers (fun k stop => Reaches text term k stop ∧ IsWordEdge text stop) room
          (fun k bound => ih (by omega))
          (fun order first second => (first.1.exchange second.1 order).imp (⟨·, first.2⟩) id)
      obtain ⟨found, answer, longest⟩ := shorter
      refine ⟨found, (run_star inside).trans answer, longest.congr fun stop => ?_⟩
      rw [reaches_star_iff_of_le inside]
      simp only [← and_assoc, exists_and_right]
    · by_cases passes : ∃ d, text[i]? = some d ∧ SameLetter c d
      · obtain ⟨d, there, same⟩ := passes
        obtain ⟨more, -⟩ := List.getElem?_eq_some_iff.mp there
        obtain ⟨found, answer, longest⟩ := ih (Nat.succ_le_of_lt more)
        refine ⟨found, (run_letter star there same).trans answer, longest.congr fun stop => ?_⟩
        rw [reaches_letter_iff star]
        exact and_congr_left fun _ => ⟨fun later => ⟨d, ⟨there, same⟩, later⟩, fun ⟨_, _, later⟩ => later⟩
      · refine ⟨none, run_letter_eq_none star fun d there same => passes ⟨d, there, same⟩, ?_⟩
        rintro stop ⟨reaches, -⟩
        obtain ⟨d, here, -⟩ := (reaches_letter_iff star).mp reaches
        exact passes ⟨d, here⟩

end

theorem matchAt?_longest (filled : parts ≠ []) (starless : ∀ part ∈ parts, '*' ∉ part)
    (inside : i ≤ text.length) :
    Longest (Spans parts text i)
      ((Wildcard.literal (joinWith ['*'] parts)).matchAt? (within text i)) := by
  rw [matchAt?, literal_eq, Pattern.run, run_edge]
  by_cases edge : IsWordEdge text i
  · have runs : Answers (fun stop => ⟨within text stop, []⟩)
        ((Wildcard.behindEdge (joinWith ['*'] parts)).run ⟨within text i, []⟩ some)
        fun stop => Reaches text (joinWith ['*'] parts) i stop ∧ IsWordEdge text stop :=
      run_behindEdge inside
    obtain ⟨found, answer, longest⟩ := runs
    have ends : (found.map fun stop => State.mk (within text stop) []).map (·.place.position) =
        found := by
      cases found <;> rfl
    rw [if_pos edge, answer, ends]
    refine longest.congr fun stop => ?_
    rw [reaches_joinWith_iff filled starless]
    constructor
    · rintro ⟨⟨⟨order, inside⟩, covered⟩, closes⟩
      exact ⟨order, inside, edge, closes, covered⟩
    · rintro ⟨order, inside, -, closes, covered⟩
      exact ⟨⟨⟨order, inside⟩, covered⟩, closes⟩
  · rw [if_neg edge]
    exact fun stop spans => edge spans.opens

theorem isWildcard_joinWith (several : 2 ≤ parts.length) :
    isWildcard (joinWith ['*'] parts) = true := by
  match parts, several with
  | first :: second :: parts, _ =>
    rw [joinWith_cons (List.cons_ne_nil _ _), isWildcard, List.contains_iff_mem]
    simp

theorem matchesLiterally_iff_spans (several : 2 ≤ parts.length)
    (starless : ∀ part ∈ parts, '*' ∉ part) :
    matchesLiterally (joinWith ['*'] parts) text = true ↔ ∃ start stop, Spans parts text start stop := by
  have filled : parts ≠ [] := List.ne_nil_of_length_pos (by omega)
  rw [matchesLiterally, if_pos (isWildcard_joinWith several), occursIn_iff]
  constructor
  · rintro ⟨start, inside, matched⟩
    rw [ne_eq, (matchAt?_longest filled starless inside).eq_none_iff, not_forall_not] at matched
    exact ⟨start, matched⟩
  · rintro ⟨start, stop, spans⟩
    have inside := Nat.le_trans spans.le spans.inside
    refine ⟨start, inside, ?_⟩
    rw [ne_eq, (matchAt?_longest filled starless inside).eq_none_iff, not_forall_not]
    exact ⟨stop, spans⟩

theorem search?_eq_some_iff_spans (filled : parts ≠ []) (starless : ∀ part ∈ parts, '*' ∉ part)
    {start stop : Nat} :
    (Wildcard.literal (joinWith ['*'] parts)).search? text = some (start, stop) ↔
      Spans parts text start stop ∧ ∀ otherStart otherStop, Spans parts text otherStart otherStop →
        start < otherStart ∨ start = otherStart ∧ otherStop ≤ stop := by
  rw [search?_eq_some_iff]
  constructor
  · rintro ⟨⟨inside, matched⟩, earlier⟩
    rw [(matchAt?_longest filled starless inside).eq_some_iff] at matched
    refine ⟨matched.1, fun otherStart otherStop spans => ?_⟩
    rcases Nat.lt_trichotomy start otherStart with less | rfl | more
    · exact .inl less
    · exact .inr ⟨rfl, matched.2 otherStop spans⟩
    · have insideToo := Nat.le_trans (Nat.le_of_lt more) inside
      have nothing := (matchAt?_longest filled starless insideToo).eq_none_iff.mp (earlier _ more)
      exact absurd spans (nothing otherStop)
  · rintro ⟨spans, first⟩
    have inside := Nat.le_trans spans.le spans.inside
    refine ⟨⟨inside, ?_⟩, fun j less => ?_⟩
    · rw [(matchAt?_longest filled starless inside).eq_some_iff]
      refine ⟨spans, fun other spansToo => ?_⟩
      rcases first start other spansToo with less | ⟨-, shorter⟩
      · exact absurd less (Nat.lt_irrefl _)
      · exact shorter
    · rw [(matchAt?_longest filled starless (Nat.le_trans (Nat.le_of_lt less) inside)).eq_none_iff]
      intro other spansToo
      rcases first j other spansToo with beyond | ⟨same, -⟩
      · omega
      · omega

/-- What a literal wildcard term matches: a text with a span that the parts of the term cover from one
edge of a word to another. The pattern that the term is compiled to is the one that is written for it,
and the match it finds is the leftmost span, and of those that begin there the longest. -/
theorem wildcard_matches_spans {parts : List Text} (several : 2 ≤ parts.length)
    (starless : ∀ part ∈ parts, '*' ∉ part) (text : Text) :
    (matchesTerm .literal (joinWith ['*'] parts) text = pure true ↔
        ∃ start stop, Spans parts text start stop) ∧
      ∃ compiled, compileTerm .literal (joinWith ['*'] parts) = pure compiled ∧
        Pattern.read? compiled.written = .ok compiled.pattern ∧
        ∀ start stop, compiled.pattern.search? text = some (start, stop) ↔
          Spans parts text start stop ∧
            ∀ otherStart otherStop, Spans parts text otherStart otherStop →
              start < otherStart ∨ start = otherStart ∧ otherStop ≤ stop := by
  have filled : parts ≠ [] := List.ne_nil_of_length_pos (by omega)
  have answers : ∀ answer : Bool, (pure answer : TermM Bool) = pure true ↔ answer = true := by
    intro answer
    constructor
    · intro same
      have run : (Except.ok answer : Except Fault Bool) = .ok true :=
        congrArg (fun work => (work.run []).1) same
      exact Except.ok.inj run
    · rintro rfl
      rfl
  constructor
  · rw [matchesTerm, answers]
    exact matchesLiterally_iff_spans several starless
  · exact ⟨compileLiteral _, rfl, Wildcard.read?_literalText _,
      fun start stop => search?_eq_some_iff_spans filled starless⟩

/-- The term `a.*C` finds `A.` and a later `c`, but not beyond the end of the line. -/
theorem wildcard_matches_two_letters :
    2 ≤ [['a', '.'], ['C']].length ∧ (∀ part ∈ [['a', '.'], ['C']], '*' ∉ part) ∧
      matchesTerm .literal ['a', '.', '*', 'C'] ['(', 'A', '.', 'b', 'c', '\n', 'c'] = pure true := by
  have several : 2 ≤ [['a', '.'], ['C']].length := by decide
  have starless : ∀ part ∈ [['a', '.'], ['C']], '*' ∉ part := by decide
  refine ⟨several, starless, ?_⟩
  have first : SameLetters ['a', '.'] ['A', '.'] := .cons (by decide) (.cons (by decide) .nil)
  have last : SameLetters ['C'] ['c'] := .cons (by decide) .nil
  have covered : Covered [['a', '.'], ['C']] (['A', '.'] ++ (['b'] ++ ['c'])) :=
    .cons first (by decide) (.last last)
  have spans : Spans [['a', '.'], ['C']] ['(', 'A', '.', 'b', 'c', '\n', 'c'] 1 5 :=
    ⟨by decide, by decide, by decide, by decide, covered⟩
  exact (wildcard_matches_spans several starless _).1.mpr ⟨1, 5, spans⟩

end CardSearch.Query
