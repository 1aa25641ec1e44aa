import CardSearch.Proofs.PatternReading
import CardSearch.Query.Wildcard
/-!
The written forms of a wildcard term. A text spells a term out if its tokens stand, character by
character, for the parts of the term's literal pattern. Main statements: the reader of patterns reads the
written form of a literal term back as the pattern of the term, whatever characters the term is made of,
and it reads the form of pattern mode so too if no character of the term but the star means anything in
a pattern.
-/
namespace CardSearch.Query.Wildcard

open Pattern

variable {term : Text} {c : Char} {tokens : List Token} {write : Char → Text}
  {spell : Char → List Token}

/-! ### Spellings -/

/-- Tokens that stand for a character of a term taken literally. -/
inductive Spells : (tokens : List Token) → (c : Char) → Prop
  | star : Spells [.plain '.', .plain '*'] '*'
  | escaped {c : Char} (other : c ≠ '*') (special : c ∈ specialChars) : Spells [.escaped c] c
  | plain {c : Char} (stands : c ∉ syntaxChars) : Spells [.plain c] c

/-- A character is written as a text whose tokens stand for it. -/
structure Spelled (write : Char → Text) (spell : Char → List Token) (c : Char) : Prop where
  spells : Spells (spell c) c
  reads : ∀ position rest, Token.readFrom position (write c ++ rest) =
    (Token.readFrom (position + (write c).length) rest).map (spell c ++ ·)

theorem Spells.head_ne (spells : Spells tokens c) {d : Char} (quantifier : d ∈ (['?', '+'] : Text))
    (later : List Token) : (tokens ++ later).head? ≠ some (.plain d) := by
  cases spells with
  | star =>
    rw [List.cons_append, List.head?_cons, ne_eq, Option.some.injEq, Token.plain.injEq]
    rintro rfl
    exact absurd quantifier (by decide)
  | escaped => simp
  | plain stands =>
    rw [List.cons_append, List.head?_cons, ne_eq, Option.some.injEq, Token.plain.injEq]
    rintro rfl
    have both : ∀ d ∈ (['?', '+'] : Text), d ∈ syntaxChars := by decide
    exact stands (both c quantifier)

theorem readFrom_spelled (spelled : ∀ c ∈ term, Spelled write spell c) :
    Token.readFrom 0 (edgeText ++ term.flatMap write ++ edgeText) =
      .ok (.escaped 'b' :: (term.flatMap spell ++ [.escaped 'b'])) := by
  have later : ∀ position, Token.readFrom position (term.flatMap write ++ edgeText) =
      .ok (term.flatMap spell ++ [.escaped 'b']) := by
    induction term with
    | nil => exact fun _ => rfl
    | cons c term ih =>
      intro position
      rw [List.forall_mem_cons] at spelled
      rw [List.flatMap_cons, List.append_assoc, spelled.1.reads, ih spelled.2, List.flatMap_cons,
        List.append_assoc]
      rfl
  have parts : edgeText ++ term.flatMap write ++ edgeText =
      '\\' :: 'b' :: (term.flatMap write ++ edgeText) := rfl
  rw [parts, Token.readFrom, later]
  rfl

theorem readEscape_run {reading : Reading} (special : c ∈ specialChars) :
    (readEscape {} c).run reading = .ok (.letter {} c.toNat, reading) := by
  revert c
  simp only [specialChars, List.forall_mem_cons, List.not_mem_nil, false_imp_iff, implies_true,
    and_true]
  and_intros <;> rfl

/-! ### The parts that the tokens stand for -/

section

variable {reading : Reading} {depth fuel : Nat} {parts : List Part}

theorem readGreed_run (lazy : reading.tokens.head? ≠ some (.plain '?'))
    (possessive : reading.tokens.head? ≠ some (.plain '+')) :
    readGreed.run reading = .ok (.most, reading) := by
  rw [readGreed, run_bind_ok (accept_run_of_ne lazy)]
  simp only [Bool.false_eq_true, if_false]
  rw [run_bind_ok (accept_run_of_ne possessive)]
  rfl

theorem readParts_run_of_star (ahead : reading.tokens = .plain '.' :: .plain '*' :: tokens)
    (lazy : tokens.head? ≠ some (.plain '?')) (possessive : tokens.head? ≠ some (.plain '+')) :
    (readParts {} depth (fuel + 2) parts).run reading =
      (readParts {} depth fuel (.repetition (literalPart '*') :: parts)).run
        (reading.skip tokens 2) := by
  have dot : (readParts {} depth (fuel + 2) parts).run reading =
      (readParts {} depth (fuel + 1) (.other (.one (.any false)) :: parts)).run
        (reading.skip (.plain '*' :: tokens) 1) := by
    rw [readParts, run_bind_ok peek_run, ahead]
    simp only [List.head?_cons, Bool.false_and, Bool.false_eq_true, if_false]
    rw [if_neg (by decide), run_bind_ok (next?_run ahead), run_bind_ok position_run]
    rfl
  have quantified : ∀ place, (quantify 0 none place (.other (.one (.any false)) :: parts)).run
      (reading.skip tokens 2) =
      .ok (.repetition (literalPart '*') :: parts, reading.skip tokens 2) := by
    intro place
    rw [quantify, run_bind_ok (readGreed_run lazy possessive)]
    rfl
  rw [dot, readParts, run_bind_ok peek_run, Reading.skip_tokens]
  simp only [List.head?_cons, Bool.false_and, Bool.false_eq_true, if_false]
  rw [if_neg (by decide), run_bind_ok (next?_run rfl), run_bind_ok position_run,
    Reading.skip_skip]
  exact run_bind_ok (quantified _) _

theorem head_ne_quantifier (spells : ∀ c ∈ term, Spells (spell c) c)
    (quantifier : c ∈ (['?', '+'] : Text)) :
    (term.flatMap spell ++ [Token.escaped 'b']).head? ≠ some (.plain c) := by
  cases term with
  | nil => simp
  | cons first term =>
    rw [List.flatMap_cons, List.append_assoc]
    exact (spells first (List.mem_cons_self ..)).head_ne quantifier _

theorem literalPart_of_ne (other : c ≠ '*') :
    literalPart c = (Part.letter {} c.toNat).pattern := by
  rw [literalPart, if_neg (by simpa using other)]
  rfl

theorem readParts_run_of_end {flags : Flags} (ends : reading.tokens = []) :
    (readParts flags depth (fuel + 1) parts).run reading =
      .ok (ofList (parts.reverse.map Part.pattern), reading) := by
  rw [readParts, run_bind_ok peek_run, ends]
  rfl

theorem readParts_run_term (spells : ∀ c ∈ term, Spells (spell c) c)
    (enough : (term.flatMap spell).length + 2 ≤ fuel)
    (ahead : reading.tokens = term.flatMap spell ++ [.escaped 'b']) :
    ∃ passed, (readParts {} depth fuel parts).run reading =
      .ok (ofList (parts.reverse.map Part.pattern ++ (term.map literalPart ++ [edge])),
        reading.skip [] passed) := by
  induction term generalizing reading parts fuel with
  | nil =>
    obtain ⟨fuel, rfl⟩ := Nat.exists_eq_add_of_le' enough
    have last : (readEscape {} 'b').run (reading.skip [] 2) =
        .ok (.anchor edge, reading.skip [] 2) := rfl
    refine ⟨2, ?_⟩
    rw [List.flatMap_nil, List.length_nil, Nat.zero_add, readParts_run_of_escaped rfl ahead last,
      readParts_run_of_end rfl, List.reverse_cons, List.map_append]
    rfl
  | cons c term ih =>
    rw [List.flatMap_cons, List.length_append] at enough
    rw [List.flatMap_cons, List.append_assoc] at ahead
    rw [List.forall_mem_cons] at spells
    obtain ⟨first, later⟩ := spells
    -- a step puts the part of the first character in front of the parts read so far
    have onward : ∀ {part : Part} {passed fuel : Nat}, part.pattern = literalPart c →
        (term.flatMap spell).length + 2 ≤ fuel → ∃ further,
          (readParts {} depth fuel (part :: parts)).run
              (reading.skip (term.flatMap spell ++ [.escaped 'b']) passed) =
            .ok (ofList (parts.reverse.map Part.pattern ++ ((c :: term).map literalPart ++ [edge])),
              reading.skip [] further) := by
      intro part passed fuel same enough
      obtain ⟨further, read⟩ : ∃ further, (readParts {} depth fuel (part :: parts)).run
          (reading.skip (term.flatMap spell ++ [.escaped 'b']) passed) = _ :=
        ih later enough (reading.skip_tokens _ passed)
      refine ⟨passed + further, ?_⟩
      rw [read, Reading.skip_skip, List.reverse_cons, List.map_append, List.append_assoc]
      simp [same]
    generalize spell c = tokens at first ahead enough
    cases first with
    | star =>
      obtain ⟨fuel, rfl⟩ := Nat.exists_eq_add_of_le' (Nat.le_trans (Nat.le_add_left 2 _) enough)
      rw [readParts_run_of_star ahead (head_ne_quantifier later (by decide))
        (head_ne_quantifier later (by decide))]
      rw [List.length_cons, List.length_singleton] at enough
      exact onward rfl (by omega)
    | escaped other special =>
      obtain ⟨fuel, rfl⟩ := Nat.exists_eq_add_of_le' (Nat.le_trans (Nat.le_add_left 1 _) enough)
      rw [readParts_run_of_escaped rfl ahead (readEscape_run special)]
      rw [List.length_singleton] at enough
      exact onward (literalPart_of_ne other).symm (by omega)
    | plain stands =>
      have other : c ≠ '*' := by
        rintro rfl
        exact stands (by decide)
      obtain ⟨fuel, rfl⟩ := Nat.exists_eq_add_of_le' (Nat.le_trans (Nat.le_add_left 1 _) enough)
      rw [readParts_run_of_plain rfl stands ahead]
      rw [List.length_singleton] at enough
      exact onward (literalPart_of_ne other).symm (by omega)

end

theorem read?_spelled (spell : Char → List Token) (spelled : ∀ c ∈ term, Spelled write spell c) :
    read? (edgeText ++ term.flatMap write ++ edgeText) = .ok (literal term) := by
  generalize tokens : Token.escaped 'b' :: (term.flatMap spell ++ [.escaped 'b']) = all
  have size : all.length = (term.flatMap spell).length + 2 := by
    rw [← tokens, List.length_cons, List.length_append, List.length_singleton]
  have first : (readEscape {} 'b').run ((Reading.start all).skip
      (term.flatMap spell ++ [.escaped 'b']) 2) = .ok (.anchor edge, _) := rfl
  obtain ⟨passed, read⟩ : ∃ passed, (readParts {} maxDepth (6 * all.length + 5) []).run (.start all) =
      .ok (literal term, (Reading.start all).skip [] passed) := by
    have enough : (term.flatMap spell).length + 2 ≤ 6 * all.length + 4 := by omega
    obtain ⟨passed, read⟩ : ∃ passed, (readParts {} maxDepth (6 * all.length + 4) [.anchor edge]).run
        ((Reading.start all).skip (term.flatMap spell ++ [.escaped 'b']) 2) = _ :=
      readParts_run_term (fun c member => (spelled c member).spells) enough (Reading.skip_tokens ..)
    refine ⟨2 + passed, ?_⟩
    rw [readParts_run_of_escaped rfl tokens.symm first, read, Reading.skip_skip]
    rfl
  have branches : (readBranches {} maxDepth (6 * all.length + 6)).run (.start all) =
      .ok ([literal term], (Reading.start all).skip [] passed) := by
    rw [readBranches, run_bind_ok read, run_bind_ok (accept_run_of_ne (by simp))]
    rfl
  rw [read?, readFrom_spelled spelled, tokens]
  show ((readWhole _).run _ >>= _) = _
  have finished : (readWhole (6 * all.length + 6)).run (.start all) =
      .ok (literal term, (Reading.start all).skip [] passed) := by
    rw [readWhole, run_bind_ok branches, run_bind_ok get_run]
    rfl
  rw [finished]
  rfl

/-! ### The two written forms -/

def tokensOf (c : Char) : List Token :=
  if c == '*' then [.plain '.', .plain '*']
  else if specialChars.contains c then [.escaped c] else [.plain c]

/-- The tokens that a character of a term is written with in pattern mode. -/
def plainTokensOf (c : Char) : List Token :=
  if c == '*' then [.plain '.', .plain '*'] else [.plain c]

theorem spelled_star (writes : write '*' = starText) (stands : spell '*' = [.plain '.', .plain '*']) :
    Spelled write spell '*' where
  spells := stands ▸ .star
  reads position rest := by
    rw [writes, stands]
    exact readFrom_append_plain (by decide)

theorem spelled_plain (writes : write c = [c]) (stands : spell c = [.plain c]) (unescaped : c ≠ '\\')
    (plain : c ∉ syntaxChars) : Spelled write spell c where
  spells := stands ▸ .plain plain
  reads position rest := by
    rw [writes, stands]
    refine readFrom_append_plain fun d member => ?_
    rw [List.mem_singleton.mp member]
    exact unescaped

theorem spelled_escaped (writes : write c = ['\\', c]) (stands : spell c = [.escaped c])
    (other : c ≠ '*') (special : c ∈ specialChars) : Spelled write spell c where
  spells := stands ▸ .escaped other special
  reads position rest := by
    rw [writes, stands]
    exact Token.readFrom.eq_3 ..

theorem read?_literalText (term : Text) : read? (literalText term) = .ok (literal term) := by
  refine read?_spelled tokensOf fun c _ => ?_
  by_cases star : c = '*'
  · subst star
    exact spelled_star rfl rfl
  have notStar : (c == '*') = false := beq_eq_false_iff_ne.mpr star
  by_cases special : c ∈ specialChars
  · have listed : specialChars.contains c = true := List.contains_iff_mem.mpr special
    exact spelled_escaped (by simp [notStar, escapeChar, special]) (by simp [tokensOf, notStar, special])
      star special
  · have listed : ∀ c ∈ '\\' :: syntaxChars, c ∈ specialChars := by decide
    have stands : c ∉ '\\' :: syntaxChars := fun member => special (listed c member)
    rw [List.mem_cons, not_or] at stands
    exact spelled_plain (by simp [notStar, escapeChar, special]) (by simp [tokensOf, notStar, special])
      stands.1 stands.2

def marks : List Char := ['(', ')', '[', ']', '{', '}', '?', '+', '|', '^', '$', '\\', '.']

theorem read?_patternText (unmarked : ∀ c ∈ term, c ∉ marks) :
    read? (patternText term) = .ok (literal term) := by
  refine read?_spelled plainTokensOf fun c member => ?_
  by_cases star : c = '*'
  · subst star
    exact spelled_star rfl rfl
  have notStar : (c == '*') = false := beq_eq_false_iff_ne.mpr star
  have listed : ∀ c ∈ '\\' :: syntaxChars, c = '*' ∨ c ∈ marks := by decide
  have stands : c ∉ '\\' :: syntaxChars := fun there =>
    (listed c there).elim star (unmarked c member)
  rw [List.mem_cons, not_or] at stands
  exact spelled_plain (by simp [notStar]) (by simp [plainTokensOf, notStar]) stands.1 stands.2

end CardSearch.Query.Wildcard
