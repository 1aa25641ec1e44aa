import CardSearch.Query.Connective
import CardSearch.Query.Group
import CardSearch.Query.Proximity
/-!
Evaluation of a query on a text by successive reduction. Groups are replaced first; then a whole
proximity clause, `or`, `not` and the conjunction are looked for, in this order, and the parts are
evaluated in the same way. Terms are tested in a monad `m`, so the same evaluator serves tests that
always answer and tests that can fail. Parts have fewer opening parentheses than their query or are
shorter, so evaluation ends.
-/
namespace CardSearch.Query

/-- What follows the last `not` that counts: a whole proximity clause, or a query. -/
inductive Remainder where
  | clause (clause : Proximity)
  | query (query : Text)
deriving Repr, DecidableEq

/-- A query cut at its `not`s: what stands before each of them, and what follows. -/
structure NotChain where
  heads : List Text
  remainder : Remainder
deriving Repr, DecidableEq

def trimMask (query mask : Text) : Text :=
  (mask.drop (query.length - (Text.trimStart query).length)).take (Text.trim query).length

theorem trimMask_length {query mask : Text} (same : mask.length = query.length) :
    (trimMask query mask).length = (Text.trim query).length := by
  have shorter := Text.trimStart_length_le query
  have inner := Text.trimEnd_length_le (Text.trimStart query)
  simp only [trimMask, Text.trim, List.length_take, List.length_drop]
  omega

/-- Cuts a query at the `not`s of its mask from left to right, up to one that a whole proximity
clause follows. -/
def notChain (query mask : Text) : NotChain :=
  match _found : Connective.not.find? mask with
  | none => ⟨[], .query query⟩
  | some k =>
    let width := k + Connective.not.spelling.length
    let head := Text.trim (query.take k)
    let rest := query.drop width
    let shown := trimMask rest (mask.drop width)
    -- a clause ends the chain, whatever connectives its terms hold
    match Proximity.read? (Text.trim rest) shown with
    | some clause => ⟨[head], .clause clause⟩
    | none =>
      let chain := notChain (Text.trim rest) shown
      { chain with heads := head :: chain.heads }
termination_by mask.length
decreasing_by
  have := Connective.find?_bound _found
  have := Connective.not.spelling_length_pos
  simp only [trimMask, List.length_take, List.length_drop]
  omega

def Piece (piece query : Text) : Prop := piece.Sublist query ∧ piece.length < query.length

theorem Piece.of_cut {query mask : Text} {k : Nat} (same : mask.length = query.length)
    (found : Connective.not.find? mask = some k) {piece : Text}
    (part : piece.Sublist (query.take k) ∨
      piece.Sublist (query.drop (k + Connective.not.spelling.length))) : Piece piece query := by
  have bound := Connective.find?_bound found
  have positive := Connective.not.spelling_length_pos
  rcases part with part | part
  · refine ⟨part.trans (List.take_sublist _ _), ?_⟩
    have := part.length_le
    simp only [List.length_take] at this
    omega
  · refine ⟨part.trans (List.drop_sublist _ _), ?_⟩
    have := part.length_le
    simp only [List.length_drop] at this
    omega

private theorem notChain_parts {query mask : Text} (same : mask.length = query.length) :
    (∀ head ∈ (notChain query mask).heads, Piece head query) ∧
      ∀ rest, (notChain query mask).remainder = .query rest →
        rest = query ∧ Connective.not.find? mask = none ∨ Piece rest query := by
  fun_induction notChain query mask with
  | case1 query mask none => simp_all
  | case2 query mask k found width head rest shown clause read =>
    refine ⟨?_, by simp⟩
    intro piece member
    cases List.mem_singleton.mp member
    exact .of_cut same found (.inl (Text.trim_sublist _))
  | case3 query mask k found width head rest shown unread chain ih =>
    have whole : Piece (Text.trim rest) query := .of_cut same found (.inr (Text.trim_sublist _))
    have inner := ih (trimMask_length (by simp only [rest, List.length_drop]; omega))
    have deeper : ∀ piece, Piece piece (Text.trim rest) → Piece piece query := fun piece part =>
      ⟨part.1.trans whole.1, Nat.lt_trans part.2 whole.2⟩
    constructor
    · intro piece member
      rcases List.mem_cons.mp member with rfl | later
      · exact .of_cut same found (.inl (Text.trim_sublist _))
      · exact deeper _ (inner.1 _ later)
    · intro piece last
      rcases inner.2 piece last with ⟨rfl, _⟩ | part
      · exact .inr whole
      · exact .inr (deeper _ part)

theorem piece_of_mem_heads {query mask head : Text} (same : mask.length = query.length)
    (member : head ∈ (notChain query mask).heads) : Piece head query :=
  (notChain_parts same).1 _ member

theorem piece_of_remainder {query mask rest : Text} (same : mask.length = query.length)
    (some : Connective.not.find? mask ≠ none)
    (last : (notChain query mask).remainder = .query rest) : Piece rest query := by
  rcases (notChain_parts same).2 _ last with ⟨_, none⟩ | part
  · exact absurd none some
  · exact part

/-- What decreases when a query is evaluated through its parts. -/
def Below (a b : Text) : Prop := Prod.Lex (· < ·) (· < ·) (size a) (size b)

theorem Below.of_openings {a b : Text} (fewer : openings a < openings b) : Below a b :=
  .left _ _ fewer

theorem Below.of_piece {piece query whole : Text} (part : Piece piece query)
    (noLarger : NoLarger query whole) : Below piece whole := by
  have fewer : openings piece ≤ openings query := part.1.count_le '('
  have shorter := part.2
  rcases Nat.lt_or_ge (openings piece) (openings whole) with less | more
  · exact .left _ _ less
  · have same : openings piece = openings whole := by unfold NoLarger at noLarger; omega
    unfold Below size
    rw [same]
    refine .right _ ?_
    unfold NoLarger at noLarger
    omega

section

variable {m : Type → Type} [Monad m]

/-- Goes through the parts until the value of one of them decides; the later ones are not evaluated
then. -/
def untilDecided {α : Type} (decisive : Bool) :
    (parts : List α) → ((part : α) → part ∈ parts → m Bool) → m Bool
  | [], _ => pure (!decisive)
  | part :: parts, value => do
    if (← value part (.head _)) == decisive then pure decisive
    else untilDecided decisive parts fun other member => value other (.tail _ member)

def anyTrue {α : Type} (parts : List α) (value : (part : α) → part ∈ parts → m Bool) : m Bool :=
  untilDecided true parts value

def allTrue {α : Type} (parts : List α) (value : (part : α) → part ∈ parts → m Bool) : m Bool :=
  untilDecided false parts value

/-- The value of `h₁ not h₂ not … rest`, read as `h₁` and not (`h₂` and not (… `rest`)), from right
to left. -/
def chainValue : (heads : List Text) → (rest : m Bool) →
    ((head : Text) → head ∈ heads → m Bool) → m Bool
  | [], rest, _ => rest
  | head :: heads, rest, value => do
    let later ← chainValue heads rest fun other member => value other (.tail _ member)
    let here ← value head (.head _)
    return here && !later

def unquoted (term : Text) : Text := (term.drop 1).dropLast

/-- A term of a query on a text: a placeholder, a phrase that the text holds, or a term to test. -/
def evaluateTerm (test : (term text : Text) → m Bool) (text term : Text) : m Bool :=
  if term = truePlaceholder then pure true
  else if term = falsePlaceholder then pure false
  else if term.head? = some '"' && term.getLast? = some '"' then
    pure (Text.occurs (unquoted term) text)
  else if term.head? = some '\'' && term.getLast? = some '\'' then
    pure (Text.occurs (unquoted term) text)
  else test term text

/-- The terms of a conjunction: the parts between its `and`s, or the words if it has none. -/
def conjuncts (query mask : Text) : List Text :=
  if (Connective.and.find? mask).isSome then
    (splitAlong .and query mask).map Text.trim
  else Text.wordsAlong query mask

set_option linter.unusedVariables false in
/-- Evaluates a query on a text. The empty query holds of every text. -/
def evaluate (test : (term text : Text) → m Bool) (text query : Text) : m Bool := do
  have trimmed : NoLarger (Text.trim query) query := noLarger_of_sublist (Text.trim_sublist query)
  let reduced ← reduceGroups (Text.trim query) fun body fewer => evaluate test text body
  have noLarger : NoLarger reduced.text query := reduced.noLarger.trans trimmed
  let shown := mask reduced.text
  have same : shown.length = reduced.text.length := mask_length reduced.text
  if reduced.text = truePlaceholder then pure true
  else if reduced.text = falsePlaceholder then pure false
  else
    match Proximity.read? reduced.text shown with
    | some clause => clause.evaluate test text
    | none =>
      if several : Connective.or.find? shown ≠ none then
        anyTrue (splitAlong .or reduced.text shown) fun part member => evaluate test text part
      else if denies : Connective.not.find? shown ≠ none then
        let rest : m Bool :=
          match last : (notChain reduced.text shown).remainder with
          | .clause clause => clause.evaluate test text
          | .query rest => evaluate test text rest
        match cut : (notChain reduced.text shown).heads with
        | [] => rest
        | first :: heads => do
          -- an empty first head counts as true
          let later ← chainValue heads rest fun head member => evaluate test text head
          let before ← if first = [] then pure true else evaluate test text first
          return before && !later
      else allTrue (conjuncts reduced.text shown) fun term _ => evaluateTerm test text term
termination_by size query
decreasing_by
  · refine Below.of_openings ?_
    unfold NoLarger at trimmed
    omega
  · exact Below.of_piece ⟨sublist_of_mem_splitAlong member,
      length_lt_of_mem_splitAlong same several member⟩ noLarger
  · exact Below.of_piece (piece_of_remainder same denies last) noLarger
  · exact Below.of_piece (piece_of_mem_heads same (by rw [cut]; exact .tail _ member)) noLarger
  · exact Below.of_piece (piece_of_mem_heads same (by rw [cut]; exact .head _)) noLarger

end

end CardSearch.Query
