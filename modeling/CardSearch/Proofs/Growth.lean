import CardSearch.Proofs.Meaning
/-!
Texts that grow at either end. Words keep their distances, and the first and the last one may become
longer. Main statements: a term or a clause without stars that holds of a text holds of every longer
text around it.
-/
namespace CardSearch.Query

open Text

variable {c : Char} {text other : Text}

/-! ### Words of longer texts -/

/-- Every word of a text has its place in another text, at one distance for all, and is part of the
word there. -/
def WordsInside (text other : Text) : Prop :=
  ∃ shift : Nat, ∀ (i : Nat) (word : Text), (words text)[i]? = some word →
    ∃ longer, (words other)[i + shift]? = some longer ∧ word <:+: longer

theorem WordsInside.trans {a b c : Text} (first : WordsInside a b) (second : WordsInside b c) :
    WordsInside a c := by
  obtain ⟨shift, inner⟩ := first
  obtain ⟨more, outer⟩ := second
  refine ⟨shift + more, fun i word there => ?_⟩
  obtain ⟨longer, place, inside⟩ := inner i word there
  obtain ⟨longest, place', inside'⟩ := outer _ longer place
  exact ⟨longest, by rwa [← Nat.add_assoc], inside.trans inside'⟩

theorem wordsInside_cons (c : Char) (text : Text) : WordsInside text (c :: text) := by
  cases blank : isBlank c with
  | true =>
    refine ⟨0, fun i word there => ⟨word, ?_, List.infix_refl word⟩⟩
    rwa [words_cons_blank blank]
  | false =>
    rw [WordsInside, words_cons_solid blank]
    cases text.head?.any fun e => !isBlank e with
    | false => exact ⟨1, fun i word there => ⟨word, there, List.infix_refl word⟩⟩
    | true =>
      cases words text with
      | nil => exact ⟨0, fun i word there => by simp at there⟩
      | cons first rest =>
        refine ⟨0, fun i word there => ?_⟩
        cases i with
        | zero =>
          rw [List.getElem?_cons_zero, Option.some.injEq] at there
          exact ⟨c :: first, rfl, there ▸ (List.suffix_cons c first).isInfix⟩
        | succ i => exact ⟨word, there, List.infix_refl word⟩

theorem wordsInside_front (front text : Text) : WordsInside text (front ++ text) := by
  induction front with
  | nil => exact ⟨0, fun i word there => ⟨word, there, List.infix_refl word⟩⟩
  | cons c front ih => exact ih.trans (wordsInside_cons c (front ++ text))

def Lengthened (shorter longer : List Text) : Prop :=
  ∀ (i : Nat) (word : Text), shorter[i]? = some word →
    ∃ more, longer[i]? = some more ∧ word <+: more

theorem Lengthened.join {a b : List Text} (longer : Lengthened a b) (front : Text) (joined : Bool) :
    Lengthened (joinFront front joined a) (joinFront front joined b) := by
  intro i word there
  cases joined with
  | false =>
    cases i with
    | zero => exact ⟨word, there, List.prefix_refl word⟩
    | succ i => exact longer i word there
  | true =>
    cases a with
    | nil =>
      rw [joinFront_nil] at there
      cases i with
      | succ i => simp at there
      | zero =>
        rw [List.getElem?_cons_zero, Option.some.injEq] at there
        cases b with
        | nil => exact ⟨front, rfl, there ▸ List.prefix_refl front⟩
        | cons first rest => exact ⟨front ++ first, rfl, there ▸ List.prefix_append front first⟩
    | cons first rest =>
      obtain ⟨more, place, starts⟩ := longer 0 first rfl
      cases b with
      | nil => simp at place
      | cons first' rest' =>
        cases i with
        | zero =>
          rw [List.getElem?_cons_zero, Option.some.injEq] at place
          refine ⟨front ++ more, by rw [← place]; rfl, ?_⟩
          rw [joinFront, List.getElem?_cons_zero, Option.some.injEq] at there
          rw [← there]
          exact (List.prefix_append_right_inj front).mpr starts
        | succ i => exact longer (i + 1) word there

theorem lengthened_append (text back : Text) : Lengthened (words text) (words (text ++ back)) := by
  induction text with
  | nil =>
    intro i word there
    contradiction
  | cons c text ih =>
    cases blank : isBlank c with
    | true =>
      rw [List.cons_append, words_cons_blank blank, words_cons_blank blank]
      exact ih
    | false =>
      rw [List.cons_append, words_cons_solid blank, words_cons_solid blank]
      cases text with
      | nil =>
        have single : joinFront [c] (Option.any (fun e => !isBlank e) ([] : Text).head?) (words []) =
            joinFront [c] (Option.any (fun e => !isBlank e) ([] ++ back : Text).head?) (words []) := by
          rw [words_nil, joinFront_nil, joinFront_nil]
        rw [single]
        exact ih.join [c] _
      | cons d text => exact ih.join [c] _

theorem wordsInside_back (text back : Text) : WordsInside text (text ++ back) := by
  refine ⟨0, fun i word there => ?_⟩
  obtain ⟨longer, place, starts⟩ := lengthened_append text back i word there
  exact ⟨longer, place, starts.isInfix⟩

/-! ### Clauses and terms -/

theorem matchesLiterally_of_starless {term : Text} (starless : '*' ∉ term) (text : Text) :
    matchesLiterally term text = occurs term text := by
  have plain : isWildcard term = false := by
    rw [isWildcard, Bool.eq_false_iff, ne_eq, List.contains_iff_mem]
    exact starless
  rw [matchesLiterally, plain]
  rfl

theorem occurs_grows {term : Text} (inside : text <:+: other)
    (occurs : Text.occurs term text = true) : Text.occurs term other = true :=
  occurs_iff.mpr ((occurs_iff.mp occurs).trans inside)

theorem clauseValue_grows {clause : Proximity} (first : '*' ∉ clause.first) (second : '*' ∉ clause.second)
    (inside : WordsInside text other)
    (holds : clauseValue matchesLiterally text clause = true) :
    clauseValue matchesLiterally other clause = true := by
  obtain ⟨i, j, u, v, here, there, passes, passes', close⟩ := clauseValue_eq_true_iff.mp holds
  obtain ⟨shift, moved⟩ := inside
  obtain ⟨u', here', part⟩ := moved i u here
  obtain ⟨v', there', part'⟩ := moved j v there
  rw [matchesLiterally_of_starless first] at passes
  rw [matchesLiterally_of_starless second] at passes'
  refine clauseValue_eq_true_iff.mpr ⟨i + shift, j + shift, u', v', here', there', ?_, ?_, ?_⟩
  · rw [matchesLiterally_of_starless first]
    exact occurs_grows part passes
  · rw [matchesLiterally_of_starless second]
    exact occurs_grows part' passes'
  · have same : ((j + shift : Nat) : Int) - (i + shift : Nat) = (j : Int) - i := by omega
    rw [same]
    exact close

/-- What stands between the quotes of a term holds all of its characters that are no quotes. -/
theorem mem_unquoted {term : Text} {quote d : Char} (first : term.head? = some quote)
    (last : term.getLast? = some quote) (member : d ∈ term) (other : d ≠ quote) :
    d ∈ unquoted term := by
  cases term with
  | nil => contradiction
  | cons c rest =>
    obtain rfl : c = quote := Option.some.inj first
    have inside : d ∈ rest := (List.mem_cons.mp member).resolve_left other
    have nonempty : rest ≠ [] := List.ne_nil_of_mem inside
    rw [List.getLast?_cons, List.getLast?_eq_some_getLast nonempty] at last
    have end' : rest.getLast nonempty = c := by simpa using last
    rw [← List.dropLast_append_getLast nonempty, List.mem_append, end'] at inside
    exact inside.resolve_right (by simpa using other)

/-- A term without stars that is no placeholder holds where a piece of it occurs, which has all of
its characters that are no quotes. -/
theorem exists_piece {term : Text} (starless : '*' ∉ term) (other : ∀ truth, term ≠ placeholder truth) :
    ∃ piece, (∀ d ∈ term, isQuote d = false → d ∈ piece) ∧
      ∀ text, termValue matchesLiterally text term = occurs piece text := by
  have noQuote : ∀ {quote d : Char}, isQuote quote = true → isQuote d = false → d ≠ quote := by
    intro quote d quoted plain same
    rw [same, quoted] at plain
    contradiction
  have notTrue : term ≠ truePlaceholder := other true
  have notFalse : term ≠ falsePlaceholder := other false
  simp only [termValue, evaluateTerm, if_neg notTrue, if_neg notFalse,
    matchesLiterally_of_starless starless]
  split
  · rename_i quoted
    obtain ⟨first, last⟩ : term.head? = some '"' ∧ term.getLast? = some '"' := by simpa using quoted
    exact ⟨unquoted term, fun d member plain => mem_unquoted first last member (noQuote rfl plain),
      fun _ => rfl⟩
  · split
    · rename_i quoted
      obtain ⟨first, last⟩ : term.head? = some '\'' ∧ term.getLast? = some '\'' := by
        simpa using quoted
      exact ⟨unquoted term, fun d member plain => mem_unquoted first last member (noQuote rfl plain),
        fun _ => rfl⟩
    · exact ⟨term, fun d member _ => member, fun _ => rfl⟩

end CardSearch.Query
