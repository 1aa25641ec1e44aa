import CardSearch.Proofs.Answering
/-!
What a proximity clause says of a text. Only the nearest second position is looked at for each
first one, which is enough to find two words within the distance wherever there are such words. Main
statement: a clause with literal wildcards holds of a text exactly if two such words are in it, in
either order, and it still does when its distance grows.
-/
namespace CardSearch.Query

open Text

/-! ### Nearest positions -/

section

variable {anchor p q : Int} {positions first second : List Int}

theorem nearest?_eq_none_iff : nearest? anchor positions = none ↔ positions = [] := by
  cases positions with
  | nil => simp [nearest?]
  | cons p positions =>
    rw [nearest?]
    split
    · split <;> simp
    · simp

theorem nearest?_mem (found : nearest? anchor positions = some p) : p ∈ positions := by
  induction positions generalizing p with
  | nil => contradiction
  | cons r positions ih =>
    rw [nearest?] at found
    split at found
    · rename_i q later
      split at found
      · cases found
        exact List.mem_cons_of_mem _ (ih later)
      · cases found
        exact List.mem_cons_self ..
    · cases found
      exact List.mem_cons_self ..

theorem nearest?_le (found : nearest? anchor positions = some p) (member : q ∈ positions) :
    (p - anchor).natAbs ≤ (q - anchor).natAbs := by
  induction positions generalizing p with
  | nil => contradiction
  | cons r positions ih =>
    rw [nearest?] at found
    cases later : nearest? anchor positions with
    | none =>
      rw [later] at found
      cases found
      rw [nearest?_eq_none_iff.mp later, List.mem_singleton] at member
      rw [member]
    | some s =>
      simp only [later] at found
      rcases List.mem_cons.mp member with rfl | inside
      · split at found
        · cases found
          omega
        · cases found
          exact Nat.le_refl _
      · have closest := ih later inside
        split at found
        · cases found
          exact closest
        · cases found
          omega

theorem withinDistance_iff {distance : Int} : withinDistance first second distance = true ↔
    ∃ p ∈ first, ∃ q ∈ second, ((q - p).natAbs : Int) ≤ distance := by
  rw [withinDistance, List.any_eq_true]
  refine exists_congr fun p => and_congr_right fun _ => ?_
  constructor
  · intro close
    split at close
    · rename_i q found
      exact ⟨q, nearest?_mem found, of_decide_eq_true close⟩
    · contradiction
  · rintro ⟨q, member, close⟩
    cases found : nearest? p second with
    | none =>
      rw [nearest?_eq_none_iff.mp found] at member
      contradiction
    | some closest =>
      have least := nearest?_le found member
      exact decide_eq_true (by omega)

end

/-! ### Clauses -/

variable {test : (term text : Text) → Bool}

private theorem mem_positionsFrom {passes : Text → Bool} {index : Nat} {all : List Text} {p : Int} :
    p ∈ Id.run (positionsFrom (fun word => pure (passes word)) index all) ↔
      ∃ i word, all[i]? = some word ∧ passes word = true ∧ p = (index + i : Nat) := by
  induction all generalizing index with
  | nil => simp [positionsFrom]
  | cons first all ih =>
    have later : p ∈ Id.run (positionsFrom (fun word => pure (passes word)) (index + 1) all) ↔
        ∃ i word, (first :: all)[i + 1]? = some word ∧ passes word = true ∧
          p = (index + (i + 1) : Nat) := by
      rw [ih]
      simp only [List.getElem?_cons_succ, Nat.add_assoc, Nat.add_comm 1]
    have here : p = (index : Nat) ∧ passes first = true ↔
        ∃ word, (first :: all)[0]? = some word ∧ passes word = true ∧ p = (index + 0 : Nat) := by
      simp [and_comm]
    have either : (∃ i word, (first :: all)[i]? = some word ∧ passes word = true ∧
        p = (index + i : Nat)) ↔ (p = (index : Nat) ∧ passes first = true) ∨
          p ∈ Id.run (positionsFrom (fun word => pure (passes word)) (index + 1) all) := by
      rw [here, later]
      constructor
      · rintro ⟨i, found⟩
        cases i with
        | zero => exact .inl found
        | succ i => exact .inr ⟨i, found⟩
      · rintro (found | ⟨i, found⟩)
        · exact ⟨0, found⟩
        · exact ⟨i + 1, found⟩
    rw [either]
    cases passed : passes first with
    | true => simp [positionsFrom, passed]
    | false => simp [positionsFrom, passed]

/-- A clause holds where words that pass its two terms stand within its distance. -/
theorem clauseValue_eq_true_iff {clause : Proximity} {text : Text} :
    clauseValue test text clause = true ↔
      ∃ (i j : Nat) (u v : Text), (words text)[i]? = some u ∧ (words text)[j]? = some v ∧
        test clause.first u = true ∧ test clause.second v = true ∧
          ((j : Int) - i).natAbs ≤ clause.distance := by
  have run : clauseValue test text clause = withinDistance
      (Id.run (positionsFrom (fun word => pure (test clause.first word)) 0 (words text)))
      (Id.run (positionsFrom (fun word => pure (test clause.second word)) 0 (words text)))
      clause.distance := rfl
  rw [run, withinDistance_iff]
  simp only [mem_positionsFrom, Nat.zero_add]
  constructor
  · rintro ⟨_, ⟨i, u, first, passes, rfl⟩, _, ⟨j, v, second, passes', rfl⟩, close⟩
    exact ⟨i, j, u, v, first, second, passes, passes', close⟩
  · rintro ⟨i, j, u, v, first, second, passes, passes', close⟩
    exact ⟨_, ⟨i, u, first, passes, rfl⟩, _, ⟨j, v, second, passes', rfl⟩, close⟩

variable {clause : Proximity} {text : Text}

def Proximity.swapped (clause : Proximity) : Proximity :=
  ⟨clause.second, clause.first, clause.distance⟩

theorem clauseValue_swapped : clauseValue test text clause.swapped = clauseValue test text clause := by
  -- the two words are exchanged along with the terms
  have exchange : ∀ clause : Proximity, clauseValue test text clause = true →
      clauseValue test text clause.swapped = true := by
    intro clause holds
    obtain ⟨i, j, u, v, first, second, passes, passes', close⟩ := clauseValue_eq_true_iff.mp holds
    refine clauseValue_eq_true_iff.mpr ⟨j, i, v, u, second, first, passes', passes, ?_⟩
    rwa [← Int.neg_sub, Int.natAbs_neg]
  rw [Bool.eq_iff_iff]
  exact ⟨exchange clause.swapped, exchange clause⟩

theorem clauseValue_mono {more : Int} (further : clause.distance ≤ more)
    (holds : clauseValue test text clause = true) :
    clauseValue test text { clause with distance := more } = true := by
  obtain ⟨i, j, u, v, first, second, passes, passes', close⟩ := clauseValue_eq_true_iff.mp holds
  have wider : (((j : Int) - i).natAbs : Int) ≤ more := Int.le_trans close further
  exact clauseValue_eq_true_iff.mpr ⟨i, j, u, v, first, second, passes, passes', wider⟩

/-- With literal wildcards a clause always gives an answer, and does nothing else. -/
theorem Proximity.evaluate_literal (clause : Proximity) (text : Text) :
    clause.evaluate (matchesTerm .literal) text = pure (clauseValue matchesLiterally text clause) := by
  have literal (term word : Text) : (answering TermM).toCorrespondence.Related
      (matchesTerm .literal term word) (pure (matchesLiterally term word)) := rfl
  exact (answering TermM).toCorrespondence.clause (literal _) (literal _) text

/-- Two lists hold positions within a distance exactly if they are found to, in any order and with any
number of duplicates. So a clause with literal wildcards answers whether two words that match its terms
stand within its distance; it gives the same answer when its terms are exchanged, and holds on when its
distance grows. -/
theorem evaluate_iff_words_near :
    (∀ (first second : List Int) (distance : Int), withinDistance first second distance = true ↔
      ∃ i ∈ first, ∃ j ∈ second, ((i - j).natAbs : Int) ≤ distance) ∧
    ∀ (clause : Proximity) (text : Text), ∃ holds : Bool,
      clause.evaluate (matchesTerm .literal) text = pure holds ∧
      (holds = true ↔ ∃ (i j : Nat) (u v : Text),
        (words text)[i]? = some u ∧ (words text)[j]? = some v ∧
          matchesLiterally clause.first u = true ∧ matchesLiterally clause.second v = true ∧
            (((i : Int) - j).natAbs : Int) ≤ clause.distance) ∧
      clause.swapped.evaluate (matchesTerm .literal) text = pure holds ∧
      ∀ more, clause.distance ≤ more → holds = true →
        Proximity.evaluate (matchesTerm .literal) { clause with distance := more } text = pure true := by
  have flip (i j : Int) : (i - j).natAbs = (j - i).natAbs := by rw [← Int.neg_sub, Int.natAbs_neg]
  refine ⟨fun first second distance => ?_, fun clause text =>
    ⟨clauseValue matchesLiterally text clause, clause.evaluate_literal text, ?_, ?_, ?_⟩⟩
  · rw [withinDistance_iff]
    refine exists_congr fun i => and_congr_right fun _ => exists_congr fun j => and_congr_right fun _ => ?_
    rw [flip]
  · rw [clauseValue_eq_true_iff]
    refine exists_congr fun i => exists_congr fun j => exists_congr fun u => exists_congr fun v => ?_
    rw [flip]
  · rw [clause.swapped.evaluate_literal, clauseValue_swapped]
  · intro more further holds
    rw [Proximity.evaluate_literal, clauseValue_mono further holds]

/-- Two words that stand side by side, in the order other than the clause's, and a distance to spare. -/
theorem evaluate_iff_words_near_neighbours :
    withinDistance [3, 0, 3] [7, 5] 2 = true ∧
      Proximity.evaluate (matchesTerm .literal) ⟨['a'], ['b'], 5⟩ ['b', ' ', 'a'] = pure true := by
  obtain ⟨holds, -, near, -, grows⟩ := evaluate_iff_words_near.2 ⟨['a'], ['b'], 1⟩ ['b', ' ', 'a']
  have there : holds = true :=
    near.mpr ⟨1, 0, ['a'], ['b'], by decide, by decide, by decide, by decide, by decide⟩
  exact ⟨(evaluate_iff_words_near.1 _ _ _).mpr ⟨3, by decide, 5, by decide, by decide⟩,
    grows 5 (by decide) there⟩

end CardSearch.Query
