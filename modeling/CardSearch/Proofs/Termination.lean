import CardSearch.Proofs.Answering
import CardSearch.Proofs.GroupTruth
/-!
Why evaluation ends. A placeholder may be longer than its group, so queries may grow while their groups
are replaced; what falls is the number of opening parentheses, and where it does not fall the length
does. Main statement: every pass over the groups takes away a parenthesis and the last pass leaves
nothing to replace, and an evaluation evaluates in turn only queries that are smaller in this order.
-/
namespace CardSearch.Query

open Text

variable {worth : Text → Bool} {test : (term text : Text) → Bool}
  {text query last part : Text} {count : Nat}

/-! ### Passes -/

/-- Passes over a query, each replacing the first group that the mask shows, until it shows none. -/
inductive Passes (worth : Text → Bool) : (count : Nat) → (query last : Text) → Prop
  | done {query : Text} (groupless : findGroup? (mask query) = none) : Passes worth 0 query query
  | next {count : Nat} {query last : Text} {group : Group}
    (found : findGroup? (mask query) = some group)
    (later : Passes worth count (group.replace query (placeholder (worth (group.body query)))) last) :
    Passes worth (count + 1) query last

theorem length_replace {group : Group} (found : findGroup? (mask query) = some group)
    (replacement : Text) :
    (group.replace query replacement).length + (group.length + 2) =
      query.length + replacement.length := by
  obtain ⟨front, body, later, whole, start, length⟩ := parts_of_findGroup? found
  have size := congrArg List.length whole
  rw [mask_length] at size
  simp only [Group.replace, List.length_append, List.length_cons, List.length_take,
    List.length_drop] at size ⊢
  omega

theorem Passes.openings_le (passes : Passes worth count query last) :
    openings last + count ≤ openings query := by
  induction passes with
  | done groupless => exact Nat.le_refl _
  | @next count query last group found later ih =>
    have fewer := openings_replace_lt (worth (group.body query)) found
    omega

theorem exists_passes (worth : Text → Bool) (query : Text) :
    ∃ count last, Passes worth count query last ∧ replaceGroups worth query = trim last := by
  induction query using group_induction with
  | groupless query unseen => exact ⟨0, query, .done unseen, replaceGroups_of_none unseen⟩
  | grouped query group found ih =>
    obtain ⟨count, last, passes, reduct⟩ := ih (worth (group.body query))
    exact ⟨count + 1, last, .next found passes, (replaceGroups_of_some found).trans reduct⟩

theorem replaceGroups_replaceGroups (worth other : Text → Bool) (query : Text) :
    replaceGroups other (replaceGroups worth query) = replaceGroups worth query := by
  have settled := settled_replaceGroups worth query
  rw [replaceGroups_of_none settled.groupless, settled.tight.trim_eq]

/-! ### Calls -/

def recordCall (worth : Text → Bool) (part : Text) : StateM (List Text) Bool := do
  modify (part :: ·)
  return worth part

/-- The evaluation of a query in which the parts that it evaluates in turn are kept. -/
def recordedActivation (test : (term text : Text) → Bool) (text query : Text) :
    StateM (List Text) Bool :=
  activation (fun term word => pure (test term word)) text (recordCall (value test text)) query

/-- The parts that the evaluation of a query evaluates in turn, latest first. -/
def calls (test : (term text : Text) → Bool) (text query : Text) : List Text :=
  ((recordedActivation test text query).run []).2

/-- Work that gives an answer and keeps only parts with a property is related to the answer. -/
def recording (kept : Text → Prop) : Following (StateM (List Text)) where
  Related work answer := ∀ log, ∃ parts, work.run log = (Id.run answer, parts ++ log) ∧
    ∀ part ∈ parts, kept part
  pure a := fun log => ⟨[], rfl, by simp⟩
  bind {_ _ x y f g} first next := by
    intro log
    obtain ⟨parts, run, all⟩ := first log
    obtain ⟨later, runLater, allLater⟩ := next (parts ++ log)
    refine ⟨later ++ parts, ?_, List.forall_mem_append.mpr ⟨allLater, all⟩⟩
    rw [StateT.run_bind, run, List.append_assoc]
    exact runLater

private theorem recordedActivation_follows (test : (term text : Text) → Bool) (text query : Text) :
    (recording (IsPart · query)).Related (recordedActivation test text query)
      (pure (value test text query)) :=
  activation_follows (recording (IsPart · query))
    (fun term _ _ _ word => (recording (IsPart · query)).pure (test term word))
    (fun part inside _ => ⟨[part], rfl, by simpa using inside⟩)

theorem run_recordedActivation (test : (term text : Text) → Bool) (text query : Text) :
    (recordedActivation test text query).run [] = (value test text query, calls test text query) := by
  obtain ⟨parts, run, -⟩ := recordedActivation_follows test text query []
  rw [calls, run]
  rfl

theorem isPart_of_mem_calls (called : part ∈ calls test text query) : IsPart part query := by
  obtain ⟨parts, run, all⟩ := recordedActivation_follows test text query []
  rw [calls, run, List.append_nil] at called
  exact all part called

theorem below_of_mem_calls (called : part ∈ calls test text query) : Below part query :=
  (isPart_of_mem_calls called).below

theorem wellFounded_below : WellFounded Below :=
  InvImage.wf size (Prod.lex Nat.lt_wfRel Nat.lt_wfRel).wf

/-! ### Both -/

/-- Evaluation ends. A pass over the groups of a query takes away an opening parenthesis, by how much
ever the query grows or shrinks; there are no more passes than opening parentheses, and what they leave
is trimmed, shows no group and is left alone when groups are replaced again. The queries that an
evaluation evaluates in turn are bodies of groups, alternatives of an `or` and what stands around a
`not`; each has fewer opening parentheses than the query, or as many and fewer characters, so the
evaluations inside one another come to an end. -/
theorem evaluation_ends (test : (term text : Text) → Bool) (text query : Text) :
    (∀ group truth, findGroup? (mask query) = some group →
      openings (group.replace query (placeholder truth)) < openings query ∧
        (group.replace query (placeholder truth)).length + (group.length + 2) =
          query.length + (placeholder truth).length) ∧
    (∃ count last, Passes (value test text) count query last ∧ count ≤ openings query ∧
      replaceGroups (value test text) query = trim last) ∧
    (trim (replaceGroups (value test text) query) = replaceGroups (value test text) query ∧
      findGroup? (mask (replaceGroups (value test text) query)) = none ∧
      replaceGroups (value test text) (replaceGroups (value test text) query) =
        replaceGroups (value test text) query) ∧
    (recordedActivation test text query).run [] = (value test text query, calls test text query) ∧
    (∀ part ∈ calls test text query, IsPart part query ∧ Below part query) ∧
    WellFounded fun part query => part ∈ calls test text query := by
  have settled := settled_replaceGroups (value test text) query
  refine ⟨fun group truth found => ?_, ?_, ?_, run_recordedActivation test text query,
    fun part called => ⟨isPart_of_mem_calls called, below_of_mem_calls called⟩, ?_⟩
  · exact ⟨openings_replace_lt truth found, length_replace found _⟩
  · obtain ⟨count, last, passes, reduct⟩ := exists_passes (value test text) query
    have bound : count ≤ openings query := Nat.le_trans (Nat.le_add_left ..) passes.openings_le
    exact ⟨count, last, passes, bound, reduct⟩
  · exact ⟨settled.tight.trim_eq, settled.groupless, replaceGroups_replaceGroups _ _ query⟩
  · exact Subrelation.wf below_of_mem_calls wellFounded_below

/-- The placeholder of a group of one letter is longer than the group. -/
example : Passes (fun _ => true) 1 "(a)".toList "__TRUE__".toList := by
  have found : findGroup? (mask "(a)".toList) = some ⟨0, 1⟩ := by decide
  exact .next found (.done (by decide))

end CardSearch.Query
