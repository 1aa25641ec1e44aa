import CardSearch.Query.Mask
/-!
Parenthesised groups. The first innermost group that the mask shows is evaluated and replaced by a
placeholder for its truth value, until no group is left. Each replacement takes away a parenthesis
and adds none, so the loop ends although the query may grow.
-/
namespace CardSearch.Query

/-- A group in a query: the offset of its opening parenthesis and the length of its body. -/
structure Group where
  start : Nat
  length : Nat
deriving Repr, DecidableEq

/-- The length of a group's body from inside its opening parenthesis: characters up to a closing
parenthesis, no parenthesis among them. -/
def bodyLength? : Text → Option Nat
  | [] => none
  | c :: rest =>
    if c == ')' then some 0
    else if c == '(' then none
    else (bodyLength? rest).map (· + 1)

/-- The first group in a mask that holds no other group and is not empty. -/
def findGroup? : Text → Option Group
  | [] => none
  | c :: rest =>
    let later := (findGroup? rest).map fun group => { group with start := group.start + 1 }
    if c == '(' then
      match bodyLength? rest with
      | some (n + 1) => some ⟨0, n + 1⟩
      | _ => later
    else later

def truePlaceholder : Text := ['_', '_', 'T', 'R', 'U', 'E', '_', '_']

def falsePlaceholder : Text := ['_', '_', 'F', 'A', 'L', 'S', 'E', '_', '_']

def placeholder (value : Bool) : Text := if value then truePlaceholder else falsePlaceholder

namespace Group

def body (group : Group) (query : Text) : Text := (query.drop (group.start + 1)).take group.length

def replace (group : Group) (query replacement : Text) : Text :=
  query.take group.start ++ replacement ++ query.drop (group.start + group.length + 2)

end Group

def openings (query : Text) : Nat := query.count '('

/-- A query is larger than another if it has more opening parentheses, or as many and more
characters. -/
def size (query : Text) : Nat × Nat := (openings query, query.length)

def NoLarger (a b : Text) : Prop :=
  openings a < openings b ∨ openings a = openings b ∧ a.length ≤ b.length

theorem NoLarger.trans {a b c : Text} (first : NoLarger a b) (second : NoLarger b c) :
    NoLarger a c := by
  unfold NoLarger at *
  omega

theorem noLarger_of_sublist {a b : Text} (part : a.Sublist b) : NoLarger a b := by
  have fewer : openings a ≤ openings b := part.count_le '('
  have shorter := part.length_le
  unfold NoLarger
  omega

private theorem findGroup?_shows {mask : Text} {group : Group}
    (found : findGroup? mask = some group) : mask[group.start]? = some '(' := by
  induction mask generalizing group with
  | nil => cases found
  | cons c rest ih =>
    have later : ∀ outer, (findGroup? rest).map (fun inner =>
        { inner with start := inner.start + 1 }) = some outer →
        (c :: rest)[outer.start]? = some '(' := by
      intro outer shifted
      obtain ⟨inner, innerFound, rfl⟩ := Option.map_eq_some_iff.mp shifted
      simpa using ih innerFound
    simp only [findGroup?] at found
    split at found
    · rename_i opens
      split at found
      · cases found
        simpa using opens
      · exact later _ found
    · exact later _ found

private theorem openings_split {query : Text} {i : Nat} (opens : query[i]? = some '(') :
    openings (query.take i) + openings (query.drop (i + 1)) + 1 = openings query := by
  obtain ⟨bound, shown⟩ := List.getElem?_eq_some_iff.mp opens
  have cut : query = query.take i ++ '(' :: query.drop (i + 1) := by
    rw [← shown, ← List.drop_eq_getElem_cons bound, List.take_append_drop]
  have counted := congrArg openings cut
  simp only [openings, List.count_append, List.count_cons_self] at counted ⊢
  omega

/-- A group's body has fewer opening parentheses than the query. -/
theorem openings_body_lt {query : Text} {group : Group}
    (found : findGroup? (mask query) = some group) :
    openings (group.body query) < openings query := by
  have opens := mask_keeps (findGroup?_shows found) (by decide)
  have split := openings_split opens
  have part : openings (group.body query) ≤ openings (query.drop (group.start + 1)) :=
    (List.take_sublist _ _).count_le '('
  omega

/-- Replacing a group by a placeholder leaves fewer opening parentheses. -/
theorem openings_replace_lt {query : Text} {group : Group} (value : Bool)
    (found : findGroup? (mask query) = some group) :
    openings (group.replace query (placeholder value)) < openings query := by
  have opens := mask_keeps (findGroup?_shows found) (by decide)
  have split := openings_split opens
  have part : openings (query.drop (group.start + group.length + 2)) ≤
      openings (query.drop (group.start + 1)) := by
    have later : group.start + group.length + 2 = group.start + 1 + (group.length + 1) := by omega
    rw [later, ← List.drop_drop]
    exact (List.drop_sublist _ _).count_le '('
  have closed : openings (placeholder value) = 0 := by cases value <;> decide
  simp only [Group.replace, openings, List.count_append] at *
  omega

structure Reduced (query : Text) where
  text : Text
  noLarger : NoLarger text query

/-- Replaces the groups of a query one by one, each by the value of its body, and trims what is left.
The bodies have fewer opening parentheses than the query. -/
def reduceGroups {m : Type → Type} [Monad m] (query : Text)
    (value : (body : Text) → openings body < openings query → m Bool) : m (Reduced query) :=
  match found : findGroup? (mask query) with
  | none => pure ⟨Text.trim query, noLarger_of_sublist (Text.trim_sublist query)⟩
  | some group => do
    let truth ← value (group.body query) (openings_body_lt found)
    let fewer := openings_replace_lt truth found
    let reduced ← reduceGroups (group.replace query (placeholder truth)) fun body smaller =>
      value body (Nat.lt_trans smaller fewer)
    return ⟨reduced.text, reduced.noLarger.trans (.inl fewer)⟩
termination_by openings query

end CardSearch.Query
