import CardSearch.Proofs.Layer
/-!
How groups are replaced. The group that is closed first is the first that holds no other, so groups
are replaced from the left and from the inside, and in front of the group at hand only closed parts
and open parentheses stand.
-/
namespace CardSearch.Query

open Text

variable {a b c d front later between body : Text} {worth : Text → Bool}

theorem bodyLength?_of_closed (opens : '(' ∉ body) (closes : ')' ∉ body) (later : Text) :
    bodyLength? (body ++ ')' :: later) = some body.length := by
  induction body with
  | nil => rfl
  | cons c body ih =>
    rw [List.mem_cons, not_or] at opens closes
    have notOpen : (c == '(') = false := beq_eq_false_iff_ne.mpr (Ne.symm opens.1)
    have notClose : (c == ')') = false := beq_eq_false_iff_ne.mpr (Ne.symm closes.1)
    rw [List.cons_append, bodyLength?, notOpen, notClose, ih opens.2 closes.2]
    rfl

private theorem bodyLength?_of_opening (closes : ')' ∉ front) (later : Text) :
    bodyLength? (front ++ '(' :: later) = none := by
  induction front with
  | nil => rfl
  | cons c front ih =>
    rw [List.mem_cons, not_or] at closes
    have notClose : (c == ')') = false := beq_eq_false_iff_ne.mpr (Ne.symm closes.1)
    rw [List.cons_append, bodyLength?, notClose, ih closes.2]
    simp only [Bool.false_eq_true, if_false]
    split <;> rfl

theorem findGroup?_append (closed : ')' ∉ front) (some : body ≠ []) (opens : '(' ∉ body)
    (closes : ')' ∉ body) (later : Text) :
    findGroup? (front ++ '(' :: (body ++ ')' :: later)) =
      Option.some ⟨front.length, body.length⟩ := by
  induction front with
  | nil =>
    obtain ⟨n, length⟩ : ∃ n, body.length = n + 1 :=
      Nat.exists_eq_succ_of_ne_zero fun zero => some (List.length_eq_zero_iff.mp zero)
    rw [List.nil_append, findGroup?, bodyLength?_of_closed opens closes, length]
    rfl
  | cons c front ih =>
    rw [List.mem_cons, not_or] at closed
    rw [List.cons_append, findGroup?, ih closed.2, bodyLength?_of_opening closed.2]
    split <;> rfl

theorem Group.body_of_parts (front body later : Text) :
    Group.body ⟨front.length, body.length⟩ (front ++ '(' :: (body ++ ')' :: later)) = body := by
  rw [Group.body, List.append_cons, List.drop_left' (by simp), List.take_left]

theorem Group.replace_of_parts (front body later replacement : Text) :
    Group.replace ⟨front.length, body.length⟩ (front ++ '(' :: (body ++ ')' :: later)) replacement =
      front ++ (replacement ++ later) := by
  have whole : front ++ '(' :: (body ++ ')' :: later) = front ++ '(' :: (body ++ [')']) ++ later := by
    simp
  have behind : (front ++ '(' :: (body ++ ')' :: later)).drop (front.length + body.length + 2) =
      later := by
    rw [whole]
    apply List.drop_left'
    simp only [List.length_append, List.length_cons, List.length_nil]
    omega
  rw [Group.replace, behind, List.take_left, List.append_assoc]

/-- Wherever a term may stand behind parts whose groups are replaced, replacing the groups of `a`
leads to `b`. -/
def Reduces (worth : Text → Bool) (a b : Text) : Prop :=
  ∀ front later, Opening front → ')' ∉ mask front → Follows later →
    replaceGroups worth (front ++ (a ++ later)) = replaceGroups worth (front ++ (b ++ later))

theorem Reduces.refl (a : Text) : Reduces worth a a := fun _ _ _ _ _ => rfl

theorem Reduces.join (separator : Separator between) (plain : Plain b) (first : Reduces worth a b)
    (last : Reduces worth c d) : Reduces worth (a ++ (between ++ c)) (b ++ (between ++ d)) := by
  intro front later opening closes follows
  have behind : Follows (between ++ (c ++ later)) :=
    separator.follows.append separator.ne_nil _
  have inner : Opening (front ++ (b ++ between)) :=
    opening.append (plain.closed.opening separator.follows separator.ne_nil separator.opening)
  have innerCloses : ')' ∉ mask (front ++ (b ++ between)) := by
    rw [opening, plain.closed _ separator.follows, separator.mask_eq]
    simp [closes, plain.closes, separator.closes]
  calc
    replaceGroups worth (front ++ (a ++ (between ++ c) ++ later))
      = replaceGroups worth (front ++ (a ++ (between ++ (c ++ later)))) := by
        simp only [List.append_assoc]
    _ = replaceGroups worth (front ++ (b ++ (between ++ (c ++ later)))) :=
        first _ _ opening closes behind
    _ = replaceGroups worth (front ++ (b ++ between) ++ (c ++ later)) := by
        simp only [List.append_assoc]
    _ = replaceGroups worth (front ++ (b ++ between) ++ (d ++ later)) :=
        last _ _ inner innerCloses follows
    _ = replaceGroups worth (front ++ (b ++ (between ++ d) ++ later)) := by
        simp only [List.append_assoc]

private theorem opening_parenthesis : Opening ['('] := by
  rw [← List.nil_append ['(']]
  exact opening_of_unquoted ⟨rfl, trivial⟩ (by decide)

/-- A group is replaced by the value of its body once the groups in the body are. -/
theorem Reduces.group (plain : Plain b) (inner : Reduces worth a b) :
    Reduces worth ('(' :: (a ++ [')'])) (placeholder (worth b)) := by
  intro front later opening closes follows
  have behind : Follows (')' :: later) := follows_cons (by decide)
  have outer : Opening (front ++ ['(']) := opening.append opening_parenthesis
  have outerCloses : ')' ∉ mask (front ++ ['(']) := by
    rw [opening]
    simp [closes, show mask ['('] = ['('] from rfl]
  have shown : mask (front ++ ['('] ++ (b ++ ')' :: later)) =
      mask front ++ '(' :: (mask b ++ ')' :: maskFrom (.outside (some ')')) later) := by
    rw [outer, opening, plain.closed _ behind, List.append_assoc]
    rfl
  have found : findGroup? (mask (front ++ ['('] ++ (b ++ ')' :: later))) =
      some ⟨front.length, b.length⟩ := by
    rw [shown, findGroup?_append closes (mask_ne_nil plain.ne_nil) plain.opens plain.closes,
      mask_length, mask_length]
  rw [← List.append_cons] at found
  calc
    replaceGroups worth (front ++ ('(' :: (a ++ [')']) ++ later))
      = replaceGroups worth (front ++ ['('] ++ (a ++ ')' :: later)) := by simp
    _ = replaceGroups worth (front ++ ['('] ++ (b ++ ')' :: later)) :=
        inner _ _ outer outerCloses behind
    _ = replaceGroups worth (front ++ (placeholder (worth b) ++ later)) := by
        rw [← List.append_cons, replaceGroups_of_some found, Group.body_of_parts,
          Group.replace_of_parts]

section

variable {test : (term text : Text) → Bool} {text : Text}

theorem Reduces.value_eq (reduces : Reduces (value test text) a b) (plain : Plain b)
    (tight : Tight a) : value test text a = value test text b := by
  have replaced : replaceGroups (value test text) a = b := by
    have alone := reduces [] [] opening_nil (by simp [mask, maskFrom]) follows_nil
    rw [List.nil_append, List.append_nil, List.nil_append, List.append_nil] at alone
    rw [alone, replaceGroups_of_none plain.settled.groupless, plain.tight.trim_eq]
  rw [← value_replaceGroups, tight.trim_eq, replaced]

theorem value_placeholder (truth : Bool) : value test text (placeholder truth) = truth := by
  rw [(layered_placeholder truth).settled.value_eq, valueByLevel]
  cases truth <;> rfl

end

end CardSearch.Query
