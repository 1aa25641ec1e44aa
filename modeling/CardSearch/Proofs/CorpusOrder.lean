import CardSearch.Proofs.AndNot
import CardSearch.Proofs.MatchingIds
/-!
The order of a corpus. Of several ids that are equal the first one met is kept, and only what is kept
is read as an id. A whole number of any size can be read as one, a floating-point number of the same
value only within 64 bits. Main statement: the order of the members matters exactly where such a pair
is among the matching ids and no other id makes the search fail in every order.
-/
namespace CardSearch

open Number (Binary64)

/-! ### Keeping the first of equal items -/

namespace Outcome

variable {α : Type} {same : α → α → Bool} {items found : List α} {item : α}

theorem mem_foldl_insertNew_of_mem (there : item ∈ found) :
    item ∈ items.foldl (insertNew same) found := by
  induction items generalizing found with
  | nil => exact there
  | cons first items ih =>
    apply ih
    unfold insertNew
    split
    · exact there
    · exact List.mem_append_left _ there

theorem mem_or_mem_of_mem_foldl (kept : item ∈ items.foldl (insertNew same) found) :
    item ∈ found ∨ item ∈ items := by
  induction items generalizing found with
  | nil => exact .inl kept
  | cons first items ih =>
    obtain old | later := ih kept
    · unfold insertNew at old
      split at old
      · exact .inl old
      · obtain old | new := List.mem_append.mp old
        · exact .inl old
        · exact .inr (by simp_all)
    · exact .inr (List.mem_cons_of_mem _ later)

theorem mem_of_mem_distinct (kept : item ∈ distinct same items) : item ∈ items := by
  obtain impossible | there := mem_or_mem_of_mem_foldl kept
  · contradiction
  · exact there

theorem kept_of_mem_foldl (there : item ∈ items) :
    item ∈ items.foldl (insertNew same) found ∨
      ∃ kept ∈ items.foldl (insertNew same) found, same item kept = true := by
  induction items generalizing found with
  | nil => contradiction
  | cons first items ih =>
    obtain rfl | later := List.mem_cons.mp there
    · rw [List.foldl_cons, insertNew]
      split
      · rename_i equal
        obtain ⟨kept, old, equal⟩ := List.any_eq_true.mp equal
        exact .inr ⟨kept, mem_foldl_insertNew_of_mem old, equal⟩
      · exact .inl (mem_foldl_insertNew_of_mem (List.mem_append_right _ (List.mem_singleton_self _)))
    · exact ih later

theorem foldl_insertNew_of_kept (all : ∀ item ∈ items, ∃ kept ∈ found, same item kept = true) :
    items.foldl (insertNew same) found = found := by
  induction items with
  | nil => rfl
  | cons first items ih =>
    obtain ⟨here, later⟩ := List.forall_mem_cons.mp all
    rw [List.foldl_cons, insertNew, if_pos (List.any_eq_true.mpr here)]
    exact ih later

end Outcome

/-! ### Values that are no ids -/

namespace Value

def isId (value : Value) : Bool := (Card.readId value).isOk

variable {v w : Value}

theorem isId_iff : v.isId = true ↔ ∃ id, Card.readId v = .ok id := by
  unfold isId
  cases Card.readId v with
  | ok id => simp [Except.isOk, Except.toBool]
  | error faults => simp [Except.isOk, Except.toBool]

theorem isId_float_iff {x : Binary64} : (float x).isId = true ↔
    ∃ n, x.toInt? = some n ∧ Number.leastWord < n ∧ n < Number.wordLimit := by
  simp only [← Card.wholeFloat_eq_ok_iff]
  cases whole : Validation.wholeFloat x with
  | ok n => simp [isId, Card.readId, Validation.text, Card.idNumber, whole, Except.isOk, Except.toBool]
  | error misfit =>
    simp [isId, Card.readId, Validation.text, Card.idNumber, whole, Except.isOk, Except.toBool]

theorem exists_float_of_not_isId (scalar : v.isScalar = true) (refused : v.isId = false) :
    ∃ x, v = float x := by
  cases v with
  | float x => exact ⟨x, rfl⟩
  | bool _ | int _ | text _ => contradiction
  | _ => contradiction

theorem exists_int_of_same {x : Binary64} (refused : (float x).isId = false)
    (scalar : w.isScalar = true) (accepted : w.isId = true) (equal : (float x).same w = true) :
    ∃ n, w = int n ∧ x.toInt? = some n := by
  cases w with
  | text s => simp [same, numeric?] at equal
  | int n => exact ⟨n, rfl, by simpa [same, numeric?, Numeric.same] using equal⟩
  | bool b =>
    have whole : x.toInt? = some (b.toNat : Int) := by
      simpa [same, numeric?, Numeric.same] using equal
    have accepted : (float x).isId = true := by
      refine isId_float_iff.mpr ⟨_, whole, ?_⟩
      cases b <;> decide
    rw [refused] at accepted
    contradiction
  | float y =>
    obtain ⟨n, whole, inside⟩ := isId_float_iff.mp accepted
    have value : x.sameValue y = true := by simpa [same, numeric?, Numeric.same] using equal
    have accepted : (float x).isId = true :=
      isId_float_iff.mpr ⟨n, (Binary64.toInt?_congr value).trans whole, inside⟩
    rw [refused] at accepted
    contradiction
  | _ => contradiction

theorem exists_readsAs {vs : List Value} (scalar : ∀ v ∈ vs, v.isScalar = true)
    (accepted : ∀ v ∈ vs, v.isId = true) : ∃ ids, List.Forall₂ ReadsAs vs ids := by
  induction vs with
  | nil => exact ⟨[], .nil⟩
  | cons v vs ih =>
    rw [List.forall_mem_cons] at scalar accepted
    obtain ⟨id, read⟩ := isId_iff.mp accepted.1
    obtain ⟨ids, later⟩ := ih scalar.2 accepted.2
    exact ⟨id :: ids, .cons ⟨scalar.1, read⟩ later⟩

theorem mem_iff_of_readsAs {vs : List Value} {ids : List CardId}
    (read : List.Forall₂ ReadsAs vs ids) {id : CardId} :
    id ∈ ids ↔ ∃ v ∈ vs, Card.readId v = .ok id := by
  induction read with
  | nil => simp
  | cons first rest ih => simp [ih, first.2, eq_comm]

end Value

theorem Outcome.readIds_fails {vs : List Value} {v : Value} (member : v ∈ vs)
    (refused : v.isId = false) (index : Nat) : ∃ faults, readIds index vs = .error faults := by
  have unread : ∀ id, Card.readId v ≠ .ok id := by
    intro id read
    rw [Value.isId_iff.mpr ⟨id, read⟩] at refused
    contradiction
  induction vs generalizing index with
  | nil => contradiction
  | cons first vs ih =>
    rw [readIds]
    obtain rfl | later := List.mem_cons.mp member
    · cases here : Card.readId v with
      | ok id => exact absurd here (unread id)
      | error faults => cases readIds (index + 1) vs <;> exact ⟨_, rfl⟩
    · obtain ⟨faults, there⟩ := ih later (index + 1)
      rw [there]
      cases Card.readId first <;> exact ⟨_, rfl⟩

namespace Search

/-! ### Results of a search -/

/-- Results are the same if both are failures or if the outcomes differ at most in the order in which
the ids are visited. -/
def SameResult : Except Failure Outcome → Except Failure Outcome → Prop
  | .ok a, .ok b =>
    a.cleared = b.cleared ∧ a.query = b.query ∧ a.matchingIds.Perm b.matchingIds
  | .error _, .error _ => True
  | _, _ => False

def ScalarIds (entries : List Entry) : Prop :=
  ∀ entry ∈ entries, ∀ id, entry.id? = some id → id.isScalar = true

variable {query : Text} {entries other : List Entry}

theorem ScalarIds.perm (scalar : ScalarIds entries) (perm : entries.Perm other) :
    ScalarIds other :=
  fun entry member => scalar entry (perm.mem_iff.mpr member)

theorem matchingIds_perm (perm : entries.Perm other) :
    (matchingIds query entries).Perm (matchingIds query other) :=
  perm.filterMap _

theorem run_fails (scalar : ScalarIds entries) {v : Value} (kept : v ∈ valuesFound query entries)
    (refused : v.isId = false) : ∃ failure, (run .literal query entries).2 = .error failure := by
  obtain ⟨faults, unread⟩ := Outcome.readIds_fails kept refused 0
  rw [run_literal query scalar, Outcome.ofMatches, Outcome.readIdSet, unread]
  exact ⟨_, rfl⟩

theorem run_succeeds (scalar : ScalarIds entries) {ids : List CardId}
    (read : List.Forall₂ ReadsAs (valuesFound query entries) ids) :
    (run .literal query entries).2 =
      .ok ⟨false, Outcome.distinct (· == ·) ids, String.ofList query⟩ := by
  rw [run_literal query scalar, Outcome.ofMatches, Outcome.readIdSet, Outcome.readIds_readsAs read]
  rfl

/-! ### Independence of the order -/

/-- Among some ids is a whole number beyond 64 bits and a floating-point number that equals it. -/
def Contested (ids : List Value) : Prop :=
  ∃ x n, Value.float x ∈ ids ∧ Value.int n ∈ ids ∧ x.toInt? = some n ∧
    ¬ (Number.leastWord < n ∧ n < Number.wordLimit)

/-- Among some ids is a floating-point number that is no id and that no whole number there equals. -/
def Hopeless (ids : List Value) : Prop :=
  ∃ x, Value.float x ∈ ids ∧ (Value.float x).isId = false ∧
    ∀ n, Value.int n ∈ ids → x.toInt? ≠ some n

theorem Hopeless.perm {ids others : List Value} (hopeless : Hopeless ids) (perm : ids.Perm others) :
    Hopeless others := by
  obtain ⟨x, there, refused, alone⟩ := hopeless
  exact ⟨x, perm.mem_iff.mp there, refused, fun n member => alone n (perm.mem_iff.mpr member)⟩

theorem Hopeless.run_fails (scalar : ScalarIds entries)
    (hopeless : Hopeless (matchingIds query entries)) :
    ∃ failure, (run .literal query entries).2 = .error failure := by
  obtain ⟨x, there, refused, alone⟩ := hopeless
  obtain kept | ⟨kept, member, equal⟩ := Outcome.kept_of_mem_foldl there
  · exact Search.run_fails scalar kept refused
  · apply Search.run_fails scalar member
    by_contra accepted
    have found := Outcome.mem_of_mem_distinct member
    obtain ⟨n, rfl, whole⟩ := Value.exists_int_of_same refused
      (isScalar_of_mem_matchingIds scalar found) (by simpa using accepted) equal
    exact alone n found whole

theorem run_of_readsAs (scalar : ScalarIds entries) {ids : List CardId}
    (read : List.Forall₂ ReadsAs (matchingIds query entries) ids) :
    (run .literal query entries).2 =
      .ok ⟨false, Outcome.distinct (· == ·) ids, String.ofList query⟩ := by
  have kept := Outcome.distinct_readsAs read
  rw [run_succeeds scalar kept, Outcome.distinct_of_nodup (Outcome.nodup_distinct ids)]

theorem sameResult_of_accepted (scalar : ScalarIds entries) (perm : entries.Perm other)
    (accepted : ∀ v ∈ matchingIds query entries, v.isId = true) :
    SameResult (run .literal query entries).2 (run .literal query other).2 := by
  have perm' : (matchingIds query entries).Perm (matchingIds query other) := matchingIds_perm perm
  have scalar' := scalar.perm perm
  have accepted' : ∀ v ∈ matchingIds query other, v.isId = true :=
    fun v member => accepted v (perm'.mem_iff.mpr member)
  obtain ⟨ids, read⟩ := Value.exists_readsAs
    (fun _ member => isScalar_of_mem_matchingIds scalar member) accepted
  obtain ⟨others, read'⟩ := Value.exists_readsAs
    (fun _ member => isScalar_of_mem_matchingIds scalar' member) accepted'
  have same : ∀ id, id ∈ ids ↔ id ∈ others := by
    intro id
    rw [Value.mem_iff_of_readsAs read, Value.mem_iff_of_readsAs read']
    simp only [perm'.mem_iff]
  rw [run_of_readsAs scalar read, run_of_readsAs scalar' read']
  refine ⟨rfl, rfl, ?_⟩
  rw [List.perm_ext_iff_of_nodup (Outcome.nodup_distinct ids) (Outcome.nodup_distinct others)]
  intro id
  rw [Outcome.mem_distinct, Outcome.mem_distinct, same]

theorem hopeless_of_refused (scalar : ScalarIds entries) {v : Value}
    (member : v ∈ matchingIds query entries) (refused : v.isId = false)
    (uncontested : ¬ Contested (matchingIds query entries)) :
    Hopeless (matchingIds query entries) := by
  obtain ⟨x, rfl⟩ := Value.exists_float_of_not_isId (isScalar_of_mem_matchingIds scalar member) refused
  refine ⟨x, member, refused, fun n there whole => uncontested ⟨x, n, member, there, whole, ?_⟩⟩
  intro inside
  rw [Value.isId_float_iff.mpr ⟨n, whole, inside⟩] at refused
  contradiction

theorem sameResult_of_hopeless (scalar : ScalarIds entries) (perm : entries.Perm other)
    (hopeless : Hopeless (matchingIds query entries)) :
    SameResult (run .literal query entries).2 (run .literal query other).2 := by
  obtain ⟨failure, failed⟩ := hopeless.run_fails scalar
  obtain ⟨failure', failed'⟩ := (hopeless.perm (matchingIds_perm perm)).run_fails (scalar.perm perm)
  rw [failed, failed']
  trivial

theorem sameResult_of_uncontested (scalar : ScalarIds entries) (perm : entries.Perm other)
    (uncontested : ¬ Contested (matchingIds query entries)) :
    SameResult (run .literal query entries).2 (run .literal query other).2 := by
  by_cases accepted : ∀ v ∈ matchingIds query entries, v.isId = true
  · exact sameResult_of_accepted scalar perm accepted
  · push Not at accepted
    obtain ⟨v, member, refused⟩ := accepted
    exact sameResult_of_hopeless scalar perm
      (hopeless_of_refused scalar member (by simpa using refused) uncontested)

theorem distinct_append_refused {ids others : List Value}
    (scalar : ∀ v ∈ ids ++ others, v.isScalar = true) (refused : ∀ v ∈ others, v.isId = false)
    (hopeful : ¬ Hopeless (ids ++ others)) :
    Outcome.distinct Value.same (ids ++ others) = Outcome.distinct Value.same ids := by
  -- Each of the others equals a whole number, which is an id and so stands in front of it.
  rw [Outcome.distinct, List.foldl_append]
  apply Outcome.foldl_insertNew_of_kept
  intro v member
  have inside : v ∈ ids ++ others := List.mem_append_right _ member
  obtain ⟨x, rfl⟩ := Value.exists_float_of_not_isId (scalar v inside) (refused v member)
  obtain ⟨n, there, whole⟩ : ∃ n, Value.int n ∈ ids ++ others ∧ x.toInt? = some n := by
    by_contra alone
    push Not at alone
    exact hopeful ⟨x, inside, refused _ member, alone⟩
  have equal : (Value.float x).same (.int n) = true := by
    simp [Value.same, Value.numeric?, Value.Numeric.same, whole]
  have first : Value.int n ∈ ids := by
    obtain first | last := List.mem_append.mp there
    · exact first
    · have impossible := refused _ last
      contradiction
  obtain kept | ⟨kept, member', same⟩ := Outcome.kept_of_mem_foldl first
  · exact ⟨_, kept, equal⟩
  · have original := Outcome.mem_of_mem_distinct member'
    exact ⟨kept, member', Value.same_trans_of_scalar rfl rfl
      (scalar kept (List.mem_append_left _ original)) equal same⟩

def accepts (entry : Entry) : Bool := entry.id?.all Value.isId

theorem isId_of_mem_matchingIds {v : Value} {answer : Bool}
    (alike : ∀ entry ∈ entries, accepts entry = answer) (member : v ∈ matchingIds query entries) :
    v.isId = answer := by
  obtain ⟨entry, there, -, name⟩ := mem_matchingIds.mp member
  rw [← alike entry there, accepts, name]
  rfl

theorem exists_order_of_success (scalar : ScalarIds entries)
    (hopeful : ¬ Hopeless (matchingIds query entries)) :
    ∃ other outcome, entries.Perm other ∧ (run .literal query other).2 = .ok outcome := by
  let front := entries.filter accepts
  let back := entries.filter fun entry => !accepts entry
  have perm : entries.Perm (front ++ back) := (List.filter_append_perm accepts entries).symm
  have scalar' := scalar.perm perm
  have parts : matchingIds query (front ++ back) =
      matchingIds query front ++ matchingIds query back := List.filterMap_append
  have scalars : ∀ v ∈ matchingIds query front ++ matchingIds query back, v.isScalar = true :=
    fun v member => isScalar_of_mem_matchingIds scalar' (parts ▸ member)
  have accepted : ∀ v ∈ matchingIds query front, v.isId = true := fun _ =>
    isId_of_mem_matchingIds fun _ there => List.of_mem_filter there
  have refused : ∀ v ∈ matchingIds query back, v.isId = false := fun _ =>
    isId_of_mem_matchingIds fun entry there => by simpa using List.of_mem_filter there
  have hopeful' : ¬ Hopeless (matchingIds query front ++ matchingIds query back) := by
    intro hopeless
    rw [← parts] at hopeless
    exact hopeful (hopeless.perm (matchingIds_perm perm.symm))
  obtain ⟨ids, read⟩ := Value.exists_readsAs
    (fun v member => scalars v (List.mem_append_left _ member)) accepted
  have kept := Outcome.distinct_readsAs read
  rw [← distinct_append_refused scalars refused hopeful', ← parts] at kept
  exact ⟨front ++ back, _, perm, run_succeeds scalar' kept⟩

theorem exists_order_of_failure (scalar : ScalarIds entries)
    (contested : Contested (matchingIds query entries)) :
    ∃ other failure, entries.Perm other ∧ (run .literal query other).2 = .error failure := by
  obtain ⟨x, n, there, -, whole, outside⟩ := contested
  have refused : (Value.float x).isId = false := by
    by_contra accepted
    obtain ⟨m, same, inside⟩ := Value.isId_float_iff.mp (by simpa using accepted)
    have equal : n = m := Option.some.inj (whole.symm.trans same)
    exact outside (equal ▸ inside)
  obtain ⟨entry, member, holds, name⟩ := mem_matchingIds.mp there
  obtain ⟨before, later, rfl⟩ := List.append_of_mem member
  have perm : (before ++ entry :: later).Perm (entry :: (before ++ later)) := List.perm_middle
  have kept : Value.float x ∈ valuesFound query (entry :: (before ++ later)) := by
    rw [valuesFound, matchingIds_cons, if_pos holds, name]
    change _ ∈ (matchingIds query (before ++ later)).foldl (Outcome.insertNew Value.same) [.float x]
    exact Outcome.mem_foldl_insertNew_of_mem (List.mem_singleton_self _)
  obtain ⟨failure, failed⟩ := run_fails (scalar.perm perm) kept refused
  exact ⟨_, failure, perm, failed⟩

/-- The order of the members is of no importance exactly if the query is empty, if the search fails in
every order, or if no id beyond 64 bits is met both as a whole number and in floating point. -/
theorem search_order_iff (raw : Value) {entries : List Entry} (scalar : ScalarIds entries) :
    (∀ other, entries.Perm other →
        SameResult (search .literal raw entries).2 (search .literal raw other).2) ↔
      normalized raw = [] ∨ Hopeless (matchingIds (normalized raw) entries) ∨
        ¬ Contested (matchingIds (normalized raw) entries) := by
  by_cases empty : normalized raw = []
  · have cleared : ∀ entries, (search .literal raw entries).2 = .ok .clear := by
      intro entries
      rw [search, empty]
      rfl
    simp [empty, cleared, SameResult]
  · have ran : ∀ entries, (search .literal raw entries).2 =
        (run .literal (normalized raw) entries).2 := by
      intro entries
      rw [search, if_neg (by simpa using empty)]
    simp only [ran, empty, false_or]
    constructor
    · intro independent
      by_contra neither
      push Not at neither
      obtain ⟨first, outcome, perm, succeeded⟩ := exists_order_of_success scalar neither.1
      obtain ⟨second, failure, perm', failed⟩ := exists_order_of_failure scalar neither.2
      have good := independent first perm
      have bad := independent second perm'
      rw [succeeded] at good
      rw [failed] at bad
      cases result : (run .literal (normalized raw) entries).2 with
      | ok outcome => simp [result, SameResult] at bad
      | error failure => simp [result, SameResult] at good
    · intro either other perm
      obtain hopeless | uncontested := either
      · exact sameResult_of_hopeless scalar perm hopeless
      · exact sameResult_of_uncontested scalar perm uncontested

def hugeFloat : Binary64 := .ofRatio false 10000000000000000000 1

def hugeTwice : List Entry :=
  [.raw (.object [("id", .float hugeFloat), ("text", .text "a")]),
    .raw (.object [("id", .int 10000000000000000000), ("text", .text "a")])]

theorem scalarIds_hugeTwice : ScalarIds hugeTwice := by
  intro entry member id name
  simp only [hugeTwice, List.mem_cons, List.not_mem_nil, or_false] at member
  obtain rfl | rfl := member
  · rw [← Option.some.inj name]
    rfl
  · rw [← Option.some.inj name]
    rfl

theorem search_hugeTwice_iff :
    ScalarIds hugeTwice ∧
      ((∀ other, hugeTwice.Perm other →
          SameResult (search .literal (.text "a") hugeTwice).2
            (search .literal (.text "a") other).2) ↔
        normalized (.text "a") = [] ∨ Hopeless (matchingIds (normalized (.text "a")) hugeTwice) ∨
          ¬ Contested (matchingIds (normalized (.text "a")) hugeTwice)) :=
  ⟨scalarIds_hugeTwice, search_order_iff (.text "a") scalarIds_hugeTwice⟩

theorem toInt?_hugeFloat : hugeFloat.toInt? = some 10000000000000000000 := by
  decide +kernel

theorem isId_hugeFloat : (Value.float hugeFloat).isId = false := by
  by_contra accepted
  obtain ⟨n, whole, -, below⟩ := Value.isId_float_iff.mp (by simpa using accepted)
  rw [toInt?_hugeFloat, Option.some.injEq] at whole
  rw [← whole] at below
  contradiction

theorem holdsLiterally_letter : Query.holdsLiterally ['a'] ['a'] = true := by
  have word : ∃ word : Query.PlainWord, word.text = ['a'] := by
    refine ⟨⟨['a'], by decide, by decide, by decide, ?_⟩, rfl⟩
    intro connective
    cases connective <;> decide
  obtain ⟨word, spells⟩ := word
  have single := Query.holdsLiterally_typed [] word ['a']
  rw [Query.typed, spells] at single
  exact single.trans (by decide)

theorem matchingIds_hugeTwice :
    matchingIds ['a'] hugeTwice = [.float hugeFloat, .int 10000000000000000000] ∧
      matchingIds ['a'] hugeTwice.reverse = [.int 10000000000000000000, .float hugeFloat] := by
  have text : ∀ entry ∈ hugeTwice, entry.searchText = ['a'] := by
    simp only [hugeTwice, List.forall_mem_cons]
    exact ⟨by decide, by decide, by simp⟩
  simp only [hugeTwice, List.forall_mem_cons] at text
  obtain ⟨first, second, -⟩ := text
  constructor
  · simp only [hugeTwice, matchingIds_cons, first, second, holdsLiterally_letter]
    rfl
  · simp only [hugeTwice, List.reverse_cons, List.reverse_nil, List.nil_append, List.cons_append,
      matchingIds_cons, first, second, holdsLiterally_letter]
    rfl

/-- The search fails where the floating-point number comes first, and finds the id where the whole
number does. -/
theorem search_hugeTwice_reversed :
    ScalarIds hugeTwice ∧ hugeTwice.Perm hugeTwice.reverse ∧
      ¬ SameResult (search .literal (.text "a") hugeTwice).2
        (search .literal (.text "a") hugeTwice.reverse).2 := by
  have reversed : hugeTwice.Perm hugeTwice.reverse := (List.reverse_perm _).symm
  have kept : Value.float hugeFloat ∈ valuesFound ['a'] hugeTwice := by
    rw [valuesFound, matchingIds_hugeTwice.1]
    change _ ∈ [Value.int 10000000000000000000].foldl (Outcome.insertNew Value.same)
      [.float hugeFloat]
    exact Outcome.mem_foldl_insertNew_of_mem (List.mem_singleton_self _)
  obtain ⟨failure, failed⟩ := run_fails scalarIds_hugeTwice kept isId_hugeFloat
  have merged : valuesFound ['a'] hugeTwice.reverse = [.int 10000000000000000000] := by
    have equal : (Value.float hugeFloat).same (.int 10000000000000000000) = true := by
      simp [Value.same, Value.numeric?, Value.Numeric.same, toInt?_hugeFloat]
    rw [valuesFound, matchingIds_hugeTwice.2]
    change [Value.float hugeFloat].foldl (Outcome.insertNew Value.same)
      [.int 10000000000000000000] = _
    exact Outcome.foldl_insertNew_of_kept (by simpa using equal)
  have read : List.Forall₂ ReadsAs (valuesFound ['a'] hugeTwice.reverse)
      [.number 10000000000000000000] := by
    rw [merged]
    exact .cons ⟨rfl, rfl⟩ .nil
  have succeeded := run_succeeds (scalarIds_hugeTwice.perm reversed) read
  refine ⟨scalarIds_hugeTwice, reversed, ?_⟩
  have query : normalized (.text "a") = ['a'] := by decide
  have ran : ∀ entries, (search .literal (.text "a") entries).2 =
      (run .literal ['a'] entries).2 := by
    intro entries
    rw [search, query]
    rfl
  rw [ran, ran, failed, succeeded]
  exact id

end Search

end CardSearch
