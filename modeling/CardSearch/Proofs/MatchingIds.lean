import CardSearch.Proofs.CheckedCards
import CardSearch.Proofs.NumberEquality
/-!
Ids of members that were never checked. Among texts and numbers of all kinds equality is an
equivalence, and the id that a value is read as equals the value. A search with literal wildcards puts
the ids of matching members together by that equality, whatever the members are.
-/
namespace CardSearch

/-! ### Texts and numbers -/

namespace Value

/-- A text or a number, truth values among them: what an id in JSON data can be. -/
def isScalar : Value → Bool
  | bool _ | int _ | float _ | text _ => true
  | _ => false

theorem scalar_cases {v : Value} (scalar : v.isScalar = true) :
    (∃ s, v = text s) ∨ ∃ n, v.numeric? = some n := by
  cases v with
  | text s => exact .inl ⟨s, rfl⟩
  | bool b => exact .inr ⟨_, rfl⟩
  | int n => exact .inr ⟨_, rfl⟩
  | float x => exact .inr ⟨_, rfl⟩
  | _ => contradiction

theorem same_of_numeric {v w : Value} {m n : Numeric} (first : v.numeric? = some m)
    (second : w.numeric? = some n) : v.same w = m.same n := by
  cases v <;> cases w <;> simp_all [numeric?, same]

theorem same_text_numeric {s : String} {w : Value} {n : Numeric} (number : w.numeric? = some n) :
    (text s).same w = false ∧ w.same (text s) = false := by
  cases w <;> simp_all [numeric?, same]

theorem changeable?_of_scalar {v : Value} (scalar : v.isScalar = true) : v.changeable? = none := by
  cases v <;> first | rfl | contradiction

theorem same_comm_of_scalar {v w : Value} (left : v.isScalar = true) (right : w.isScalar = true) :
    v.same w = w.same v := by
  obtain ⟨s, rfl⟩ | ⟨m, first⟩ := scalar_cases left
  · obtain ⟨t, rfl⟩ | ⟨n, second⟩ := scalar_cases right
    · simp only [same, beq_eq_decide, eq_comm]
    · rw [(same_text_numeric second).1, (same_text_numeric second).2]
  · obtain ⟨t, rfl⟩ | ⟨n, second⟩ := scalar_cases right
    · rw [(same_text_numeric first).1, (same_text_numeric first).2]
    · rw [same_of_numeric first second, same_of_numeric second first, Numeric.same_comm]

theorem same_trans_of_scalar {u v w : Value} (left : u.isScalar = true) (middle : v.isScalar = true)
    (right : w.isScalar = true) (first : u.same v = true) (second : v.same w = true) :
    u.same w = true := by
  obtain ⟨s, rfl⟩ | ⟨k, number⟩ := scalar_cases left
  · obtain ⟨t, rfl⟩ | ⟨m, other⟩ := scalar_cases middle
    · have equal : s = t := by simpa [same] using first
      rwa [equal]
    · rw [(same_text_numeric other).1] at first
      contradiction
  · obtain ⟨t, rfl⟩ | ⟨m, other⟩ := scalar_cases middle
    · rw [(same_text_numeric number).2] at first
      contradiction
    · obtain ⟨r, rfl⟩ | ⟨n, last⟩ := scalar_cases right
      · rw [(same_text_numeric other).2] at second
        contradiction
      · rw [same_of_numeric number other] at first
        rw [same_of_numeric other last] at second
        rw [same_of_numeric number last]
        exact Numeric.same_trans first second

/-- A value on either side of an equality may be exchanged for one that it equals. -/
theorem same_congr_of_scalar {u v w : Value} (left : u.isScalar = true) (middle : v.isScalar = true)
    (right : w.isScalar = true) (equal : u.same v = true) : u.same w = v.same w := by
  have back : v.same u = true := by rwa [same_comm_of_scalar middle left]
  apply Bool.eq_iff_iff.mpr
  constructor
  · intro same
    exact same_trans_of_scalar middle left right back same
  · intro same
    exact same_trans_of_scalar left middle right equal same

end Value

/-! ### Ids read from values -/

theorem CardId.isScalar_toValue (id : CardId) : id.toValue.isScalar = true := by
  cases id <;> rfl

namespace Card

theorem wholeFloat_eq_ok_iff {x : Number.Binary64} {n : Int} :
    Validation.wholeFloat x = .ok n ↔
      x.toInt? = some n ∧ Number.leastWord < n ∧ n < Number.wordLimit := by
  unfold Validation.wholeFloat
  cases ratio : x.toRatio? with
  | none =>
    have none : x.toInt? = none := by simp [Number.Binary64.toInt?, ratio]
    simp [none]
  | some pair =>
    cases whole : x.toInt? with
    | none => simp
    | some m =>
      dsimp only
      split
      · rename_i inside
        rw [Except.ok.injEq, Option.some.injEq]
        constructor
        · intro equal
          exact ⟨equal, equal ▸ inside⟩
        · intro found
          exact found.1
      · rename_i outside
        constructor
        · intro impossible
          contradiction
        · intro found
          exact absurd (Option.some.inj found.1 ▸ found.2) outside

theorem same_toValue_of_readId {v : Value} {id : CardId} (scalar : v.isScalar = true)
    (read : readId v = .ok id) : v.same id.toValue = true := by
  cases v with
  | text s =>
    have equal : CardId.text s = id := by simpa [readId, Validation.text] using read
    rw [← equal]
    simp [CardId.toValue, Value.same]
  | bool b =>
    have equal : CardId.number b.toNat = id := by
      simpa [readId, Validation.text, idNumber] using read
    rw [← equal]
    simp [CardId.toValue, Value.same, Value.numeric?, Value.Numeric.same]
  | int n =>
    have equal : CardId.number n = id := by simpa [readId, Validation.text, idNumber] using read
    rw [← equal]
    simp [CardId.toValue, Value.same, Value.numeric?, Value.Numeric.same]
  | float x =>
    cases whole : Validation.wholeFloat x with
    | error misfit => simp [readId, Validation.text, idNumber, whole] at read
    | ok n =>
      have equal : CardId.number n = id := by
        simpa [readId, Validation.text, idNumber, whole] using read
      have value := (wholeFloat_eq_ok_iff.mp whole).1
      rw [← equal]
      simp [CardId.toValue, Value.same, Value.numeric?, Value.Numeric.same, value]
  | _ => contradiction

theorem same_eq_of_readId {v w : Value} {a b : CardId} (left : v.isScalar = true)
    (right : w.isScalar = true) (first : readId v = .ok a) (second : readId w = .ok b) :
    v.same w = (a == b) := by
  have here := same_toValue_of_readId left first
  have there := same_toValue_of_readId right second
  calc v.same w
      = a.toValue.same w := Value.same_congr_of_scalar left a.isScalar_toValue right here
    _ = w.same a.toValue := Value.same_comm_of_scalar a.isScalar_toValue right
    _ = b.toValue.same a.toValue :=
      Value.same_congr_of_scalar right b.isScalar_toValue a.isScalar_toValue there
    _ = a.toValue.same b.toValue :=
      Value.same_comm_of_scalar b.isScalar_toValue a.isScalar_toValue
    _ = (a == b) := CardId.same_toValue a b

end Card

/-! ### Ids put together before and after they are read -/

def ReadsAs (v : Value) (id : CardId) : Prop := v.isScalar = true ∧ Card.readId v = .ok id

namespace Outcome

theorem any_same_of_readsAs {vs : List Value} {ids : List CardId}
    (read : List.Forall₂ ReadsAs vs ids) {v : Value} {id : CardId} (item : ReadsAs v id) :
    vs.any v.same = ids.any (id == ·) := by
  induction read with
  | nil => rfl
  | cons first rest ih =>
    rw [List.any_cons, List.any_cons, ih, Card.same_eq_of_readId item.1 first.1 item.2 first.2]

theorem insertNew_readsAs {vs : List Value} {ids : List CardId}
    (read : List.Forall₂ ReadsAs vs ids) {v : Value} {id : CardId} (item : ReadsAs v id) :
    List.Forall₂ ReadsAs (insertNew Value.same vs v) (insertNew (· == ·) ids id) := by
  rw [insertNew, insertNew, any_same_of_readsAs read item]
  split
  · exact read
  · exact List.rel_append read (.cons item .nil)

theorem distinct_readsAs {vs : List Value} {ids : List CardId}
    (read : List.Forall₂ ReadsAs vs ids) :
    List.Forall₂ ReadsAs (distinct Value.same vs) (distinct (· == ·) ids) := by
  have behind : ∀ {found : List Value} {known : List CardId}, List.Forall₂ ReadsAs found known →
      List.Forall₂ ReadsAs (vs.foldl (insertNew Value.same) found)
        (ids.foldl (insertNew (· == ·)) known) := by
    induction read with
    | nil => exact id
    | cons first rest ih => exact fun sofar => ih (insertNew_readsAs sofar first)
  exact behind .nil

theorem readIds_readsAs {vs : List Value} {ids : List CardId}
    (read : List.Forall₂ ReadsAs vs ids) (index : Nat) : readIds index vs = .ok ids := by
  induction read generalizing index with
  | nil => rfl
  | cons first rest ih => rw [readIds, first.2, ih]

end Outcome

/-! ### Collecting the ids of any members -/

namespace Search

/-- The ids of the members that a query holds of, as they stand in the members. -/
def matchingIds (query : Text) (entries : List Entry) : List Value :=
  entries.filterMap fun entry =>
    if Query.holdsLiterally query entry.searchText then entry.id? else none

theorem matchingIds_cons (query : Text) (entry : Entry) (entries : List Entry) :
    matchingIds query (entry :: entries) =
      (if Query.holdsLiterally query entry.searchText then entry.id?.toList else []) ++
        matchingIds query entries := by
  by_cases matched : Query.holdsLiterally query entry.searchText = true
  · cases name : entry.id? with
    | none => simp [matchingIds, matched, name]
    | some id => simp [matchingIds, matched, name]
  · simp [matchingIds, matched]

theorem mem_matchingIds {query : Text} {entries : List Entry} {v : Value} :
    v ∈ matchingIds query entries ↔
      ∃ entry ∈ entries, Query.holdsLiterally query entry.searchText = true ∧
        entry.id? = some v := by
  rw [matchingIds, List.mem_filterMap]
  refine exists_congr fun entry => and_congr_right fun _ => ?_
  split
  · rename_i matched
    simp [matched]
  · rename_i unmatched
    simp [unmatched]

theorem isScalar_of_mem_matchingIds {query : Text} {entries : List Entry}
    (scalar : ∀ entry ∈ entries, ∀ id, entry.id? = some id → id.isScalar = true) {v : Value}
    (member : v ∈ matchingIds query entries) : v.isScalar = true := by
  obtain ⟨entry, there, -, name⟩ := mem_matchingIds.mp member
  exact scalar entry there v name

theorem collect_literal (query : Text) {entries : List Entry}
    (scalar : ∀ entry ∈ entries, ∀ id, entry.id? = some id → id.isScalar = true)
    (found : List Value) (rejections : List Query.Rejection) :
    (collect .literal query found entries).run rejections =
      (.ok ((matchingIds query entries).foldl (Outcome.insertNew Value.same) found), rejections) := by
  induction entries generalizing found with
  | nil => rfl
  | cons entry entries ih =>
    obtain ⟨here, later⟩ := List.forall_mem_cons.mp scalar
    have answer : holds .literal query entry.searchText =
        pure (Query.holdsLiterally query entry.searchText) := rfl
    rw [collect, matchingIds_cons]
    cases name : entry.id? with
    | none =>
      have skipped : (if Query.holdsLiterally query entry.searchText then (none : Option Value).toList
          else []) = [] := by split <;> rfl
      rw [skipped]
      exact ih later found
    | some id =>
      have added : addId found id = .ok (Outcome.insertNew Value.same found id) := by
        rw [addId, Value.changeable?_of_scalar (here id name)]
      dsimp only
      rw [answer, pure_bind]
      split
      · rw [added]
        exact ih later _
      · exact ih later found

/-- The ids of the members that a query holds of, without those that equal an earlier one. -/
def valuesFound (query : Text) (entries : List Entry) : List Value :=
  Outcome.distinct Value.same (matchingIds query entries)

/-- A pass over members whose ids are texts and numbers checks the ids that it found. -/
theorem run_literal (query : Text) {entries : List Entry}
    (scalar : ∀ entry ∈ entries, ∀ id, entry.id? = some id → id.isScalar = true) :
    run .literal query entries =
      ([.timed .search,
        .counted .search (if (valuesFound query entries).isEmpty then .empty else .matched),
        .logged (matchedRecord query (valuesFound query entries).length)],
        (Outcome.ofMatches (String.ofList query) (valuesFound query entries)).mapError .invalid) := by
  rw [run, collect_literal query scalar, ← Outcome.distinct, ← valuesFound]
  rfl

end Search

end CardSearch
