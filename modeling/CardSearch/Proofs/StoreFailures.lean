import CardSearch.Proofs.FiniteDocuments
import CardSearch.Store.Document
import CardSearch.Store.Memory
/-!
What card stores fail with. The one fault of data that a store does not turn into an error of its own
is an infinite time of creation, which no document can hold. Main statement: for each of the ways to
hand cards to a store, the exact condition for it to succeed or to fail with an error of its own.
-/
namespace CardSearch

open Json Store

/-- An operation of a store succeeds or fails with an error of the store's own. -/
def Confined {α : Type} (result : Except StoreFailure α) : Prop :=
  (∃ value, result = .ok value) ∨ ∃ error, result = .error (.store error)

def Value.HasInfiniteTime : Value → Prop
  | .object fields => ∃ negative, Value.lookup "created" fields = some (.float (.infinite negative))
  | _ => False

def Entry.HasInfiniteTime : Entry → Prop
  | .card _ => False
  | .raw value => value.HasInfiniteTime

section

variable {α β : Type} {result : Except StoreFailure α}

theorem confined_ok (value : α) : Confined (.ok value : Except StoreFailure α) := .inl ⟨value, rfl⟩

theorem confined_error_iff {failure : StoreFailure} :
    Confined (.error failure : Except StoreFailure α) ↔ ∃ error, failure = .store error := by
  constructor
  · rintro (⟨value, same⟩ | ⟨error, same⟩)
    · contradiction
    · exact ⟨error, Except.error.inj same⟩
  · rintro ⟨error, rfl⟩
    exact .inr ⟨error, rfl⟩

theorem confined_map_iff (f : α → β) : Confined (result.map f) ↔ Confined result := by
  cases result with
  | ok value => exact ⟨fun _ => confined_ok value, fun _ => confined_ok (f value)⟩
  | error failure => exact confined_error_iff.trans confined_error_iff.symm

end

/-! ### One card -/

/-- The numbers that are no time of creation, by their faults. -/
inductive Card.TimeFault.IsOf : TimeFault → Number.Binary64 → Prop
  | notANumber : IsOf .notANumber .notANumber
  | infinite (negative : Bool) : IsOf .infinite (.infinite negative)

theorem Card.readCreated_eq_error_iff {created : Option Value} {fault : TimeFault} :
    readCreated created = .error fault ↔
      ∃ number, created = some (.float number) ∧ fault.IsOf number := by
  rw [readCreated.eq_def]
  split
  · simp
  · rename_i time
    cases time with
    | finite negative mantissa exponent reduced =>
      refine ⟨fun same => by contradiction, ?_⟩
      rintro ⟨number, there, isOf⟩
      cases there
      cases isOf
    | infinite negative =>
      refine ⟨fun same => ⟨_, rfl, Except.error.inj same ▸ .infinite negative⟩, ?_⟩
      rintro ⟨number, there, isOf⟩
      cases there
      cases isOf
      rfl
    | notANumber =>
      refine ⟨fun same => ⟨_, rfl, Except.error.inj same ▸ .notANumber⟩, ?_⟩
      rintro ⟨number, there, isOf⟩
      cases there
      cases isOf
      rfl
  · rename_i other
    simp only [reduceCtorEq, false_iff, not_exists, not_and]
    exact fun number there => absurd there (other number)

theorem Card.readCreated_infinite_iff {created : Option Value} :
    readCreated created = .error .infinite ↔
      ∃ negative, created = some (.float (.infinite negative)) := by
  rw [readCreated_eq_error_iff]
  constructor
  · rintro ⟨number, there, isOf⟩
    cases isOf with
    | infinite negative => exact ⟨negative, there⟩
  · rintro ⟨negative, there⟩
    exact ⟨_, there, .infinite negative⟩

theorem Card.ofFields_infiniteTime_iff {fields : List (String × Value)} :
    ofFields fields = .error .infiniteTime ↔ (Value.object fields).HasInfiniteTime := by
  rw [Value.HasInfiniteTime, ← readCreated_infinite_iff, ofFields.eq_def]
  dsimp only
  split <;> simp_all

theorem Card.ofValue_infiniteTime_iff {value : Value} :
    ofValue value = .error .infiniteTime ↔ value.HasInfiniteTime := by
  cases value with
  | object fields => exact ofFields_infiniteTime_iff
  | _ => simp [ofValue, Value.HasInfiniteTime]

namespace CardStore

theorem cardOf_confined_iff {entry : Entry} : Confined (cardOf entry) ↔ ¬ entry.HasInfiniteTime := by
  cases entry with
  | card card => exact ⟨fun _ => id, fun _ => confined_ok card⟩
  | raw value =>
    rw [Entry.HasInfiniteTime, ← Card.ofValue_infiniteTime_iff, cardOf]
    cases Card.ofValue value with
    | ok card => simpa using confined_ok card
    | error rejection =>
      cases rejection with
      | invalid invalid => simp [confined_error_iff]
      | infiniteTime => simp [confined_error_iff]

/-- Entries are taken up to the first that is no card, which decides how the whole fails. -/
theorem cardsOf_confined_iff {entries : List Entry} :
    Confined (cardsOf entries) ↔
      ∀ entry, entries.find? (fun entry => !(cardOf entry).isOk) = some entry →
        ¬ entry.HasInfiniteTime := by
  induction entries with
  | nil => simpa [cardsOf] using confined_ok _
  | cons first entries ih =>
    have alone : Confined (cardOf first) ↔ ¬ first.HasInfiniteTime := cardOf_confined_iff
    rw [cardsOf, List.find?_cons]
    cases read : cardOf first with
    | error failure =>
      rw [read, confined_error_iff] at alone
      change Confined (.error failure) ↔ ∀ entry, some first = some entry → _
      rw [confined_error_iff, alone]
      simp
    | ok card =>
      have rest : (do return card :: (← cardsOf entries) : Except StoreFailure (List Card)) =
          (cardsOf entries).map (card :: ·) := by
        cases cardsOf entries <;> rfl
      change Confined (do return card :: (← cardsOf entries)) ↔
        ∀ entry, entries.find? (fun entry => !(cardOf entry).isOk) = some entry → _
      rw [rest, confined_map_iff, ih]

end CardStore

/-! ### Documents -/

namespace Store.Document

variable {path : String}

theorem isData_of_lookup {name : String} {fields : List (String × Value)} {value : Value}
    (data : ∀ field ∈ fields, IsData field.2) (found : Value.lookup name fields = some value) :
    IsData value := by
  induction fields with
  | nil => contradiction
  | cons field fields ih =>
    obtain ⟨key, first⟩ := field
    rw [List.forall_mem_cons] at data
    rw [Value.lookup] at found
    split at found
    · exact Option.some.inj found ▸ data.1
    · exact ih data.2 found

theorem not_hasInfiniteTime_of_isData {value : Value} (data : IsData value) :
    ¬ value.HasInfiniteTime := by
  cases data with
  | object all =>
    rintro ⟨negative, found⟩
    cases isData_of_lookup all found
  | _ => exact id

theorem cardsFrom_confined {index : Nat} {entries : List Value}
    (data : ∀ entry ∈ entries, IsData entry) : Confined (cardsFrom path index entries) := by
  induction entries generalizing index with
  | nil => exact confined_ok _
  | cons entry entries ih =>
    rw [List.forall_mem_cons] at data
    cases entry with
    | object fields =>
      have finite := not_hasInfiniteTime_of_isData data.1
      rw [← Card.ofFields_infiniteTime_iff] at finite
      rw [cardsFrom]
      cases read : Card.ofFields fields with
      | ok card => exact (confined_map_iff _).mpr (ih data.2)
      | error rejection =>
        cases rejection with
        | invalid invalid => exact confined_error_iff.mpr ⟨_, rfl⟩
        | infiniteTime => exact absurd read finite
    | _ => exact confined_error_iff.mpr ⟨_, rfl⟩

theorem isData_of_payload {document value : Value} (data : IsData document)
    (found : payload document = some value) : IsData value := by
  cases data with
  | object all => exact isData_of_lookup all found
  | null => exact Option.some.inj found ▸ .null
  | bool value => exact Option.some.inj found ▸ .bool value
  | int value => exact Option.some.inj found ▸ .int value
  | float => exact Option.some.inj found ▸ .float ..
  | text value => exact Option.some.inj found ▸ .text value
  | list all => exact Option.some.inj found ▸ .list all

theorem cardsOf_confined {document : Value} (data : IsData document) :
    Confined (cardsOf path document) := by
  rw [cardsOf]
  split
  · rename_i entries found
    cases isData_of_payload data found with
    | list all => exact cardsFrom_confined all
  · exact confined_error_iff.mpr ⟨_, rfl⟩

theorem cardsOfBytes_confined {content : Except ReadFault (List UInt8)} :
    Confined (cardsOfBytes path content) := by
  rw [cardsOfBytes.eq_def]
  split
  · exact confined_error_iff.mpr ⟨_, rfl⟩
  · exact confined_error_iff.mpr ⟨_, rfl⟩
  · split
    · exact confined_error_iff.mpr ⟨_, rfl⟩
    · rename_i document read
      exact cardsOf_confined (isData_of_readBytes? read)

theorem cardsOfFile_confined_iff {content : Except ReadFault (List UInt8)} :
    Confined (cardsOfFile path content) ↔ isPossible path = true := by
  rw [cardsOfFile]
  by_cases possible : isPossible path = true
  · rw [if_pos possible]
    exact ⟨fun _ => possible, fun _ => cardsOfBytes_confined⟩
  · rw [if_neg possible, confined_error_iff]
    exact ⟨fun ⟨_, same⟩ => by contradiction, fun holds => absurd holds possible⟩

end Store.Document

/-! ### All stores -/

/-- When card stores succeed or fail with an error of their own. A store in memory does so exactly if no
card that it comes to has an infinite time of creation; it comes to all cards behind cards. A store in
a file does so whatever the file holds and whether it can be read or not, for every path that a file
can have. -/
theorem stores_confine_failures_iff (entries : List Entry) (entry : Entry) (store : CardStore)
    (path : String) (content : Except ReadFault (List UInt8)) :
    (Confined (CardStore.ofEntries entries) ↔
        ∀ first, entries.find? (fun entry => !(CardStore.cardOf entry).isOk) = some first →
          ¬ first.HasInfiniteTime) ∧
      (Confined (store.add entry) ↔ ¬ entry.HasInfiniteTime) ∧
      (Confined (Document.cardsOfFile path content) ↔ Document.isPossible path = true) := by
  refine ⟨?_, ?_, Document.cardsOfFile_confined_iff⟩
  · exact (confined_map_iff _).trans CardStore.cardsOf_confined_iff
  · exact (confined_map_iff _).trans CardStore.cardOf_confined_iff

/-- A card with the id 1 and an infinite time of creation is refused, but not with an error of the
store. -/
theorem add_infinite_time_escapes :
    ¬ Confined (CardStore.empty.add
      (.raw (.object [("id", .int 1), ("created", .float (.infinite false))]))) := by
  intro confined
  refine CardStore.cardOf_confined_iff.mp ((confined_map_iff _).mp confined) ?_
  exact ⟨false, rfl⟩

end CardSearch
