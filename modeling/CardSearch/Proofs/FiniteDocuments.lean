import CardSearch.Json.Reader
/-!
What reading a JSON document can yield. A number beyond the range of floating point is refused, so
that no document holds infinity or the number that is none. Main statement: every value that is read is
made of texts, truth values, whole numbers and finite numbers.
-/
namespace CardSearch.Json

open Number (Binary64)

/-- Values that a JSON document can hold: every floating-point number in them is finite. -/
inductive IsData : Value → Prop
  | null : IsData .null
  | bool (value : Bool) : IsData (.bool value)
  | int (value : Int) : IsData (.int value)
  | float (negative : Bool) (mantissa : Nat) (exponent : Int)
      (reduced : Number.IsReduced mantissa exponent) :
      IsData (.float (.finite negative mantissa exponent reduced))
  | text (value : String) : IsData (.text value)
  | list {items : List Value} : (∀ item ∈ items, IsData item) → IsData (.list items)
  | object {fields : List (String × Value)} : (∀ field ∈ fields, IsData field.2) →
      IsData (.object fields)

variable {reading : Reading} {text : Text} {value : Value}

theorem isData_of_mem_finite? {number : Binary64} (read : value ∈ finite? number) : IsData value := by
  cases number with
  | finite negative mantissa exponent reduced =>
    cases read
    exact .float negative mantissa exponent reduced
  | infinite => contradiction
  | notANumber => contradiction

theorem isData_of_mem_whole? {number : Int} (read : value ∈ whole? reading number) : IsData value := by
  rw [whole?] at read
  split at read
  · cases read
    exact .int number
  · split at read
    · cases read
      exact .int number
    · exact isData_of_mem_finite? read

private theorem forall_mem_bind {α β : Type} {holds : β → Prop} (first : Option α)
    {next : α → Option β} (later : ∀ a ∈ first, ∀ b ∈ next a, holds b) :
    ∀ b ∈ first >>= next, holds b := by
  intro b member
  obtain ⟨a, there, behind⟩ := Option.bind_eq_some_iff.mp member
  exact later a there b behind

theorem isData_of_mem_number? : ∀ read ∈ number? reading text, IsData read.1 := by
  unfold number?
  split
  refine forall_mem_bind _ fun ⟨digits, behind⟩ _ => ?_
  dsimp only
  split
  · exact fun _ member => absurd member (by simp)
  · refine forall_mem_bind _ fun ⟨fraction, behind⟩ _ => forall_mem_bind _ fun ⟨exponent, rest⟩ _ => ?_
    dsimp only
    split
    · refine forall_mem_bind _ fun value there => ?_
      rintro read ⟨⟩
      exact isData_of_mem_whole? there
    · refine forall_mem_bind _ fun value there => ?_
      rintro read ⟨⟩
      exact isData_of_mem_finite? there

section

variable {item : Text → Option (Value × Text)}
  (each : ∀ text, ∀ read ∈ item text, IsData read.1)

include each

theorem isData_of_mem_items? {fuel : Nat} :
    ∀ read ∈ items? item fuel text, ∀ value ∈ read.1, IsData value := by
  induction fuel generalizing text with
  | zero => exact fun _ member => absurd member (by simp [items?])
  | succ fuel ih =>
    rw [items?]
    refine forall_mem_bind _ fun ⟨first, behind⟩ there => ?_
    have data : IsData first := each _ _ there
    dsimp only
    split
    · refine forall_mem_bind _ fun ⟨later, rest⟩ thereToo => ?_
      rintro read ⟨⟩
      exact List.forall_mem_cons.mpr ⟨data, ih _ thereToo⟩
    · rintro read ⟨⟩
      exact List.forall_mem_singleton.mpr data
    · exact fun _ member => absurd member (by simp)

theorem isData_of_mem_fields? {fuel : Nat} :
    ∀ read ∈ fields? item fuel text, ∀ field ∈ read.1, IsData field.2 := by
  induction fuel generalizing text with
  | zero => exact fun _ member => absurd member (by simp [fields?])
  | succ fuel ih =>
    rw [fields?]
    split
    · refine forall_mem_bind _ fun ⟨name, behind⟩ _ => ?_
      dsimp only
      split
      · refine forall_mem_bind _ fun ⟨first, behind⟩ there => ?_
        have data : IsData first := each _ _ there
        dsimp only
        split
        · refine forall_mem_bind _ fun ⟨later, rest⟩ thereToo => ?_
          rintro read ⟨⟩
          exact List.forall_mem_cons.mpr ⟨data, ih _ thereToo⟩
        · rintro read ⟨⟩
          exact List.forall_mem_singleton.mpr data
        · exact fun _ member => absurd member (by simp)
      · exact fun _ member => absurd member (by simp)
    · exact fun _ member => absurd member (by simp)

end

theorem isData_of_mem_assign {name : String} {fields : List (String × Value)} (data : IsData value)
    (all : ∀ field ∈ fields, IsData field.2) :
    ∀ field ∈ Value.assign name value fields, IsData field.2 := by
  induction fields with
  | nil => simpa [Value.assign] using data
  | cons field fields ih =>
    obtain ⟨key, old⟩ := field
    rw [List.forall_mem_cons] at all
    rw [Value.assign]
    split
    · exact List.forall_mem_cons.mpr ⟨data, all.2⟩
    · exact List.forall_mem_cons.mpr ⟨all.1, ih all.2⟩

theorem isData_of_mem_distinct {fields : List (String × Value)}
    (all : ∀ field ∈ fields, IsData field.2) : ∀ field ∈ distinct fields, IsData field.2 := by
  have kept : ∀ kept : List (String × Value), (∀ field ∈ kept, IsData field.2) →
      ∀ field ∈ fields.foldl (fun kept field => Value.assign field.1 field.2 kept) kept,
        IsData field.2 := by
    induction fields with
    | nil => exact fun _ before => before
    | cons field fields ih =>
      rw [List.forall_mem_cons] at all
      exact fun kept before => ih all.2 _ (isData_of_mem_assign all.1 before)
  exact kept [] (by simp)

theorem isData_of_mem_value? {length depth : Nat} :
    ∀ read ∈ value? reading length depth text, IsData read.1 := by
  induction depth using Nat.strongRecOn generalizing text with
  | ind depth inner =>
    unfold value?
    split
    · rintro read ⟨⟩
      exact .null
    · rintro read ⟨⟩
      exact .bool true
    · rintro read ⟨⟩
      exact .bool false
    · intro read member
      obtain ⟨content, -, rfl⟩ := Option.map_eq_some_iff.mp member
      exact .text _
    · split
      · exact fun _ member => absurd member (by simp)
      · split
        · rintro read ⟨⟩
          exact .list (by simp)
        · intro read member
          obtain ⟨items, there, rfl⟩ := Option.map_eq_some_iff.mp member
          exact .list (isData_of_mem_items? (fun _ => inner _ (Nat.lt_succ_self _)) _ there)
    · split
      · exact fun _ member => absurd member (by simp)
      · split
        · rintro read ⟨⟩
          exact .object (by simp)
        · intro read member
          obtain ⟨fields, there, rfl⟩ := Option.map_eq_some_iff.mp member
          exact .object (isData_of_mem_distinct
            (isData_of_mem_fields? (fun _ => inner _ (Nat.lt_succ_self _)) _ there))
    · exact isData_of_mem_number?

theorem isData_of_readBytes? {document : List UInt8}
    (read : readBytes? reading document = some value) : IsData value := by
  obtain ⟨text, -, read⟩ := Option.bind_eq_some_iff.mp read
  obtain ⟨⟨value, rest⟩, there, last⟩ := Option.bind_eq_some_iff.mp read
  dsimp only at last
  split at last
  · cases last
    exact isData_of_mem_value? _ there
  · contradiction

end CardSearch.Json
