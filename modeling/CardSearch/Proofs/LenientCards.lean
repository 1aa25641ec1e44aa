import CardSearch.Proofs.RawCards
import CardSearch.Proofs.StoreFailures
/-!
How lenient the reading of a card is. A field of the wrong shape counts as absent, so that data with
an id is a card. The one exception is a time of creation that is a floating-point number without a
finite value. Main statement: data with an id is a card with the parts that the data gives exactly if
its time of creation is no such number, and what it fails with otherwise.
-/
namespace CardSearch

open Number (Binary64)

/-! ### Whole parts -/

namespace Number

/-- The whole part of the ratio `a / b`: on its side of zero, not beyond it, and less than one away. -/
structure IsWholePart (whole a : Int) (b : Nat) : Prop where
  above : 0 ≤ a → 0 ≤ whole
  below : a ≤ 0 → whole ≤ 0
  reached : whole.natAbs * b ≤ a.natAbs
  near : a.natAbs < (whole.natAbs + 1) * b

theorem isWholePart_iff {whole a : Int} {b : Nat} (positive : 0 < b) :
    IsWholePart whole a b ↔ a.tdiv b = whole := by
  have size : (a.tdiv b).natAbs = a.natAbs / b := Int.natAbs_tdiv a b
  have above (side : 0 ≤ a) : 0 ≤ a.tdiv b := Int.tdiv_nonneg side (Int.natCast_nonneg b)
  have below (side : a ≤ 0) : a.tdiv b ≤ 0 := by
    have opposite := Int.tdiv_nonneg (Int.neg_nonneg_of_nonpos side) (Int.natCast_nonneg b)
    rw [Int.neg_tdiv] at opposite
    exact Int.nonpos_of_neg_nonneg opposite
  constructor
  · intro part
    have same : (a.tdiv b).natAbs = whole.natAbs := by
      rw [size]
      exact Nat.div_eq_of_lt_le part.reached part.near
    have side := part.above
    have otherSide := part.below
    omega
  · rintro rfl
    refine ⟨above, below, ?_, ?_⟩
    · rw [size]
      exact Nat.div_mul_le_self a.natAbs b
    · rw [size, Nat.mul_comm]
      exact Nat.lt_mul_div_succ a.natAbs positive

namespace Binary64

def IsFinite (x : Binary64) : Prop := ∃ a b, x.toRatio? = some (a, b)

theorem pos_of_toRatio? {x : Binary64} {a : Int} {b : Nat} (ratio : x.toRatio? = some (a, b)) :
    0 < b := by
  cases x with
  | finite negative mantissa exponent reduced =>
    have positive : 0 < (ratioOf mantissa exponent).2 := by
      rw [ratioOf]
      split
      · exact Nat.one_pos
      · exact Nat.two_pow_pos _
    cases ratio
    exact positive
  | infinite | notANumber => contradiction

theorem truncate?_eq_some_iff {x : Binary64} {whole : Int} :
    x.truncate? = some whole ↔ ∃ a b, x.toRatio? = some (a, b) ∧ IsWholePart whole a b := by
  rw [truncate?, Option.map_eq_some_iff]
  constructor
  · rintro ⟨⟨a, b⟩, ratio, quotient⟩
    exact ⟨a, b, ratio, (isWholePart_iff (pos_of_toRatio? ratio)).mpr quotient⟩
  · rintro ⟨a, b, ratio, part⟩
    exact ⟨(a, b), ratio, (isWholePart_iff (pos_of_toRatio? ratio)).mp part⟩

end Binary64

end Number

/-! ### The parts that data gives -/

namespace Value

/-- Values that are ids: texts and whole numbers, truth values among them. -/
inductive IsId : Value → CardId → Prop
  | text (value : String) : IsId (.text value) (.text value)
  | whole (value : Int) : IsId (.int value) (.number value)
  | truth (value : Bool) : IsId (.bool value) (.number value.toNat)

def isText : Value → Bool
  | text _ => true
  | _ => false

def items? : Value → Option (List Value)
  | list items | tuple items | set items => some items
  | _ => none

/-- The tags that a value gives: itself, or the texts among its items in their order. -/
inductive GivesTags : Option Value → List String → Prop
  | single (tag : String) : GivesTags (some (.text tag)) [tag]
  | collection {value : Value} {items : List Value} {tags : List String} :
      value.items? = some items → tags.map .text = items.filter isText → GivesTags (some value) tags
  | other {value : Value} : value.items? = none → value.isText = false → GivesTags (some value) []
  | absent : GivesTags none []

/-- The time that a value gives: a whole number itself, a finite number its whole part. -/
inductive GivesTime : Option Value → Int → Prop
  | whole (time : Int) : GivesTime (some (.int time)) time
  | part {number : Binary64} {a : Int} {b : Nat} {time : Int} : number.toRatio? = some (a, b) →
      Number.IsWholePart time a b → GivesTime (some (.float number)) time

theorem givesTime_float_iff {number : Binary64} {time : Int} :
    GivesTime (some (.float number)) time ↔ number.truncate? = some time := by
  rw [Binary64.truncate?_eq_some_iff]
  constructor
  · rintro (_ | ⟨ratio, part⟩)
    exact ⟨_, _, ratio, part⟩
  · rintro ⟨a, b, ratio, part⟩
    exact .part ratio part

end Value

namespace Card

/-- A card with the parts that the fields give. Texts and times that they do not give are absent. -/
structure ReadsOff (card : Card) (fields : List (String × Value)) : Prop where
  text : ∀ text, card.text = some text ↔ Value.lookup "text" fields = some (.text text)
  back : ∀ text, card.backText = some text ↔
    Value.lookup "backText" fields = some (.text text) ∨
      Value.lookup "backText" fields = none ∧ Value.lookup "back_text" fields = some (.text text)
  tags : Value.GivesTags (Value.lookup "tags" fields) card.tags
  created : ∀ time, card.created = some time ↔
    Value.GivesTime (Value.lookup "created" fields) time

theorem readId_of_isId {value : Value} {id : CardId} (isId : value.IsId id) :
    readId value = .ok id := by
  cases isId <;> rfl

theorem readText_eq_some_iff {value : Option Value} {text : String} :
    readText value = some text ↔ value = some (.text text) := by
  rw [readText.eq_def]
  split
  · simp
  · rename_i other
    simp only [reduceCtorEq, false_iff]
    exact other text

theorem backField_eq_some_iff {fields : List (String × Value)} {value : Value} :
    backField fields = some value ↔
      Value.lookup "backText" fields = some value ∨
        Value.lookup "backText" fields = none ∧ Value.lookup "back_text" fields = some value :=
  Option.or_eq_some_iff

theorem map_text_textsOf (items : List Value) :
    (textsOf items).map .text = items.filter Value.isText := by
  induction items with
  | nil => rfl
  | cons item items ih =>
    cases item with
    | text text => exact congrArg (.text text :: ·) ih
    | _ => exact ih

theorem givesTags_readTags (value : Option Value) : Value.GivesTags value (readTags value) := by
  cases value with
  | none => exact .absent
  | some value =>
    cases value with
    | text tag => exact .single tag
    | list items | tuple items | set items => exact .collection rfl (map_text_textsOf items)
    | _ => exact .other rfl rfl

theorem isFinite_iff_faultless {number : Binary64} :
    number.IsFinite ↔ ∀ fault, ¬ TimeFault.IsOf fault number := by
  cases number with
  | finite negative mantissa exponent reduced =>
    refine ⟨fun _ fault isOf => ?_, fun _ => ⟨_, _, rfl⟩⟩
    cases isOf
  | infinite negative =>
    exact ⟨fun ⟨_, _, ratio⟩ => by contradiction, fun none => absurd (.infinite negative) (none _)⟩
  | notANumber =>
    exact ⟨fun ⟨_, _, ratio⟩ => by contradiction, fun none => absurd .notANumber (none _)⟩

theorem exists_readCreated_iff {value : Option Value} :
    (∃ created, readCreated value = .ok created) ↔
      ∀ number, value = some (.float number) → number.IsFinite := by
  have noError : (∃ created, readCreated value = .ok created) ↔
      ∀ fault, readCreated value ≠ .error fault := by
    cases readCreated value <;> simp
  simp only [noError, isFinite_iff_faultless, ne_eq, readCreated_eq_error_iff]
  exact ⟨fun all number same fault isOf => all fault ⟨number, same, isOf⟩,
    fun all fault ⟨number, same, isOf⟩ => all number same fault isOf⟩

theorem givesTime_iff {value : Option Value} {created : Option Int}
    (read : readCreated value = .ok created) {time : Int} :
    created = some time ↔ Value.GivesTime value time := by
  rw [readCreated.eq_def] at read
  split at read
  · cases read
    refine ⟨fun same => ?_, fun gives => ?_⟩
    · cases same
      exact .whole _
    · cases gives
      rfl
  · rename_i number
    cases number with
    | finite negative mantissa exponent reduced =>
      cases read
      exact Value.givesTime_float_iff.symm
    | infinite | notANumber => contradiction
  · rename_i whole float
    cases read
    refine ⟨fun same => by contradiction, fun gives => ?_⟩
    cases gives with
    | whole => exact absurd rfl (whole time)
    | part => exact absurd rfl (float _)

theorem readsOff_of_ofFields {fields : List (String × Value)} {card : Card}
    (checked : ofFields fields = .ok card) : card.ReadsOff fields := by
  obtain ⟨-, created, text, back, tags⟩ := ofFields_eq_ok_iff.mp checked
  constructor
  · rw [text]
    exact fun _ => readText_eq_some_iff
  · rw [back]
    exact fun _ => readText_eq_some_iff.trans backField_eq_some_iff
  · rw [tags]
    exact givesTags_readTags _
  · exact fun _ => givesTime_iff created

def TimeFault.rejection : TimeFault → Rejection
  | infinite => .infiniteTime
  | notANumber => .invalid ⟨subject, [⟨["created"], .refused "cannot convert float NaN to integer"⟩]⟩

section

variable {fields : List (String × Value)} {value : Value} {id : CardId}

theorem exists_ofFields_iff (given : Value.lookup "id" fields = some value) (isId : value.IsId id) :
    (∃ card, ofFields fields = .ok card ∧ card.id = id) ↔
      ∃ created, readCreated (Value.lookup "created" fields) = .ok created := by
  have read := readId_of_isId isId
  constructor
  · rintro ⟨card, checked, -⟩
    exact ⟨_, (ofFields_eq_ok_iff.mp checked).2.1⟩
  · rintro ⟨created, time⟩
    exact ⟨⟨id, _, _, _, created⟩, ofFields_eq_ok_iff.mpr ⟨⟨value, given, read⟩, time, rfl, rfl, rfl⟩,
      rfl⟩

theorem ofFields_eq_error_iff (given : Value.lookup "id" fields = some value) (isId : value.IsId id)
    {rejection : Rejection} :
    ofFields fields = .error rejection ↔
      ∃ fault, readCreated (Value.lookup "created" fields) = .error fault ∧
        fault.rejection = rejection := by
  cases time : readCreated (Value.lookup "created" fields) with
  | ok created =>
    obtain ⟨card, checked, -⟩ := (exists_ofFields_iff given isId).mpr ⟨created, time⟩
    simp [checked]
  | error fault =>
    have failed : ofFields fields = .error fault.rejection := by
      rw [ofFields, given, time]
      dsimp only
      rw [readId_of_isId isId]
      cases fault <;> rfl
    simp [failed]

/-- Data with an id is a card exactly if its time of creation is not a floating-point number without
a finite value, whatever the other fields hold, and the card has the parts that the data gives. An
infinite time is refused in a way of its own, and the number that is none is a fault of its field. -/
theorem valid_iff_time_finite (given : Value.lookup "id" fields = some value)
    (isId : value.IsId id) :
    ((∃ card, ofValue (.object fields) = .ok card ∧ card.id = id ∧ card.ReadsOff fields) ↔
        ∀ number, Value.lookup "created" fields = some (.float number) → number.IsFinite) ∧
      (ofValue (.object fields) = .error .infiniteTime ↔
        ∃ negative, Value.lookup "created" fields = some (.float (.infinite negative))) ∧
      (ofValue (.object fields) = .error (.invalid
          ⟨subject, [⟨["created"], .refused "cannot convert float NaN to integer"⟩]⟩) ↔
        Value.lookup "created" fields = some (.float .notANumber)) := by
  refine ⟨?_, ofFields_infiniteTime_iff, ?_⟩
  · rw [← exists_readCreated_iff, ← exists_ofFields_iff given isId]
    refine exists_congr fun card => ⟨fun ⟨checked, same, _⟩ => ⟨checked, same⟩, ?_⟩
    rintro ⟨checked, same⟩
    exact ⟨checked, same, readsOff_of_ofFields checked⟩
  · rw [ofValue, ofFields_eq_error_iff given isId]
    constructor
    · rintro ⟨fault, read, same⟩
      obtain ⟨number, there, isOf⟩ := readCreated_eq_error_iff.mp read
      cases isOf with
      | notANumber => exact there
      | infinite => contradiction
    · intro there
      exact ⟨.notANumber, readCreated_eq_error_iff.mpr ⟨_, there, .notANumber⟩, rfl⟩

end

/-- Fields of other shapes than those of a card: a front that is a number, a tag that is none, and a
time with a fraction. -/
def odd : List (String × Value) :=
  [("id", .int 1), ("text", .int 5), ("back_text", .text "b"),
    ("tags", .set [.text "unit", .null, .text "mass"]),
    ("created", .float (.finite true 5 (-1) (.inl rfl)))]

theorem odd_is_card :
    Value.lookup "id" odd = some (.int 1) ∧ Value.IsId (.int 1) (.number 1) ∧
      ofValue (.object odd) = .ok ⟨.number 1, none, some "b", ["unit", "mass"], some (-2)⟩ ∧
      ∃ card, ofValue (.object odd) = .ok card ∧ card.id = .number 1 ∧ card.ReadsOff odd := by
  have isId : Value.IsId (.int 1) (.number 1) := .whole 1
  have finite (number : Binary64) (same : Value.lookup "created" odd = some (.float number)) :
      number.IsFinite := by
    cases same
    exact ⟨_, _, rfl⟩
  exact ⟨rfl, isId, rfl, (valid_iff_time_finite rfl isId).1.mpr finite⟩

/-- Data with an id and nothing else but a time of creation need not be a card. -/
theorem time_makes_invalid :
    (¬ ∃ card, ofValue (.object [("id", .int 1), ("created", .float (.infinite false))]) = .ok card) ∧
      ¬ ∃ card, ofValue (.object [("id", .int 1), ("created", .float .notANumber)]) = .ok card := by
  constructor
  · rintro ⟨card, checked⟩
    contradiction
  · rintro ⟨card, checked⟩
    contradiction

end Card

end CardSearch
