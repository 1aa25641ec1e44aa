import CardSearch.Number.Word
import CardSearch.Proofs.Rounding
import CardSearch.Value
import Mathlib.Data.List.Basic
/-!
Values inside one another. A value is built from the values that stand directly in it, down to those
that hold no others. Main statement: what holds of a value whenever it holds of all the values directly
in it, holds of every value.
-/
namespace CardSearch.Value

open Number (Binary64)

def children : Value → List Value
  | .list items => items
  | .tuple items => items
  | .set items => items
  | .object fields => fields.map Prod.snd
  | _ => []

mutual

def depth : Value → Nat
  | .list items => depthOfItems items + 1
  | .tuple items => depthOfItems items + 1
  | .set items => depthOfItems items + 1
  | .object fields => depthOfFields fields + 1
  | _ => 0

def depthOfItems : List Value → Nat
  | [] => 0
  | item :: items => max (depth item) (depthOfItems items)

def depthOfFields : List (String × Value) → Nat
  | [] => 0
  | (_, value) :: fields => max (depth value) (depthOfFields fields)

end

mutual

def parts : Value → List Value
  | .list items => .list items :: partsOfItems items
  | .tuple items => .tuple items :: partsOfItems items
  | .set items => .set items :: partsOfItems items
  | .object fields => .object fields :: partsOfFields fields
  | value => [value]

def partsOfItems : List Value → List Value
  | [] => []
  | item :: items => parts item ++ partsOfItems items

def partsOfFields : List (String × Value) → List Value
  | [] => []
  | (_, value) :: fields => parts value ++ partsOfFields fields

end

/-- Whether every whole number in a value has 64 bits, with or without a sign. -/
def HasWords (value : Value) : Prop :=
  ∀ n, .int n ∈ value.parts → Number.leastWord ≤ n ∧ n ≤ Number.greatestUnsigned

def HasDoubles (value : Value) : Prop := ∀ x, .float x ∈ value.parts → x.Fits

variable {value child : Value}

instance : DecidablePred HasWords := fun value =>
  decidable_of_iff
    (value.parts.all fun
      | .int n => Number.leastWord ≤ n ∧ n ≤ Number.greatestUnsigned
      | _ => true)
    (by
      rw [List.all_eq_true]
      constructor
      · intro all n part
        simpa using all _ part
      · intro words part member
        split
        · simpa using words _ member
        · rfl)

instance : DecidablePred HasDoubles := fun value =>
  decidable_of_iff
    (value.parts.all fun
      | .float x => x.Fits
      | _ => true)
    (by
      rw [List.all_eq_true]
      constructor
      · intro all x part
        simpa using all _ part
      · intro doubles part member
        split
        · simpa using doubles _ member
        · rfl)

/-! ### Induction -/

theorem sizeOf_lt_of_mem_children (member : child ∈ value.children) : sizeOf child < sizeOf value := by
  have inside : ∀ items : List Value, child ∈ items → sizeOf child < sizeOf items := fun _ =>
    List.sizeOf_lt_of_mem
  cases value with
  | list items =>
    have := inside items member
    simp only [list.sizeOf_spec]
    omega
  | tuple items =>
    have := inside items member
    simp only [tuple.sizeOf_spec]
    omega
  | set items =>
    have := inside items member
    simp only [set.sizeOf_spec]
    omega
  | object fields =>
    obtain ⟨⟨name, _⟩, there, rfl⟩ := List.mem_map.mp member
    have := List.sizeOf_lt_of_mem there
    simp only [object.sizeOf_spec, Prod.mk.sizeOf_spec] at this ⊢
    omega
  | _ => contradiction

/-- Induction on values: a property passes from the values that stand directly in a value to the value. -/
theorem induction {motive : Value → Prop}
    (step : ∀ value, (∀ child ∈ value.children, motive child) → motive value) (value : Value) :
    motive value := step value fun child _ => induction step child
termination_by sizeOf value
decreasing_by exact sizeOf_lt_of_mem_children ‹_›

/-! ### Depths and parts -/

theorem depth_lt_of_mem_children (member : child ∈ value.children) : child.depth < value.depth := by
  have items : ∀ items : List Value, child ∈ items → child.depth ≤ depthOfItems items := by
    intro items there
    induction items with
    | nil => contradiction
    | cons item items ih =>
      rw [depthOfItems]
      rcases List.mem_cons.mp there with rfl | later
      · exact Nat.le_max_left ..
      · exact Nat.le_trans (ih later) (Nat.le_max_right ..)
  have fields : ∀ fields : List (String × Value),
      depthOfFields fields = depthOfItems (fields.map Prod.snd) := by
    intro fields
    induction fields with
    | nil => rfl
    | cons field fields ih => rw [depthOfFields, ih, List.map_cons, depthOfItems]
  cases value with
  | list list => exact Nat.lt_succ_of_le (items list member)
  | tuple list => exact Nat.lt_succ_of_le (items list member)
  | set list => exact Nat.lt_succ_of_le (items list member)
  | object all =>
    rw [depth, fields]
    exact Nat.lt_succ_of_le (items _ member)
  | _ => contradiction

theorem parts_eq (value : Value) : value.parts = value :: value.children.flatMap parts := by
  have items : ∀ items : List Value, partsOfItems items = items.flatMap parts := by
    intro items
    induction items with
    | nil => rfl
    | cons item items ih => rw [partsOfItems, ih, List.flatMap_cons]
  have fields : ∀ fields : List (String × Value),
      partsOfFields fields = (fields.map Prod.snd).flatMap parts := by
    intro fields
    induction fields with
    | nil => rfl
    | cons field fields ih => rw [partsOfFields, ih, List.map_cons, List.flatMap_cons]
  cases value with
  | list list => rw [parts, items, children]
  | tuple list => rw [parts, items, children]
  | set list => rw [parts, items, children]
  | object all => rw [parts, fields, children]
  | _ => rfl

theorem mem_parts {part : Value} :
    part ∈ value.parts ↔ part = value ∨ ∃ child ∈ value.children, part ∈ child.parts := by
  rw [parts_eq, List.mem_cons, List.mem_flatMap]

theorem hasWords_iff : value.HasWords ↔
    (∀ n, value = .int n → Number.leastWord ≤ n ∧ n ≤ Number.greatestUnsigned) ∧
      ∀ child ∈ value.children, child.HasWords := by
  constructor
  · exact fun all => ⟨fun n same => all n (mem_parts.mpr (.inl same.symm)),
      fun child member n part => all n (mem_parts.mpr (.inr ⟨child, member, part⟩))⟩
  · rintro ⟨top, inside⟩ n part
    rcases mem_parts.mp part with same | ⟨child, member, part⟩
    · exact top n same.symm
    · exact inside child member n part

theorem HasDoubles.of_mem_children (doubles : value.HasDoubles) (member : child ∈ value.children) :
    child.HasDoubles := fun x part => doubles x (mem_parts.mpr (.inr ⟨child, member, part⟩))

theorem HasDoubles.fits {x : Binary64} (doubles : (float x).HasDoubles) : x.Fits :=
  doubles x (mem_parts.mpr (.inl rfl))

theorem hasWords_text (content : String) : (text content).HasWords := hasWords_iff.mpr ⟨nofun, nofun⟩

theorem hasDoubles_text (content : String) : (text content).HasDoubles := by
  intro x part
  rcases mem_parts.mp part with same | ⟨child, member, -⟩
  · contradiction
  · contradiction

/-! ### Fields -/

variable {name : String} {fields : List (String × Value)}

theorem mem_assign (nodup : (fields.map Prod.fst).Nodup) {field : String × Value} :
    field ∈ assign name value fields ↔ field = (name, value) ∨ field.1 ≠ name ∧ field ∈ fields := by
  induction fields with
  | nil => simp [assign]
  | cons first fields ih =>
    obtain ⟨key, old⟩ := first
    rw [List.map_cons, List.nodup_cons] at nodup
    have new : key ∉ fields.map Prod.fst := nodup.1
    rw [assign]
    split
    · rename_i same
      subst same
      have other : field ∈ fields → field.1 ≠ key := by
        rintro member rfl
        exact new (List.mem_map_of_mem member)
      rw [List.mem_cons, List.mem_cons]
      constructor
      · rintro (rfl | later)
        · exact .inl rfl
        · exact .inr ⟨other later, .inr later⟩
      · rintro (rfl | ⟨different, rfl | later⟩)
        · exact .inl rfl
        · exact absurd rfl different
        · exact .inr later
    · rename_i different
      rw [List.mem_cons, List.mem_cons, ih nodup.2]
      constructor
      · rintro (rfl | rfl | ⟨other, later⟩)
        · exact .inr ⟨different, .inl rfl⟩
        · exact .inl rfl
        · exact .inr ⟨other, .inr later⟩
      · rintro (rfl | ⟨other, rfl | later⟩)
        · exact .inr (.inl rfl)
        · exact .inl rfl
        · exact .inr (.inr ⟨other, later⟩)

theorem nodup_assign (nodup : (fields.map Prod.fst).Nodup) :
    ((assign name value fields).map Prod.fst).Nodup := by
  induction fields with
  | nil => simp [assign]
  | cons first fields ih =>
    obtain ⟨key, old⟩ := first
    rw [List.map_cons, List.nodup_cons] at nodup
    have new : key ∉ fields.map Prod.fst := nodup.1
    rw [assign]
    split
    · exact List.nodup_cons.mpr nodup
    · rename_i different
      refine List.nodup_cons.mpr ⟨fun member => ?_, ih nodup.2⟩
      obtain ⟨field, there, same⟩ := List.mem_map.mp member
      rcases (mem_assign nodup.2).mp there with rfl | ⟨-, old⟩
      · exact different same.symm
      · subst same
        exact new (List.mem_map_of_mem old)

theorem lookup_assign (name other : String) (value : Value) (fields : List (String × Value)) :
    lookup name (assign other value fields) =
      if other = name then some value else lookup name fields := by
  induction fields with
  | nil => rfl
  | cons field fields ih =>
    obtain ⟨key, old⟩ := field
    rw [assign]
    by_cases replaced : key = other
    · rw [if_pos replaced, lookup, lookup, replaced]
      split <;> rfl
    · rw [if_neg replaced, lookup, lookup, ih]
      by_cases found : key = name
      · rw [if_pos found, if_pos found, if_neg (found ▸ Ne.symm replaced)]
      · rw [if_neg found, if_neg found]

end CardSearch.Value
