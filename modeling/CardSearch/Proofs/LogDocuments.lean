import CardSearch.Log.Document
import CardSearch.Proofs.JsonReadBack
import CardSearch.Proofs.NestedValues
import Mathlib.Data.List.Forall2
import Mathlib.Data.List.Nodup
/-!
Log records as JSON documents. A record whose message is well-formed has a document unless one of the
values that are written holds a whole number beyond 64 bits. Main statement: the records that have
documents, and what the documents are read as.
-/
namespace CardSearch.Log.Document

open Json (ReadBack)
open Number (leastWord greatestUnsigned)

variable {value made : Value} {items : List Value} {fields : List (String × Value)} {depth : Nat}

/-! ### Documents that are read -/

def Readable (depth : Nat) (value : Value) : Prop :=
  ∃ read, ReadBack .bounded depth (Json.write .compact value).toList read

theorem readable_list (all : ∀ item ∈ items, Readable depth item) :
    Readable (depth + 1) (.list items) := by
  choose! f reads using all
  exact ⟨_, Json.readBack_writtenList Json.isSpaced_compact reads⟩

theorem readable_object (all : ∀ field ∈ fields, Readable depth field.2) :
    Readable (depth + 1) (.object fields) := by
  have each : ∀ value ∈ fields.map Prod.snd, Readable depth value := List.forall_mem_map.mpr all
  choose! f reads using each
  exact ⟨_, Json.readBack_writtenObject Json.isSpaced_compact fun field member =>
    reads field.2 (List.mem_map_of_mem member)⟩

theorem readable_float {x : Number.Binary64} (fits : x.Fits) : Readable depth (.float x) := by
  cases x with
  | finite negative mantissa exponent reduced => exact ⟨_, Json.readBack_float fits⟩
  | infinite negative => exact ⟨.null, Json.readBack_null⟩
  | notANumber => exact ⟨.null, Json.readBack_null⟩

theorem readable_int {n : Int} (word : leastWord ≤ n ∧ n ≤ greatestUnsigned) : Readable depth (.int n) :=
  ⟨.int n, Json.readBack_int (if_pos word)⟩

/-! ### Plain values -/

theorem plainItems_eq_ok_iff {plains : List Value} :
    plainItems items = .ok plains ↔ List.Forall₂ (fun item made => plain item = .ok made) items plains := by
  induction items generalizing plains with
  | nil => cases plains <;> simp [plainItems]
  | cons item items ih =>
    rw [plainItems, List.forall₂_cons_left_iff]
    simp only [← ih]
    cases first : plain item with
    | error fault => exact ⟨nofun, fun ⟨_, _, same, _⟩ => by contradiction⟩
    | ok made =>
      cases rest : plainItems items with
      | error fault => exact ⟨nofun, fun ⟨_, _, _, same, _⟩ => by contradiction⟩
      | ok others =>
        constructor
        · rintro ⟨⟩
          exact ⟨made, others, rfl, rfl, rfl⟩
        · rintro ⟨_, _, ⟨⟩, ⟨⟩, rfl⟩
          rfl

theorem plainItems_isOk_iff :
    (∃ plains, plainItems items = .ok plains) ↔ ∀ item ∈ items, ∃ made, plain item = .ok made := by
  simp only [plainItems_eq_ok_iff]
  induction items with
  | nil => exact ⟨nofun, fun _ => ⟨[], .nil⟩⟩
  | cons item items ih =>
    rw [List.forall_mem_cons, ← ih]
    constructor
    · rintro ⟨_, _ | ⟨first, rest⟩⟩
      exact ⟨⟨_, first⟩, _, rest⟩
    · rintro ⟨⟨_, first⟩, _, rest⟩
      exact ⟨_, .cons first rest⟩

theorem mem_of_plainItems {plains : List Value} (done : plainItems items = .ok plains) :
    ∀ made ∈ plains, ∃ item ∈ items, plain item = .ok made := by
  rw [plainItems_eq_ok_iff] at done
  induction done with
  | nil => exact nofun
  | cons first rest ih =>
    intro made member
    rcases List.mem_cons.mp member with rfl | later
    · exact ⟨_, List.mem_cons_self, first⟩
    · obtain ⟨item, there, same⟩ := ih made later
      exact ⟨item, List.mem_cons_of_mem _ there, same⟩

theorem plainItems_eq_error {fault : DocumentFault} (failed : plainItems items = .error fault) :
    ∃ item ∈ items, plain item = .error fault := by
  induction items with
  | nil => contradiction
  | cons item items ih =>
    rw [plainItems] at failed
    cases first : plain item with
    | error other =>
      rw [first] at failed
      cases failed
      exact ⟨item, List.mem_cons_self, first⟩
    | ok made =>
      cases rest : plainItems items with
      | error other =>
        rw [first, rest] at failed
        cases failed
        obtain ⟨item, member, same⟩ := ih rest
        exact ⟨item, List.mem_cons_of_mem _ member, same⟩
      | ok others =>
        rw [first, rest] at failed
        contradiction

theorem bind_pure_eq_ok_iff {α β : Type} {first : Except DocumentFault α} {f : α → β} {b : β} :
    (do return f (← first)) = Except.ok (ε := DocumentFault) b ↔ ∃ a, first = .ok a ∧ f a = b := by
  cases first with
  | error fault => exact ⟨nofun, fun ⟨_, same, _⟩ => by contradiction⟩
  | ok a =>
    refine ⟨fun same => ⟨a, rfl, Except.ok.inj same⟩, ?_⟩
    rintro ⟨_, ⟨⟩, rfl⟩
    rfl

theorem error_of_bind_pure {α β : Type} {first : Except DocumentFault α} {f : α → β}
    {fault : DocumentFault} (failed : (do return f (← first)) = Except.error (α := β) fault) :
    first = .error fault := by
  cases first with
  | error other => exact congrArg Except.error (Except.error.inj failed)
  | ok a => contradiction

theorem plainFields_eq (fields : List (String × Value)) :
    plainFields fields =
      (plainItems (fields.map Prod.snd)).map fun plains => (fields.map Prod.fst).zip plains := by
  induction fields with
  | nil => rfl
  | cons field fields ih =>
    obtain ⟨name, value⟩ := field
    rw [plainFields, ih, List.map_cons, List.map_cons, plainItems]
    cases plain value with
    | error fault => rfl
    | ok made => cases plainItems (fields.map Prod.snd) <;> rfl

theorem plainFields_eq_ok_iff {others : List (String × Value)} :
    plainFields fields = .ok others ↔ ∃ plains, plainItems (fields.map Prod.snd) = .ok plains ∧
      (fields.map Prod.fst).zip plains = others := by
  rw [plainFields_eq]
  exact bind_pure_eq_ok_iff

theorem plainFields_eq_error {fault : DocumentFault} (failed : plainFields fields = .error fault) :
    plainItems (fields.map Prod.snd) = .error fault := by
  rw [plainFields_eq] at failed
  exact error_of_bind_pure failed

/-- What one value is made into. -/
inductive Made (value : Value) : Value → Prop
  | list {items : List Value} (nested : 0 < value.depth)
      (inside : ∀ item ∈ items, ∃ child ∈ value.children, plain child = .ok item) :
      Made value (.list items)
  | object {fields : List (String × Value)} (nested : 0 < value.depth)
      (inside : ∀ field ∈ fields, ∃ child ∈ value.children, plain child = .ok field.2) :
      Made value (.object fields)
  | null : Made value .null
  | bool (truth : Bool) : Made value (.bool truth)
  | text (content : String) : Made value (.text content)
  | int {n : Int} (word : leastWord ≤ n ∧ n ≤ greatestUnsigned) : Made value (.int n)
  | float {x : Number.Binary64} (same : value = .float x) : Made value (.float x)

theorem mem_sortedBy?_getD {α : Type} {key : α → Value} {items : List α} {item : α} :
    item ∈ (Value.sortedBy? key items).getD items ↔ item ∈ items := by
  rw [Value.sortedBy?]
  split
  · rfl
  · split
    · exact List.mem_mergeSort
    · rfl

theorem made_of_plain_set (done : plain (.set items) = .ok made) : Made (.set items) made := by
  obtain ⟨plains, rest, rfl⟩ := bind_pure_eq_ok_iff.mp done
  refine .list (Nat.succ_pos _) (List.forall_mem_map.mpr fun pair member => ?_)
  have there : pair ∈ items.zip plains := mem_sortedBy?_getD.mp member
  exact mem_of_plainItems rest pair.2 (List.of_mem_zip there).2

theorem made_of_plain_object (done : plain (.object fields) = .ok made) :
    Made (.object fields) made := by
  obtain ⟨plains, rest, rfl⟩ := bind_pure_eq_ok_iff.mp done
  obtain ⟨values, all, rfl⟩ := plainFields_eq_ok_iff.mp rest
  exact .object (Nat.succ_pos _) fun field member =>
    mem_of_plainItems all field.2 (List.of_mem_zip member).2

theorem made_of_plain_int {n : Int} (done : plain (.int n) = .ok made) : Made (.int n) made := by
  rw [plain] at done
  split at done
  · rename_i word
    cases done
    exact .int word
  · contradiction

theorem made_of_plain (done : plain value = .ok made) : Made value made := by
  cases value with
  | list items | tuple items =>
    obtain ⟨plains, rest, rfl⟩ := bind_pure_eq_ok_iff.mp done
    exact .list (Nat.succ_pos _) (mem_of_plainItems rest)
  | set items => exact made_of_plain_set done
  | object fields => exact made_of_plain_object done
  | int n => exact made_of_plain_int done
  | float x =>
    cases done
    exact .float rfl
  | null =>
    cases done
    exact .null
  | bool truth =>
    cases done
    exact .bool truth
  | text _ | bytes _ | buffer _ | path _ | failure _ | other _ =>
    cases done
    exact .text _

theorem plain_isOk_iff : (∃ made, plain value = .ok made) ↔
    (∀ n, value = .int n → leastWord ≤ n ∧ n ≤ greatestUnsigned) ∧
      ∀ child ∈ value.children, ∃ made, plain child = .ok made := by
  have nested : ∀ {items : List Value} {f : List Value → Value},
      (∃ made, (do return f (← plainItems items)) = Except.ok (ε := DocumentFault) made) ↔
        ∀ item ∈ items, ∃ made, plain item = .ok made := by
    intro items f
    rw [← plainItems_isOk_iff]
    simp only [bind_pure_eq_ok_iff]
    exact ⟨fun ⟨_, plains, done, _⟩ => ⟨plains, done⟩, fun ⟨plains, done⟩ => ⟨_, plains, done, rfl⟩⟩
  cases value with
  | list items | tuple items | set items =>
    refine Iff.trans ?_ (and_iff_right fun n same => by contradiction).symm
    exact nested
  | object fields =>
    refine Iff.trans ?_ (and_iff_right fun n same => by contradiction).symm
    rw [Value.children, ← plainItems_isOk_iff]
    constructor
    · rintro ⟨_, done⟩
      obtain ⟨others, all, -⟩ := bind_pure_eq_ok_iff.mp done
      obtain ⟨plains, rest, -⟩ := plainFields_eq_ok_iff.mp all
      exact ⟨plains, rest⟩
    · rintro ⟨plains, rest⟩
      exact ⟨_, bind_pure_eq_ok_iff.mpr ⟨_, plainFields_eq_ok_iff.mpr ⟨plains, rest, rfl⟩, rfl⟩⟩
  | int n =>
    rw [plain]
    constructor
    · rintro ⟨made, done⟩
      split at done
      · rename_i word
        refine ⟨?_, fun child member => absurd member List.not_mem_nil⟩
        rintro _ ⟨⟩
        exact word
      · contradiction
    · rintro ⟨word, -⟩
      exact ⟨_, if_pos (word n rfl)⟩
  | _ =>
    refine ⟨fun _ => ⟨fun n same => by contradiction, fun child member => ?_⟩, fun _ => ⟨_, rfl⟩⟩
    exact absurd member List.not_mem_nil

theorem plain_isOk_iff_hasWords (value : Value) : (∃ made, plain value = .ok made) ↔ value.HasWords := by
  induction value using Value.induction with
  | step value ih =>
    rw [plain_isOk_iff, Value.hasWords_iff]
    exact and_congr_right fun _ => forall₂_congr ih

theorem eq_numberTooLarge_of_plain (value : Value) :
    ∀ {fault}, plain value = .error fault → fault = .numberTooLarge := by
  induction value using Value.induction with
  | step value ih =>
    intro fault failed
    have inside : ∀ {items}, plainItems items = .error fault → (∀ item ∈ items, item ∈ value.children) →
        fault = .numberTooLarge := by
      intro items failed within
      obtain ⟨item, member, same⟩ := plainItems_eq_error failed
      exact ih item (within item member) same
    cases value with
    | list items | tuple items | set items => exact inside (error_of_bind_pure failed) fun _ => id
    | object fields => exact inside (plainFields_eq_error (error_of_bind_pure failed)) fun _ => id
    | int n =>
      rw [plain] at failed
      split at failed
      · contradiction
      · exact (Except.error.inj failed).symm
    | _ => contradiction

theorem readable_of_plain (value : Value) : ∀ {made depth}, plain value = .ok made → value.HasDoubles →
    value.depth ≤ depth → Readable depth made := by
  induction value using Value.induction with
  | step value ih =>
    intro made depth done doubles shallow
    have inside : 0 < value.depth → ∃ below, depth = below + 1 ∧
        ∀ {part}, (∃ child ∈ value.children, plain child = .ok part) → Readable below part := by
      intro nested
      obtain ⟨below, rfl⟩ := Nat.exists_eq_add_of_le' (Nat.le_trans nested shallow)
      refine ⟨below, rfl, ?_⟩
      rintro part ⟨child, member, same⟩
      have less := Value.depth_lt_of_mem_children member
      exact ih child member same (doubles.of_mem_children member) (by omega)
    cases made_of_plain done with
    | list nested all =>
      obtain ⟨below, rfl, readable⟩ := inside nested
      exact readable_list fun item member => readable (all item member)
    | object nested all =>
      obtain ⟨below, rfl, readable⟩ := inside nested
      exact readable_object fun field member => readable (all field member)
    | null => exact ⟨_, Json.readBack_null⟩
    | bool truth => exact ⟨_, Json.readBack_bool truth⟩
    | text content => exact ⟨_, Json.readBack_text content⟩
    | int word => exact readable_int word
    | float same =>
      subst same
      exact readable_float doubles.fits

theorem read?_of_plainFields {others : List (String × Value)} (done : plainFields fields = .ok others)
    (distinct : (fields.map Prod.fst).Nodup)
    (doubles : ∀ value ∈ fields.map Prod.snd, value.HasDoubles)
    (shallow : ∀ value ∈ fields.map Prod.snd, value.depth ≤ 1023) :
    ∃ read, Json.read? .bounded (Json.write .compact (.object others)).toList = some (.object read) ∧
      read.map Prod.fst = fields.map Prod.fst := by
  obtain ⟨plains, all, rfl⟩ := plainFields_eq_ok_iff.mp done
  have length := (plainItems_eq_ok_iff.mp all).length_eq
  rw [List.length_map] at length
  have names : ((fields.map Prod.fst).zip plains).map Prod.fst = fields.map Prod.fst :=
    List.map_fst_zip (by rw [List.length_map, length])
  have each : ∀ value ∈ plains, Readable 1023 value := by
    intro value member
    obtain ⟨item, there, made⟩ := mem_of_plainItems all value member
    exact readable_of_plain item made (doubles item there) (shallow item there)
  choose! f reads using each
  refine ⟨_, Json.read?_document (Json.readBack_writtenObject_of_nodup Json.isSpaced_compact
    (fun field member => reads field.2 (List.of_mem_zip member).2) (by rwa [names])), ?_⟩
  rw [List.map_map]
  exact names

/-! ### Fields -/

section

variable {extra : List (String × Value)}

theorem addExtra_cons (field : String × Value) :
    addExtra fields (field :: extra) =
      addExtra (if isShown field.1 then Value.assign field.1 (disclosed field.1 field.2) fields else fields)
        extra := rfl

theorem nodup_addExtra (nodup : (fields.map Prod.fst).Nodup) :
    ((addExtra fields extra).map Prod.fst).Nodup := by
  induction extra generalizing fields with
  | nil => exact nodup
  | cons field extra ih =>
    rw [addExtra_cons]
    refine ih ?_
    split
    · exact Value.nodup_assign nodup
    · exact nodup

/-- The fields with further values: those that are shown, and the fields that none of them replaces. -/
theorem mem_addExtra (nodup : (fields.map Prod.fst).Nodup) (unique : (extra.map Prod.fst).Nodup)
    {field : String × Value} :
    field ∈ addExtra fields extra ↔
      (∃ given ∈ extra, isShown given.1 = true ∧ field = (given.1, disclosed given.1 given.2)) ∨
      field ∈ fields ∧ ∀ given ∈ extra, isShown given.1 = true → field.1 ≠ given.1 := by
  induction extra generalizing fields with
  | nil => simp [addExtra]
  | cons first extra ih =>
    rw [List.map_cons, List.nodup_cons] at unique
    have new : ∀ given ∈ extra, first.1 ≠ given.1 := fun given member same =>
      unique.1 (same ▸ List.mem_map_of_mem member)
    rw [addExtra_cons]
    by_cases shown : isShown first.1 = true
    · rw [if_pos shown, ih (Value.nodup_assign nodup) unique.2, Value.mem_assign nodup,
        List.exists_mem_cons_iff, List.forall_mem_cons]
      constructor
      · rintro (later | ⟨rfl | ⟨other, old⟩, kept⟩)
        · exact .inl (.inr later)
        · exact .inl (.inl ⟨shown, rfl⟩)
        · exact .inr ⟨old, fun _ => other, kept⟩
      · rintro ((⟨-, rfl⟩ | later) | ⟨old, other, kept⟩)
        · exact .inr ⟨.inl rfl, fun given member _ => new given member⟩
        · exact .inl later
        · exact .inr ⟨.inr ⟨other shown, old⟩, kept⟩
    · rw [if_neg shown, ih nodup unique.2, List.exists_mem_cons_iff, List.forall_mem_cons]
      simp only [shown, Bool.false_eq_true, false_and, false_or, false_implies, true_and]

end

def commonNames : List String := ["timestamp", "level", "message", "logger", "trace_id", "span_id"]

variable {now : String} {context : Context} {record : Record} {message : String}

theorem names_base :
    (base now context record message).map Prod.fst =
      commonNames ++ ((if record.logger.contains '.' then ["component"] else []) ++
        if record.raised.isSome then ["exception"] else []) := by
  rw [base, componentOf]
  cases record.raised <;> split <;> rfl

theorem mem_names_base (now : String) (context : Context) (message : String) {name : String} :
    name ∈ (base now context record message).map Prod.fst ↔
      name ∈ commonNames ∨ record.logger.contains '.' = true ∧ name = "component" ∨
        record.raised.isSome = true ∧ name = "exception" := by
  rw [names_base, List.mem_append, List.mem_append]
  simp only [List.mem_ite_nil_right, List.mem_singleton]

theorem nodup_base : ((base now context record message).map Prod.fst).Nodup := by
  rw [names_base]
  split <;> split <;> decide

theorem text_of_mem_base :
    ∀ field ∈ base now context record message, ∃ content, field.2 = .text content := by
  have component : ∀ field ∈ componentOf record.logger, ∃ content, field.2 = .text content := by
    rw [componentOf]
    split <;> simp
  rw [base, List.forall_mem_append, List.forall_mem_append]
  refine ⟨⟨by simp, component⟩, ?_⟩
  cases record.raised <;> simp

theorem disclosed_cases (name : String) (value : Value) :
    (∃ content, disclosed name value = .text content ∧ (isSecret name = true ∨ value.HasWords)) ∨
      disclosed name value = value ∧ isSecret name = false := by
  unfold disclosed
  cases isSecret name with
  | true => exact .inl ⟨hidden, rfl, .inl rfl⟩
  | false =>
    cases value with
    | text content => exact .inl ⟨cut valueLimit content, rfl, .inr (Value.hasWords_text content)⟩
    | _ => exact .inr ⟨rfl, rfl⟩

theorem hasWords_disclosed {name : String} :
    (disclosed name value).HasWords ↔ (isSecret name = false → value.HasWords) := by
  rcases disclosed_cases name value with ⟨content, same, secret | words⟩ | ⟨same, known⟩
  · rw [same, secret]
    exact iff_of_true (Value.hasWords_text content) nofun
  · rw [same]
    exact iff_of_true (Value.hasWords_text content) fun _ => words
  · rw [same, known]
    exact ⟨fun words _ => words, fun words => words rfl⟩

theorem hasDoubles_disclosed {name : String} (doubles : value.HasDoubles) :
    (disclosed name value).HasDoubles := by
  rcases disclosed_cases name value with ⟨content, same, -⟩ | ⟨same, -⟩
  · rw [same]
    exact Value.hasDoubles_text content
  · rwa [same]

theorem depth_disclosed {name : String} : (disclosed name value).depth ≤ value.depth := by
  rcases disclosed_cases name value with ⟨content, same, -⟩ | ⟨same, -⟩
  · rw [same]
    exact Nat.zero_le _
  · rw [same]

def fieldsOf (now : String) (context : Context) (record : Record) (message : String) :
    List (String × Value) := addExtra (base now context record message) record.extra

theorem forall_mem_fieldsOf {holds : Value → Prop} (unique : (record.extra.map Prod.fst).Nodup)
    (text : ∀ content, holds (.text content)) :
    (∀ value ∈ (fieldsOf now context record message).map Prod.snd, holds value) ↔
      ∀ field ∈ record.extra, isShown field.1 = true → holds (disclosed field.1 field.2) := by
  rw [List.forall_mem_map]
  constructor
  · exact fun all field member shown =>
      all _ ((mem_addExtra nodup_base unique).mpr (.inl ⟨field, member, shown, rfl⟩))
  · intro all field member
    rcases (mem_addExtra nodup_base unique).mp member with ⟨given, there, shown, rfl⟩ | ⟨old, -⟩
    · exact all given there shown
    · obtain ⟨content, same⟩ := text_of_mem_base field old
      rw [same]
      exact text content

theorem mem_names_fieldsOf (now : String) (context : Context) (message : String)
    (unique : (record.extra.map Prod.fst).Nodup) (name : String) :
    name ∈ (fieldsOf now context record message).map Prod.fst ↔
      (name ∈ commonNames ∨ record.logger.contains '.' = true ∧ name = "component" ∨
        record.raised.isSome = true ∧ name = "exception") ∨
      isShown name = true ∧ name ∈ record.extra.map Prod.fst := by
  rw [← mem_names_base now context message]
  constructor
  · intro member
    obtain ⟨field, there, rfl⟩ := List.mem_map.mp member
    rcases (mem_addExtra nodup_base unique).mp there with ⟨given, further, shown, rfl⟩ | ⟨old, -⟩
    · exact .inr ⟨shown, List.mem_map.mpr ⟨given, further, rfl⟩⟩
    · exact .inl (List.mem_map_of_mem old)
  · intro named
    by_cases replaced : ∃ given ∈ record.extra, isShown given.1 = true ∧ given.1 = name
    · obtain ⟨given, member, shown, rfl⟩ := replaced
      exact List.mem_map.mpr ⟨_, (mem_addExtra nodup_base unique).mpr (.inl ⟨given, member, shown, rfl⟩), rfl⟩
    · rcases named with old | ⟨shown, further⟩
      · obtain ⟨field, member, rfl⟩ := List.mem_map.mp old
        refine List.mem_map_of_mem ((mem_addExtra nodup_base unique).mpr (.inr ⟨member, ?_⟩))
        exact fun given there shown same => replaced ⟨given, there, shown, same.symm⟩
      · obtain ⟨given, member, rfl⟩ := List.mem_map.mp further
        exact absurd ⟨given, member, shown, rfl⟩ replaced

theorem document_eq (formatted : record.message = .ok message) :
    record.document now context = (plainFields (fieldsOf now context record message)).map
      fun plain => Json.write .compact (.object plain) := by
  rw [Record.document, Document.fields, formatted]
  change (plainFields (fieldsOf now context record message) >>= fun plain =>
    pure (Json.write .compact (.object plain))) = _
  cases plainFields (fieldsOf now context record message) <;> rfl

theorem exists_document_iff (formatted : record.message = .ok message)
    (unique : (record.extra.map Prod.fst).Nodup) :
    (∃ document, record.document now context = .ok document) ↔
      ∀ field ∈ record.extra, isShown field.1 = true → isSecret field.1 = false → field.2.HasWords := by
  have written : (∃ document, record.document now context = .ok document) ↔
      ∃ plains, plainItems ((fieldsOf now context record message).map Prod.snd) = .ok plains := by
    rw [document_eq formatted, plainFields_eq]
    cases plainItems ((fieldsOf now context record message).map Prod.snd) with
    | error fault => exact iff_of_false nofun nofun
    | ok plains => exact iff_of_true ⟨_, rfl⟩ ⟨plains, rfl⟩
  rw [written, plainItems_isOk_iff]
  simp only [plain_isOk_iff_hasWords]
  rw [forall_mem_fieldsOf unique Value.hasWords_text]
  simp only [hasWords_disclosed]

theorem eq_numberTooLarge_of_document {fault : DocumentFault} (formatted : record.message = .ok message)
    (failed : record.document now context = .error fault) : fault = .numberTooLarge := by
  rw [document_eq formatted] at failed
  cases done : plainFields (fieldsOf now context record message) with
  | error other =>
    rw [done] at failed
    cases failed
    obtain ⟨item, -, same⟩ := plainItems_eq_error (plainFields_eq_error done)
    exact eq_numberTooLarge_of_plain item same
  | ok others =>
    rw [done] at failed
    contradiction

theorem read?_of_document {document : String} (formatted : record.message = .ok message)
    (unique : (record.extra.map Prod.fst).Nodup)
    (shallow : ∀ field ∈ record.extra, field.2.depth < 100)
    (doubles : ∀ field ∈ record.extra, field.2.HasDoubles)
    (done : record.document now context = .ok document) :
    ∃ fields, Json.read? .bounded document.toList = some (.object fields) ∧
      fields.map Prod.fst = (fieldsOf now context record message).map Prod.fst := by
  have fitting : ∀ value ∈ (fieldsOf now context record message).map Prod.snd, value.HasDoubles :=
    (forall_mem_fieldsOf unique Value.hasDoubles_text).mpr fun field member _ =>
      hasDoubles_disclosed (doubles field member)
  have bounded : ∀ value ∈ (fieldsOf now context record message).map Prod.snd,
      value.depth ≤ 1023 := by
    refine (forall_mem_fieldsOf unique fun _ => Nat.zero_le _).mpr fun field member _ => ?_
    have less := shallow field member
    exact Nat.le_trans depth_disclosed (by omega)
  rw [document_eq formatted] at done
  cases made : plainFields (fieldsOf now context record message) with
  | error fault =>
    rw [made] at done
    contradiction
  | ok others =>
    rw [made] at done
    cases done
    exact read?_of_plainFields made (nodup_addExtra nodup_base) fitting bounded

/-- A record whose message is well-formed has a document exactly if no value that it shows holds a whole
number beyond 64 bits. The document is one object with the fields of every record and all further values
that are shown, each once. -/
theorem document_is_one_object (now : String) (context : Context) (record : Record) {message : String}
    (formatted : record.message = .ok message) (unique : (record.extra.map Prod.fst).Nodup)
    (shallow : ∀ field ∈ record.extra, field.2.depth < 100)
    (doubles : ∀ field ∈ record.extra, field.2.HasDoubles) :
    ((∃ document, record.document now context = .ok document) ↔
      ∀ field ∈ record.extra, isShown field.1 = true → isSecret field.1 = false → field.2.HasWords) ∧
    (∀ fault, record.document now context = .error fault → fault = .numberTooLarge) ∧
    ∀ document, record.document now context = .ok document →
      ∃ fields, Json.read? .bounded document.toList = some (.object fields) ∧
        (fields.map Prod.fst).Nodup ∧
        ∀ name, name ∈ fields.map Prod.fst ↔
          (name ∈ commonNames ∨ record.logger.contains '.' = true ∧ name = "component" ∨
            record.raised.isSome = true ∧ name = "exception") ∨
          isShown name = true ∧ name ∈ record.extra.map Prod.fst := by
  refine ⟨exists_document_iff formatted unique, fun _ => eq_numberTooLarge_of_document formatted, ?_⟩
  intro document done
  obtain ⟨fields, read, names⟩ := read?_of_document formatted unique shallow doubles done
  refine ⟨fields, read, ?_, ?_⟩
  · rw [names]
    exact nodup_addExtra nodup_base
  · rw [names]
    exact mem_names_fieldsOf now context message unique

/-- A record with values of several kinds, two of which hold whole numbers beyond 64 bits. -/
def mixedRecord : Record where
  logger := "search"
  level := .info
  template := "found %d cards"
  arguments := [.int 3]
  extra := [("ratio", .float .one), ("tags", .set [.text "b", .int 1]),
    ("token", .int (2 ^ 64)), ("_inner", .int (2 ^ 64)), ("rows", .list [.tuple [.null, .bytes [255]]])]

/-- Numbers that are hidden or not shown do not keep a record from having a document. -/
theorem hidden_numbers_are_harmless :
    mixedRecord.message = .ok "found 3 cards" ∧
      (mixedRecord.extra.map Prod.fst).Nodup ∧
      (∀ field ∈ mixedRecord.extra, field.2.depth < 100) ∧
      (∀ field ∈ mixedRecord.extra, field.2.HasDoubles) ∧
      ∃ document fields,
        mixedRecord.document "now" ⟨some "t", some "s", []⟩ = .ok document ∧
        Json.read? .bounded document.toList = some (.object fields) ∧
        "rows" ∈ fields.map Prod.fst ∧ "_inner" ∉ fields.map Prod.fst := by
  have formatted : mixedRecord.message = .ok "found 3 cards" := by decide +kernel
  have unique : (mixedRecord.extra.map Prod.fst).Nodup := by decide
  have shallow : ∀ field ∈ mixedRecord.extra, field.2.depth < 100 := by decide
  have doubles : ∀ field ∈ mixedRecord.extra, field.2.HasDoubles := by decide +kernel
  have words : ∀ field ∈ mixedRecord.extra, isShown field.1 = true →
      isSecret field.1 = false → field.2.HasWords := by decide +kernel
  refine ⟨formatted, unique, shallow, doubles, ?_⟩
  obtain ⟨written, -, read⟩ :=
    document_is_one_object "now" ⟨some "t", some "s", []⟩ _ formatted unique shallow doubles
  obtain ⟨document, done⟩ := written.mpr words
  obtain ⟨fields, whole, -, names⟩ := read document done
  refine ⟨document, fields, done, whole, (names "rows").mpr (.inr ⟨by decide +kernel, by decide⟩), ?_⟩
  rw [names]
  rintro ((common | ⟨-, other⟩ | ⟨none, -⟩) | ⟨shown, -⟩)
  · exact absurd common (by decide)
  · exact absurd other (by decide)
  · exact absurd none (by decide)
  · exact absurd shown (by decide +kernel)

def numberRecord (n : Int) : Record where
  logger := "a"
  level := .info
  template := "m"
  extra := [("n", .int n)]

/-- A shown number beyond 64 bits keeps a record with a message from having a document. -/
theorem shown_number_is_too_large :
    (numberRecord (2 ^ 64)).message = .ok "m" ∧
      ¬ ∃ document, (numberRecord (2 ^ 64)).document "now" ⟨some "t", some "s", []⟩ = .ok document := by
  have formatted : (numberRecord (2 ^ 64)).message = .ok "m" := by decide +kernel
  refine ⟨formatted, ?_⟩
  rw [exists_document_iff formatted (by decide)]
  intro words
  have small := words ("n", .int (2 ^ 64)) List.mem_cons_self (by decide +kernel) (by decide +kernel)
  exact absurd small (by decide)

end CardSearch.Log.Document
