import CardSearch.Json.Printer
import CardSearch.Proofs.JsonStrings
import CardSearch.Proofs.WrittenNumbers
import Mathlib.Data.List.Basic
/-!
Documents that are read back. A document of a value is read wherever it stands, in a list, in an
object or alone. Main statements: the documents of truth values, numbers, texts, lists and objects are
read as these values, with the fields of an object in the order in which they were written.
-/
namespace CardSearch.Json

variable {reading : Reading} {writing : Writing} {text rest document : Text} {value : Value} {depth : Nat}

/-- A text that begins with a character that is neither blank nor the end of a list or an object. -/
def Begins (document : Text) : Prop := ∃ c ∈ document.head?, isSpace c = false ∧ c ≠ ']' ∧ c ≠ '}'

/-- A document of a value: it is read wherever it stands. -/
structure ReadBack (reading : Reading) (depth : Nat) (document : Text) (value : Value) : Prop where
  begins : Begins document
  reads : ∀ {length : Nat} {rest : Text}, document.length ≤ length → Follows rest →
    value? reading length depth (document ++ rest) = some (value, rest)

/-- Commas and colons are set off by nothing but blanks. -/
structure Writing.IsSpaced (writing : Writing) : Prop where
  comma : ∃ blanks : Text, writing.comma.toList = ',' :: blanks ∧ ∀ c ∈ blanks, isSpace c = true
  colon : ∃ blanks : Text, writing.colon.toList = ':' :: blanks ∧ ∀ c ∈ blanks, isSpace c = true

theorem isSpaced_terminal : Writing.terminal.IsSpaced :=
  ⟨⟨[' '], rfl, by decide⟩, ⟨[' '], rfl, by decide⟩⟩

theorem isSpaced_compact : Writing.compact.IsSpaced := ⟨⟨[], rfl, by decide⟩, ⟨[], rfl, by decide⟩⟩

/-! ### Truth values and texts -/

theorem readBack_null : ReadBack reading depth "null".toList .null :=
  ⟨⟨'n', rfl, by decide, by decide, by decide⟩, fun _ _ => by simp [value?]⟩

theorem readBack_bool (truth : Bool) :
    ReadBack reading depth (write writing (.bool truth)).toList (.bool truth) := by
  cases truth with
  | true =>
    rw [write, if_pos rfl]
    exact ⟨⟨'t', rfl, by decide, by decide, by decide⟩, fun _ _ => by simp [value?]⟩
  | false =>
    rw [write, if_neg (by decide)]
    exact ⟨⟨'f', rfl, by decide, by decide, by decide⟩, fun _ _ => by simp [value?]⟩

theorem toList_writeString (writing : Writing) (content : String) :
    (writeString writing content).toList =
      '"' :: (content.toList.flatMap (escapeChar writing.asciiOnly) ++ ['"']) := by
  rw [writeString, String.toList_ofList]
  rfl

theorem readBack_text (content : String) :
    ReadBack reading depth (write writing (.text content)).toList (.text content) := by
  rw [write, toList_writeString]
  refine ⟨⟨'"', rfl, by decide, by decide, by decide⟩, fun _ _ => ?_⟩
  rw [List.cons_append, List.append_assoc, List.singleton_append, value?, content?_written]
  simp only [Option.map_some, String.ofList_toList]

/-! ### Numbers -/

theorem solid_of_isDigit {c : Char} (digit : c.isDigit = true) :
    isSpace c = false ∧ c ≠ ']' ∧ c ≠ '}' := by
  refine ⟨?_, ?_, ?_⟩
  · rw [Bool.eq_false_iff, isSpace]
    intro blank
    simp only [Bool.or_eq_true, beq_iff_eq, or_assoc] at blank
    rcases blank with rfl | rfl | rfl | rfl <;> exact absurd digit (by decide)
  · rintro rfl
    exact absurd digit (by decide)
  · rintro rfl
    exact absurd digit (by decide)

theorem value?_of_number {length : Nat} {c : Char} (number : c.isDigit = true ∨ c = '-') :
    value? reading length depth (c :: rest) = number? reading (c :: rest) := by
  have other : ∀ d ∈ ['n', 't', 'f', '"', '[', '{'], c ≠ d := by
    rintro d member rfl
    rcases number with digit | rfl
    · have each : ∀ d ∈ ['n', 't', 'f', '"', '[', '{'], d.isDigit = false := by decide
      exact absurd digit (by rw [each c member]; decide)
    · exact absurd member (by decide)
  rw [value?]
  · exact fun _ same => other 'n' (by decide) (List.cons.inj same).1
  · exact fun _ same => other 't' (by decide) (List.cons.inj same).1
  · exact fun _ same => other 'f' (by decide) (List.cons.inj same).1
  · exact fun _ same => other '"' (by decide) (List.cons.inj same).1
  · exact fun _ same => other '[' (by decide) (List.cons.inj same).1
  · exact fun _ same => other '{' (by decide) (List.cons.inj same).1

theorem readBack_numeral {numeral : Numeral} {negative : Bool}
    (read : numeral.read? reading negative = some value) :
    ReadBack reading depth ((if negative then ['-'] else []) ++ numeral.text) value := by
  obtain ⟨c, head, number⟩ := numeral.head?_signed negative
  obtain ⟨tail, parts⟩ := List.head?_eq_some_iff.mp head
  refine ⟨⟨c, head, ?_⟩, fun {length rest} _ follows => ?_⟩
  · rcases number with digit | rfl
    · exact solid_of_isDigit digit
    · decide
  · have found := numeral.number?_text reading negative follows
    rw [← List.append_assoc, read] at found
    rw [parts, List.cons_append] at found ⊢
    rw [value?_of_number number]
    exact found

theorem readBack_int {n : Int} (kept : whole? reading n = some (.int n)) :
    ReadBack reading depth (write writing (.int n)).toList (.int n) := by
  rw [write, toList_toString_int]
  exact readBack_numeral ((read?_ofNat reading n).trans kept)

theorem readBack_float {negative : Bool} {mantissa : Nat} {exponent : Int}
    {reduced : Number.IsReduced mantissa exponent} (range : Number.Binary64.InRange mantissa exponent) :
    ReadBack reading depth
      (write writing (.float (.finite negative mantissa exponent reduced))).toList
      (.float (.finite negative mantissa exponent reduced)) := by
  obtain ⟨numeral, text, read⟩ := exists_numeral reduced range
  rw [write, String.toList_ofList, text]
  exact readBack_numeral (read reading)

/-! ### Lists -/

theorem Begins.skipSpaces_append (begins : Begins document) :
    skipSpaces (document ++ rest) = document ++ rest := by
  obtain ⟨c, head, solid, -⟩ := begins
  obtain ⟨tail, rfl⟩ := List.head?_eq_some_iff.mp head
  rw [skipSpaces, List.cons_append, List.dropWhile_cons, solid]
  rfl

theorem Begins.length_pos (begins : Begins document) : 0 < document.length := by
  obtain ⟨c, head, -⟩ := begins
  obtain ⟨tail, rfl⟩ := List.head?_eq_some_iff.mp head
  exact Nat.succ_pos _

theorem begins_intercalate (gap : Text) {documents : List Text} (some : documents ≠ [])
    (begins : ∀ document ∈ documents, Begins document) : Begins (gap.intercalate documents) := by
  obtain ⟨first, documents, rfl⟩ := List.exists_cons_of_ne_nil some
  obtain ⟨c, head, solid⟩ := begins first List.mem_cons_self
  obtain ⟨tail, rfl⟩ := List.head?_eq_some_iff.mp head
  refine ⟨c, ?_, solid⟩
  cases documents with
  | nil => rfl
  | cons next documents =>
    rw [List.intercalate_cons_cons, List.cons_append]
    rfl

theorem length_le_intercalate (gap : Text) {documents : List Text}
    (begins : ∀ document ∈ documents, Begins document) :
    documents.length ≤ (gap.intercalate documents).length ∧
      ∀ document ∈ documents, document.length ≤ (gap.intercalate documents).length := by
  induction documents with
  | nil => simp
  | cons first documents ih =>
    rw [List.forall_mem_cons] at begins
    have some := begins.1.length_pos
    obtain ⟨count, each⟩ := ih begins.2
    cases documents with
    | nil =>
      rw [List.intercalate_singleton]
      exact ⟨some, by simp⟩
    | cons next documents =>
      have size : (gap.intercalate (first :: next :: documents)).length =
          first.length + gap.length + (gap.intercalate (next :: documents)).length := by
        rw [List.intercalate_cons_cons, List.length_append, List.length_append]
      rw [size, List.length_cons, List.forall_mem_cons]
      refine ⟨by omega, by omega, fun document member => ?_⟩
      have bound := each document member
      omega

theorem fits_of_room {gap : Text} {documents : List Text} {opening closing : Char} {length : Nat}
    (begins : ∀ document ∈ documents, Begins document)
    (room : (opening :: (gap.intercalate documents ++ [closing])).length ≤ length) :
    documents.length ≤ length ∧ ∀ document ∈ documents, document.length ≤ length := by
  obtain ⟨count, each⟩ := length_le_intercalate gap begins
  rw [List.length_cons, List.length_append] at room
  refine ⟨by omega, fun document member => ?_⟩
  have bound := each document member
  omega

/-- What begins like a value does not close the list or the object that it stands in. -/
theorem Begins.exists_cons (begins : Begins document) (later : Text) :
    ∃ c tail, skipSpaces (document ++ later) = c :: tail ∧ document ++ later = c :: tail ∧ c ≠ ']' ∧
      c ≠ '}' := by
  rw [begins.skipSpaces_append]
  obtain ⟨c, head, -, apart⟩ := begins
  obtain ⟨tail, rfl⟩ := List.head?_eq_some_iff.mp head
  exact ⟨c, tail ++ later, rfl, rfl, apart⟩

theorem skipSpaces_append {blanks : Text} (blank : ∀ c ∈ blanks, isSpace c = true) :
    skipSpaces (blanks ++ text) = skipSpaces text := List.dropWhile_append_of_pos blank

theorem items?_skipSpaces {item : Text → Option (Value × Text)} {fuel : Nat} {other : Text}
    (same : skipSpaces other = skipSpaces text) : items? item fuel other = items? item fuel text := by
  cases fuel with
  | zero => rfl
  | succ fuel => rw [items?, items?, same]

theorem fields?_skipSpaces {item : Text → Option (Value × Text)} {fuel : Nat} {other : Text}
    (same : skipSpaces other = skipSpaces text) : fields? item fuel other = fields? item fuel text := by
  cases fuel with
  | zero => rfl
  | succ fuel => rw [fields?, fields?, same]

section

variable (spaced : writing.IsSpaced)
include spaced

theorem items?_intercalate {entries : List (Text × Value)} {length fuel : Nat}
    (reads : ∀ entry ∈ entries, ReadBack reading depth entry.1 entry.2) (some : entries ≠ [])
    (enough : entries.length ≤ fuel) (room : ∀ entry ∈ entries, entry.1.length ≤ length) :
    items? (value? reading length depth) fuel
      (writing.comma.toList.intercalate (entries.map Prod.fst) ++ ']' :: rest) =
      Option.some (entries.map Prod.snd, rest) := by
  obtain ⟨blanks, comma, blank⟩ := spaced.comma
  rw [comma]
  induction entries generalizing fuel with
  | nil => contradiction
  | cons entry entries ih =>
    obtain ⟨fuel, rfl⟩ := Nat.exists_eq_add_of_le' (Nat.le_trans (Nat.le_add_left 1 _) enough)
    rw [List.forall_mem_cons] at reads room
    obtain ⟨document, value⟩ := entry
    have first : ∀ {rest}, Follows rest →
        value? reading length depth (skipSpaces (document ++ rest)) = Option.some (value, rest) := by
      intro rest follows
      rw [reads.1.begins.skipSpaces_append]
      exact reads.1.reads room.1 follows
    rw [items?, List.map_cons, List.map_cons]
    by_cases last : entries = []
    · subst last
      rw [List.map_nil, List.intercalate_singleton, first (by simp [Follows])]
      rfl
    · have more : entries.map Prod.fst ≠ [] := by simpa using last
      have later := ih reads.2 last (Nat.le_of_succ_le_succ enough) room.2
      rw [← items?_skipSpaces (skipSpaces_append blank)] at later
      have step : ∀ text, skipSpaces (',' :: text) = ',' :: text := fun _ => rfl
      rw [List.intercalate_cons_of_ne_nil more, List.append_assoc, List.append_assoc, List.cons_append,
        first (by simp [Follows])]
      simp only [Option.bind_eq_bind, Option.bind_some, step, later]
      rfl

theorem readBack_list {entries : List (Text × Value)}
    (reads : ∀ entry ∈ entries, ReadBack reading depth entry.1 entry.2) :
    ReadBack reading (depth + 1)
      ('[' :: (writing.comma.toList.intercalate (entries.map Prod.fst) ++ [']']))
      (.list (entries.map Prod.snd)) := by
  refine ⟨⟨'[', rfl, by decide, by decide, by decide⟩, fun {length rest} room _ => ?_⟩
  rw [List.cons_append, List.append_assoc, List.singleton_append, value?]
  by_cases none : entries = []
  · subst none
    rfl
  · have more : entries.map Prod.fst ≠ [] := by simpa using none
    have each : ∀ document ∈ entries.map Prod.fst, Begins document :=
      List.forall_mem_map.mpr fun entry member => (reads entry member).begins
    obtain ⟨count, fit⟩ := fits_of_room each room
    rw [List.length_map] at count
    have read : items? (value? reading length depth) length _ = some (_, rest) :=
      items?_intercalate spaced reads none count (List.forall_mem_map.mp fit)
    obtain ⟨c, tail, skipped, parts, other, -⟩ :=
      (begins_intercalate writing.comma.toList more each).exists_cons (']' :: rest)
    rw [skipped]
    rw [parts] at read
    split
    · rename_i same
      exact absurd (List.cons.inj same).1 other
    · rw [read]
      rfl

end

/-! ### Objects -/

def fieldText (writing : Writing) (name : String) (document : Text) : Text :=
  (writeString writing name).toList ++ (writing.colon.toList ++ document)

theorem begins_fieldText {name : String} : Begins (fieldText writing name document) := by
  rw [fieldText, toList_writeString]
  exact ⟨'"', rfl, by decide, by decide, by decide⟩

theorem assign_of_new {name : String} {kept : List (String × Value)} (new : name ∉ kept.map Prod.fst) :
    Value.assign name value kept = kept ++ [(name, value)] := by
  induction kept with
  | nil => rfl
  | cons field kept ih =>
    rw [List.map_cons, List.mem_cons, not_or] at new
    rw [Value.assign, if_neg (Ne.symm new.1), ih new.2]
    rfl

theorem distinct_of_nodup {fields : List (String × Value)} (nodup : (fields.map Prod.fst).Nodup) :
    distinct fields = fields := by
  have run : ∀ kept : List (String × Value), ((kept ++ fields).map Prod.fst).Nodup →
      fields.foldl (fun kept field => Value.assign field.1 field.2 kept) kept = kept ++ fields := by
    clear nodup
    induction fields with
    | nil => simp
    | cons field fields ih =>
      intro kept nodup
      have new : field.1 ∉ kept.map Prod.fst := by
        rw [List.map_append, List.map_cons, List.nodup_append] at nodup
        exact fun old => nodup.2.2 field.1 old field.1 List.mem_cons_self rfl
      rw [List.foldl_cons, assign_of_new new, ih, List.append_assoc, List.singleton_append]
      rwa [List.append_assoc, List.singleton_append]
  exact run [] nodup

section

variable (spaced : writing.IsSpaced)
include spaced

theorem fields?_intercalate {entries : List (String × Text × Value)} {length fuel : Nat}
    (reads : ∀ entry ∈ entries, ReadBack reading depth entry.2.1 entry.2.2) (some : entries ≠ [])
    (enough : entries.length ≤ fuel) (room : ∀ entry ∈ entries, entry.2.1.length ≤ length) :
    fields? (value? reading length depth) fuel
      (writing.comma.toList.intercalate (entries.map fun entry => fieldText writing entry.1 entry.2.1) ++
        '}' :: rest) =
      Option.some (entries.map fun entry => (entry.1, entry.2.2), rest) := by
  obtain ⟨blanks, comma, blank⟩ := spaced.comma
  obtain ⟨others, colon, other⟩ := spaced.colon
  rw [comma]
  induction entries generalizing fuel with
  | nil => contradiction
  | cons entry entries ih =>
    obtain ⟨fuel, rfl⟩ := Nat.exists_eq_add_of_le' (Nat.le_trans (Nat.le_add_left 1 _) enough)
    rw [List.forall_mem_cons] at reads room
    obtain ⟨name, document, value⟩ := entry
    have first : ∀ {rest}, Follows rest →
        value? reading length depth (skipSpaces (others ++ (document ++ rest))) =
          Option.some (value, rest) := by
      intro rest follows
      rw [skipSpaces_append other, reads.1.begins.skipSpaces_append]
      exact reads.1.reads room.1 follows
    have named : ∀ rest, fieldText writing name document ++ rest =
        '"' :: (name.toList.flatMap (escapeChar writing.asciiOnly) ++
          '"' :: ':' :: (others ++ (document ++ rest))) := by
      intro rest
      rw [fieldText, toList_writeString, colon]
      simp only [List.cons_append, List.append_assoc, List.nil_append]
    have solid : ∀ c ∈ ['"', ':', ','], ∀ rest, skipSpaces (c :: rest) = c :: rest := by
      simp [skipSpaces, isSpace]
    rw [fields?, List.map_cons, List.map_cons]
    by_cases last : entries = []
    · subst last
      have closed : Follows ('}' :: rest) := by simp [Follows]
      rw [List.map_nil, List.intercalate_singleton, named, solid '"' (by simp)]
      simp only [Option.bind_eq_bind, content?_written, Option.bind_some, solid ':' (by simp),
        first closed, String.ofList_toList]
      rfl
    · have more : (entries.map fun entry => fieldText writing entry.1 entry.2.1) ≠ [] := by
        simpa using last
      have later := ih reads.2 last (Nat.le_of_succ_le_succ enough) room.2
      rw [← fields?_skipSpaces (skipSpaces_append blank)] at later
      have comma : ∀ rest, Follows (',' :: rest) := fun _ => by simp [Follows]
      rw [List.intercalate_cons_of_ne_nil more, List.append_assoc, List.append_assoc, List.cons_append,
        named, solid '"' (by simp)]
      simp only [Option.bind_eq_bind, content?_written, Option.bind_some, solid ':' (by simp),
        first (comma _), solid ',' (by simp), later, String.ofList_toList]
      rfl

/-- The document of an object. A repeated field is read as one. -/
theorem readBack_object {entries : List (String × Text × Value)}
    (reads : ∀ entry ∈ entries, ReadBack reading depth entry.2.1 entry.2.2) :
    ReadBack reading (depth + 1)
      ('{' :: (writing.comma.toList.intercalate
        (entries.map fun entry => fieldText writing entry.1 entry.2.1) ++ ['}']))
      (.object (distinct (entries.map fun entry => (entry.1, entry.2.2)))) := by
  refine ⟨⟨'{', rfl, by decide, by decide, by decide⟩, fun {length rest} room _ => ?_⟩
  rw [List.cons_append, List.append_assoc, List.singleton_append, value?]
  by_cases none : entries = []
  · subst none
    rfl
  · have more : (entries.map fun entry => fieldText writing entry.1 entry.2.1) ≠ [] := by
      simpa using none
    have each : ∀ document ∈ entries.map fun entry => fieldText writing entry.1 entry.2.1,
        Begins document := List.forall_mem_map.mpr fun entry _ => begins_fieldText
    obtain ⟨count, fit⟩ := fits_of_room each room
    rw [List.length_map] at count
    have short : ∀ entry ∈ entries, entry.2.1.length ≤ length := by
      intro entry member
      have bound := List.forall_mem_map.mp fit entry member
      rw [fieldText, List.length_append, List.length_append] at bound
      omega
    have read : fields? (value? reading length depth) length _ = some (_, rest) :=
      fields?_intercalate spaced reads none count short
    obtain ⟨c, tail, skipped, parts, -, other⟩ :=
      (begins_intercalate writing.comma.toList more each).exists_cons ('}' :: rest)
    rw [skipped]
    rw [parts] at read
    split
    · rename_i same
      exact absurd (List.cons.inj same).1 other
    · rw [read]
      rfl

end

/-! ### Written documents -/

theorem writeItems_eq (items : List Value) : writeItems writing items = items.map (write writing) := by
  induction items with
  | nil => rfl
  | cons item items ih => rw [writeItems, ih, List.map_cons]

theorem writeValues_eq (fields : List (String × Value)) :
    writeValues writing fields = fields.map fun field => (field.1, write writing field.2) := by
  induction fields with
  | nil => rfl
  | cons field fields ih => rw [writeValues, ih, List.map_cons]

def Writing.order {α : Type} (writing : Writing) (fields : List (String × α)) : List (String × α) :=
  if writing.sortedFields then fields.mergeSort fun a b => a.1 ≤ b.1 else fields

theorem Writing.perm_order {α : Type} (fields : List (String × α)) :
    (writing.order fields).Perm fields := by
  rw [order]
  split
  · exact List.mergeSort_perm ..
  · exact .refl fields

theorem Writing.map_order {α β : Type} (f : α → β) (fields : List (String × α)) :
    ((writing.order fields).map fun field => (field.1, f field.2)) =
      writing.order (fields.map fun field => (field.1, f field.2)) := by
  rw [order, order]
  split
  · exact List.map_mergeSort fun _ _ _ _ => rfl
  · rfl

theorem toList_writeFields (fields : List (String × String)) :
    (writeFields writing fields).toList =
      '{' :: (writing.comma.toList.intercalate ((writing.order fields).map fun field =>
        fieldText writing field.1 field.2.toList) ++ ['}']) := by
  have one : ∀ name document : String, (writeString writing name ++ writing.colon ++ document).toList =
      fieldText writing name document.toList := by
    intro name document
    rw [String.toList_append, String.toList_append, fieldText, List.append_assoc]
  rw [writeFields, String.toList_append, String.toList_append, String.toList_intercalate, List.map_map]
  simp only [Function.comp_def, one]
  rfl

section

variable (spaced : writing.IsSpaced) {f : Value → Value}
include spaced

theorem readBack_writtenList {items : List Value}
    (reads : ∀ item ∈ items, ReadBack reading depth (write writing item).toList (f item)) :
    ReadBack reading (depth + 1) (write writing (.list items)).toList (.list (items.map f)) := by
  let entries := items.map fun item => ((write writing item).toList, f item)
  have documents : entries.map Prod.fst = (writeItems writing items).map String.toList := by
    rw [writeItems_eq, List.map_map, List.map_map]
    rfl
  have values : entries.map Prod.snd = items.map f := by
    rw [List.map_map]
    rfl
  have text : (write writing (.list items)).toList =
      '[' :: (writing.comma.toList.intercalate (entries.map Prod.fst) ++ [']']) := by
    rw [write, String.toList_append, String.toList_append, String.toList_intercalate, documents]
    rfl
  have read : ReadBack reading (depth + 1) _ (.list (entries.map Prod.snd)) :=
    readBack_list spaced (List.forall_mem_map.mpr reads)
  rwa [values, ← text] at read

/-- An object is read as the object of what its fields are read as, in the order of the document. -/
theorem readBack_writtenObject {fields : List (String × Value)}
    (reads : ∀ field ∈ fields, ReadBack reading depth (write writing field.2).toList (f field.2)) :
    ReadBack reading (depth + 1) (write writing (.object fields)).toList
      (.object (distinct ((writing.order fields).map fun field => (field.1, f field.2)))) := by
  let entries := (writing.order fields).map fun field =>
    (field.1, (write writing field.2).toList, f field.2)
  have values : (entries.map fun entry => (entry.1, entry.2.2)) =
      (writing.order fields).map fun field => (field.1, f field.2) := by
    rw [List.map_map]
    rfl
  have text : (write writing (.object fields)).toList =
      '{' :: (writing.comma.toList.intercalate
        (entries.map fun entry => fieldText writing entry.1 entry.2.1) ++ ['}']) := by
    rw [write, toList_writeFields, writeValues_eq, ← Writing.map_order, List.map_map, List.map_map]
    rfl
  have read : ReadBack reading (depth + 1) _
      (.object (distinct (entries.map fun entry => (entry.1, entry.2.2)))) :=
    readBack_object spaced (List.forall_mem_map.mpr fun field member =>
      reads field ((Writing.perm_order fields).mem_iff.mp member))
  rwa [values, ← text] at read

theorem readBack_writtenObject_of_nodup {fields : List (String × Value)}
    (reads : ∀ field ∈ fields, ReadBack reading depth (write writing field.2).toList (f field.2))
    (nodup : (fields.map Prod.fst).Nodup) :
    ReadBack reading (depth + 1) (write writing (.object fields)).toList
      (.object ((writing.order fields).map fun field => (field.1, f field.2))) := by
  have names : (((writing.order fields).map fun field => (field.1, f field.2)).map Prod.fst).Nodup := by
    rw [List.map_map]
    exact ((Writing.perm_order fields).map Prod.fst).nodup_iff.mpr nodup
  have read := readBack_writtenObject spaced reads
  rwa [distinct_of_nodup names] at read

end

/-! ### Whole documents -/

theorem read?_of_readBack (reads : ReadBack reading reading.maxDepth document value) (follows : Follows rest)
    (blank : ∀ c ∈ rest, isSpace c = true) : read? reading (document ++ rest) = some value := by
  have none : skipSpaces rest = [] := by
    rw [← List.append_nil rest, skipSpaces_append blank]
    rfl
  rw [read?, reads.begins.skipSpaces_append]
  simp only [reads.reads (show document.length ≤ (document ++ rest).length by simp) follows,
    Option.bind_eq_bind, Option.bind_some, none]
  rfl

theorem read?_document (reads : ReadBack reading reading.maxDepth document value) :
    read? reading document = some value := by
  have alone := read?_of_readBack reads (show Follows [] by simp [Follows]) nofun
  rwa [List.append_nil] at alone

theorem read?_line (reads : ReadBack reading reading.maxDepth document value) :
    read? reading (document ++ ['\n']) = some value :=
  read?_of_readBack reads (by simp [Follows]) (by decide)

end CardSearch.Json
