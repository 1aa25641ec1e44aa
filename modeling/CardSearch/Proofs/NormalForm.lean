import CardSearch.Proofs.LetterCase
import CardSearch.Proofs.Occurrence
import CardSearch.Search.Corpus
/-!
The normal form of queries and of search texts. Lowering neither makes blanks nor leaves capitals, and
no blank takes part in how a sigma is lowered; so it does not matter whether a text is trimmed or
lowered first, nor whether the parts of a search text are lowered before or after they are joined. Main
statement: queries and search texts in normal form are left alone by every further lowering and
trimming, and a search finds the same for a query and for its normal form.
-/
namespace CardSearch

namespace Text

theorem Tight.lower {text : Text} (tight : Tight text) : Tight (lower text) := by
  constructor
  · intro c first
    by_cases blank : isBlank c = true
    · exact tight.1 c (head?_of_lower blank first)
    · exact Bool.eq_false_iff.mpr blank
  · intro c last
    by_cases blank : isBlank c = true
    · exact tight.2 c (getLast?_of_lower blank last)
    · exact Bool.eq_false_iff.mpr blank

theorem trim_lower (text : Text) : trim (lower text) = lower (trim text) := by
  obtain ⟨front, back, blankFront, blankBack, -, whole⟩ := trim_parts text
  have parts : lower text = front ++ (lower (trim text) ++ back) := by
    conv_lhs => rw [whole]
    rw [lower_blanks_append blankFront, lower_append_blanks blankBack]
  rw [parts, trim_between_blanks blankFront blankBack, (tight_trim text).lower.trim_eq]

end Text

open Text

/-! ### Queries -/

theorem Query.trim_normalize (raw : Text) : trim (normalize raw) = normalize raw :=
  (tight_trim raw).lower.trim_eq

theorem Query.lower_normalize (raw : Text) : lower (normalize raw) = normalize raw :=
  lower_lower (trim raw)

theorem Query.normalize_normalize (raw : Text) : normalize (normalize raw) = normalize raw := by
  rw [normalize, trim_normalize, lower_normalize]

theorem Search.normalized_normalized (raw : Value) :
    normalized (.text (String.ofList (normalized raw))) = normalized raw := by
  rw [normalized, String.toList_ofList]
  cases raw with
  | text raw => exact Query.normalize_normalize raw.toList
  | _ => rfl

theorem Search.search_normalized (mode : Query.WildcardMode) (raw : Value) (entries : List Entry) :
    search mode (.text (String.ofList (normalized raw))) entries = search mode raw entries := by
  rw [search, search, normalized_normalized]

/-! ### Search texts -/

namespace Entry

/-- A text as given; what is absent or of another kind is empty. -/
def givenText : Option Value → Text
  | some (.text text) => text.toList
  | _ => []

/-- The tags as given: a single text, or the texts of a collection joined by spaces. -/
def givenTags : Option Value → Text
  | some (.text tag) => tag.toList
  | some (.list items) | some (.tuple items) | some (.set items) =>
    joinWith [' '] (items.filterMap text?)
  | _ => []

/-- Front, back and joined tags of a member as given. What is neither a card nor has fields has no
parts. -/
def givenParts : Entry → List Text
  | card c =>
    [(c.text.map String.toList).getD [], (c.backText.map String.toList).getD [],
      joinWith [' '] (c.tags.map String.toList)]
  | raw (.object fields) =>
    [givenText (Value.lookup "text" fields), givenText (backOf fields),
      givenTags (Value.lookup "tags" fields)]
  | raw _ => []

private theorem lowered_eq (field : Option Value) : lowered field = lower (givenText field) := by
  cases field with
  | none => rfl
  | some value => cases value <;> rfl

private theorem loweredTags_eq (field : Option Value) :
    loweredTags field = lower (givenTags field) := by
  cases field with
  | none => rfl
  | some value => cases value <;> rfl

theorem searchText_eq (entry : Entry) :
    entry.searchText = trim (joinWith [' '] (entry.givenParts.map lower)) := by
  cases entry with
  | card c =>
    have text : ∀ field : Option String,
        lowered (field.map .text) = lower ((field.map String.toList).getD []) := by
      intro field
      cases field <;> rfl
    have tags : givenTags (some (.tuple (c.tags.map .text))) =
        joinWith [' '] (c.tags.map String.toList) := by
      rw [givenTags, List.filterMap_map]
      exact congrArg _ (congrFun List.filterMap_eq_map' c.tags)
    rw [searchText, text, text, loweredTags_eq, tags]
    rfl
  | raw value =>
    cases value with
    | object fields =>
      rw [searchText, lowered_eq, lowered_eq, loweredTags_eq]
      rfl
    | _ => rfl

theorem searchText_eq_trim_lower (entry : Entry) :
    entry.searchText = trim (lower (joinWith [' '] entry.givenParts)) := by
  rw [searchText_eq, lower_joinWith_space]

theorem searchText_eq_lower_trim (entry : Entry) :
    entry.searchText = lower (trim (joinWith [' '] entry.givenParts)) := by
  rw [searchText_eq_trim_lower, trim_lower]

theorem trim_searchText (entry : Entry) : trim entry.searchText = entry.searchText := by
  rw [searchText_eq, trim_trim]

theorem lower_searchText (entry : Entry) : lower entry.searchText = entry.searchText := by
  rw [searchText_eq_lower_trim, lower_lower]

end Entry

/-! ### Both -/

/-- What is in normal form stays as it is. A normalized query is left alone by a second normalization
and by trimming and lowering alone, and a search text by trimming and lowering; it is made of the
member's parts as given, which may be lowered one by one or together, and before or after they are
trimmed. So a query and its normal form find the same in every corpus. -/
theorem normal_forms_are_kept :
    (∀ raw : Text, Query.normalize (Query.normalize raw) = Query.normalize raw ∧
      trim (Query.normalize raw) = Query.normalize raw ∧
      lower (Query.normalize raw) = Query.normalize raw) ∧
    (∀ entry : Entry, trim entry.searchText = entry.searchText ∧
      lower entry.searchText = entry.searchText ∧
      entry.searchText = trim (joinWith [' '] (entry.givenParts.map lower)) ∧
      entry.searchText = trim (lower (joinWith [' '] entry.givenParts)) ∧
      entry.searchText = lower (trim (joinWith [' '] entry.givenParts))) ∧
    ∀ (mode : Query.WildcardMode) (raw : Value) (entries : List Entry),
      Search.search mode (.text (String.ofList (Search.normalized raw))) entries =
        Search.search mode raw entries := by
  refine ⟨fun raw => ?_, fun entry => ?_, Search.search_normalized⟩
  · exact ⟨Query.normalize_normalize raw, Query.trim_normalize raw, Query.lower_normalize raw⟩
  · exact ⟨entry.trim_searchText, entry.lower_searchText, entry.searchText_eq,
      entry.searchText_eq_trim_lower, entry.searchText_eq_lower_trim⟩

end CardSearch
