import CardSearch.Proofs.Phrases
import CardSearch.Proofs.Snapshots
/-!
Tags in search texts. A tag in normal form stands in the search text of every card that carries it:
blanks around it and the spaces that join it to other tags do not change how its letters are lowered,
and trimming the search text leaves it whole. Main statement: what is found by a tag is also found by
the phrase that the tag makes between quotes.
-/
namespace CardSearch

open Text

/-! ### Searches for a phrase -/

theorem Query.holdsLiterally_phrase {quote : Char} {content : Text}
    (isQuoted : quote = '"' ∨ quote = '\'') (filled : content ≠ []) (unquoted : quote ∉ content)
    (line : '\n' ∉ content) (text : Text) :
    holdsLiterally (quotedWith quote content) text = decide (lower content <:+: lower text) := by
  have answer := congrFun (holds_phrase isQuoted filled unquoted line .literal text) []
  exact Except.ok.inj (congrArg Prod.fst answer)

namespace Search

variable {first second : Query.WildcardMode} {raw : Value}

theorem collect_congr {query : Text}
    (same : ∀ text, Query.holds first query text = Query.holds second query text)
    (found : List Value) (entries : List Entry) :
    collect first query found entries = collect second query found entries := by
  have alike : holds first query = holds second query := by
    funext text
    rw [holds, holds, same]
  induction entries generalizing found with
  | nil => rfl
  | cons entry entries ih =>
    rw [collect, collect, alike]
    simp only [ih]

theorem search_congr (same : ∀ text, Query.holds first (normalized raw) text =
    Query.holds second (normalized raw) text) (entries : List Entry) :
    search first raw entries = search second raw entries := by
  rw [search, search, run, run, collect_congr same]

def phraseFor (content : Text) : Value := .text (String.ofList (Query.quotedWith '"' content))

theorem normalized_phraseFor {content : Text} (lowered : lower content = content) :
    normalized (phraseFor content) = Query.quotedWith '"' content := by
  have tight : Tight (Query.quotedWith '"' content) :=
    tight_enclosed (by decide) (by decide) content
  rw [phraseFor, normalized, String.toList_ofList, Query.normalize, tight.trim_eq,
    Query.lower_quotedWith (by decide), lowered]

/-- In either mode the search for a phrase lists the cards in whose search text its content stands. -/
theorem search_phraseFor {content : Text} (lowered : lower content = content) (filled : content ≠ [])
    (unquoted : '"' ∉ content) (line : '\n' ∉ content) (mode : Query.WildcardMode)
    (cards : List Card) :
    ∃ outcome, (search mode (phraseFor content) (cards.map .card)).2 = .ok outcome ∧
      outcome.Lists cards fun card => content <:+: (Entry.card card).searchText := by
  have query : normalized (phraseFor content) = Query.quotedWith '"' content :=
    normalized_phraseFor lowered
  have literal : ∀ text, Query.holds mode (normalized (phraseFor content)) text =
      Query.holds .literal (normalized (phraseFor content)) text := by
    intro text
    rw [query, Query.holds_phrase (.inl rfl) filled unquoted line,
      Query.holds_phrase (.inl rfl) filled unquoted line]
  have searched : (search mode (phraseFor content) (cards.map .card)).2 =
      .ok ⟨false, idsFound (Query.quotedWith '"' content) cards,
        String.ofList (Query.quotedWith '"' content)⟩ := by
    rw [search_congr literal, search_cards, query]
    rfl
  refine ⟨_, searched, rfl, nodup_idsFound _ _, fun id => ?_⟩
  rw [mem_idsFound]
  refine exists_congr fun card => and_congr_right fun _ => ?_
  rw [Query.holdsLiterally_phrase (.inl rfl) filled unquoted line, lowered, Entry.lower_searchText,
    decide_eq_true_eq, and_comm]

end Search

/-! ### Tags -/

theorem Entry.infix_searchText_of_tag {card : Card} {tag : String} (member : tag ∈ card.tags)
    (filled : Query.normalize tag.toList ≠ []) :
    Query.normalize tag.toList <:+: (Entry.card card).searchText := by
  have inTag : Query.normalize tag.toList <:+: lower tag.toList := by
    rw [Query.normalize, ← trim_lower]
    exact trim_inside _
  have inTags : lower tag.toList <:+: lower (joinWith [' '] (card.tags.map String.toList)) := by
    rw [lower_joinWith_space]
    exact infix_joinWith (List.mem_map_of_mem (List.mem_map_of_mem member))
  have inParts : lower (joinWith [' '] (card.tags.map String.toList)) <:+:
      joinWith [' '] ((Entry.card card).givenParts.map lower) :=
    infix_joinWith (List.mem_map_of_mem (by simp [givenParts]))
  have tight : Tight (Query.normalize tag.toList) := (tight_trim _).lower
  rw [searchText_eq]
  exact tight.infix_trim filled (inTag.trans (inTags.trans inParts))

namespace Service

/-- A filter by tag finds no more than the search for the tag between quotes, whatever else the tag
looks like: it lists the cards that carry the tag, and the search, in either mode, those in whose search
text the tag stands. -/
theorem tag_filter_within_phrase_search {raw : Value} (filled : Search.normalized raw ≠ [])
    (unquoted : '"' ∉ Search.normalized raw) (line : '\n' ∉ Search.normalized raw)
    (settings : Settings) (mode : Query.WildcardMode) (generation latest : Nat) (cards : List Card) :
    ∃ waiting found outcome, (Call.withTag raw).begin generation = .waits waiting ∧
      (waiting.answer settings latest cards).result = .ok (some found) ∧
      (Search.search mode (Search.phraseFor (Search.normalized raw)) (cards.map .card)).2 =
        .ok outcome ∧
      (Call.withTag raw).Finds cards found ∧
      outcome.Lists cards (fun card => Search.normalized raw <:+: (Entry.card card).searchText) ∧
      ∀ id ∈ found.matchingIds, id ∈ outcome.matchingIds := by
  have asks : (Call.withTag raw).asks = true := by simpa [Call.asks] using filled
  have lowered : lower (Search.normalized raw) = Search.normalized raw := by
    cases raw with
    | text raw => exact Query.lower_normalize raw.toList
    | _ => rfl
  have finds : (Call.withTag raw).Finds cards
      ⟨false, idsOf (cards.filter (carries (Search.normalized raw))),
        "tag:" ++ String.ofList (Search.normalized raw)⟩ :=
    lists_filter _ (fun _ => carries_iff) cards
  obtain ⟨outcome, searched, lists⟩ := Search.search_phraseFor lowered filled unquoted line mode cards
  refine ⟨_, _, outcome, Call.begin_of_asks asks generation, rfl, searched, finds, lists, ?_⟩
  intro id member
  obtain ⟨card, there, same, tag, carried, written⟩ := (finds.2.2 id).mp member
  refine (lists.2.2 id).mpr ⟨card, there, same, ?_⟩
  rw [← written] at filled ⊢
  exact Entry.infix_searchText_of_tag carried filled

/-- A card with a tag that ends in a sigma, and one with its letters inside a longer word, where that
sigma is lowered in another way. -/
def roads : List Card :=
  [⟨.number 1, none, none, ["x", "\u2003ΟΔΟΣ\n"], none⟩, ⟨.text "b", some "ΟΔΟΣΗΜΟ", none, [], none⟩]

theorem road_tag_within_phrase_search :
    Search.normalized (.text " Οδος ") ≠ [] ∧ '"' ∉ Search.normalized (.text " Οδος ") ∧
      '\n' ∉ Search.normalized (.text " Οδος ") ∧
      ∃ waiting found outcome, (Call.withTag (.text " Οδος ")).begin 0 = .waits waiting ∧
        (waiting.answer {} 0 roads).result = .ok (some found) ∧
        (Search.search .literal (Search.phraseFor (Search.normalized (.text " Οδος ")))
          (roads.map .card)).2 = .ok outcome ∧
        CardId.number 1 ∈ found.matchingIds ∧ CardId.number 1 ∈ outcome.matchingIds := by
  have filled : Search.normalized (.text " Οδος ") ≠ [] := by decide +kernel
  have unquoted : '"' ∉ Search.normalized (.text " Οδος ") := by decide +kernel
  have line : '\n' ∉ Search.normalized (.text " Οδος ") := by decide +kernel
  obtain ⟨waiting, found, outcome, begun, answered, searched, finds, -, inside⟩ :=
    tag_filter_within_phrase_search filled unquoted line {} .literal 0 0 roads
  have member : CardId.number 1 ∈ found.matchingIds :=
    (finds.2.2 _).mpr ⟨_, List.mem_cons_self .., rfl, "\u2003ΟΔΟΣ\n", by decide, by decide +kernel⟩
  exact ⟨filled, unquoted, line, waiting, found, outcome, begun, answered, searched, member,
    inside _ member⟩

end Service

end CardSearch
