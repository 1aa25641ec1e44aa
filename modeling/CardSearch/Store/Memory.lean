import CardSearch.Card.SearchText
import CardSearch.Store.Error
/-!
A card store in memory: a list of cards, to which cards are added at the end and from which all cards
of an id are removed. A snapshot is a value, so later changes do not reach it.
-/
namespace CardSearch

structure CardStore where
  cards : List Card
deriving Repr, DecidableEq

namespace CardStore

def empty : CardStore := ⟨[]⟩

def cardOf : Entry → Except StoreFailure Card
  | .card card => .ok card
  | .raw value =>
    match Card.ofValue value with
    | .ok card => .ok card
    | .error (.invalid invalid) => .error (.store (.invalidCard invalid))
    | .error .infiniteTime => .error .infiniteTime

def cardsOf : List Entry → Except StoreFailure (List Card)
  | [] => .ok []
  | entry :: entries => do
    let card ← cardOf entry
    return card :: (← cardsOf entries)

def ofEntries (entries : List Entry) : Except StoreFailure CardStore :=
  (cardsOf entries).map CardStore.mk

def add (entry : Entry) (store : CardStore) : Except StoreFailure CardStore :=
  (cardOf entry).map fun card => ⟨store.cards ++ [card]⟩

def remove (id : Value) (store : CardStore) : CardStore :=
  ⟨store.cards.filter fun card => !card.id.toValue.same id⟩

def removes (id : Value) (store : CardStore) : Bool :=
  store.cards.any fun card => card.id.toValue.same id

end CardStore

end CardSearch
