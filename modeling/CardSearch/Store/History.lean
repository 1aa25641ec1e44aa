import CardSearch.Store.Memory
/-!
What is asked of a card store in memory over time, and what it answers. A card that is refused leaves
the store as it is.
-/
namespace CardSearch.CardStore

inductive Request where
  | add (entry : Entry)
  | remove (id : Value)
  | snapshot

inductive Answer where
  | added (result : Except StoreFailure Unit)
  | removed (found : Bool)
  | snapshot (cards : List Card)

def answer (store : CardStore) : Request → Answer
  | .add entry => .added ((store.add entry).map fun _ => ())
  | .remove id => .removed (store.removes id)
  | .snapshot => .snapshot store.cards

def next (store : CardStore) : Request → CardStore
  | .add entry =>
    match store.add entry with
    | .ok later => later
    | .error _ => store
  | .remove id => store.remove id
  | .snapshot => store

def after (store : CardStore) (requests : List Request) : CardStore := requests.foldl next store

def answers (store : CardStore) : List Request → List Answer
  | [] => []
  | request :: requests => store.answer request :: (store.next request).answers requests

@[simp] theorem after_nil (store : CardStore) : store.after [] = store := rfl

@[simp] theorem after_cons (store : CardStore) (request : Request) (requests : List Request) :
    store.after (request :: requests) = (store.next request).after requests :=
  rfl

@[simp] theorem after_append (store : CardStore) (a b : List Request) :
    store.after (a ++ b) = (store.after a).after b :=
  List.foldl_append

theorem answers_append (store : CardStore) (a b : List Request) :
    store.answers (a ++ b) = store.answers a ++ (store.after a).answers b := by
  induction a generalizing store with
  | nil => rfl
  | cons request a ih => rw [List.cons_append, answers, answers, ih, after_cons, List.cons_append]

theorem length_answers (store : CardStore) (requests : List Request) :
    (store.answers requests).length = requests.length := by
  induction requests generalizing store with
  | nil => rfl
  | cons request requests ih => rw [answers, List.length_cons, ih, List.length_cons]

/-- Each request is answered from the store behind those before it. -/
theorem getElem?_answers (store : CardStore) (requests : List Request) (n : Nat) :
    (store.answers requests)[n]? = requests[n]?.map (store.after (requests.take n)).answer := by
  induction requests generalizing store n with
  | nil => rfl
  | cons request requests ih =>
    cases n with
    | zero => rfl
    | succ n => rw [answers, List.getElem?_cons_succ, ih, List.take_succ_cons, after_cons]; rfl

end CardSearch.CardStore
