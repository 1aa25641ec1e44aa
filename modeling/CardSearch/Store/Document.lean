import CardSearch.Json.Reader
import CardSearch.Log.Record
import CardSearch.Store.Error
import CardSearch.Store.Path
/-!
A card store in a JSON document: a list of cards, or an object with a list of cards. Reading is all or
nothing, and the first entry that is no card is blamed. The document is read anew each time.
-/
namespace CardSearch.Store.Document

def cardsFrom (path : String) : (index : Nat) → List Value → Except StoreFailure (List Card)
  | _, [] => .ok []
  | index, .object fields :: entries =>
    match Card.ofFields fields with
    | .ok card => (cardsFrom path (index + 1) entries).map (card :: ·)
    | .error (.invalid invalid) => .error (.store (.invalidEntry index path invalid))
    | .error .infiniteTime => .error .infiniteTime
  | index, _ :: _ => .error (.store (.notObject index path))

def payload : Value → Option Value
  | .object fields => Value.lookup "cards" fields
  | value => some value

def cardsOf (path : String) (document : Value) : Except StoreFailure (List Card) :=
  match payload document with
  | some (.list entries) => cardsFrom path 0 entries
  | _ => .error (.store (.notList path))

def osReason (path : String) : ReadFault → String
  | .missing => "[Errno 2] No such file or directory: " ++ Value.quotedString path
  | .isDirectory => "[Errno 21] Is a directory: " ++ Value.quotedString path
  | .notDirectory => "[Errno 20] Not a directory: " ++ Value.quotedString path
  | .nameTooLong => "[Errno 36] File name too long: " ++ Value.quotedString path
  | .other reason => reason

def isPossible (path : String) : Bool := !path.contains '\x00'

def cardsOfBytes (path : String) : Except ReadFault (List UInt8) → Except StoreFailure (List Card)
  | .error .missing => .error (.store (.fileMissing path))
  | .error fault => .error (.store (.unreadable path (osReason path fault)))
  | .ok bytes =>
    match Json.readBytes? .bounded bytes with
    | none => .error (.store (.notJson path))
    | some document => cardsOf path document

def cardsOfFile (path : String) (content : Except ReadFault (List UInt8)) :
    Except StoreFailure (List Card) :=
  if isPossible path then cardsOfBytes path content else .error .impossiblePath

def read (files : FileTree) (path : String) : Except StoreFailure (List Card) :=
  cardsOfFile path (files.read path)

def loadedRecord (path : String) (count : Nat) : Log.Record :=
  { logger := "card_query.adapters.card_store", level := .debug, template := "Loaded %d cards from %s"
    arguments := [.int count, .path path] }

end CardSearch.Store.Document
