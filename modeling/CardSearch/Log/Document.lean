import CardSearch.Json.Printer
import CardSearch.Log.Context
import CardSearch.Log.Record
import CardSearch.Number.Word
import CardSearch.Text.LetterCase
import CardSearch.Text.Utf8
/-!
Log records as JSON documents: the fields every record has, then the further values of the record. A
further value replaces a field of its name; values of secret names are hidden, long texts are cut, and
values that JSON lacks are written as lists or texts. Of an error its kind and text are written, and the
calls that led to it are left out.
-/
namespace CardSearch.Log

inductive DocumentFault where
  | template (fault : TemplateFault)
  | numberTooLarge
deriving Repr, DecidableEq

def DocumentFault.message : DocumentFault → String
  | template fault => fault.message
  | numberTooLarge => "Integer exceeds 64-bit range"

def DocumentFault.kind : DocumentFault → String
  | template fault => fault.kind
  | numberTooLarge => "TypeError"

namespace Document

/-- Names of values that belong to every record and are not written again. -/
def reservedNames : List String := [
  "name", "msg", "args", "levelname", "levelno", "pathname", "filename", "module", "exc_info",
  "exc_text", "stack_info", "lineno", "funcName", "created", "msecs", "relativeCreated", "thread",
  "threadName", "processName", "process", "message", "asctime"]

def secretNames : List String := ["password", "token", "api_key", "secret", "authorization"]

def hidden : String := "[REDACTED]"

def isSecret (name : String) : Bool :=
  secretNames.contains (String.ofList (Text.lower name.toList))

def isShown (name : String) : Bool := !reservedNames.contains name && !name.startsWith "_"

def cut (limit : Nat) (text : String) : String :=
  if text.length > limit then String.ofList (text.toList.take limit) ++ "..." else text

def messageLimit : Nat := 2000

def valueLimit : Nat := 500

def disclosed (name : String) (value : Value) : Value :=
  if isSecret name then .text hidden
  else match value with
    | .text text => .text (cut valueLimit text)
    | value => value

def componentOf (logger : String) : List (String × Value) :=
  if logger.contains '.' then [("component", .text ((logger.splitOn ".").getLastD ""))] else []

def raisedText (raised : Raised) : String :=
  if raised.text = "" then raised.qualifiedKind else raised.qualifiedKind ++ ": " ++ raised.text

def base (now : String) (context : Context) (record : Record) (message : String) :
    List (String × Value) :=
  [("timestamp", .text now), ("level", .text record.level.name),
    ("message", .text (cut messageLimit message)), ("logger", .text record.logger),
    ("trace_id", .text (context.traceId.getD "")), ("span_id", .text (context.spanId.getD ""))] ++
  componentOf record.logger ++
  match record.raised with
  | some raised => [("exception", .text (raisedText raised))]
  | none => []

def addExtra (fields extra : List (String × Value)) : List (String × Value) :=
  extra.foldl (fun fields (name, value) =>
    if isShown name then Value.assign name (disclosed name value) fields else fields) fields

def fields (now : String) (context : Context) (record : Record) :
    Except DocumentFault (List (String × Value)) :=
  match record.message with
  | .error fault => .error (.template fault)
  | .ok message => .ok (addExtra (base now context record message) record.extra)

mutual

/-- The value that stands in a document for a value: sets become lists in ascending order where they
have one, and other kinds that JSON lacks become texts. -/
def plain : Value → Except DocumentFault Value
  | .int n =>
    if Number.leastWord ≤ n ∧ n ≤ Number.greatestUnsigned then .ok (.int n)
    else .error .numberTooLarge
  | .list items => do return .list (← plainItems items)
  | .tuple items => do return .list (← plainItems items)
  | .set items => do
    let pairs := items.zip (← plainItems items)
    return .list (((Value.sortedBy? Prod.fst pairs).getD pairs).map Prod.snd)
  | .object fields => do return .object (← plainFields fields)
  | .bytes content => .ok (.text (String.ofList (Text.Utf8.decode content)))
  | .buffer content => .ok (.text (String.ofList (Text.Utf8.decode content)))
  | .path location => .ok (.text location)
  | .failure message => .ok (.text message)
  | .other written => .ok (.text written)
  | .null => .ok .null
  | .bool value => .ok (.bool value)
  | .float value => .ok (.float value)
  | .text value => .ok (.text value)

def plainItems : List Value → Except DocumentFault (List Value)
  | [] => .ok []
  | item :: items => do
    let item ← plain item
    return item :: (← plainItems items)

def plainFields : List (String × Value) → Except DocumentFault (List (String × Value))
  | [] => .ok []
  | (name, value) :: fields => do
    let value ← plain value
    return (name, value) :: (← plainFields fields)

end

end Document

def Record.document (now : String) (context : Context) (record : Record) :
    Except DocumentFault String := do
  let fields ← Document.fields now context record
  let plain ← Document.plainFields fields
  return Json.write .compact (.object plain)

end CardSearch.Log
