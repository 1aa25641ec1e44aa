import CardSearch.Log.Record
import CardSearch.Query.Wildcard
import CardSearch.Settings.Assignments
import CardSearch.Store.Path
import CardSearch.Text.LetterCase
import CardSearch.Text.Utf8
import CardSearch.Validation
/-!
Settings and where they come from. What a caller gives counts first, then the environment, then the
file of assignments, then the defaults; names in the environment and the file are taken in letters of
either case.
-/
namespace CardSearch

structure Settings where
  logLevel : Log.Level := .info
  logJson : Bool := true
  wildcards : Query.WildcardMode := .literal
  cardsPath : Option String := none
  latestOnly : Bool := true
deriving Repr, DecidableEq

namespace Settings

structure Sources where
  overrides : List (String × Value)
  environment : List (String × String)
  file : Option (List UInt8)

def namePrefix : Text := "card_query_".toList

/-- The value of a setting among some variables. Of names that differ in case the last counts. -/
def named (assigned : List (Text × Option Text)) (setting : String) : Option Value := do
  let (_, value) ← assigned.reverse.find? fun (name, _) =>
    Text.lower name == namePrefix ++ setting.toList
  return .text (String.ofList (← value))

def Sources.variables (sources : Sources) : List (Text × Text) :=
  sources.environment.map fun (name, value) => (name.toList, value.toList)

def Sources.assigned (sources : Sources) :
    Except Text.Utf8.Fault (List (Text × Option Text)) :=
  match sources.file with
  | none => .ok []
  | some bytes =>
    (Text.Utf8.read bytes).map fun text => Assignments.read sources.variables text.toList

def Sources.find? (sources : Sources) (assigned : List (Text × Option Text)) (setting : String) :
    Option Value :=
  -- what a caller gives counts first, then the environment, then the file
  (Value.lookup setting sources.overrides).or
    ((named (sources.variables.map fun (name, value) => (name, some value)) setting).or
      (named assigned setting))

def levelWords : List (String × Log.Level) :=
  [("debug", .debug), ("info", .info), ("warning", .warning), ("error", .error),
    ("critical", .critical)]

def readLevel (value : Value) : Except Misfit Log.Level := do
  let text ← Validation.text value
  let word := String.ofList (Text.lower (Text.trim text.toList))
  match levelWords.find? (·.1 == word) with
  | some (_, level) => return level
  | none => throw (.refused ("log_level must be one of " ++
      ", ".intercalate (levelWords.map (·.1)) ++ ", got " ++ Value.quotedString text))

def readPath : Value → Except Misfit (Option String)
  | .null => .ok none
  | .text path => .ok (some (Store.Path.normalize path))
  | .path location => .ok (some location)
  | _ => .error .notPath

def readMode (value : Value) : Except Misfit Query.WildcardMode :=
  (Validation.truth value).map fun raw => if raw then .pattern else .literal

def setting {α : Type} (default : α) (read : Value → Except Misfit α) (value : Option Value) :
    Except Misfit α :=
  match value with
  | some value => read value
  | none => .ok default

def faultsOf {α : Type} (field : String) : Except Misfit α → List Fault
  | .ok _ => []
  | .error misfit => [⟨[field], misfit⟩]

def subject : String := "Settings"

def validate (given : String → Option Value) : Except Invalid Settings :=
  let logLevel := setting .info readLevel (given "log_level")
  let logJson := setting true Validation.truth (given "log_json")
  let wildcards := setting .literal readMode (given "wildcard_regex")
  let cardsPath := setting none readPath (given "cards_path")
  let latestOnly := setting true Validation.truth (given "latest_only")
  match logLevel, logJson, wildcards, cardsPath, latestOnly with
  | .ok logLevel, .ok logJson, .ok wildcards, .ok cardsPath, .ok latestOnly =>
    .ok { logLevel, logJson, wildcards, cardsPath, latestOnly }
  | logLevel, logJson, wildcards, cardsPath, latestOnly =>
    .error ⟨subject, faultsOf "log_level" logLevel ++ faultsOf "log_json" logJson ++
      faultsOf "wildcard_regex" wildcards ++ faultsOf "cards_path" cardsPath ++
      faultsOf "latest_only" latestOnly⟩

inductive Failure where
  | undecodable (fault : Text.Utf8.Fault)
  | invalid (invalid : Invalid)
deriving Repr, DecidableEq

def Failure.raised : Failure → Raised
  | .undecodable fault => ⟨"UnicodeDecodeError", fault.message⟩
  | .invalid faults => ⟨"ValidationError", faults.report⟩

/-- The settings of some sources. The file is read first. -/
def load (sources : Sources) : Except Failure Settings := do
  let assigned ← sources.assigned.mapError .undecodable
  (validate (sources.find? assigned)).mapError .invalid

def levelWord (level : Log.Level) : String := level.name.toLower

end Settings

end CardSearch
