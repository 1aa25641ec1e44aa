import CardSearch.Number.Word
import CardSearch.Value
/-!
Faults of data that does not have the shape it should have. A fault says where the value stands and
why it does not fit; all faults of one value are reported together, in the order of its fields. Reports
leave out the values themselves.
-/
namespace CardSearch

inductive Misfit where
  | missing
  | notText
  | undecodableText
  | notWhole
  | fractional
  | tooLargeWhole
  | notFinite
  | unreadableWhole
  | notTruthValue
  | unreadableTruthValue
  | notSet
  | notObject (subject : String)
  | notPath
  | frozen
  | refused (message : String)
deriving Repr, DecidableEq

def Misfit.code : Misfit → String
  | missing => "missing"
  | notText => "string_type"
  | undecodableText => "string_unicode"
  | notWhole => "int_type"
  | fractional => "int_from_float"
  | tooLargeWhole => "int_parsing_size"
  | notFinite => "finite_number"
  | unreadableWhole => "int_parsing"
  | notTruthValue => "bool_type"
  | unreadableTruthValue => "bool_parsing"
  | notSet => "frozen_set_type"
  | notObject _ => "model_type"
  | notPath => "path_type"
  | frozen => "frozen_instance"
  | refused _ => "value_error"

def Misfit.message : Misfit → String
  | missing => "Field required"
  | notText => "Input should be a valid string"
  | undecodableText =>
    "Input should be a valid string, unable to parse raw data as a unicode string"
  | notWhole => "Input should be a valid integer"
  | fractional => "Input should be a valid integer, got a number with a fractional part"
  | tooLargeWhole => "Unable to parse input string as an integer, exceeded maximum size"
  | notFinite => "Input should be a finite number"
  | unreadableWhole => "Input should be a valid integer, unable to parse string as an integer"
  | notTruthValue => "Input should be a valid boolean"
  | unreadableTruthValue => "Input should be a valid boolean, unable to interpret input"
  | notSet => "Input should be a valid frozenset"
  | notObject subject => "Input should be a valid dictionary or instance of " ++ subject
  | notPath => "Input is not a valid path for <class 'pathlib.Path'>"
  | frozen => "Instance is frozen"
  | refused message => "Value error, " ++ message

/-- A value that does not fit, by the fields and positions that lead to it. -/
structure Fault where
  place : List String
  misfit : Misfit
deriving Repr, DecidableEq

def Fault.under (field : String) (fault : Fault) : Fault := { fault with place := field :: fault.place }

structure Invalid where
  subject : String
  faults : List Fault
deriving Repr, DecidableEq

def Invalid.summary (invalid : Invalid) : String :=
  let count := invalid.faults.length
  toString count ++ (if count = 1 then " validation error for " else " validation errors for ") ++
    invalid.subject

def Invalid.report (invalid : Invalid) : String :=
  "\n".intercalate (invalid.summary :: invalid.faults.flatMap fun fault =>
    [".".intercalate fault.place,
      "  " ++ fault.misfit.message ++ " [type=" ++ fault.misfit.code ++ "]"])

namespace Validation

def text : Value → Except Misfit String
  | .text value => .ok value
  | .bytes content | .buffer content =>
    match String.fromUTF8? (ByteArray.mk content.toArray) with
    | some value => .ok value
    | none => .error .undecodableText
  | _ => .error .notText

def wholeFloat (value : Number.Binary64) : Except Misfit Int :=
  match value.toRatio? with
  | none => .error .notFinite
  | some _ =>
    match value.toInt? with
    | none => .error .fractional
    | some n => if Number.leastWord < n ∧ n < Number.wordLimit then .ok n else .error .tooLargeWhole

def falseWords : List String := ["0", "off", "f", "false", "n", "no"]

def trueWords : List String := ["1", "on", "t", "true", "y", "yes"]

def truthWord (word : String) : Except Misfit Bool :=
  let lowered := word.toLower
  if falseWords.contains lowered then .ok false
  else if trueWords.contains lowered then .ok true
  else .error .unreadableTruthValue

/-- A truth value, also given as one, zero or a word. Numbers beyond 64 bits are of another kind. -/
def truth : Value → Except Misfit Bool
  | .bool value => .ok value
  | .int value =>
    if value = 0 then .ok false
    else if value = 1 then .ok true
    else if Number.leastWord ≤ value ∧ value < Number.wordLimit then .error .unreadableTruthValue
    else .error .notTruthValue
  | .float value =>
    match wholeFloat value with
    | .ok 0 => .ok false
    | .ok 1 => .ok true
    | .ok _ => .error .unreadableTruthValue
    | .error _ => .error .notTruthValue
  | .text word => truthWord word
  | .bytes content =>
    match String.fromUTF8? (ByteArray.mk content.toArray) with
    | some word => truthWord word
    | none => .error .unreadableTruthValue
  | _ => .error .notTruthValue

end Validation

end CardSearch
