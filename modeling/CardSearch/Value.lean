import CardSearch.Number.Shortest
import CardSearch.Text.Quoted
/-!
Loosely shaped data, as card stores and callers hand it over: the values of JSON and the kinds that
only a caller can pass. Numbers of all kinds, truth values among them, are equal when their values
are; a text never equals a number.
-/
namespace CardSearch

open Number (Binary64 DecimalStyle)

inductive Value where
  | null
  | bool (value : Bool)
  | int (value : Int)
  | float (value : Binary64)
  | text (value : String)
  | list (items : List Value)
  | tuple (items : List Value)
  | set (items : List Value)
  /-- An object, its fields in the order in which they were first written. -/
  | object (fields : List (String × Value))
  | bytes (content : List UInt8)
  | buffer (content : List UInt8)
  | path (location : String)
  | failure (message : String)
  | other (written : String)
deriving Inhabited, Repr

namespace Value

def lookup (name : String) : List (String × Value) → Option Value
  | [] => none
  | (key, value) :: fields => if key = name then some value else lookup name fields

def assign (name : String) (value : Value) : List (String × Value) → List (String × Value)
  | [] => [(name, value)]
  | (key, old) :: fields =>
    if key = name then (key, value) :: fields else (key, old) :: assign name value fields

/-- The number that a value is. Truth values count as one and zero. -/
inductive Numeric where
  | int (value : Int)
  | float (value : Binary64)
deriving Repr, DecidableEq

def numeric? : Value → Option Numeric
  | bool value => some (.int value.toNat)
  | int value => some (.int value)
  | float value => some (.float value)
  | _ => none

def Numeric.same : Numeric → Numeric → Bool
  | int a, int b => a == b
  | int a, float b => b.toInt? == some a
  | float a, int b => a.toInt? == some b
  | float a, float b => a.sameValue b

def Numeric.less (a b : Numeric) : Bool :=
  let exact : Numeric → Option (Int × Nat)
    | int n => some (n, 1)
    | float x => x.toRatio?
  match exact a, exact b with
  | some (p, q), some (r, s) => p * s < r * q
  | some _, none => match b with
    | float (.infinite negative) => !negative
    | _ => false
  | none, some _ => match a with
    | float (.infinite negative) => negative
    | _ => false
  | none, none => match a, b with
    | float (.infinite true), float (.infinite false) => true
    | _, _ => false

mutual

/-- Equality of values. An error equals no other value. -/
def same : Value → Value → Bool
  | null, null => true
  | text a, text b => a == b
  | list a, list b => sameItems a b
  | tuple a, tuple b => sameItems a b
  | set a, set b => sameItems a b
  | object a, object b => sameFields a b
  | bytes a, bytes b => a == b
  | bytes a, buffer b => a == b
  | buffer a, bytes b => a == b
  | buffer a, buffer b => a == b
  | path a, path b => a == b
  | other a, other b => a == b
  | a, b =>
    match a.numeric?, b.numeric? with
    | some m, some n => m.same n
    | _, _ => false

def sameItems : List Value → List Value → Bool
  | [], [] => true
  | a :: as, b :: bs => same a b && sameItems as bs
  | _, _ => false

def sameFields : List (String × Value) → List (String × Value) → Bool
  | [], [] => true
  | (m, a) :: as, (n, b) :: bs => m == n && same a b && sameFields as bs
  | _, _ => false

end

def kindName : Value → String
  | null => "NoneType"
  | bool _ => "bool"
  | int _ => "int"
  | float _ => "float"
  | text _ => "str"
  | list _ => "list"
  | tuple _ => "tuple"
  | set _ => "frozenset"
  | object _ => "dict"
  | bytes _ => "bytes"
  | buffer _ => "bytearray"
  | path _ => "PosixPath"
  | failure _ => "ValueError"
  | other _ => "range"

mutual

/-- The kind of value that keeps a value out of a set, if it cannot be in one: the value itself or an
item of a tuple can be changed in place. -/
def changeable? : Value → Option String
  | list items => some (kindName (list items))
  | object fields => some (kindName (object fields))
  | buffer content => some (kindName (buffer content))
  | tuple items => changeableItem? items
  | _ => none

def changeableItem? : List Value → Option String
  | [] => none
  | item :: items => (changeable? item).or (changeableItem? items)

end

mutual

/-- The strict order of values, where they have one. Lists and tuples are ordered by their first
items that differ. -/
def less? : Value → Value → Option Bool
  | text a, text b => some (a < b)
  | bytes a, bytes b => some (a.map (·.toNat) < b.map (·.toNat))
  | path a, path b => some (a.splitOn "/" < b.splitOn "/")
  | list a, list b => lessItems? a b
  | tuple a, tuple b => lessItems? a b
  | set a, set b => some (a.length < b.length && a.all fun item => b.any (same item))
  | a, b =>
    match a.numeric?, b.numeric? with
    | some m, some n => some (m.less n)
    | _, _ => none

def lessItems? : List Value → List Value → Option Bool
  | [], [] => some false
  | [], _ :: _ => some true
  | _ :: _, [] => some false
  | a :: as, b :: bs => if same a b then lessItems? as bs else less? a b

end

def sortedBy? {α : Type} (key : α → Value) (items : List α) : Option (List α) :=
  if items.length < 2 then some items
  else if items.all fun a => items.all fun b => (less? (key a) (key b)).isSome then
    some (items.mergeSort fun a b => less? (key b) (key a) != some true)
  else none

def quotedString (text : String) : String := String.ofList (Text.quoted text.toList)

def escapeByte (quote : Char) (byte : UInt8) : List Char :=
  let c := Char.ofNat byte.toNat
  if c == quote || c == '\\' then ['\\', c]
  else if c == '\t' then ['\\', 't']
  else if c == '\n' then ['\\', 'n']
  else if c == '\r' then ['\\', 'r']
  else if 0x20 ≤ byte && byte < 0x7f then [c]
  else '\\' :: 'x' :: Text.hexDigits 2 byte.toNat

def writtenBytes (content : List UInt8) : String :=
  let quote := Text.quoteFor (content.map fun byte => Char.ofNat byte.toNat)
  String.ofList ('b' :: quote :: content.flatMap (escapeByte quote) ++ [quote])

mutual

def written : Value → String
  | null => "None"
  | bool value => if value then "True" else "False"
  | int value => toString value
  | float value => String.ofList (value.write .plain)
  | text value => quotedString value
  | list items => "[" ++ ", ".intercalate (writtenItems items) ++ "]"
  | tuple [item] => "(" ++ written item ++ ",)"
  | tuple items => "(" ++ ", ".intercalate (writtenItems items) ++ ")"
  | set [] => "frozenset()"
  | set items => "frozenset(\x7b" ++ ", ".intercalate (writtenItems items) ++ "\x7d)"
  | object fields => "\x7b" ++ ", ".intercalate (writtenFields fields) ++ "\x7d"
  | bytes content => writtenBytes content
  | buffer content => "bytearray(" ++ writtenBytes content ++ ")"
  | path location => "PosixPath(" ++ quotedString location ++ ")"
  | failure message => "ValueError(" ++ quotedString message ++ ")"
  | other form => form

def writtenItems : List Value → List String
  | [] => []
  | item :: items => written item :: writtenItems items

def writtenFields : List (String × Value) → List String
  | [] => []
  | (name, value) :: fields => (quotedString name ++ ": " ++ written value) :: writtenFields fields

end

/-- The form in which a value stands inside a message: texts, paths and errors show their content. -/
def shown : Value → String
  | text value => value
  | path location => location
  | failure message => message
  | value => value.written

end Value

end CardSearch
