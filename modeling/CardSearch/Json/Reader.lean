import CardSearch.Number.Word
import CardSearch.Text.Basic
import CardSearch.Value
/-!
Reading JSON documents. The grammar is the strict one: no comments, no trailing commas, no numbers
beyond the range of floating point, no unpaired surrogates. A repeated field keeps its first place and
its last value.
-/
namespace CardSearch.Json

open Number (Binary64)

structure Reading where
  maxDepth : Nat
  /-- The least and the greatest whole number that is kept; others become floating-point numbers. -/
  wholeRange : Option (Int × Int)
deriving Repr, DecidableEq

def Reading.unbounded : Reading := ⟨100000, none⟩

def Reading.bounded : Reading := ⟨1024, some (Number.leastWord, Number.greatestUnsigned)⟩

def isSpace (c : Char) : Bool := c == ' ' || c == '\t' || c == '\n' || c == '\r'

def skipSpaces (text : Text) : Text := text.dropWhile isSpace

def hexValue? (c : Char) : Option Nat :=
  if '0' ≤ c ∧ c ≤ '9' then some (c.toNat - '0'.toNat)
  else if 'a' ≤ c ∧ c ≤ 'f' then some (c.toNat - 'a'.toNat + 10)
  else if 'A' ≤ c ∧ c ≤ 'F' then some (c.toNat - 'A'.toNat + 10)
  else none

def unit? (a b c d : Char) : Option Nat := do
  return (((← hexValue? a) * 16 + (← hexValue? b)) * 16 + (← hexValue? c)) * 16 + (← hexValue? d)

def isHighSurrogate (unit : Nat) : Bool := 0xd800 ≤ unit && unit < 0xdc00

def isLowSurrogate (unit : Nat) : Bool := 0xdc00 ≤ unit && unit < 0xe000

def shortEscape? : Char → Option Char
  | '"' => some '"'
  | '\\' => some '\\'
  | '/' => some '/'
  | 'b' => some '\x08'
  | 'f' => some '\x0c'
  | 'n' => some '\n'
  | 'r' => some '\r'
  | 't' => some '\t'
  | _ => none

def content? : Text → Option (Text × Text)
  | [] => none
  | '"' :: rest => some ([], rest)
  | '\\' :: 'u' :: a :: b :: c :: d :: rest =>
    match unit? a b c d with
    | none => none
    | some unit =>
      if isHighSurrogate unit then
        match rest with
        | '\\' :: 'u' :: e :: f :: g :: h :: rest =>
          match unit? e f g h with
          | some low =>
            if isLowSurrogate low then
              (content? rest).map fun (content, rest) =>
                (Char.ofNat (0x10000 + (unit - 0xd800) * 0x400 + (low - 0xdc00)) :: content, rest)
            else none
          | none => none
        | _ => none
      else if isLowSurrogate unit then none
      else (content? rest).map fun (content, rest) => (Char.ofNat unit :: content, rest)
  | '\\' :: c :: rest =>
    match shortEscape? c with
    | some escaped => (content? rest).map fun (content, rest) => (escaped :: content, rest)
    | none => none
  | c :: rest =>
    if c.toNat < 0x20 then none
    else (content? rest).map fun (content, rest) => (c :: content, rest)

def decimal (digits : Text) : Nat :=
  digits.foldl (fun number c => 10 * number + (c.toNat - '0'.toNat)) 0

def digits? (text : Text) : Option (Text × Text) :=
  let digits := text.takeWhile Char.isDigit
  if digits.isEmpty then none else some (digits, text.drop digits.length)

def exponent? : Text → Option (Option Int × Text)
  | c :: rest =>
    if c == 'e' || c == 'E' then do
      let (negative, rest) :=
        match rest with
        | '-' :: rest => (true, rest)
        | '+' :: rest => (false, rest)
        | rest => (false, rest)
      let (digits, rest) ← digits? rest
      let size : Int := decimal digits
      return (some (if negative then -size else size), rest)
    else some (none, c :: rest)
  | [] => some (none, [])

def fraction? : Text → Option (Option Text × Text)
  | '.' :: rest => (digits? rest).map fun (digits, rest) => (some digits, rest)
  | text => some (none, text)

def finite? (number : Binary64) : Option Value :=
  match number with
  | .finite .. => some (.float number)
  | _ => none

def whole? (reading : Reading) (number : Int) : Option Value :=
  match reading.wholeRange with
  | none => some (.int number)
  | some (least, greatest) =>
    if least ≤ number ∧ number ≤ greatest then some (.int number) else finite? (Binary64.ofInt number)

def number? (reading : Reading) (text : Text) : Option (Value × Text) := do
  let (negative, text) :=
    match text with
    | '-' :: rest => (true, rest)
    | text => (false, text)
  let (digits, rest) ← digits? text
  if digits.head? == some '0' && digits.length ≠ 1 then none
  let (fraction, rest) ← fraction? rest
  let (exponent, rest) ← exponent? rest
  let value ←
    if fraction.isNone && exponent.isNone then
      let size : Int := decimal digits
      whole? reading (if negative then -size else size)
    else
      let decimals := fraction.getD []
      finite? (Binary64.ofDecimal negative (decimal (digits ++ decimals))
        (exponent.getD 0 - decimals.length))
  return (value, rest)

/-- Reads the items of a list behind its first bracket or a comma, each with the blanks around it.
`fuel` bounds their number. -/
def items? (item : Text → Option (Value × Text)) : (fuel : Nat) → Text → Option (List Value × Text)
  | 0, _ => none
  | fuel + 1, text => do
    let (value, rest) ← item (skipSpaces text)
    match skipSpaces rest with
    | ',' :: rest =>
      let (values, rest) ← items? item fuel rest
      return (value :: values, rest)
    | ']' :: rest => return ([value], rest)
    | _ => none

def fields? (item : Text → Option (Value × Text)) :
    (fuel : Nat) → Text → Option (List (String × Value) × Text)
  | 0, _ => none
  | fuel + 1, text => do
    let '"' :: text := skipSpaces text | none
    let (name, rest) ← content? text
    let ':' :: rest := skipSpaces rest | none
    let (value, rest) ← item (skipSpaces rest)
    match skipSpaces rest with
    | ',' :: rest =>
      let (fields, rest) ← fields? item fuel rest
      return ((String.ofList name, value) :: fields, rest)
    | '}' :: rest => return ([(String.ofList name, value)], rest)
    | _ => none

def distinct (fields : List (String × Value)) : List (String × Value) :=
  fields.foldl (fun kept (name, value) => Value.assign name value kept) []

/-- Reads a value at the start of a text, and what follows. `depth` bounds the nesting and `length` the
items of one list or object. -/
def value? (reading : Reading) (length : Nat) : (depth : Nat) → Text → Option (Value × Text)
  | _, 'n' :: 'u' :: 'l' :: 'l' :: rest => some (.null, rest)
  | _, 't' :: 'r' :: 'u' :: 'e' :: rest => some (.bool true, rest)
  | _, 'f' :: 'a' :: 'l' :: 's' :: 'e' :: rest => some (.bool false, rest)
  | _, '"' :: rest =>
    (content? rest).map fun (content, rest) => (.text (String.ofList content), rest)
  | depth, '[' :: rest =>
    match depth with
    | 0 => none
    | depth + 1 =>
      match skipSpaces rest with
      | ']' :: rest => some (.list [], rest)
      | rest => (items? (value? reading length depth) length rest).map fun (items, rest) =>
          (.list items, rest)
  | depth, '{' :: rest =>
    match depth with
    | 0 => none
    | depth + 1 =>
      match skipSpaces rest with
      | '}' :: rest => some (.object [], rest)
      | rest => (fields? (value? reading length depth) length rest).map fun (fields, rest) =>
          (.object (distinct fields), rest)
  | _, text => number? reading text

def read? (reading : Reading) (document : Text) : Option Value := do
  let (value, rest) ← value? reading document.length reading.maxDepth (skipSpaces document)
  if (skipSpaces rest).isEmpty then some value else none

def readBytes? (reading : Reading) (document : List UInt8) : Option Value := do
  let text ← String.fromUTF8? (ByteArray.mk document.toArray)
  read? reading text.toList

theorem readBytes?_toUTF8 (reading : Reading) (document : String) :
    readBytes? reading document.toUTF8.data.toList = read? reading document.toList := by
  have bytes : ByteArray.mk document.toUTF8.data.toList.toArray = document.toUTF8 := by
    rw [Array.toArray_toList]
  have text : String.fromUTF8? document.toUTF8 = some document := dif_pos document.isValidUTF8
  rw [readBytes?, bytes, text]
  rfl

end CardSearch.Json
