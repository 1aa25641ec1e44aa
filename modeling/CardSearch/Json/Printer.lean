import CardSearch.Text.Quoted
import CardSearch.Value
/-!
Writing JSON documents. A style fixes the gaps, the order of fields and which characters are written by
number. Only values that JSON has are written.
-/
namespace CardSearch.Json

structure Writing where
  comma : String
  colon : String
  asciiOnly : Bool
  sortedFields : Bool
deriving Repr, DecidableEq

def Writing.terminal : Writing := ⟨", ", ": ", true, true⟩

def Writing.compact : Writing := ⟨",", ":", false, false⟩

def escapeUnit (unit : Nat) : List Char := '\\' :: 'u' :: Text.hexDigits 4 unit

def escapeByNumber (c : Char) : List Char :=
  if c.toNat < 0x10000 then escapeUnit c.toNat
  else escapeUnit (0xd800 + (c.toNat - 0x10000) / 0x400) ++
    escapeUnit (0xdc00 + (c.toNat - 0x10000) % 0x400)

def escapeChar (asciiOnly : Bool) (c : Char) : List Char :=
  if c == '"' || c == '\\' then ['\\', c]
  else if c == '\n' then ['\\', 'n']
  else if c == '\r' then ['\\', 'r']
  else if c == '\t' then ['\\', 't']
  else if c == '\x08' then ['\\', 'b']
  else if c == '\x0c' then ['\\', 'f']
  else if c.toNat < 0x20 then escapeUnit c.toNat
  else if asciiOnly && c.toNat ≥ 0x7f then escapeByNumber c
  else [c]

def writeString (writing : Writing) (text : String) : String :=
  String.ofList ('"' :: text.toList.flatMap (escapeChar writing.asciiOnly) ++ ['"'])

def writeFields (writing : Writing) (fields : List (String × String)) : String :=
  let ordered := if writing.sortedFields then fields.mergeSort (fun a b => a.1 ≤ b.1) else fields
  "\x7b" ++ writing.comma.intercalate
    (ordered.map fun (name, value) => writeString writing name ++ writing.colon ++ value) ++ "\x7d"

mutual

/-- The document of a value; kinds that JSON lacks are written as null. -/
def write (writing : Writing) : Value → String
  | .null => "null"
  | .bool value => if value then "true" else "false"
  | .int value => toString value
  | .float value =>
    match value with
    | .finite .. => String.ofList (value.write .plain)
    | _ => "null"
  | .text value => writeString writing value
  | .list items => "[" ++ writing.comma.intercalate (writeItems writing items) ++ "]"
  | .tuple items => "[" ++ writing.comma.intercalate (writeItems writing items) ++ "]"
  | .object fields => writeFields writing (writeValues writing fields)
  | .set _ | .bytes _ | .buffer _ | .path _ | .failure _ | .other _ => "null"

def writeItems (writing : Writing) : List Value → List String
  | [] => []
  | item :: items => write writing item :: writeItems writing items

def writeValues (writing : Writing) : List (String × Value) → List (String × String)
  | [] => []
  | (name, value) :: fields => (name, write writing value) :: writeValues writing fields

end

end CardSearch.Json
