import CardSearch.Value
/-!
Message templates: a text with marks, each of which begins with a percent sign and is replaced by an
argument. Between the sign and the letter of a mark stand a name, flags, a width and a precision.
-/
namespace CardSearch.Log

open Number (Binary64)

inductive TemplateFault where
  | tooFewArguments
  | tooManyArguments
  | namesNeeded
  | unknownName (name : String)
  | unknownMark (mark : Char) (index : Nat)
  | unfinished
  | unfinishedName
  | widthNotWhole
  | notNumber (mark : Char) (kind : String)
  | notReal (kind : String)
  | notWhole (mark : Char) (kind : String)
  | notCharacter
  | noSuchCharacter
  | infinite
  | notANumber
  | tooLarge
deriving Repr, DecidableEq

namespace TemplateFault

def message : TemplateFault → String
  | tooFewArguments => "not enough arguments for format string"
  | tooManyArguments => "not all arguments converted during string formatting"
  | namesNeeded => "format requires a mapping"
  | unknownName name => Value.quotedString name
  | unknownMark mark index =>
    "unsupported format character '" ++
      (if 31 ≤ mark.toNat ∧ mark.toNat ≤ 126 then mark.toString else "?") ++ "' (0x" ++
      String.ofList (Nat.toDigits 16 mark.toNat) ++ ") at index " ++ toString index
  | unfinished => "incomplete format"
  | unfinishedName => "incomplete format key"
  | widthNotWhole => "* wants int"
  | notNumber mark kind =>
    "%" ++ mark.toString ++ " format: a real number is required, not " ++ kind
  | notReal kind => "must be real number, not " ++ kind
  | notWhole mark kind => "%" ++ mark.toString ++ " format: an integer is required, not " ++ kind
  | notCharacter => "%c requires int or char"
  | noSuchCharacter => "%c arg not in range(0x110000)"
  | infinite => "cannot convert float infinity to integer"
  | notANumber => "cannot convert float NaN to integer"
  | tooLarge => "int too large to convert to float"

def kind : TemplateFault → String
  | unknownName _ => "KeyError"
  | unknownMark .. | unfinished | unfinishedName | notANumber => "ValueError"
  | noSuchCharacter | infinite | tooLarge => "OverflowError"
  | _ => "TypeError"

end TemplateFault

/-- What stands between the percent sign and the letter of a mark. -/
structure Layout where
  left : Bool
  plus : Bool
  space : Bool
  alternate : Bool
  zeros : Bool
  width : Nat
  precision : Option Nat
deriving Repr, DecidableEq, Inhabited

inductive Arguments where
  | listed (values : List Value)
  /-- One object, whose fields are taken by name; `waiting` is the next argument: the whole object at
  first, and then the field last named. -/
  | named (fields : List (String × Value)) (waiting : Option Value)
deriving Inhabited

namespace Template

def pad (layout : Layout) (text : List Char) : List Char :=
  let gap := List.replicate (layout.width - text.length) ' '
  if layout.left then text ++ gap else gap ++ text

def padNumber (layout : Layout) (negative : Bool) (lead digits : List Char) : List Char :=
  let sign :=
    if negative then ['-'] else if layout.plus then ['+'] else if layout.space then [' '] else []
  if layout.zeros && !layout.left then
    let zeros := List.replicate (layout.width - sign.length - lead.length - digits.length) '0'
    sign ++ lead ++ zeros ++ digits
  else pad layout (sign ++ lead ++ digits)

def wholeDigits (layout : Layout) (base n : Nat) : List Char :=
  let digits := Nat.toDigits base n
  List.replicate (layout.precision.getD 0 - digits.length) '0' ++ digits

def fixed (layout : Layout) (places a b : Nat) : List Char :=
  let digits := Nat.toDigits 10 (Binary64.roundedQuotient (a * Nat.pow 10 places) b)
  let digits := List.replicate (places + 1 - digits.length) '0' ++ digits
  let whole := digits.take (digits.length - places)
  if places = 0 then whole ++ (if layout.alternate then ['.'] else [])
  else whole ++ '.' :: digits.drop (digits.length - places)

/-- The digits of `a / b` rounded to `count` places and the power of ten of the first of them. -/
def significant (count a b : Nat) : List Char × Int :=
  if a = 0 then (List.replicate count '0', 0)
  else
    let guess := ((a.log2 : Int) - b.log2) * 3 / 10 - 2
    let point := Number.Shortest.pointOf a b 700 (min guess 0 - 330)
    let places : Int := count - point
    let rounded :=
      if places ≥ 0 then Binary64.roundedQuotient (a * Nat.pow 10 places.toNat) b
      else Binary64.roundedQuotient a (b * Nat.pow 10 (-places).toNat)
    let digits := Nat.toDigits 10 rounded
    if digits.length > count then (digits.take count, point) else (digits, point - 1)

def withExponent (layout : Layout) (letter : Char) (digits : List Char) (exponent : Int) : List Char :=
  let mantissa := match digits with
    | first :: rest =>
      if rest.isEmpty then first :: (if layout.alternate then ['.'] else []) else first :: '.' :: rest
    | [] => []
  mantissa ++ letter :: (if exponent < 0 then '-' else '+') ::
    Number.padded 2 (Nat.toDigits 10 exponent.natAbs)

def dropZeros (text : List Char) : List Char :=
  if text.contains '.' then
    let kept := (text.reverse.dropWhile (· == '0')).reverse
    if kept.getLast? == some '.' then kept.dropLast else kept
  else text

def general (layout : Layout) (letter : Char) (precision a b : Nat) : List Char :=
  let count := max precision 1
  let (digits, exponent) := significant count a b
  if -4 ≤ exponent ∧ exponent < count then
    let text := fixed layout ((count : Int) - 1 - exponent).toNat a b
    if layout.alternate then text else dropZeros text
  else if layout.alternate then withExponent layout letter digits exponent
  else
    let kept := match digits with
      | first :: rest => first :: (rest.reverse.dropWhile (· == '0')).reverse
      | [] => []
    withExponent layout letter kept exponent

def real (layout : Layout) (mark : Char) (value : Binary64) : List Char :=
  let upper := mark.isUpper
  let precision := layout.precision.getD 6
  let letter := if upper then 'E' else 'e'
  match value with
  | .notANumber => padNumber layout false [] (if upper then "NAN" else "nan").toList
  | .infinite negative => padNumber layout negative [] (if upper then "INF" else "inf").toList
  | .finite negative mantissa exponent _ =>
    let (a, b) := Binary64.ratioOf mantissa exponent
    let text :=
      if mark == 'f' || mark == 'F' then fixed layout precision a b
      else if mark == 'e' || mark == 'E' then
        let (digits, power) := significant (precision + 1) a b
        withExponent layout letter digits power
      else general layout letter precision a b
    padNumber layout negative [] text

def wholePart (mark : Char) (value : Value) : Except TemplateFault Int :=
  match value.numeric? with
  | some (.int n) => .ok n
  | some (.float x) =>
    match x with
    | .notANumber => .error .notANumber
    | .infinite _ => .error .infinite
    | x => .ok (x.truncate?.getD 0)
  | none => .error (.notNumber mark value.kindName)

def asciiChar (c : Char) : List Char :=
  if c.toNat < 0x80 then [c]
  else if c.toNat ≤ 0xff then '\\' :: 'x' :: Text.hexDigits 2 c.toNat
  else if c.toNat ≤ 0xffff then '\\' :: 'u' :: Text.hexDigits 4 c.toNat
  else '\\' :: 'U' :: Text.hexDigits 8 c.toNat

def cut (layout : Layout) (text : List Char) : List Char :=
  match layout.precision with
  | some precision => text.take precision
  | none => text

def inBase (layout : Layout) (mark : Char) (n : Int) : List Char :=
  let base := if mark == 'o' then 8 else 16
  let digits := wholeDigits layout base n.natAbs
  let digits := if mark == 'X' then digits.map Char.toUpper else digits
  padNumber layout (n < 0) (if layout.alternate then ['0', mark] else []) digits

def convert (layout : Layout) (mark : Char) (index : Nat) (value : Value) :
    Except TemplateFault (List Char) :=
  match mark with
  | 's' => .ok (pad layout (cut layout value.shown.toList))
  | 'r' => .ok (pad layout (cut layout value.written.toList))
  | 'a' => .ok (pad layout (cut layout (value.written.toList.flatMap asciiChar)))
  | 'c' =>
    match value with
    | .text text => if text.length = 1 then .ok (pad layout text.toList) else .error .notCharacter
    | value =>
      match value.numeric? with
      | some (.int n) =>
        if 0 ≤ n ∧ n < 0x110000 then .ok (pad layout [Char.ofNat n.toNat]) else .error .noSuchCharacter
      | _ => .error .notCharacter
  | 'd' | 'i' | 'u' => do
    let n ← wholePart mark value
    return padNumber layout (n < 0) [] (wholeDigits layout 10 n.natAbs)
  | 'x' | 'X' | 'o' =>
    match value.numeric? with
    | some (.int n) => .ok (inBase layout mark n)
    | _ => .error (.notWhole mark value.kindName)
  | 'e' | 'E' | 'f' | 'F' | 'g' | 'G' =>
    match value.numeric? with
    | some (.int n) =>
      match Binary64.ofInt n with
      | .infinite _ => .error .tooLarge
      | x => .ok (real layout mark x)
    | some (.float x) => .ok (real layout mark x)
    | none => .error (.notReal value.kindName)
  | mark => .error (.unknownMark mark index)

def next : Arguments → Except TemplateFault (Value × Arguments)
  | .listed (value :: values) => .ok (value, .listed values)
  | .named fields (some value) => .ok (value, .named fields none)
  | _ => .error .tooFewArguments

def readName : (depth : Nat) → List Char → Option (List Char × List Char)
  | _, [] => none
  | depth, c :: rest =>
    if c == ')' && depth = 0 then some ([], rest)
    else
      let inner := if c == '(' then depth + 1 else if c == ')' then depth - 1 else depth
      (readName inner rest).map fun (name, rest) => (c :: name, rest)

def readFlags (layout : Layout) : List Char → Layout × List Char
  | [] => (layout, [])
  | c :: rest =>
    match c with
    | '-' => readFlags { layout with left := true } rest
    | '+' => readFlags { layout with plus := true } rest
    | ' ' => readFlags { layout with space := true } rest
    | '#' => readFlags { layout with alternate := true } rest
    | '0' => readFlags { layout with zeros := true } rest
    | c => (layout, c :: rest)

def readSize (arguments : Arguments) (text : List Char) :
    Except TemplateFault (Option Int × Arguments × List Char) :=
  match text with
  | '*' :: rest => do
    let (value, arguments) ← next arguments
    match value.numeric? with
    | some (.int n) => return (some n, arguments, rest)
    | _ => throw .widthNotWhole
  | text =>
    let digits := text.takeWhile Char.isDigit
    let size : Int := digits.foldl (fun n c => 10 * n + (c.toNat - '0'.toNat)) 0
    return (if digits.isEmpty then none else some size, arguments, text.drop digits.length)

def readPrecision (arguments : Arguments) (text : List Char) :
    Except TemplateFault (Option Nat × Arguments × List Char) :=
  match text with
  | '.' :: rest => do
    let (size, arguments, rest) ← readSize arguments rest
    return (some (size.getD 0).toNat, arguments, rest)
  | text => return (none, arguments, text)

def dropLength : List Char → List Char
  | c :: rest => if c == 'h' || c == 'l' || c == 'L' then rest else c :: rest
  | [] => []

def takeName (arguments : Arguments) (text : List Char) :
    Except TemplateFault (Arguments × List Char) :=
  match text, arguments with
  | '(' :: _, .listed _ => .error .namesNeeded
  | '(' :: rest, .named fields _ =>
    match readName 0 rest with
    | none => .error .unfinishedName
    | some (name, rest) =>
      match Value.lookup (String.ofList name) fields with
      | none => .error (.unknownName (String.ofList name))
      | some value => .ok (.named fields (some value), rest)
  | text, arguments => .ok (arguments, text)

/-- Reads what follows a percent sign and writes its argument; a second sign stands for itself.
`length` is the length of the whole template. -/
def fillMark (length : Nat) (arguments : Arguments) (text : List Char) :
    Except TemplateFault (List Char × Arguments × List Char) :=
  match text with
  | '%' :: rest => .ok (['%'], arguments, rest)
  | text => do
    let (arguments, text) ← takeName arguments text
    let (layout, text) := readFlags default text
    let (width, arguments, text) ← readSize arguments text
    let left := layout.left || (width.getD 0) < 0
    let (precision, arguments, text) ← readPrecision arguments text
    let layout := { layout with left, width := (width.getD 0).natAbs, precision }
    match dropLength text with
    | [] => throw .unfinished
    | mark :: rest =>
      let (value, arguments) ← next arguments
      return (← convert layout mark (length - rest.length - 1) value, arguments, rest)

/-- Fills a template. `fuel` bounds the number of its parts. -/
def fillFrom (length : Nat) : (fuel : Nat) → Arguments → List Char →
    Except TemplateFault (List Char × Arguments)
  | 0, arguments, _ => .ok ([], arguments)
  | _, arguments, [] => .ok ([], arguments)
  | fuel + 1, arguments, c :: rest => do
    let (written, arguments, rest) ←
      if c == '%' then fillMark length arguments rest else pure ([c], arguments, rest)
    let (later, arguments) ← fillFrom length fuel arguments rest
    return (written ++ later, arguments)

end Template

/-- The message of a template with its arguments. Without arguments the template is the message; a single
object gives its fields by name. -/
def fill (template : String) (arguments : List Value) : Except TemplateFault String := do
  if arguments.isEmpty then return template
  let text := template.toList
  let start := match arguments with
    | [.object (field :: fields)] =>
      Arguments.named (field :: fields) (some (.object (field :: fields)))
    | arguments => .listed arguments
  let (written, left) ← Template.fillFrom text.length text.length start text
  match left with
  | .listed (_ :: _) => throw .tooManyArguments
  | _ => return String.ofList written

end CardSearch.Log
