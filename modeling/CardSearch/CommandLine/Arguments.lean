import CardSearch.Store.Path
import CardSearch.Text.DecimalDigit
import CardSearch.Value
/-!
The arguments of the command line: one query and some options. An option may be shortened as long as
only one option begins like it, and its value stands behind an equals sign or in the next word. Words
behind a double dash, negative numbers and words with a space in them are never options.
-/
namespace CardSearch.CommandLine

inductive Flag where
  | help
  | cards
  | json
  | logLevel
  | wildcardRegex
deriving Repr, DecidableEq

namespace Flag

def spellings : List (String × Flag) :=
  [("-h", help), ("--help", help), ("--cards", cards), ("--json", json), ("--log-level", logLevel),
    ("--wildcard-regex", wildcardRegex)]

def ofSpelling? (spelling : String) : Option Flag := (spellings.find? (·.1 == spelling)).map (·.2)

def label : Flag → String
  | help => "-h/--help"
  | cards => "--cards"
  | json => "--json"
  | logLevel => "--log-level"
  | wildcardRegex => "--wildcard-regex"

def takesValue : Flag → Bool
  | cards | logLevel => true
  | help | json | wildcardRegex => false

end Flag

inductive Misuse where
  | ambiguous (word : String) (candidates : List String)
  | valueExpected (flag : Flag)
  | valueIgnored (flag : Flag) (value : String)
  | queryMissing
  | unrecognized (words : List String)
deriving Repr, DecidableEq

def Misuse.message : Misuse → String
  | ambiguous word candidates =>
    "ambiguous option: " ++ word ++ " could match " ++ ", ".intercalate candidates
  | valueExpected flag => "argument " ++ flag.label ++ ": expected one argument"
  | valueIgnored flag value =>
    "argument " ++ flag.label ++ ": ignored explicit argument " ++ Value.quotedString value
  | queryMissing => "the following arguments are required: query"
  | unrecognized words => "unrecognized arguments: " ++ " ".intercalate words

inductive Attached where
  | nothing
  | value (text : String)
  | letters (text : String)
deriving Repr, DecidableEq

inductive Word where
  | plain (text : String)
  | separator
  | flag (flag : Flag) (attached : Attached)
  | unknown (text : String)
deriving Repr, DecidableEq

namespace Word

/-- A negative number: a dash and digits, or a dash and digits with a point among or before them. A
newline may stand behind it. -/
def isNegativeNumber (word : Text) : Bool :=
  match word with
  | '-' :: digits =>
    let digits := if digits.getLast? == some '\n' then digits.dropLast else digits
    let whole := digits.takeWhile Text.isDigit
    match digits.drop whole.length with
    | [] => !whole.isEmpty
    | '.' :: decimals => !decimals.isEmpty && decimals.all Text.isDigit
    | _ => false
  | _ => false

def cutAtEquals (word : Text) : Text × Option Text :=
  let name := word.takeWhile (· != '=')
  match word.drop name.length with
  | '=' :: value => (name, some value)
  | _ => (name, none)

/-- An option whose spelling a word begins, with the value attached to it. -/
structure Candidate where
  spelling : String
  flag : Flag
  attached : Attached

/-- The options that a word may stand for. Behind a single dash and a letter a value may follow at
once. -/
def candidates (word : Text) : List Candidate :=
  match word with
  | '-' :: '-' :: _ =>
    let (name, value) := cutAtEquals word
    Flag.spellings.filterMap fun (spelling, known) =>
      if name.isPrefixOf spelling.toList then
        some ⟨spelling, known, value.elim .nothing fun text => .value (String.ofList text)⟩
      else none
  | _ =>
    Flag.spellings.filterMap fun (spelling, known) =>
      if spelling.toList == word.take 2 then
        some ⟨spelling, known, .letters (String.ofList (word.drop 2))⟩
      else if word.isPrefixOf spelling.toList then some ⟨spelling, known, .nothing⟩
      else none

def ofAbbreviation (typed : String) (word : Text) : Except Misuse Word :=
  match candidates word with
  | [candidate] => .ok (flag candidate.flag candidate.attached)
  | [] =>
    if isNegativeNumber word || word.contains ' ' then .ok (plain typed) else .ok (unknown typed)
  | several => .error (.ambiguous typed (several.map (·.spelling)))

def ofText (typed : String) : Except Misuse Word :=
  let word := typed.toList
  if word.head? != some '-' then .ok (plain typed)
  else
    match Flag.ofSpelling? typed with
    | some known => .ok (flag known .nothing)
    | none =>
      if word.length = 1 then .ok (plain typed)
      else
        let (name, value) := cutAtEquals word
        match value, Flag.ofSpelling? (String.ofList name) with
        | some value, some known => .ok (flag known (.value (String.ofList value)))
        | _, _ => ofAbbreviation typed word

def ofTexts : List String → Except Misuse (List Word)
  | [] => .ok []
  | typed :: texts =>
    if typed = "--" then .ok (separator :: texts.map plain)
    else do
      let word ← ofText typed
      return word :: (← ofTexts texts)

end Word

structure Arguments where
  query : String
  cards : Option String := none
  json : Bool := false
  logLevel : Option String := none
  wildcardRegex : Bool := false
deriving Repr, DecidableEq

inductive Request where
  | help
  | run (arguments : Arguments)
deriving Repr, DecidableEq

namespace Arguments

structure Reading where
  query : Option String := none
  options : Arguments := { query := "" }
  surplus : List String := []

def withValue (flag : Flag) (value : String) (options : Arguments) : Arguments :=
  match flag with
  | .cards => { options with cards := some (Store.Path.normalize value) }
  | .logLevel => { options with logLevel := some value }
  | _ => options

def withFlag (flag : Flag) (options : Arguments) : Arguments :=
  match flag with
  | .json => { options with json := true }
  | .wildcardRegex => { options with wildcardRegex := true }
  | _ => options

/-- The letters behind a short option are short options too. The only one asks for help, which is
given at the first letter that is none. -/
def cluster (flag : Flag) : List Char → Except Misuse Unit
  | [] => .ok ()
  | 'h' :: '=' :: value => .error (.valueIgnored flag (String.ofList value))
  | c :: rest =>
    if c == 'h' then cluster flag rest
    else if c == '-' then .error (.valueIgnored flag (String.ofList (c :: rest)))
    else .ok ()

def takePlain (text : String) (reading : Reading) : Reading :=
  match reading.query with
  | none => { reading with query := some text }
  | some _ => { reading with surplus := reading.surplus ++ [text] }

def takeSurplus (text : String) (reading : Reading) : Reading :=
  { reading with surplus := reading.surplus ++ [text] }

/-- Reads words in order; nothing is read behind a request for help. A double dash belongs to the query
next to it and is surplus elsewhere. -/
def readWords (reading : Reading) : List Word → Except Misuse (Option Reading)
  | [] => .ok (some reading)
  | .plain text :: .separator :: words =>
    match reading.query with
    | none => readWords (takePlain text reading) words
    | some _ => readWords (takeSurplus "--" (takeSurplus text reading)) words
  | .plain text :: words => readWords (takePlain text reading) words
  | .separator :: .plain text :: words =>
    match reading.query with
    | none => readWords (takePlain text reading) words
    | some _ => readWords (takeSurplus text (takeSurplus "--" reading)) words
  | .separator :: words => readWords (takeSurplus "--" reading) words
  | .unknown text :: words => readWords (takeSurplus text reading) words
  | .flag flag (.value value) :: words =>
    if flag.takesValue then
      readWords { reading with options := withValue flag value reading.options } words
    else .error (.valueIgnored flag value)
  | .flag flag (.letters letters) :: _ => (cluster flag letters.toList).map fun _ => none
  | .flag flag .nothing :: words =>
    if flag.takesValue then
      match words with
      | .plain value :: words =>
        readWords { reading with options := withValue flag value reading.options } words
      | _ => .error (.valueExpected flag)
    else if flag = .help then .ok none
    else readWords { reading with options := withFlag flag reading.options } words

def read (texts : List String) : Except Misuse Request := do
  match ← readWords {} (← Word.ofTexts texts) with
  | none => return .help
  | some reading =>
    match reading.query with
    | none => throw .queryMissing
    | some query =>
      if reading.surplus.isEmpty then return .run { reading.options with query }
      else throw (.unrecognized reading.surplus)

end Arguments

end CardSearch.CommandLine
