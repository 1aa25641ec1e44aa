import CardSearch.Text.Blank
import CardSearch.Value
/-!
Files of assignments: one `name=value` a line, with comments, optional quotes and an optional `export`
in front. A value may refer to variables that are known before it. Lines that break the rules are
skipped.
-/
namespace CardSearch.Settings.Assignments

def isGap (c : Char) : Bool := Text.isBlank c && c != '\n' && c != '\r'

def isLineEnd (c : Char) : Bool := c == '\n' || c == '\r'

def doubleEscape? : Char → Option Char
  | '\\' => some '\\'
  | '\'' => some '\''
  | '"' => some '"'
  | 'a' => some '\x07'
  | 'b' => some '\x08'
  | 'f' => some '\x0c'
  | 'n' => some '\n'
  | 'r' => some '\r'
  | 't' => some '\t'
  | 'v' => some '\x0b'
  | _ => none

def singleEscape? : Char → Option Char
  | '\\' => some '\\'
  | '\'' => some '\''
  | _ => none

def unescape (escape? : Char → Option Char) : Text → Text
  | '\\' :: c :: rest =>
    match escape? c with
    | some escaped => escaped :: unescape escape? rest
    | none => '\\' :: unescape escape? (c :: rest)
  | c :: rest => c :: unescape escape? rest
  | [] => []

/-- The content of a quoted value up to its closing quote, and what follows. A quote behind a backslash
does not close the value unless no other quote does. -/
def quoted? (quote : Char) : Text → Option (Text × Text)
  | [] => none
  | [c] => if c == quote then some ([], []) else none
  | c :: d :: rest =>
    if c == quote then some ([], d :: rest)
    else if c == '\\' && d == quote then
      match quoted? quote rest with
      | some (content, rest) => some ('\\' :: quote :: content, rest)
      | none => some (['\\'], rest)
    else (quoted? quote (d :: rest)).map fun (content, rest) => (c :: content, rest)

/-- A value without quotes up to a comment, which a blank sets off. `blank` says whether one stands in
front. -/
def beforeComment : (blank : Bool) → Text → Text
  | _, [] => []
  | blank, c :: rest =>
    if blank && c == '#' then [] else c :: beforeComment (Text.isBlank c) rest

def value? : Text → Option (Text × Text)
  | '\'' :: rest =>
    (quoted? '\'' rest).map fun (content, rest) => (unescape singleEscape? content, rest)
  | '"' :: rest =>
    (quoted? '"' rest).map fun (content, rest) => (unescape doubleEscape? content, rest)
  | text =>
    let line := text.takeWhile fun c => !isLineEnd c
    some (Text.trimEnd (beforeComment false line), text.drop line.length)

def dropExport : Text → Text
  | 'e' :: 'x' :: 'p' :: 'o' :: 'r' :: 't' :: c :: rest =>
    if isGap c then rest.dropWhile isGap else 'e' :: 'x' :: 'p' :: 'o' :: 'r' :: 't' :: c :: rest
  | text => text

/-- Reads a name; a comment has none. -/
def name? : Text → Option (Option Text × Text)
  | '#' :: rest => some (none, '#' :: rest)
  | '\'' :: rest =>
    let name := rest.takeWhile (· != '\'')
    match name, rest.drop name.length with
    | _ :: _, _ :: rest => some (some name, rest)
    | _, _ => none
  | text =>
    let name := text.takeWhile fun c => c != '=' && c != '#' && !Text.isBlank c
    if name.isEmpty then none else some (some name, text.drop name.length)

def lineEnd? (text : Text) : Option Text :=
  let text := match text.dropWhile isGap with
    | '#' :: rest => rest.dropWhile fun c => !isLineEnd c
    | rest => rest
  match text.dropWhile isGap with
  | [] => some []
  | '\r' :: '\n' :: rest => some rest
  | c :: rest => if isLineEnd c then some rest else none

/-- One line: what it assigns, if anything, and the rest of the file. -/
structure Line where
  assignment : Option (Text × Option Text)
  rest : Text

def skipLine (text : Text) : Text := (text.dropWhile fun c => !isLineEnd c).drop 1

def line (text : Text) : Line :=
  let text := dropExport text
  match name? text with
  | none => ⟨none, skipLine text⟩
  | some (name, rest) =>
    let rest := rest.dropWhile isGap
    match rest with
    | '=' :: rest =>
      let rest := rest.dropWhile isGap
      match value? rest with
      | none => ⟨none, skipLine rest⟩
      | some (value, rest) =>
        match lineEnd? rest with
        | none => ⟨none, skipLine rest⟩
        | some rest => ⟨name.map (·, some value), rest⟩
    | rest =>
      match lineEnd? rest with
      | none => ⟨none, skipLine rest⟩
      | some rest => ⟨name.map (·, none), rest⟩

/-- The assignments of a file in order; a name without a value assigns nothing. `fuel` bounds the number
of lines. -/
def linesOf : (fuel : Nat) → Text → List (Text × Option Text)
  | 0, _ => []
  | fuel + 1, text =>
    match Text.trimStart text with
    | [] => []
    | text =>
      let line := line text
      match line.assignment with
      | some assignment => assignment :: linesOf fuel line.rest
      | none => linesOf fuel line.rest

def unifyLineEnds : Text → Text
  | '\r' :: '\n' :: rest => '\n' :: unifyLineEnds rest
  | '\r' :: rest => '\n' :: unifyLineEnds rest
  | c :: rest => c :: unifyLineEnds rest
  | [] => []

/-- Reads a reference to a variable behind its dollar sign and brace: its name, its default, and what
follows. -/
def reference? (text : Text) : Option (Text × Option Text × Text) :=
  let name := text.takeWhile fun c => c != '}' && c != ':'
  match text.drop name.length with
  | '}' :: rest => some (name, none, rest)
  | ':' :: '-' :: rest =>
    let default := rest.takeWhile (· != '}')
    match rest.drop default.length with
    | '}' :: rest => some (name, some default, rest)
    | _ => none
  | _ => none

/-- Replaces the references of a value by the values of their variables. `fuel` bounds the number of
characters. -/
def expand (known : Text → Option Text) : (fuel : Nat) → Text → Text
  | 0, text => text
  | _, [] => []
  | fuel + 1, '$' :: '{' :: rest =>
    match reference? rest with
    | some (name, default, rest) => (known name).getD (default.getD []) ++ expand known fuel rest
    | none => '$' :: expand known fuel ('{' :: rest)
  | fuel + 1, c :: rest => c :: expand known fuel rest

def assign (name : Text) (value : Option Text) :
    List (Text × Option Text) → List (Text × Option Text)
  | [] => [(name, value)]
  | (key, old) :: others =>
    if key = name then (key, value) :: others else (key, old) :: assign name value others

/-- What a reference to a name stands for. A name that was mentioned without a value stands for
nothing. -/
def known (environment : List (Text × Text)) (assigned : List (Text × Option Text)) (name : Text) :
    Option Text :=
  match assigned.find? (·.1 == name) with
  | some (_, value) => some (value.getD [])
  | none => (environment.find? (·.1 == name)).map (·.2)

def read (environment : List (Text × Text)) (file : Text) : List (Text × Option Text) :=
  let text := unifyLineEnds file
  (linesOf (text.length + 1) text).foldl (fun assigned (name, value) =>
    assign name (value.map fun value => expand (known environment assigned) (value.length + 1) value)
      assigned) []

end CardSearch.Settings.Assignments
