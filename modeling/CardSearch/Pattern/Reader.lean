import CardSearch.Pattern.Basic
import CardSearch.Pattern.Token
import CardSearch.Text.CharacterName
import CardSearch.Text.Identifier
import CardSearch.Text.Numeral
/-!
Reading a written pattern. The reader goes through the tokens once; groups, names and widths that
it has met so far decide which references are allowed. Every step takes one unit of a fuel that the
number of tokens bounds.
-/
namespace CardSearch.Pattern

/-- The least and the greatest number of characters that a pattern matches; `none` has no bound. -/
structure Width where
  least : Nat
  most : Option Nat
deriving Repr, DecidableEq

namespace Width

def fixed (n : Nat) : Width := ⟨n, some n⟩

def add (a b : Width) : Width := ⟨a.least + b.least, a.most.bind fun m => b.most.map (m + ·)⟩

def join (a b : Width) : Width :=
  ⟨min a.least b.least, a.most.bind fun m => b.most.map (max m ·)⟩

def times (width : Width) (least : Nat) (most : Option Nat) : Width :=
  ⟨width.least * least,
    if width.most = some 0 then some 0 else width.most.bind fun m => most.map (m * ·)⟩

end Width

def width (groups : List (Nat × Width)) : Pattern → Width
  | .empty => .fixed 0
  | .one _ => .fixed 1
  | .anchor _ => .fixed 0
  | .seq first second => (width groups first).add (width groups second)
  | .alt first second => (width groups first).join (width groups second)
  | .capture _ body => width groups body
  | .atomic body => width groups body
  | .look _ _ _ => .fixed 0
  | .again group _ => (groups.lookup group).getD (.fixed 0)
  | .ifCaptured _ yes no => (width groups yes).join (width groups no)
  | .many least most _ _ => (Width.fixed 1).times least most
  | .repeat least most _ body => (width groups body).times least most

/-- How the letters of a pattern are taken; a group may change it for its body. -/
structure Flags where
  ignoreCase : Bool := true
  asciiOnly : Bool := false
  lines : Bool := false
  dotAll : Bool := false
  verbose : Bool := false
deriving Repr, DecidableEq

def Flags.rule (flags : Flags) : CaseRule :=
  if !flags.ignoreCase then .exact else if flags.asciiOnly then .latin else .allScripts

/-- What the reader has still to read, and what it has learnt about groups. -/
structure Reading where
  tokens : List Token
  position : Nat
  nextGroup : Nat
  widths : List (Nat × Width)
  names : List (Text × Nat)
  /-- The groups that conditions ask about, with the place of the first mention. -/
  conditions : List (Nat × Nat)
  lookbehindFrom : Option Nat
  /-- Lookbehinds without a usable width, with the places where they start. -/
  misfits : List (Nat × Malformed)
deriving Repr

abbrev ReadM := StateT Reading (Except Fault)

namespace Reading

def start (tokens : List Token) : Reading := ⟨tokens, 0, 1, [], [], [], none, []⟩

def isClosed (reading : Reading) (group : Nat) : Bool := (reading.widths.lookup group).isSome

end Reading

def fail {α : Type} (reason : Malformed) (back : Nat := 0) : ReadM α := do
  throw (.malformed reason (some ((← get).position - back)))

def failAt {α : Type} (reason : Malformed) (place : Nat) : ReadM α :=
  throw (.malformed reason (some place))

def peek : ReadM (Option Token) := return (← get).tokens.head?

def position : ReadM Nat := return (← get).position

def next? : ReadM (Option Token) := do
  let reading ← get
  match reading.tokens with
  | [] => return none
  | token :: tokens =>
    set { reading with tokens, position := reading.position + token.length }
    return some token

def accept (c : Char) : ReadM Bool := do
  if (← peek) = some (.plain c) then
    let _ ← next?
    return true
  else return false

def readWhile (holds : Char → Bool) : (count : Nat) → ReadM Text
  | 0 => return []
  | count + 1 => do
    match ← peek with
    | some (.plain c) =>
      if holds c then
        let _ ← next?
        return c :: (← readWhile holds count)
      else return []
    | _ => return []

/-- Passes over tokens up to and including the first `closer`; false if there is none. -/
def skipPast (closer : Char) : (tokens : List Token) → ReadM Bool
  | [] => return false
  | _ :: tokens => do
    if (← next?) = some (.plain closer) then return true else skipPast closer tokens

def readName (closer : Char) (what : String) : ReadM Text := do
  let name ← collect [] (← get).tokens
  if name.isEmpty then fail (.missing what) 1 else return name
where
  collect (read : Text) : (tokens : List Token) → ReadM Text
    | [] => unterminated read
    | _ :: tokens => do
      match ← next? with
      | none => unterminated read
      | some token =>
        if token = .plain closer then return read else collect (read ++ token.written) tokens
  unterminated (read : Text) : ReadM Text :=
    if read.isEmpty then fail (.missing what)
    else fail (.unterminatedName closer) read.length

def isAsciiDigit (c : Char) : Bool := '0' ≤ c && c ≤ '9'

def isOctalDigit (c : Char) : Bool := '0' ≤ c && c ≤ '7'

def isHexDigit (c : Char) : Bool :=
  isAsciiDigit c || ('a' ≤ c && c ≤ 'f') || ('A' ≤ c && c ≤ 'F')

def isLatinLetter (c : Char) : Bool := ('a' ≤ c && c ≤ 'z') || ('A' ≤ c && c ≤ 'Z')

def hexValue (c : Char) : Nat :=
  if isAsciiDigit c then c.toNat - '0'.toNat
  else if 'a' ≤ c then c.toNat - 'a'.toNat + 10
  else c.toNat - 'A'.toNat + 10

def numberInBase (base : Nat) (digits : Text) : Nat :=
  digits.foldl (fun number c => base * number + hexValue c) 0

/-- The characters that a letter after a backslash stands for; a backslash stands for itself. -/
def controlEscape? : Char → Option Nat
  | 'a' => some 7
  | 'b' => some 8
  | 'f' => some 12
  | 'n' => some 10
  | 'r' => some 13
  | 't' => some 9
  | 'v' => some 11
  | '\\' => some 92
  | _ => none

/-- The kind of characters that a letter after a backslash names, and whether it is negated. -/
def kindEscape? : Char → Option (CharKind × Bool)
  | 'd' => some (.digit, false)
  | 'D' => some (.digit, true)
  | 's' => some (.space, false)
  | 'S' => some (.space, true)
  | 'w' => some (.word, false)
  | 'W' => some (.word, true)
  | _ => none

def anchorEscape? (flags : Flags) : Char → Option Anchor
  | 'A' => some .textStart
  | 'Z' => some .textEnd
  | 'b' => some (.wordEdge flags.asciiOnly false)
  | 'B' => some (.wordEdge flags.asciiOnly true)
  | _ => none

def readHex (letter : Char) (count : Nat) : ReadM Nat := do
  let digits ← readWhile isHexDigit count
  let written := '\\' :: letter :: digits
  if digits.length ≠ count then fail (.incompleteEscape written) written.length
  let code := numberInBase 16 digits
  if code > 0x10ffff then fail (.badEscape written) written.length
  return code

def readNamed : ReadM Nat := do
  if !(← accept '{') then fail (.missing "\x7b")
  let name ← readName '}' "character name"
  match Text.characterNamed? name with
  | some code => return code
  | none => fail (.unknownCharacterName name) (name.length + 4)

def readWrittenOut? (letter : Char) : ReadM (Option Nat) := do
  match letter with
  | 'x' => return some (← readHex letter 2)
  | 'u' => return some (← readHex letter 4)
  | 'U' => return some (← readHex letter 8)
  | 'N' => return some (← readNamed)
  | _ => return none

def badEscape {α : Type} (written : Text) : ReadM α := fail (.badEscape written) written.length

def octalCode (digits : Text) : ReadM Nat := do
  let code := numberInBase 8 digits
  if code > 0o377 then
    fail (.octalTooLarge ('\\' :: digits)) (digits.length + 1)
  return code

def readSetEscape (flags : Flags) (letter : Char) : ReadM SetItem := do
  if let some code := controlEscape? letter then return .letter code
  if let some (kind, negated) := kindEscape? letter then
    return .ofKind kind flags.asciiOnly negated
  if let some code ← readWrittenOut? letter then return .letter code
  if isOctalDigit letter then
    let more ← readWhile isOctalDigit 2
    return .letter (← octalCode (letter :: more))
  if isAsciiDigit letter || isLatinLetter letter then badEscape ['\\', letter]
  return .letter letter.toNat

def checkLookbehind (group : Nat) : ReadM Unit := do
  let reading ← get
  if let some first := reading.lookbehindFrom then
    if !reading.isClosed group then fail .groupStillOpen
    if group ≥ first then fail .groupOfSameLookbehind

/-- A part of a sequence, with what matters for a quantifier after it. -/
inductive Part where
  | anchor (pattern : Pattern)
  | repetition (pattern : Pattern)
  | other (pattern : Pattern)
deriving Repr

def Part.pattern : Part → Pattern
  | .anchor pattern => pattern
  | .repetition pattern => pattern
  | .other pattern => pattern

def Part.letter (flags : Flags) (code : Nat) : Part := .other (.one (.letter code flags.rule))

def readBackReference (flags : Flags) (digits : Text) : ReadM Part := do
  let group := numberInBase 10 digits
  let reading ← get
  if group < reading.nextGroup then
    if !reading.isClosed group then fail .groupStillOpen (digits.length + 1)
    checkLookbehind group
    return .other (.again group flags.rule)
  fail (.unknownGroup group) digits.length

/-- What an escape that starts with a digit stands for, outside a set: a character in octal if it
starts with a zero or has three octal digits, and a reference to a group otherwise. -/
def readDigitEscape (flags : Flags) (digit : Char) : ReadM Part := do
  if digit = '0' then
    let more ← readWhile isOctalDigit 2
    return .letter flags (numberInBase 8 more)
  match ← readWhile isAsciiDigit 1 with
  | [second] =>
    if isOctalDigit digit && isOctalDigit second then
      if let [third] ← readWhile isOctalDigit 1 then
        return .letter flags (← octalCode [digit, second, third])
    readBackReference flags [digit, second]
  | _ => readBackReference flags [digit]

def readEscape (flags : Flags) (letter : Char) : ReadM Part := do
  if let some condition := anchorEscape? flags letter then return .anchor (.anchor condition)
  if let some (kind, negated) := kindEscape? letter then
    return .other (.one (.oneOf [.ofKind kind flags.asciiOnly negated] flags.rule))
  if let some code := controlEscape? letter then return .letter flags code
  if let some code ← readWrittenOut? letter then return .letter flags code
  if isAsciiDigit letter then return ← readDigitEscape flags letter
  if isLatinLetter letter then badEscape ['\\', letter]
  return .letter flags letter.toNat

def readSetItem (flags : Flags) : Token → ReadM SetItem
  | .plain c => return .letter c.toNat
  | .escaped c => readSetEscape flags c

/-- The items of a set up to its closing bracket, latest first; `opened` is where it starts. -/
def readSetItems (flags : Flags) (opened : Nat) : (fuel : Nat) → List SetItem → ReadM (List SetItem)
  | 0, _ => failAt .unterminatedSet opened
  | fuel + 1, items => do
    let some first ← next? | failAt .unterminatedSet opened
    if first = .plain ']' && !items.isEmpty then return items
    let item ← readSetItem flags first
    if !(← accept '-') then return ← readSetItems flags opened fuel (item :: items)
    let some last ← next? | failAt .unterminatedSet opened
    if last = .plain ']' then return .letter '-'.toNat :: item :: items
    let other ← readSetItem flags last
    let badRange := Malformed.badRange first.written last.written
    match item, other with
    | .letter low, .letter high =>
      if high < low then fail badRange (first.length + 1 + last.length)
      readSetItems flags opened fuel (.range low high :: items)
    | _, _ => fail badRange (first.length + 1 + last.length)

/-- A set of characters, after its opening bracket. A set of one letter is that letter. -/
def readSet (flags : Flags) : ReadM CharTest := do
  let opened := (← position) - 1
  let negated ← accept '^'
  let items ← readSetItems flags opened ((← get).tokens.length + 1) []
  match items.reverse.eraseDups, negated with
  | [.letter code], false => return .letter code flags.rule
  | [.letter code], true => return .otherThan code flags.rule
  | items, false => return .oneOf items flags.rule
  | items, true => return .noneOf items flags.rule

def repetitionLimit : Nat := 4294967295

def repetitionCount (digits : Text) : ReadM Nat := do
  if digits.length > Text.maxNumeralDigits then throw (.numeralTooLong digits.length)
  let count := numberInBase 10 digits
  if count ≥ repetitionLimit then throw .repetitionTooLarge
  return count

/-- The bounds of a repetition between braces, after the opening one; `none` if the brace opens no
repetition and stands for itself. -/
def readBounds? : ReadM (Option (Nat × Option Nat)) := do
  let reading ← get
  if (← peek) = some (.plain '}') then return none
  let low ← readWhile isAsciiDigit reading.tokens.length
  let high ← if ← accept ',' then readWhile isAsciiDigit reading.tokens.length else pure low
  if !(← accept '}') then
    set reading
    return none
  let least ← if low.isEmpty then pure 0 else repetitionCount low
  if high.isEmpty then return some (least, none)
  let most ← repetitionCount high
  if most < least then failAt .boundsReversed reading.position
  return some (least, some most)

/-- The repetition that a quantifier asks for; a run of single characters has a form of its own. -/
def repetition (least : Nat) (most : Option Nat) (greed : Greed) : Pattern → Pattern
  | .one test => .many least most greed test
  | body => .repeat least most greed body

def readGreed : ReadM Greed := do
  if ← accept '?' then return .least
  if ← accept '+' then return .mostOnly
  return .most

/-- Puts a quantifier on the latest part. `place` is where the quantifier stands. -/
def quantify (least : Nat) (most : Option Nat) (place : Nat) : List Part → ReadM (List Part)
  | [] => failAt .nothingToRepeat place
  | .anchor _ :: _ => failAt .nothingToRepeat place
  | .repetition _ :: _ => failAt .repeatedTwice place
  | .other body :: parts => do
    let greed ← readGreed
    return .repetition (repetition least most greed body) :: parts

def isFlag : Token → Bool := Token.isPlain "iLmsxatu".toList.contains

def notAFlag {α : Type} (what : String) (token : Token) : ReadM α :=
  if token.isPlain Text.isLetter then fail .unknownFlag token.length
  else fail (.missing what) token.length

def readFlagsOn : (fuel : Nat) → Token → Text → ReadM (Text × Token)
  | 0, _, _ => fail (.missing "-, : or )")
  | fuel + 1, token, on => do
    let .plain flag := token | fail .unknownFlag
    if flag = 'L' then fail .localeFlag
    let on := flag :: on
    if on.contains 'a' && on.contains 'u' && (flag = 'a' || flag = 'u') then
      fail .incompatibleFlags
    let some after ← next? | fail (.missing "-, : or )")
    if after.isPlain ")-:".toList.contains then return (on, after)
    if !isFlag after then notAFlag "-, : or )" after
    readFlagsOn fuel after on

def readFlagsOff : (fuel : Nat) → Token → Text → ReadM Text
  | 0, _, _ => fail (.missing ":")
  | fuel + 1, token, off => do
    let .plain flag := token | fail .unknownFlag
    if "auL".toList.contains flag then fail .alphabetFlagOff
    let some after ← next? | fail (.missing ":")
    if after = .plain ':' then return flag :: off
    if !isFlag after then notAFlag ":" after
    readFlagsOff fuel after (flag :: off)

/-- The flags inside a group that turns some on or off, beginning with `token`. Flags without a body
would hold for the whole pattern and are refused; `opened` is where the group starts. -/
def readFlags (flags : Flags) (opened : Nat) (token : Token) : ReadM Flags := do
  let fuel := (← get).tokens.length + 1
  let (on, after) ←
    if token = .plain '-' then pure ([], token) else readFlagsOn fuel token []
  if after = .plain ')' then failAt .misplacedFlags opened
  if on.contains 't' then fail .globalFlagOn 1
  let off ←
    if after = .plain '-' then
      let some first ← next? | fail (.missing "flag")
      if !isFlag first then notAFlag "flag" first
      readFlagsOff fuel first []
    else pure []
  if off.contains 't' then fail .globalFlagOff 1
  if on.any off.contains then fail .flagOnAndOff 1
  let holds (flag : Char) (before : Bool) := (before || on.contains flag) && !off.contains flag
  return {
    ignoreCase := holds 'i' flags.ignoreCase
    asciiOnly := if on.contains 'a' then true else if on.contains 'u' then false else flags.asciiOnly
    lines := holds 'm' flags.lines
    dotAll := holds 's' flags.dotAll
    verbose := holds 'x' flags.verbose }

def readGroupName (closer : Char) : ReadM Text := do
  let name ← readName closer "group name"
  if !Text.isIdentifier name then fail (.badGroupName name) (name.length + 1)
  return name

def groupLimit : Nat := 1073741823

def readCondition : ReadM Nat := do
  let name ← readName ')' "group name"
  let back := name.length + 1
  if Text.isIdentifier name then
    match (← get).names.lookup name with
    | some group => return group
    | none => fail (.unknownGroupName name) back
  match Text.integer? name with
  | some (.ofNat 0) => fail .badGroupNumber back
  | some (.ofNat group) =>
    if group ≥ groupLimit then fail (.unknownGroup group) back
    let reading ← get
    if (reading.conditions.lookup group).isNone then
      set { reading with conditions := reading.conditions ++ [(group, reading.position - back)] }
    return group
  | _ => fail (.badGroupName name) back

def openGroup (name : Option Text) : ReadM Nat := do
  let reading ← get
  let group := reading.nextGroup
  match name with
  | none => set { reading with nextGroup := group + 1 }
  | some name =>
    if let some earlier := reading.names.lookup name then
      fail (.groupNameTaken name group earlier) (name.length + 1)
    set { reading with nextGroup := group + 1, names := (name, group) :: reading.names }
  return group

def closeGroup (group : Nat) (body : Pattern) : ReadM Unit :=
  modify fun reading =>
    { reading with widths := (group, width reading.widths body) :: reading.widths }

def expectClose (opened : Nat) : ReadM Unit := do
  if !(← accept ')') then failAt .unterminatedGroup opened

def lookbehindLimit : Nat := 4294967295

def lookBehind (opened : Nat) (negated : Bool) (body : Pattern) : ReadM Pattern := do
  let reading ← get
  let width := width reading.widths body
  let misfit :=
    if width.least > lookbehindLimit then some Malformed.lookbehindTooWide
    else if width.most ≠ some width.least then some .lookbehindUneven
    else none
  if let some reason := misfit then
    set { reading with misfits := (opened, reason) :: reading.misfits }
  return .look width.least negated body

/-- The set that single-character branches amount to, if all of them are letters or plain sets. -/
def commonSet? (rule : CaseRule) : List Pattern → Option (List SetItem)
  | [] => some []
  | .one (.letter code own) :: branches =>
    if own = rule then (commonSet? rule branches).map (.letter code :: ·) else none
  | .one (.oneOf items own) :: branches =>
    if own = rule then (commonSet? rule branches).map (items ++ ·) else none
  | _ => none

/-- The choice between branches, in their order. Branches of one character each form a set. -/
def choice (rule : CaseRule) : List Pattern → Pattern
  | [branch] => branch
  | branches =>
    match commonSet? rule branches with
    | some items => .one (.oneOf items.eraseDups rule)
    | none => alternatives branches
where
  alternatives : List Pattern → Pattern
    | [] => .empty
    | [branch] => branch
    | branch :: branches => .alt branch (alternatives branches)

def isLayout (token : Token) : Bool :=
  token.isPlain " \t\n\r\x0b\x0c".toList.contains

mutual

def readBranches (flags : Flags) (depth : Nat) : (fuel : Nat) → ReadM (List Pattern)
  | 0 => throw .nestedTooDeep
  | fuel + 1 => do
    let branch ← readParts flags depth fuel []
    if ← accept '|' then return branch :: (← readBranches flags depth fuel)
    return [branch]

/-- The parts of a sequence, up to the end, a bar or a closing parenthesis. The parts read so far
are given latest first. -/
def readParts (flags : Flags) (depth : Nat) : (fuel : Nat) → List Part → ReadM Pattern
  | 0, _ => throw .nestedTooDeep
  | fuel + 1, parts => do
    let finished := Pattern.ofList (parts.reverse.map Part.pattern)
    let some token ← peek | return finished
    if token.isPlain "|)".toList.contains then return finished
    let _ ← next?
    if flags.verbose && isLayout token then
      return ← readParts flags depth fuel parts
    if flags.verbose && token = .plain '#' then
      let _ ← skipPast '\n' (← get).tokens
      return ← readParts flags depth fuel parts
    let here ← position
    match token with
    | .escaped letter =>
      let part ← readEscape flags letter
      readParts flags depth fuel (part :: parts)
    | .plain '[' =>
      let test ← readSet flags
      readParts flags depth fuel (.other (.one test) :: parts)
    | .plain '.' => readParts flags depth fuel (.other (.one (.any flags.dotAll)) :: parts)
    | .plain '^' =>
      let condition := if flags.lines then Anchor.lineStart else .textStart
      readParts flags depth fuel (.anchor (.anchor condition) :: parts)
    | .plain '$' =>
      let condition := if flags.lines then Anchor.lineEnd else .lastLineEnd
      readParts flags depth fuel (.anchor (.anchor condition) :: parts)
    | .plain '?' =>
      let parts ← quantify 0 (some 1) (here - 1) parts
      readParts flags depth fuel parts
    | .plain '*' =>
      let parts ← quantify 0 none (here - 1) parts
      readParts flags depth fuel parts
    | .plain '+' =>
      let parts ← quantify 1 none (here - 1) parts
      readParts flags depth fuel parts
    | .plain '{' =>
      match ← readBounds? with
      | none => readParts flags depth fuel (.letter flags '{'.toNat :: parts)
      | some (least, most) =>
        let parts ← quantify least most (here - 1) parts
        readParts flags depth fuel parts
    | .plain '(' =>
      let part ← readGroup flags depth fuel (here - 1)
      readParts flags depth fuel (part.toList.map Part.other ++ parts)
    | .plain c => readParts flags depth fuel (.letter flags c.toNat :: parts)

/-- What a parenthesis that stands at `opened` begins; a comment is no part of the pattern. -/
def readGroup (flags : Flags) (depth : Nat) : (fuel : Nat) → (opened : Nat) → ReadM (Option Pattern)
  | 0, _ => throw .nestedTooDeep
  | fuel + 1, opened => do
    if !(← accept '?') then
      let group ← openGroup none
      return some (← readCapture flags depth fuel opened group)
    let some token ← next? | fail .unexpectedEnd
    match token with
    | .plain 'P' =>
      if ← accept '<' then
        let name ← readGroupName '>'
        let group ← openGroup (some name)
        return some (← readCapture flags depth fuel opened group)
      if ← accept '=' then
        let name ← readGroupName ')'
        let some group := (← get).names.lookup name
          | fail (.unknownGroupName name) (name.length + 1)
        if !(← get).isClosed group then fail .groupStillOpen (name.length + 1)
        checkLookbehind group
        return some (.again group flags.rule)
      let some token ← next? | fail .unexpectedEnd
      fail (.unknownExtension ('?' :: 'P' :: token.written)) (token.length + 2)
    | .plain ':' =>
      let body ← readBody flags depth fuel
      expectClose opened
      return some body
    | .plain '#' =>
      if ← skipPast ')' (← get).tokens then return none
      failAt .unterminatedComment opened
    | .plain '=' => return some (← readLookahead flags depth fuel opened false)
    | .plain '!' => return some (← readLookahead flags depth fuel opened true)
    | .plain '<' =>
      let some token ← next? | fail .unexpectedEnd
      if token = .plain '=' then return some (← readLookbehind flags depth fuel opened false)
      if token = .plain '!' then return some (← readLookbehind flags depth fuel opened true)
      fail (.unknownExtension ('?' :: '<' :: token.written)) (token.length + 2)
    | .plain '(' =>
      let group ← readCondition
      checkLookbehind group
      let yes ← readParts flags depth fuel []
      let no ←
        if ← accept '|' then
          let no ← readParts flags depth fuel []
          if (← peek) = some (.plain '|') then fail .moreThanTwoBranches
          pure no
        else pure .empty
      expectClose opened
      return some (.ifCaptured group yes no)
    | .plain '>' =>
      let body ← readBody flags depth fuel
      expectClose opened
      return some (.atomic body)
    | token =>
      if isFlag token || token = .plain '-' then
        let inner ← readFlags flags opened token
        let body ← readBody inner depth fuel
        expectClose opened
        return some body
      fail (.unknownExtension ('?' :: token.written)) (token.length + 1)

def readBody (flags : Flags) (depth : Nat) : (fuel : Nat) → ReadM Pattern
  | 0 => throw .nestedTooDeep
  | fuel + 1 =>
    match depth with
    | 0 => throw .nestedTooDeep
    | depth + 1 => return choice flags.rule (← readBranches flags depth fuel)

def readCapture (flags : Flags) (depth : Nat) : (fuel : Nat) → (opened group : Nat) → ReadM Pattern
  | 0, _, _ => throw .nestedTooDeep
  | fuel + 1, opened, group => do
    let body ← readBody flags depth fuel
    expectClose opened
    closeGroup group body
    return .capture group body

def readLookahead (flags : Flags) (depth : Nat) :
    (fuel : Nat) → (opened : Nat) → (negated : Bool) → ReadM Pattern
  | 0, _, _ => throw .nestedTooDeep
  | fuel + 1, opened, negated => do
    let body ← readBody flags depth fuel
    expectClose opened
    return .look 0 negated body

/-- A look behind the place. Groups that it opens may not be referred to inside it. -/
def readLookbehind (flags : Flags) (depth : Nat) :
    (fuel : Nat) → (opened : Nat) → (negated : Bool) → ReadM Pattern
  | 0, _, _ => throw .nestedTooDeep
  | fuel + 1, opened, negated => do
    let outer := (← get).lookbehindFrom
    modify fun reading =>
      { reading with lookbehindFrom := some (outer.getD reading.nextGroup) }
    let body ← readBody flags depth fuel
    modify fun reading => { reading with lookbehindFrom := outer }
    expectClose opened
    lookBehind opened negated body

end

def maxDepth : Nat := 490

def readWhole (fuel : Nat) : ReadM Pattern := do
  let flags : Flags := {}
  let branches ← readBranches flags maxDepth fuel
  let reading ← get
  if !reading.tokens.isEmpty then fail .unbalancedParenthesis
  if let some (group, place) := reading.conditions.find? (·.1 ≥ reading.nextGroup) then
    failAt (.unknownGroup group) place
  if let some (_, reason) := firstMisfit reading.misfits then
    throw (.malformed reason none)
  return choice flags.rule branches
where
  firstMisfit : List (Nat × Malformed) → Option (Nat × Malformed)
    | [] => none
    | misfit :: misfits =>
      match firstMisfit misfits with
      | some other => if other.1 < misfit.1 then some other else some misfit
      | none => some misfit

/-- The pattern that a text writes, with letters of either case alike. Each token leads to at most
six steps, one inside another. -/
def read? (text : Text) : Except Fault Pattern := do
  let tokens ← Token.readFrom 0 text
  let (pattern, _) ← (readWhole (6 * tokens.length + 6)).run (.start tokens)
  return pattern

end CardSearch.Pattern
