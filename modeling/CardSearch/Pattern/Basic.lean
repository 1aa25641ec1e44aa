import CardSearch.Pattern.CharTest
import CardSearch.Pattern.Cursor
/-!
Patterns and their backtracking search. A pattern is run from a place in a text with a continuation
for what has to follow; of all ways to match, the first in the pattern's order of preference is
taken. Running is structural in the pattern, and a repetition goes on only while it makes progress,
so a search always ends.
-/
namespace CardSearch.Pattern

inductive Anchor where
  | textStart
  | textEnd
  | lastLineEnd
  | lineStart
  | lineEnd
  /-- Between a word character and something else, or (`negated`) anywhere else in a text that is
  not empty. -/
  | wordEdge (asciiOnly negated : Bool)
deriving Repr, DecidableEq

/-- Which number of repetitions is tried first, and whether others are tried at all. -/
inductive Greed where
  | most
  | least
  | mostOnly
deriving Repr, DecidableEq

end Pattern

inductive Pattern where
  | empty
  | one (test : Pattern.CharTest)
  | anchor (condition : Pattern.Anchor)
  | seq (first second : Pattern)
  | alt (first second : Pattern)
  | capture (group : Nat) (body : Pattern)
  | atomic (body : Pattern)
  /-- The body matches (or, if `negated`, does not match) from `behind` characters back. -/
  | look (behind : Nat) (negated : Bool) (body : Pattern)
  | again (group : Nat) (rule : Pattern.CaseRule)
  | ifCaptured (group : Nat) (yes no : Pattern)
  | many (least : Nat) (most : Option Nat) (greed : Pattern.Greed) (test : Pattern.CharTest)
  | repeat (least : Nat) (most : Option Nat) (greed : Pattern.Greed) (body : Pattern)
deriving Repr, DecidableEq

namespace Pattern

def ofList : List Pattern → Pattern
  | [] => .empty
  | [part] => part
  | part :: parts => .seq part (ofList parts)

/-- Where a match has come to, and what its groups captured, latest first. -/
structure State where
  place : Cursor
  captures : List (Nat × Text)
deriving Repr, DecidableEq

def isWordAt (asciiOnly : Bool) : Text → Bool
  | [] => false
  | c :: _ => CharKind.word.holds asciiOnly c

def startsLine : Text → Bool
  | [] => true
  | c :: _ => c == '\n'

def Anchor.holds (place : Cursor) : Anchor → Bool
  | .textStart => place.behind.isEmpty
  | .textEnd => place.ahead.isEmpty
  | .lastLineEnd => place.ahead.isEmpty || place.ahead == ['\n']
  | .lineStart => startsLine place.behind
  | .lineEnd => startsLine place.ahead
  | .wordEdge asciiOnly negated =>
    !(place.behind.isEmpty && place.ahead.isEmpty) &&
      (isWordAt asciiOnly place.behind != isWordAt asciiOnly place.ahead) != negated

def dropMatching (rule : CaseRule) : (expected text : Text) → Option Text
  | [], text => some text
  | _ :: _, [] => none
  | e :: expected, c :: text =>
    if lettersAgree e c then dropMatching rule expected text else none
where
  lettersAgree (e c : Char) : Bool :=
    match rule with
    | .allScripts => Text.lowerCode e.toNat == Text.lowerCode c.toNat
    | _ => rule.same e.toNat c.toNat

abbrev Continuation := State → Option State

def tryShorter (next : Cursor → Option State) : (extra : Nat) → Cursor → Option State
  | 0, place => next place
  | extra + 1, place =>
    match next place with
    | some result => some result
    | none => tryShorter next extra place.back

def tryLonger (next : Cursor → Option State) : (extra : Nat) → Cursor → Option State
  | 0, place => next place
  | extra + 1, place =>
    match next place with
    | some result => some result
    | none => tryLonger next extra place.next

def runLength (test : CharTest) (most : Option Nat) (ahead : Text) : Nat :=
  let run := (ahead.takeWhile (CharTest.accepts · test)).length
  match most with
  | some bound => min bound run
  | none => run

def runMany (least : Nat) (most : Option Nat) (greed : Greed) (test : CharTest) (state : State)
    (next : Continuation) : Option State :=
  let run := runLength test most state.place.ahead
  let resume := fun place => next { state with place }
  if run < least then none
  else
    match greed with
    | .most => tryShorter resume (run - least) (state.place.forward run)
    | .least => tryLonger resume (run - least) (state.place.forward least)
    | .mostOnly => resume (state.place.forward run)

abbrev Runner := State → Continuation → Option State

def repeatExactly (body : Runner) : (count : Nat) → Runner
  | 0, state, next => next state
  | count + 1, state, next => body state fun reached => repeatExactly body count reached next

def fewer (most : Option Nat) : Option Nat := most.map (· - 1)

/-- The body as often as possible. A repetition that reads nothing is the last one. -/
def repeatMost (body : Runner) (most : Option Nat) (state : State) (next : Continuation) :
    Option State :=
  if most = some 0 then next state
  else
    match body state fun reached =>
        if reached.place.ahead.length < state.place.ahead.length then
          repeatMost body (fewer most) reached next
        else next reached with
    | some result => some result
    | none => next state
termination_by state.place.ahead.length

/-- The body as seldom as possible. A repetition that reads nothing is the last one. -/
def repeatLeast (body : Runner) (most : Option Nat) (state : State) (next : Continuation) :
    Option State :=
  match next state with
  | some result => some result
  | none =>
    if most = some 0 then none
    else
      body state fun reached =>
        if reached.place.ahead.length < state.place.ahead.length then
          repeatLeast body (fewer most) reached next
        else next reached
termination_by state.place.ahead.length

def repeatOnly (body : Runner) (most : Option Nat) (state : State) (next : Continuation) :
    Option State :=
  if most = some 0 then next state
  else
    match body state some with
    | none => next state
    | some reached =>
      if reached.place.ahead.length < state.place.ahead.length then
        repeatOnly body (fewer most) reached next
      else next reached
termination_by state.place.ahead.length

def repeatExactlyOnly (body : Runner) : (count : Nat) → State → Option State
  | 0, state => some state
  | count + 1, state =>
    match body state some with
    | none => none
    | some reached => repeatExactlyOnly body count reached

def runRepeat (least : Nat) (most : Option Nat) (greed : Greed) (body : Runner) (state : State)
    (next : Continuation) : Option State :=
  let more := most.map (· - least)
  match greed with
  | .most => repeatExactly body least state fun reached => repeatMost body more reached next
  | .least => repeatExactly body least state fun reached => repeatLeast body more reached next
  | .mostOnly =>
    match repeatExactlyOnly body least state with
    | none => none
    | some reached => repeatOnly body more reached next

def captured? (state : State) (group : Nat) : Option Text := state.captures.lookup group

def run : Pattern → State → Continuation → Option State
  | .empty, state, next => next state
  | .one test, state, next =>
    match state.place.ahead with
    | [] => none
    | c :: _ => if test.accepts c then next { state with place := state.place.next } else none
  | .anchor condition, state, next => if condition.holds state.place then next state else none
  | .seq first second, state, next => run first state fun reached => run second reached next
  | .alt first second, state, next =>
    match run first state next with
    | some result => some result
    | none => run second state next
  | .capture group body, state, next =>
    run body state fun reached =>
      let text := state.place.ahead.take (reached.place.position - state.place.position)
      next { reached with captures := (group, text) :: reached.captures }
  | .atomic body, state, next =>
    match run body state some with
    | none => none
    | some reached => next reached
  | .look behind negated body, state, next =>
    let found :=
      if state.place.position < behind then none
      else run body { state with place := state.place.backward behind } some
    match negated, found with
    | false, some reached => next { state with captures := reached.captures }
    | true, none => next state
    | _, _ => none
  | .again group rule, state, next =>
    match captured? state group with
    | none => none
    | some text =>
      match dropMatching rule text state.place.ahead with
      | none => none
      | some _ => next { state with place := state.place.forward text.length }
  | .ifCaptured group yes no, state, next =>
    match captured? state group with
    | some _ => run yes state next
    | none => run no state next
  | .many least most greed test, state, next => runMany least most greed test state next
  | .repeat least most greed body, state, next => runRepeat least most greed (run body) state next

def matchAt? (pattern : Pattern) (place : Cursor) : Option Nat :=
  (pattern.run ⟨place, []⟩ some).map (·.place.position)

def searchFrom (pattern : Pattern) (position : Nat) (behind : Text) : Text → Option (Nat × Nat)
  | [] => (pattern.matchAt? ⟨position, behind, []⟩).map (position, ·)
  | c :: rest =>
    match pattern.matchAt? ⟨position, behind, c :: rest⟩ with
    | some stop => some (position, stop)
    | none => searchFrom pattern (position + 1) (c :: behind) rest

def search? (pattern : Pattern) (text : Text) : Option (Nat × Nat) :=
  searchFrom pattern 0 [] text

def occursIn (pattern : Pattern) (text : Text) : Bool := (pattern.search? text).isSome

end Pattern

end CardSearch
