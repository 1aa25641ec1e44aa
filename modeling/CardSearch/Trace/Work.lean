import CardSearch.Trace.Span
/-!
Work inside spans. Each piece of work opens a span, points the log context at it, does its parts in
order and may raise an error at its end. A piece of work handles the errors of its parts, except for
parts that let them through. The log context stays at the span that was opened last.
-/
namespace CardSearch.Trace

inductive Work where
  | mk (name : String) (attributes : List (String × Value)) (parts : List Work)
    (raises : Option Raised) (letsThrough : Bool)
deriving Inhabited

def Work.name : Work → String
  | mk name .. => name

def Work.letsThrough : Work → Bool
  | mk _ _ _ _ letsThrough => letsThrough

/-- A moment of some work, with the span id of the log context at that moment. -/
inductive Moment where
  | entered (name : String) (spanId : Option String)
  | caught (part : String) (raised : Raised)
  | left (part : String) (spanId : Option String)
  | ended (name : String) (spanId : Option String) (raised : Option Raised)

/-- What was done so far: the log context, the spans that were opened and finished, and the moments, the
latest first. -/
structure Progress where
  context : Option Log.Context
  opened : List (String × String) := []
  finished : List Span := []
  moments : List Moment := []

namespace Progress

def spanId (progress : Progress) : Option String := progress.context.bind (·.spanId)

def note (moment : Moment) (progress : Progress) : Progress :=
  { progress with moments := moment :: progress.moments }

def nextId (progress : Progress) : String :=
  String.ofList (Text.hexDigits 16 (progress.opened.length + 1))

def openSpan (name : String) (progress : Progress) : Progress :=
  let id := progress.nextId
  { progress with
    opened := (id, name) :: progress.opened
    context := some (Log.Context.withSpan id progress.context) }

def finish (span : Span) (progress : Progress) : Progress :=
  { progress with finished := span :: progress.finished }

end Progress

mutual

/-- Does a piece of work inside the span `parent`; the error that leaves it, if any. -/
def perform (parent : Option String) : Work → Progress → Option Raised × Progress
  | .mk name attributes parts raises _, progress =>
    let progress := progress.openSpan name
    let progress := progress.note (.entered name progress.spanId)
    let span : Span := { name, parent, attributes := attributesOf attributes }
    let (through, progress) := performParts name parts progress
    match through.or raises with
    | some raised => (some raised, progress.finish (span.leftBy raised))
    | none => (none, progress.finish span)

def performParts (parent : String) : List Work → Progress → Option Raised × Progress
  | [], progress => (none, progress)
  | part :: parts, progress =>
    match perform (some parent) part progress with
    | (some raised, progress) =>
      let progress := progress.note (.caught part.name raised)
      if part.letsThrough then (some raised, progress)
      else performParts parent parts (progress.note (.left part.name progress.spanId))
    | (none, progress) => performParts parent parts (progress.note (.left part.name progress.spanId))

end

def performAll (works : List Work) (progress : Progress) : Progress :=
  works.foldl (fun progress work =>
    let (raised, progress) := perform none work progress
    progress.note (.ended work.name progress.spanId raised)) progress

end CardSearch.Trace
