import CardSearch.CommandLine.Arguments
import CardSearch.CommandLine.Usage
import CardSearch.Json.Printer
import CardSearch.Log.Configuration
import CardSearch.Service.Call
import CardSearch.Store.Document
/-!
A run of the command line: the arguments and the settings decide whether there is a card file to
search; its cards are read unless the query is empty, and the matching ids are printed in the order of
their texts.
-/
namespace CardSearch.CommandLine

structure Printed where
  exit : Nat
  output : String := ""
  errors : String := ""
  style : Log.Style := .json
  logs : List Log.Record := []
  unhandled : Option Raised := none

structure Job where
  arguments : Arguments
  settings : Settings
  cardsPath : String
  logging : Log.Configuration

/-- What is to be done after the arguments and settings were read. -/
inductive Plan where
  | finished (printed : Printed)
  | search (job : Job)

def overridesOf (arguments : Arguments) : List (String × Value) :=
  (match arguments.cards with | some path => [("cards_path", .path path)] | none => []) ++
  (match arguments.logLevel with | some level => [("log_level", .text level)] | none => []) ++
  if arguments.wildcardRegex then [("wildcard_regex", .bool true)] else []

def styleOf (settings : Settings) : Log.Style := if settings.logJson then .json else .text

def loggingOf (settings : Settings) : Log.Configuration :=
  { Log.Configuration.initial with rootLevel := settings.logLevel, handlers := [styleOf settings] }

def logger : String := "card_query.cli"

def tracingRecord : Log.Record :=
  { logger := "card_query.observability.tracing", level := .debug
    template := "Tracing initialized for service: %s", arguments := [.text programName] }

def noFileRecord : Log.Record :=
  { logger, level := .error
    template := "No card file given; pass --cards or set CARD_QUERY_CARDS_PATH" }

/-- Ends a run with some log records, of which those are written that the configuration lets
through. -/
def ended (exit : Nat) (output : String) (logging : Log.Configuration) (records : List Log.Record) :
    Printed :=
  { exit, output, style := logging.handlers.head?.getD .json
    logs := (tracingRecord :: records).filter (logging.writes ·) }

/-- Reads the arguments and the settings. Nothing handles a file of assignments that is no text. -/
def plan (texts : List String) (environment : List (String × String)) (file : Option (List UInt8)) :
    Plan :=
  match Arguments.read texts with
  | .error misuse => .finished { exit := 2, errors := usageError misuse.message }
  | .ok .help => .finished { exit := 0, output := help }
  | .ok (.run arguments) =>
    match Settings.load ⟨overridesOf arguments, environment, file⟩ with
    | .error (.undecodable fault) =>
      .finished { exit := 1, unhandled := some (Settings.Failure.undecodable fault).raised }
    | .error (.invalid invalid) =>
      .finished { exit := 2, errors := "Invalid configuration: " ++ invalid.report ++ "\n" }
    | .ok settings =>
      let logging := loggingOf settings
      match settings.cardsPath with
      | none => .finished (ended 2 "" logging [noFileRecord])
      | some cardsPath => .search { arguments, settings, cardsPath, logging }

/-- The ids in the order of their texts. Ids of one text stay in the order in which they are visited. -/
def sortedIds (ids : List CardId) : List CardId := ids.mergeSort fun a b => a.shown ≤ b.shown

def outcomeText (asJson : Bool) (outcome : Outcome) : String :=
  let ids := sortedIds outcome.matchingIds
  if asJson then
    Json.write .terminal (.object [("cleared", .bool outcome.cleared), ("query", .text outcome.query),
      ("matching_ids", .list (ids.map CardId.toValue))]) ++ "\n"
  else String.join (ids.map fun id => id.shown ++ "\n")

def storeErrorRecord (error : StoreError) : Log.Record :=
  { logger, level := .error, template := "%s", arguments := [.failure error.message] }

namespace Job

def begin (job : Job) : Service.Begun :=
  (Service.Call.search (.text job.arguments.query)).begin 1

def needsCards (job : Job) : Bool :=
  match job.begin with
  | .answered _ => false
  | .waits _ => true

def conclude (job : Job) (before : List Log.Record) (answer : Service.Answer) : Printed :=
  let records := before ++ Event.records answer.events
  match answer.result with
  | .ok (some outcome) => ended 0 (outcomeText job.arguments.json outcome) job.logging records
  | .ok none => ended 1 "" job.logging records
  | .error (.store (.store error)) =>
    ended 1 "" job.logging (records ++ [storeErrorRecord error])
  | .error failure => { ended 1 "" job.logging records with unhandled := some failure.raised }

def finish (job : Job) (cards : Except StoreFailure (List Card)) : Printed :=
  match job.begin with
  -- an empty query is answered without the cards
  | .answered answer => job.conclude [] answer
  | .waits waiting =>
    match cards with
    | .ok cards =>
      job.conclude [Store.Document.loadedRecord job.cardsPath cards.length]
        (waiting.answer job.settings 1 cards)
    | .error failure => job.conclude [] (waiting.fail (.store failure))

end Job

def assignmentFile : String := ".env"

def assignmentsIn (files : Store.FileTree) : Option (List UInt8) :=
  (files.read assignmentFile).toOption

def runWith (texts : List String) (environment : List (String × String))
    (assignments : Option (List UInt8))
    (content : String → Except Store.ReadFault (List UInt8)) : Printed :=
  match plan texts environment assignments with
  | .finished printed => printed
  | .search job => job.finish (Store.Document.cardsOfFile job.cardsPath (content job.cardsPath))

def run (texts : List String) (environment : List (String × String)) (files : Store.FileTree) :
    Printed :=
  runWith texts environment (assignmentsIn files) files.read

end CardSearch.CommandLine
