import CardSearch.CommandLine.Run
import Std.Time.Format
/-!
The program: reads the arguments, the environment and the files, and prints what a run prints.
-/
namespace CardSearch.Program

open CommandLine

def variableNames : List String :=
  ["CARD_QUERY_LOG_LEVEL", "CARD_QUERY_LOG_JSON", "CARD_QUERY_WILDCARD_REGEX",
    "CARD_QUERY_CARDS_PATH", "CARD_QUERY_LATEST_ONLY"]

def environment : IO (List (String × String)) := do
  let names := variableNames.map String.toLower ++ variableNames
  names.filterMapM fun name => return (← IO.getEnv name).map (name, ·)

def readBytes (path : String) : IO (Except Store.ReadFault (List UInt8)) := do
  try
    return .ok (← IO.FS.readBinFile path).toList
  catch
    | .noFileOrDirectory .. => return .error .missing
    | .noSuchThing .. => return .error .missing
    | .inappropriateType .. => return .error .isDirectory
    | .invalidArgument .. => return .error .nameTooLong
    | error => return .error (.other (toString error))

/-- The bytes of the file of assignments, if it is there. One that is there has to be readable. -/
def readAssignments : IO (Option (List UInt8)) := do
  match ← readBytes CommandLine.assignmentFile with
  | .ok bytes => return some bytes
  | .error (.other reason) => throw (IO.userError reason)
  | .error _ => return none

def now : IO Log.Timestamp := do
  let time ← Std.Time.Timestamp.now
  return ⟨time.toNanosecondsSinceUnixEpoch.val.toNat / 1000⟩

def freshContext : IO Log.Context := do
  let ids := Log.FreshIds.ofNumbers (← IO.rand 0 (Nat.pow 2 128 - 1)) (← IO.rand 0 (Nat.pow 2 64 - 1))
  return .ofIds ids.traceId ids.spanId []

def print (printed : Printed) : IO UInt32 := do
  let context ← freshContext
  let time ← now
  for record in printed.logs do
    match record.line printed.style time context with
    | .ok line => IO.eprintln line
    | .error _ => pure ()
  IO.print printed.output
  IO.eprint printed.errors
  if let some raised := printed.unhandled then
    IO.eprintln (Log.Document.raisedText raised)
  return printed.exit.toUInt32

end CardSearch.Program

open CardSearch Program in
def main (texts : List String) : IO UInt32 := do
  match CommandLine.plan texts (← environment) (← readAssignments) with
  | .finished printed => print printed
  | .search job =>
    let bytes ← if job.needsCards then readBytes job.cardsPath else pure (.ok [])
    print (job.finish (Store.Document.cardsOfFile job.cardsPath bytes))
