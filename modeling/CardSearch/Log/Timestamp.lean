import CardSearch.Text.Basic
/-!
Points in time and their written forms in universal time.
-/
namespace CardSearch.Log

structure Timestamp where
  microseconds : Nat
deriving Repr, DecidableEq

structure Date where
  year : Nat
  month : Nat
  day : Nat
deriving Repr, DecidableEq

/-- The day that is so many days after the first of January 1970. Years are counted from March on, in
cycles of 400 years. -/
def Date.ofDays (days : Nat) : Date :=
  let shifted := days + 719468
  let cycle := shifted / 146097
  let dayOfCycle := shifted % 146097
  let yearOfCycle :=
    (dayOfCycle - dayOfCycle / 1460 + dayOfCycle / 36524 - dayOfCycle / 146096) / 365
  let dayOfYear := dayOfCycle - (365 * yearOfCycle + yearOfCycle / 4 - yearOfCycle / 100)
  let shiftedMonth := (5 * dayOfYear + 2) / 153
  let month := if shiftedMonth < 10 then shiftedMonth + 3 else shiftedMonth - 9
  let year := yearOfCycle + cycle * 400
  ⟨if month ≤ 2 then year + 1 else year, month, dayOfYear - (153 * shiftedMonth + 2) / 5 + 1⟩

def paddedNumber (width n : Nat) : String :=
  let digits := Nat.toDigits 10 n
  String.ofList (List.replicate (width - digits.length) '0' ++ digits)

namespace Timestamp

def seconds (time : Timestamp) : Nat := time.microseconds / 1000000

def dateText (time : Timestamp) : String :=
  let date := Date.ofDays (time.seconds / 86400)
  paddedNumber 4 date.year ++ "-" ++ paddedNumber 2 date.month ++ "-" ++ paddedNumber 2 date.day

def clockText (time : Timestamp) : String :=
  let second := time.seconds % 86400
  paddedNumber 2 (second / 3600) ++ ":" ++ paddedNumber 2 (second / 60 % 60) ++ ":" ++
    paddedNumber 2 (second % 60)

/-- The form in documents; a fraction of a second is written unless it is zero. -/
def documentText (time : Timestamp) : String :=
  let fraction := time.microseconds % 1000000
  time.dateText ++ "T" ++ time.clockText ++
    (if fraction = 0 then "" else "." ++ paddedNumber 6 fraction) ++ "+00:00"

def lineText (time : Timestamp) : String :=
  time.dateText ++ " " ++ time.clockText ++ "," ++ paddedNumber 3 (time.microseconds % 1000000 / 1000)

end Timestamp

end CardSearch.Log
