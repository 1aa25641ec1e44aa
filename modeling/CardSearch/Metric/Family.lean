import CardSearch.Number.Shortest
/-!
Families of measured series. A family has a name and a measure; its series are told apart by the texts
of its labels and begin at zero when they are first named. A counter adds amounts up, a histogram
counts values by the first upper bound that they do not exceed.
-/
namespace CardSearch.Metric

open Number (Binary64)

abbrev Labels := List (String × String)

inductive Measure where
  | counter
  /-- A histogram with the upper bounds of its buckets in ascending order. -/
  | histogram (bounds : List Binary64)
deriving Repr, DecidableEq

inductive Fault where
  /-- Labels for a family that has no series apart from one, by its measure and its name. -/
  | noLabels (measure family : String)
  | labelCount
  | labelNames
  | negativeAmount
  | otherKind
  | unknownKind (kind : String)
  | unsortedBounds
  | tooFewBounds
deriving Repr, DecidableEq

def Fault.message : Fault → String
  | noLabels measure family =>
    "No label names were set when constructing " ++ measure ++ ":" ++ family
  | labelCount => "Incorrect label count"
  | labelNames => "Incorrect label names"
  | negativeAmount => "Counters can only be incremented by non-negative amounts."
  | otherKind => ""
  | unknownKind kind => "Unknown metric kind: " ++ kind
  | unsortedBounds => "Buckets not in sorted order"
  | tooFewBounds => "Must have at least two buckets"

def Measure.name : Measure → String
  | counter => "counter"
  | histogram _ => "histogram"

inductive Series where
  | total (value : Binary64)
  | spread (counts : List Nat) (sum : Binary64)
deriving Repr, DecidableEq

def Measure.zero : Measure → Series
  | counter => .total .zero
  | histogram bounds => .spread (bounds.map fun _ => 0) .zero

def countIn (value : Binary64) : (bounds : List Binary64) → (counts : List Nat) → List Nat
  | bound :: bounds, count :: counts =>
    if value.lessOrEqual bound then (count + 1) :: counts else count :: countIn value bounds counts
  | _, counts => counts

structure Family where
  name : String
  measure : Measure
  labelNames : List String
  /-- The series named so far, each by its labels in the order of `labelNames`. -/
  series : List (Labels × Series)
deriving Repr

def completeBounds (bounds : List Binary64) : Except Fault (List Binary64) :=
  let ascending := (bounds.zip bounds.tail).all fun (a, b) => a.lessOrEqual b
  if !ascending then .error .unsortedBounds
  else
    let complete :=
      if bounds.isEmpty || bounds.getLast? == some (.infinite false) then bounds
      else bounds ++ [.infinite false]
    if complete.length < 2 then .error .tooFewBounds else .ok complete

namespace Family

def totalMark : String := "_total"

/-- A family without measurements. The mark of a counter is no part of its name; a family without
labels has its one series from the beginning. -/
def ofMeasure (name : String) (measure : Measure) (labelNames : List String) : Family :=
  let bare := match measure with
    | .counter => if name.endsWith totalMark then (name.dropEnd totalMark.length).toString else name
    | .histogram _ => name
  { name := bare, measure, labelNames
    series := if labelNames.isEmpty then [([], measure.zero)] else [] }

def histogram (name : String) (bounds : List Binary64) (labelNames : List String) :
    Except Fault Family :=
  (completeBounds bounds).map fun bounds => ofMeasure name (.histogram bounds) labelNames

def select (family : Family) (labels : Labels) : Except Fault Labels :=
  if family.labelNames.isEmpty then .error (.noLabels family.measure.name family.name)
  else if labels.isEmpty then .error .labelCount
  else
    let found := family.labelNames.filterMap fun name => labels.find? (·.1 == name)
    if found.length = family.labelNames.length && labels.length = found.length then .ok found
    else .error .labelNames

def find? (family : Family) (labels : Labels) : Option Series :=
  (family.series.find? (·.1 == labels)).map (·.2)

/-- Sets a series; a new one comes last. -/
def put (family : Family) (labels : Labels) (series : Series) : Family :=
  if (family.find? labels).isSome then
    { family with
      series := family.series.map fun old => if old.1 == labels then (labels, series) else old }
  else { family with series := family.series ++ [(labels, series)] }

inductive Measurement where
  | add (amount : Binary64)
  | observe (value : Binary64)
deriving Repr, DecidableEq

def Series.after (measure : Measure) (measurement : Measurement) (series : Series) :
    Except Fault Series :=
  match measure, measurement, series with
  | .counter, .add amount, .total value =>
    if amount.isNegative then .error .negativeAmount else .ok (.total (value.add amount))
  | .histogram bounds, .observe value, .spread counts sum =>
    .ok (.spread (countIn value bounds counts) (sum.add value))
  | _, _, _ => .error .otherKind

/-- Takes a measurement. The series begins even when the measurement is refused. -/
def take (family : Family) (labels : Labels) (measurement : Measurement) :
    Family × Except Fault Unit :=
  match family.select labels with
  | .error fault => (family, .error fault)
  | .ok labels =>
    let series := (family.find? labels).getD family.measure.zero
    match Series.after family.measure measurement series with
    | .ok series => (family.put labels series, .ok ())
    | .error fault => (family.put labels series, .error fault)

structure Sample where
  name : String
  labels : Labels
  value : Binary64
deriving Repr

def mantissaDigits (text : List Char) : List Char :=
  ((text.filter (· != '.')).reverse.dropWhile (· == '0')).reverse

/-- An upper bound as a label. From a million on the digits are written with an exponent. -/
def boundText (bound : Binary64) : String :=
  match bound with
  | .infinite negative => if negative then "-Inf" else "+Inf"
  | .notANumber => "NaN"
  | bound =>
    let text := bound.write .plain
    let whole := (text.takeWhile (· != '.')).length
    if !bound.isNegative && whole < text.length && whole > 6 then
      let mantissa := match mantissaDigits text with
        | [digit] => [digit]
        | digit :: digits => digit :: '.' :: digits
        | [] => []
      String.ofList (mantissa ++ "e+0".toList ++ (toString (whole - 1)).toList)
    else String.ofList text

def bucketSamples (name : String) (labels : Labels) : (below : Nat) → List (Binary64 × Nat) →
    List Sample
  | _, [] => []
  | below, (bound, count) :: buckets =>
    ⟨name ++ "_bucket", labels ++ [("le", boundText bound)], .ofInt (below + count : Nat)⟩ ::
      bucketSamples name labels (below + count) buckets

/-- The samples of one series. Sums are reported only if no bound is negative. -/
def samplesOf (family : Family) (labels : Labels) : Series → List Sample
  | .total value => [⟨family.name ++ totalMark, labels, value⟩]
  | .spread counts sum =>
    let bounds := match family.measure with
      | .histogram bounds => bounds
      | .counter => []
    bucketSamples family.name labels 0 (bounds.zip counts) ++
      ⟨family.name ++ "_count", labels, .ofInt (counts.foldl (· + ·) 0 : Nat)⟩ ::
      if (bounds.head?.map (·.isNegative)).getD false then []
      else [⟨family.name ++ "_sum", labels, sum⟩]

def samples (family : Family) : List Sample :=
  family.series.flatMap fun (labels, series) => family.samplesOf labels series

end Family

end CardSearch.Metric
