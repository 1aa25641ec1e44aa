import CardSearch.Metric.Family
/-!
Measurements that go to two places: a family of series, and an instrument of the telemetry provider,
which is made when it is first needed. The family is served first and keeps what it took when the
instrument refuses the measurement.
-/
namespace CardSearch.Metric

open Number (Binary64)
open Family (Measurement)

inductive InstrumentKind where
  | counter
  | histogram
deriving Repr, DecidableEq

def InstrumentKind.ofName? : String → Option InstrumentKind
  | "counter" => some counter
  | "histogram" => some histogram
  | _ => none

inductive Point where
  | total (value : Binary64)
  | spread (count : Nat) (sum : Binary64)
deriving Repr, DecidableEq

structure Instrument where
  kind : InstrumentKind
  points : List (Labels × Point) := []
deriving Repr

namespace Instrument

def ordered (labels : Labels) : Labels := labels.mergeSort fun a b => a.1 ≤ b.1

def pointAfter (measurement : Measurement) (old : Option Point) : Point :=
  match measurement, old with
  | .add amount, some (.total value) => .total (value.add amount)
  | .add amount, _ => .total (Binary64.zero.add amount)
  | .observe value, some (.spread count sum) => .spread (count + 1) (sum.add value)
  | .observe value, _ => .spread 1 (Binary64.zero.add value)

def fits (instrument : Instrument) : Measurement → Bool
  | .add _ => instrument.kind == .counter
  | .observe _ => instrument.kind == .histogram

def amountOf : Measurement → Binary64
  | .add amount => amount
  | .observe value => value

/-- Replaces the point of some labels; a new one comes last. -/
def update (labels : Labels) (change : Option Point → Point) :
    List (Labels × Point) → List (Labels × Point)
  | [] => [(labels, change none)]
  | (own, point) :: points =>
    if own == labels then (own, change (some point)) :: points
    else (own, point) :: update labels change points

/-- Takes a measurement; negative numbers are passed over. -/
def take (instrument : Instrument) (labels : Labels) (measurement : Measurement) :
    Except Fault Instrument :=
  if !instrument.fits measurement then .error .otherKind
  else if (amountOf measurement).isNegative then .ok instrument
  else .ok { instrument with
    points := update (ordered labels) (pointAfter measurement) instrument.points }

end Instrument

structure Bridge where
  family : Family
  kind : String
  instrument : Option Instrument := none
deriving Repr

namespace Bridge

def ensureInstrument (bridge : Bridge) : Except Fault Instrument :=
  match bridge.instrument with
  | some instrument => .ok instrument
  | none =>
    match InstrumentKind.ofName? bridge.kind with
    | some kind => .ok { kind }
    | none => .error (.unknownKind bridge.kind)

def forward (bridge : Bridge) (labels : Labels) (measurement : Measurement) :
    Bridge × Except Fault Unit :=
  match bridge.ensureInstrument with
  | .error fault => (bridge, .error fault)
  | .ok instrument =>
    match instrument.take labels measurement with
    | .ok instrument => ({ bridge with instrument := some instrument }, .ok ())
    | .error fault => ({ bridge with instrument := some instrument }, .error fault)

def take (bridge : Bridge) (labels : Labels) (measurement : Measurement) :
    Bridge × Except Fault Unit :=
  match bridge.family.take labels measurement with
  -- the family keeps the measurement although the instrument may refuse it
  | (family, .ok ()) => forward { bridge with family } labels measurement
  | (family, .error fault) => ({ bridge with family }, .error fault)

def add (bridge : Bridge) (labels : Labels) (amount : Binary64) : Bridge × Except Fault Unit :=
  bridge.take labels (.add amount)

def observe (bridge : Bridge) (labels : Labels) (value : Binary64) : Bridge × Except Fault Unit :=
  bridge.take labels (.observe value)

inductive Interruption where
  | measuring (fault : Fault)
  | working (message : String)
deriving Repr, DecidableEq

/-- Observes the time that a piece of work took, also of work that raised an error. A fault of the
measurement hides the error of the work. -/
def timeWork (bridge : Bridge) (labels : Labels) (elapsed : Binary64) (raised : Option String) :
    Bridge × Except Interruption Unit :=
  match bridge.observe labels elapsed, raised with
  | (bridge, .error fault), _ => (bridge, .error (.measuring fault))
  | (bridge, .ok ()), some message => (bridge, .error (.working message))
  | (bridge, .ok ()), none => (bridge, .ok ())

end Bridge

end CardSearch.Metric
