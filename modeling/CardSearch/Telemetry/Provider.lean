import CardSearch.Trace.Span
/-!
Providers of telemetry. A provider describes the service by attributes, its name among them. Metrics
keep the first provider that was made; tracing is set up anew each time, and the tracer of the last
setup is handed out, or a tracer made on demand, which is kept too.
-/
namespace CardSearch.Telemetry

structure Provider where
  number : Nat
  attributes : List (String × Value)
deriving Repr

def serviceKey : String := "service.name"

def executableKey : String := "process.executable.name"

def defaultService : String := "card-query"

def unknownService (attributes : List (String × Value)) : String :=
  match Value.lookup executableKey attributes with
  | some (.text executable) =>
    if executable.isEmpty then "unknown_service" else "unknown_service:" ++ executable
  | _ => "unknown_service"

def describe (service : String) (given : List (String × Value)) : List (String × Value) :=
  let stated := given.foldl (fun attributes (name, value) => Value.assign name value attributes)
    [(serviceKey, .text service)]
  let kept := Trace.attributesOf stated
  match Value.lookup serviceKey kept with
  | none | some (.text "") => Value.assign serviceKey (.text (unknownService kept)) kept
  | some _ => kept

structure Setup where
  made : Nat := 0
  metrics : Option Provider := none
  tracer : Option Nat := none

namespace Setup

def make (service : String) (given : List (String × Value)) (setup : Setup) : Provider × Setup :=
  (⟨setup.made, describe service given⟩, { setup with made := setup.made + 1 })

def initMetrics (service : String) (given : List (String × Value)) (setup : Setup) :
    Provider × Setup :=
  match setup.metrics with
  | some provider => (provider, setup)
  | none =>
    let (provider, setup) := setup.make service given
    (provider, { setup with metrics := some provider })

def initTracing (service : String) (given : List (String × Value)) (setup : Setup) :
    Provider × Setup :=
  let (provider, setup) := setup.make service given
  (provider, { setup with tracer := some provider.number })

def getTracer (setup : Setup) : Nat × Setup :=
  match setup.tracer with
  | some tracer => (tracer, setup)
  | none => (setup.made, { setup with made := setup.made + 1, tracer := some setup.made })

end Setup

end CardSearch.Telemetry
