import TelemetryGateway.Fault

set_option autoImplicit false

/-!
# Finishing queries

A query is finished before it is sent: what the backend needs is filled in, and combinations that
cannot work are refused, naming the leg. One leg over metrics makes the whole query a time series;
every other leg is then held against that shape.
-/

namespace TelemetryGateway

namespace Leg

/-- Seconds of a time step where none is given. -/
def defaultStep : Int := 60

/-- The leg with a positive step. -/
def withStep (leg : Leg) : Leg :=
  { leg with step := some ((leg.step.filter fun s => 0 < s).getD defaultStep) }

def withoutStep (leg : Leg) : Leg := { leg with step := none }

/-- A leg over logs or traces, held against the shape of the query. -/
def finishRecords (shape : Shape) (signal : Signal) (leg : Leg) : Except LegFault Leg :=
  match shape with
  | .raw => .ok leg.withoutStep
  | .scalar =>
    if leg.reductions = [] then .error (.noReductions shape signal) else .ok leg.withoutStep
  | .timeSeries =>
    if leg.reductions = [] then .error (.noReductions shape signal) else .ok leg.withStep
  | _ => .error (.unsupportedShape shape signal)

def finish (shape : Shape) (leg : Leg) : Except LegFault Leg :=
  match leg.signal with
  | some .metrics => .ok leg.withStep
  | some .logs => leg.finishRecords shape .logs
  | some .traces => leg.finishRecords shape .traces
  | some (.other name) => .error (.unknownSignal name)
  | none => .error (.unknownSignal "")

end Leg

namespace Entry

/-- A foreign entry stays as it is; `index` is the entry's position in the query. -/
def finish (shape : Shape) (index : Nat) : Entry → Except QueryFault Entry
  | leg l => ((l.finish shape).map leg).mapError (.leg (l.title index))
  | foreign kind body => .ok (foreign kind body)

/-- Finishes entries from a position on; the first refusal counts. -/
def finishFrom (shape : Shape) (index : Nat) : List Entry → Except QueryFault (List Entry)
  | [] => .ok []
  | e :: rest => do
    let e ← e.finish shape index
    let rest ← finishFrom shape (index + 1) rest
    return e :: rest

end Entry

namespace Query

/-- The version written where none is given. -/
def currentVersion : String := "v1"

def readsMetrics (q : Query) : Bool := q.legs.any fun leg => leg.signal = some .metrics

/-- The shape that all legs are held against. -/
def finalShape (q : Query) : Shape :=
  if q.readsMetrics then .timeSeries else q.shape.getD .raw

def finalVersion (q : Query) : String :=
  if Text.isBlank q.version then currentVersion else q.version

def finish (q : Query) : Except QueryFault Query :=
  if q.start = 0 ∨ q.stop = 0 then .error .noBounds
  else if q.entries = [] then .error .noEntries
  else
    (Entry.finishFrom q.finalShape 0 q.entries).map fun entries =>
      { q with version := q.finalVersion, shape := some q.finalShape, entries }

/-- The finished query, a refusal being a fault of the call. -/
def finished (q : Query) : Except Fault Query := q.finish.mapError .query

end Query

end TelemetryGateway
