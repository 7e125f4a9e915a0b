import TelemetryGateway.Query.Finish
import TelemetryGateway.Time.Unit

set_option autoImplicit false

/-!
# The queries that tools send

Each has one leg, called `A`, over one window.
-/

namespace TelemetryGateway

/-- Bounds of a query or a listing in one unit of time. -/
structure Window where
  start : Int
  stop : Int
  deriving DecidableEq, Inhabited

namespace Window

/-- The length of the window, kept within 64 bits. -/
def length (w : Window) : Int :=
  max Text.minInt64 (min Text.maxInt64 (w.stop - w.start))

def encode (w : Window) : Json := .obj [("end", .int w.stop), ("start", .int w.start)]

end Window

namespace Query

def ofLegs (window : Window) (shape : Shape) (legs : List Leg) : Query where
  version := currentVersion
  start := window.start
  stop := window.stop
  shape := some shape
  entries := legs.map .leg
  format := none
  bindings := []

def newestFirst (signal : Signal) (window : Window) (filter : Option String) (limit offset : Nat) : Query :=
  ofLegs window .raw [{ Leg.named "A" signal with
    filter := filter
    limit := some limit
    offset := if 0 < offset then some offset else none
    order := [⟨"timestamp", .desc⟩] }]

def oldestFirst (signal : Signal) (window : Window) (filter : Option String) (limit : Nat) : Query :=
  ofLegs window .raw [{ Leg.named "A" signal with
    filter := filter
    limit := some limit
    order := [⟨"timestamp", .asc⟩] }]

/-- What to make of a metric: its name and how it is reduced over time and over series. -/
structure MetricChoice where
  metric : String
  overTime : String
  overSpace : String
  groups : List String
  filter : Option String
  step : Option Int
  deriving DecidableEq

def ofMetric (window : Window) (choice : MetricChoice) : Query :=
  ofLegs window .timeSeries [{ Leg.named "A" .metrics with
    filter := choice.filter
    reductions := [{ Reduction.empty with
      metric := some choice.metric
      overTime := some choice.overTime
      overSpace := some choice.overSpace }]
    groups := choice.groups.map FieldRef.named
    step := choice.step }]

end Query

end TelemetryGateway
