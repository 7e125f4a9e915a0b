import TelemetryGateway.Json.Basic
import TelemetryGateway.Text.Blank
import TelemetryGateway.Text.Integer

set_option autoImplicit false

/-!
# Queries

A query asks for records, reduced values or series of a time window. It has one or more entries: a
leg is a query over one signal, whose fields are modelled here, and a foreign entry (a formula,
another query language) is passed on as it is. Fields of a leg that are not modelled are kept.
-/

namespace TelemetryGateway

/-- What kind of telemetry a leg reads. -/
inductive Signal where
  | metrics
  | logs
  | traces
  | other (name : String)
  deriving DecidableEq, Inhabited

namespace Signal

def text : Signal → String
  | metrics => "metrics"
  | logs => "logs"
  | traces => "traces"
  | other name => name

def ofText (s : String) : Signal :=
  if s = "metrics" then metrics
  else if s = "logs" then logs
  else if s = "traces" then traces
  else other s

@[simp] theorem text_ofText (s : String) : (ofText s).text = s := by
  unfold ofText
  split
  · simp [text, *]
  · split
    · simp [text, *]
    · split <;> simp [text, *]

/-- Whether the signal is one of the three that are known. -/
def isKnown : Signal → Bool
  | other _ => false
  | _ => true

end Signal

/-- What the answer to a query consists of. -/
inductive Shape where
  /-- A list of records. -/
  | raw
  /-- One value per group. -/
  | scalar
  /-- One value per group and time step. -/
  | timeSeries
  | trace
  | other (name : String)
  deriving DecidableEq, Inhabited

namespace Shape

def text : Shape → String
  | raw => "raw"
  | scalar => "scalar"
  | timeSeries => "time_series"
  | trace => "trace"
  | other name => name

def ofText (s : String) : Shape :=
  if s = "raw" then raw
  else if s = "scalar" then scalar
  else if s = "time_series" then timeSeries
  else if s = "trace" then trace
  else other s

@[simp] theorem text_ofText (s : String) : (ofText s).text = s := by
  unfold ofText
  split
  · simp [text, *]
  · split
    · simp [text, *]
    · split
      · simp [text, *]
      · split <;> simp [text, *]

def isKnown : Shape → Bool
  | other _ => false
  | _ => true

end Shape

inductive Direction where
  | asc
  | desc
  deriving DecidableEq, Inhabited

def Direction.text : Direction → String
  | asc => "asc"
  | desc => "desc"

/-- An expression to sort by. -/
structure SortKey where
  name : String
  direction : Direction
  deriving DecidableEq, Inhabited

/-- A field to select or to group by. -/
structure FieldRef where
  name : String
  dataType : Option String
  signal : Option Signal
  /-- Where the field belongs, such as `resource` or `span`. -/
  context : Option String
  deriving DecidableEq, Inhabited

def FieldRef.named (name : String) : FieldRef := ⟨name, none, none, none⟩

/-- How values are reduced: by an expression, or for a metric over time and then over series. -/
structure Reduction where
  expression : Option String
  label : Option String
  metric : Option String
  overTime : Option String
  overSpace : Option String
  deriving DecidableEq, Inhabited

namespace Reduction

def empty : Reduction := ⟨none, none, none, none, none⟩

def ofExpression (expression : String) : Reduction := { empty with expression := some expression }

end Reduction

/-- One query over one signal. -/
structure Leg where
  name : Option String
  signal : Option Signal
  disabled : Bool
  /-- Width of a time step in seconds. -/
  step : Option Int
  filter : Option String
  limit : Option Nat
  offset : Option Nat
  order : List SortKey
  selected : List FieldRef
  groups : List FieldRef
  reductions : List Reduction
  having : Option Json
  /-- Members that are not modelled above, in the order given. -/
  extra : Members
  deriving DecidableEq, Inhabited

namespace Leg

def empty : Leg :=
  ⟨none, none, false, none, none, none, none, [], [], [], [], none, []⟩

def named (name : String) (signal : Signal) : Leg :=
  { empty with name := some name, signal := some signal }

/-- The name in messages: an unnamed leg is called by its position. -/
def title (leg : Leg) (index : Nat) : String :=
  match leg.name.filter fun name => !Text.isBlank name with
  | some name => name
  | none => s!"query at position {Text.naturalText (index + 1)}"

end Leg

/-- One entry of a query. -/
inductive Entry where
  | leg (leg : Leg)
  | foreign (kind : String) (body : Json)
  deriving DecidableEq, Inhabited

def Entry.leg? : Entry → Option Leg
  | leg l => some l
  | foreign _ _ => none

/-- Wishes about the form of the answer, passed on as given. -/
structure TableFormat where
  forDisplay : Bool
  fillGaps : Bool
  deriving DecidableEq, Inhabited

structure Query where
  version : String
  /-- First and last instant in milliseconds since the epoch. -/
  start : Int
  stop : Int
  shape : Option Shape
  entries : List Entry
  format : Option TableFormat
  /-- Values of the query's variables, passed on as given. -/
  bindings : Members
  deriving DecidableEq, Inhabited

namespace Query

def empty : Query := ⟨"", 0, 0, none, [], none, []⟩

/-- The legs in order, without the foreign entries. -/
def legs (q : Query) : List Leg := q.entries.filterMap Entry.leg?

end Query

end TelemetryGateway
