import TelemetryGateway.Argument
import TelemetryGateway.Query.Basic

set_option autoImplicit false

/-!
# Queries as JSON

For every part of a query a reader and a writer. Fields that are empty are left out where the
readers take their absence for emptiness, and the unmodelled members of a leg are written back
beside the modelled ones.
-/

namespace TelemetryGateway

/-- A member that is written only where there is a value. -/
def member? (key : String) (value : Option Json) : Members :=
  match value with
  | none => []
  | some v => [(key, v)]

/-- A member that is written only where the list has items. -/
def items? (key : String) (items : List Json) : Members :=
  match items with
  | [] => []
  | _ :: _ => [(key, .arr items)]

open Json (Decoder)

namespace Signal

def decode : Decoder Signal := fun v => (Decoder.text v).map ofText

def encode (s : Signal) : Json := .str s.text

end Signal

namespace Shape

def decode : Decoder Shape := fun v => (Decoder.text v).map ofText

def encode (s : Shape) : Json := .str s.text

end Shape

namespace Direction

def ofText (s : String) : Except Mismatch Direction :=
  if s = "asc" then .ok asc
  else if s = "desc" then .ok desc
  else .error (.variant s ["asc", "desc"])

/-- A name, or an object with the name as its only key. -/
def decode : Decoder Direction
  | .str s => ofText s
  | .obj [(name, v)] => do
    let direction ← ofText name
    if v = .null then return direction
    throw (.type v "unit")
  | .obj members => .error (.value (.obj members) "map with a single key")
  | v => .error (.type v "string or map")

def encode (d : Direction) : Json := .str d.text

end Direction

namespace SortKey

/-- The name of the expression, an object of its own. -/
def nameRecord : Record (Option String) where
  title := "OrderKey"
  fields := ["name"]
  set name key v :=
    match key with
    | "name" => (Decoder.text v).map some
    | _ => .ok name

def decodeName : Decoder String := fun v => do
  match ← nameRecord.read none v with
  | some name => return name
  | none => throw (nameRecord.absent "name" v)

def record : Record (Option String × Direction) where
  title := "OrderBy"
  fields := ["key", "direction"]
  set s key v :=
    match key with
    | "key" => (decodeName v).map fun name => (some name, s.2)
    | "direction" => (Direction.decode v).map fun d => (s.1, d)
    | _ => .ok s

def decode : Decoder SortKey := fun v => do
  match ← record.read (none, .desc) v with
  | (some name, direction) => return ⟨name, direction⟩
  | (none, _) => throw (record.absent "key" v)

def encode (s : SortKey) : Json :=
  .obj [("direction", s.direction.encode), ("key", .obj [("name", .str s.name)])]

end SortKey

namespace FieldRef

def record : Record (Option String × FieldRef) where
  title := "FieldDescriptor"
  fields := ["name", "fieldDataType", "signal", "fieldContext"]
  set f key v :=
    match key with
    | "name" => (Decoder.text v).map fun s => (some s, f.2)
    | "fieldDataType" => (Decoder.optional Decoder.text v).map fun s => (f.1, { f.2 with dataType := s })
    | "signal" => (Decoder.optional Signal.decode v).map fun s => (f.1, { f.2 with signal := s })
    | "fieldContext" => (Decoder.optional Decoder.text v).map fun s => (f.1, { f.2 with context := s })
    | _ => .ok f

def decode : Decoder FieldRef := fun v => do
  match ← record.read (none, named "") v with
  | (some name, f) => return { f with name }
  | (none, _) => throw (record.absent "name" v)

def encode (f : FieldRef) : Json :=
  .obj (member? "fieldContext" (f.context.map .str) ++ member? "fieldDataType" (f.dataType.map .str) ++
    [("name", .str f.name)] ++ member? "signal" (f.signal.map Signal.encode))

end FieldRef

namespace Reduction

def record : Record Reduction where
  title := "Aggregation"
  fields := ["expression", "alias", "metricName", "timeAggregation", "spaceAggregation"]
  set r key v :=
    match key with
    | "expression" => (Decoder.optional Decoder.text v).map fun s => { r with expression := s }
    | "alias" => (Decoder.optional Decoder.text v).map fun s => { r with label := s }
    | "metricName" => (Decoder.optional Decoder.text v).map fun s => { r with metric := s }
    | "timeAggregation" => (Decoder.optional Decoder.text v).map fun s => { r with overTime := s }
    | "spaceAggregation" => (Decoder.optional Decoder.text v).map fun s => { r with overSpace := s }
    | _ => .ok r

def decode : Decoder Reduction := record.read empty

def encode (r : Reduction) : Json :=
  .obj (member? "alias" (r.label.map .str) ++ member? "expression" (r.expression.map .str) ++
    member? "metricName" (r.metric.map .str) ++ member? "spaceAggregation" (r.overSpace.map .str) ++
    member? "timeAggregation" (r.overTime.map .str))

end Reduction

namespace Leg

/-- A filter is an object that holds its expression. -/
def filterRecord : Record String where
  title := "Filter"
  fields := ["expression"]
  set s key v :=
    match key with
    | "expression" => Decoder.text v
    | _ => .ok s

def decodeFilter : Decoder String := filterRecord.read ""

def encodeFilter (expression : String) : Json := .obj [("expression", .str expression)]

/-- Members of a leg that are not modelled are collected in the order in which they come. -/
def record : Record Leg where
  title := "QuerySpec"
  fields := []
  set l key v :=
    match key with
    | "name" => (Decoder.optional Decoder.text v).map fun s => { l with name := s }
    | "signal" => (Decoder.optional Signal.decode v).map fun s => { l with signal := s }
    | "disabled" => (Decoder.flag v).map fun b => { l with disabled := b }
    | "stepInterval" => (Argument.integer v).map fun n => { l with step := n }
    | "filter" => (Decoder.optional decodeFilter v).map fun s => { l with filter := s }
    | "limit" => (Decoder.optional Decoder.word64 v).map fun n => { l with limit := n }
    | "offset" => (Decoder.optional Decoder.word64 v).map fun n => { l with offset := n }
    | "order" => (Decoder.list SortKey.decode v).map fun xs => { l with order := xs }
    | "selectFields" => (Decoder.list FieldRef.decode v).map fun xs => { l with selected := xs }
    | "groupBy" => (Decoder.list FieldRef.decode v).map fun xs => { l with groups := xs }
    | "aggregations" => (Decoder.list Reduction.decode v).map fun xs => { l with reductions := xs }
    | "having" => (Decoder.optional .ok v).map fun h => { l with having := h }
    | _ => .ok { l with extra := l.extra ++ [(key, v)] }

def decode : Decoder Leg := record.readObject empty

def members (l : Leg) : Members :=
  items? "aggregations" (l.reductions.map Reduction.encode) ++ [("disabled", .bool l.disabled)] ++
    member? "filter" (l.filter.map encodeFilter) ++ items? "groupBy" (l.groups.map FieldRef.encode) ++
    member? "having" l.having ++ member? "limit" (l.limit.map .nat) ++
    member? "name" (l.name.map .str) ++ member? "offset" (l.offset.map .nat) ++
    items? "order" (l.order.map SortKey.encode) ++
    items? "selectFields" (l.selected.map FieldRef.encode) ++
    member? "signal" (l.signal.map Signal.encode) ++ member? "stepInterval" (l.step.map .int) ++ l.extra

def encode (l : Leg) : Json := .obj l.members

end Leg

namespace Entry

/-- The kind of entry that holds a leg. -/
def legKind : String := "builder_query"

def record : Record (String × Json) where
  title := "RawEnvelope"
  fields := ["type", "spec"]
  set e key v :=
    match key with
    | "type" => (Decoder.text v).map fun kind => (kind, e.2)
    | "spec" => .ok (e.1, v)
    | _ => .ok e

def decode : Decoder Entry := fun v => do
  let (kind, body) ← record.read ("", .null) v
  if kind = legKind then return .leg (← Leg.decode body)
  return .foreign kind body

def encode : Entry → Json
  | leg l => .obj [("spec", l.encode), ("type", .str legKind)]
  | foreign kind body => .obj [("spec", body), ("type", .str kind)]

end Entry

namespace TableFormat

def record : Record TableFormat where
  title := "FormatOptions"
  fields := ["formatTableResultForUI", "fillGaps"]
  set f key v :=
    match key with
    | "formatTableResultForUI" => (Decoder.flag v).map fun b => { f with forDisplay := b }
    | "fillGaps" => (Decoder.flag v).map fun b => { f with fillGaps := b }
    | _ => .ok f

def decode : Decoder TableFormat := record.read ⟨false, false⟩

def encode (f : TableFormat) : Json :=
  .obj [("fillGaps", .bool f.fillGaps), ("formatTableResultForUI", .bool f.forDisplay)]

end TableFormat

namespace Query

/-- The entries stand in an object of their own. -/
def entriesRecord : Record (List Entry) where
  title := "CompositeQuery"
  fields := ["queries"]
  set entries key v :=
    match key with
    | "queries" => Decoder.list Entry.decode v
    | _ => .ok entries

def decodeEntries : Decoder (List Entry) := entriesRecord.read []

def encodeEntries (entries : List Entry) : Json := .obj [("queries", .arr (entries.map Entry.encode))]

/-- A blank shape counts as none. -/
def decodeShape : Decoder (Option Shape) := fun v =>
  (Decoder.optional Decoder.text v).map fun s =>
    (s.filter fun s => !Text.isBlank s).map Shape.ofText

def record : Record Query where
  title := "StructuredQuery"
  fields := ["schemaVersion", "start", "end", "requestType", "compositeQuery", "formatOptions", "variables"]
  set q key v :=
    match key with
    | "schemaVersion" => (Decoder.text v).map fun s => { q with version := s }
    | "start" => (Argument.integerOrZero v).map fun n => { q with start := n }
    | "end" => (Argument.integerOrZero v).map fun n => { q with stop := n }
    | "requestType" => (decodeShape v).map fun s => { q with shape := s }
    | "compositeQuery" => (decodeEntries v).map fun es => { q with entries := es }
    | "formatOptions" => (Decoder.optional TableFormat.decode v).map fun f => { q with format := f }
    | "variables" => (Decoder.members v).map fun ms => { q with bindings := ms }
    | _ => .ok q

def decode : Decoder Query := record.read empty

/-- Variables are written only where there are some. -/
def encodeBindings (bindings : Members) : Members :=
  match bindings with
  | [] => []
  | _ :: _ => [("variables", .obj bindings)]

def encode (q : Query) : Json :=
  .obj ([("compositeQuery", encodeEntries q.entries), ("end", .int q.stop)] ++
    member? "formatOptions" (q.format.map TableFormat.encode) ++
    member? "requestType" (q.shape.map Shape.encode) ++
    [("schemaVersion", .str q.version), ("start", .int q.start)] ++ encodeBindings q.bindings)

end Query

end TelemetryGateway
