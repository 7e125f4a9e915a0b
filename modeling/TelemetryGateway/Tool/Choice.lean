import TelemetryGateway.Page
import TelemetryGateway.Summary

set_option autoImplicit false

/-!
# Arguments of tools

What each tool reads from the arguments of a call. Arguments that several tools share are read by
the parts that use them: filter, window and page.
-/

namespace TelemetryGateway.Tool

/-- Reads an object that has no members of its own but those of its parts. -/
def shared (title : String) : Json.Decoder Unit :=
  Record.readObject ⟨title, [], fun _ _ _ => .ok ()⟩ ()

structure ListingChoice where
  page : PageChoice

structure ServicesChoice where
  window : WindowChoice
  page : PageChoice

structure SearchChoice where
  filter : FilterChoice
  window : WindowChoice
  page : PageChoice

structure TraceChoice where
  traceId : Option String
  window : WindowChoice

structure MetricsChoice where
  metric : Option String
  overTime : Option String
  overSpace : Option String
  groups : Option String
  step : Option Int
  filter : FilterChoice
  window : WindowChoice

structure FieldKeysChoice where
  signal : Option String
  search : Option String

structure FieldValuesChoice where
  signal : Option String
  name : Option String
  search : Option String

def ListingChoice.decode : Json.Decoder ListingChoice := fun v => do
  shared "ListParams" v
  return ⟨← PageChoice.decode v⟩

def ServicesChoice.decode : Json.Decoder ServicesChoice := fun v => do
  shared "ListServicesParams" v
  let window ← WindowChoice.decode v
  let page ← PageChoice.decode v
  return ⟨window, page⟩

def SearchChoice.decode : Json.Decoder SearchChoice := fun v => do
  shared "SearchParams" v
  let filter ← FilterChoice.decode v
  let window ← WindowChoice.decode v
  let page ← PageChoice.decode v
  return ⟨filter, window, page⟩

/-- One slot of text, the only member of its own. -/
def textRecord (title field : String) : Record (Option String) where
  title := title
  fields := [field]
  set s key v := if key = field then Argument.text v else .ok s

def TraceChoice.decode : Json.Decoder TraceChoice := fun v => do
  let traceId ← (textRecord "TraceDetailsParams" "traceId").readObject none v
  let window ← WindowChoice.decode v
  return ⟨traceId, window⟩

def MetricsChoice.record : Record MetricsChoice where
  title := "QueryMetricsParams"
  fields := []
  set a key v :=
    match key with
    | "metricName" => (Argument.text v).map fun s => { a with metric := s }
    | "timeAggregation" => (Argument.text v).map fun s => { a with overTime := s }
    | "spaceAggregation" => (Argument.text v).map fun s => { a with overSpace := s }
    | "groupBy" => (Argument.text v).map fun s => { a with groups := s }
    | "stepInterval" => (Argument.integer v).map fun n => { a with step := n }
    | _ => .ok a

def MetricsChoice.decode : Json.Decoder MetricsChoice := fun v => do
  let a ← record.readObject ⟨none, none, none, none, none, .empty, .empty⟩ v
  let filter ← FilterChoice.decode v
  let window ← WindowChoice.decode v
  return { a with filter, window }

def decodeRuleId : Json.Decoder (Option String) := (textRecord "GetAlertParams" "ruleId").read none

def decodeUuid : Json.Decoder (Option String) := (textRecord "GetDashboardParams" "uuid").read none

/-- Any value as the query; none counts as `null`. -/
def decodeQuery : Json.Decoder Json :=
  Record.read ⟨"ExecuteQueryParams", ["query"], fun q key v => .ok (if key = "query" then v else q)⟩ .null

def FieldKeysChoice.record : Record FieldKeysChoice where
  title := "FieldKeysParams"
  fields := ["signal", "searchText"]
  set a key v :=
    match key with
    | "signal" => (Argument.text v).map fun s => { a with signal := s }
    | "searchText" => (Argument.text v).map fun s => { a with search := s }
    | _ => .ok a

def FieldKeysChoice.decode : Json.Decoder FieldKeysChoice := record.read ⟨none, none⟩

def FieldValuesChoice.record : Record FieldValuesChoice where
  title := "FieldValuesParams"
  fields := ["signal", "name", "searchText"]
  set a key v :=
    match key with
    | "signal" => (Argument.text v).map fun s => { a with signal := s }
    | "name" => (Argument.text v).map fun s => { a with name := s }
    | "searchText" => (Argument.text v).map fun s => { a with search := s }
    | _ => .ok a

def FieldValuesChoice.decode : Json.Decoder FieldValuesChoice := record.read ⟨none, none, none⟩

end TelemetryGateway.Tool
