import TelemetryGateway.Backend.Client
import TelemetryGateway.Page
import TelemetryGateway.Tool.Basic
import TelemetryGateway.Tool.Choice

set_option autoImplicit false

/-!
# What a call of a tool does

A call is planned from its arguments alone: either they are refused, or the backend is asked one
thing, and its answer is turned into the answer of the call.
-/

namespace TelemetryGateway.Tool

open Backend (Inquiry Client)

variable {α : Type}

/-- One inquiry, and what to make of the backend's answer. -/
structure Plan where
  inquiry : Inquiry
  answer : Json → Json

def arguments (decode : Json.Decoder α) (params : Json) : Except Fault α :=
  (decode (Argument.given params)).mapError fun m => .argument (.mismatch m)

/-- An argument that must be there. -/
def need (value : Option α) (name sample : String) : Except Fault α :=
  match value with
  | some a => .ok a
  | none => .error (.argument (.missing name sample))

/-- A page of a list; an answer that is no list stays as it is. -/
def pageOf (offset limit : Int) (answer : Json) : Json :=
  match Page.listed? answer with
  | some items => (Page.paginate items offset limit).encode
  | none => answer

def resolvePage (page : PageChoice) (limits : PageLimits) : Except Fault (Int × Int) :=
  (page.resolve limits).mapError .argument

def filterOf (filter : FilterChoice) (signal : Signal) : Except Fault (Option String) :=
  ((filter.build signal none).mapError .argument).map Filter.expression?

def planServices (limits : PageLimits) (now : Time.Instant) (params : Json) : Except Fault Plan := do
  let a ← arguments ServicesChoice.decode params
  let (offset, limit) ← resolvePage a.page limits
  let window ← a.window.resolve .nanoseconds (Time.hours 6) now
  return ⟨.services window, pageOf offset limit⟩

/-- The result sets of an answer to a query. -/
def resultSets (answer : Json) : List Json :=
  ((answer.path? ["data", "data", "results"]) >>= Json.items?).getD []

/-- The records in all result sets of an answer. -/
def rowsOf (answer : Json) : List Json :=
  (resultSets answer).flatMap fun r => ((r.get? "rows") >>= Json.items?).getD []

/-- A sum as a signed 64-bit word, which starts over at its least value. -/
def addWrapping (a b : Int) : Int := (a + b).bmod 18446744073709551616

/-- The backend does not say how many records there are: a full page means that there may be more. -/
def searchAnswer (window : Window) (offset limit : Int) (answer : Json) : Json :=
  let returned := (rowsOf answer).length
  let hasMore := decide (limit ≤ returned)
  .obj ([("hasMore", .bool hasMore), ("limit", .int limit)] ++
    (if hasMore then [("nextOffset", .int (addWrapping offset limit))] else []) ++
    [("offset", .int offset), ("result", answer), ("returned", .nat returned),
      ("window", window.encode)])

def planSearch (signal : Signal) (limits : PageLimits) (now : Time.Instant) (params : Json) :
    Except Fault Plan := do
  let a ← arguments SearchChoice.decode params
  let (offset, limit) ← resolvePage a.page limits
  let window ← a.window.resolve .milliseconds (Time.hours 1) now
  let filter ← filterOf a.filter signal
  let query ← (Query.newestFirst signal window filter limit.natAbs offset.natAbs).finished
  return ⟨.records query, searchAnswer window offset limit⟩

def planTrace (limits : PageLimits) (now : Time.Instant) (params : Json) : Except Fault Plan := do
  let a ← arguments TraceChoice.decode params
  let given ← need a.traceId "traceId" ArgumentFault.sampleTraceId
  let traceId := Text.lower (Text.trim given)
  if !traceId.toList.all Backend.Uuid.isHexDigit then
    throw (.argument (.traceId traceId))
  let window ← a.window.resolve .milliseconds (Time.hours 24) now
  let filter := (Filter.equals "trace_id" (.text traceId)).expression?
  let query ← (Query.oldestFirst .traces window filter limits.maximum).finished
  return ⟨.records query, fun answer => .obj [("result", answer), ("traceId", .str traceId)]⟩

def planSummary (signal : Signal) (now : Time.Instant) (params : Json) : Except Fault Plan := do
  let a ← arguments SummaryChoice.decode params
  let summary ← Summary.compile a signal none now
  let query ← summary.query.finished
  return ⟨.records query, fun answer => .obj [("aggregation", summary.encode), ("result", answer)]⟩

/-- A set of arguments with which a metric can be queried. -/
def sampleMetric : String :=
  "\x7b\"metricName\": \"http_server_duration\", \"timeRange\": \"1h\"\x7d"

/-- A step must be positive where one is given. -/
def checkStep (step : Option Int) : Except Fault Unit :=
  match step.filter (· ≤ 0) with
  | some step => .error (.argument (.step step))
  | none => .ok ()

def planMetrics (now : Time.Instant) (params : Json) : Except Fault Plan := do
  let a ← arguments MetricsChoice.decode params
  let metric ← need a.metric "metricName" sampleMetric
  checkStep a.step
  let window ← a.window.resolve .milliseconds (Time.hours 1) now
  let filter ← filterOf a.filter .metrics
  let overTime := (a.overTime.map Text.lower).getD "avg"
  let overSpace := (a.overSpace.map Text.lower).getD "sum"
  let groups := Summary.parseGroups a.groups
  let query ← (Query.ofMetric window
    ⟨Text.trim metric, overTime, overSpace, groups, filter, a.step⟩).finished
  return ⟨.records query, fun answer =>
    .obj [("metricName", .str metric), ("result", answer), ("spaceAggregation", .str overSpace),
      ("timeAggregation", .str overTime), ("window", window.encode)]⟩

/-- A query that can be run. -/
def sampleQuery : String :=
  "\x7b\"query\": \x7b\"start\": 1700000000000, \"end\": 1700003600000, \"requestType\": \"raw\", " ++
    "\"compositeQuery\": \x7b\"queries\": [\x7b\"type\": \"builder_query\", \"spec\": " ++
    "\x7b\"name\": \"A\", \"signal\": \"logs\"\x7d\x7d]\x7d\x7d\x7d"

/-- The query given, which may come as a text of its own. -/
def givenQuery (given : Json) : Except Fault Json :=
  match given with
  | .null => .error (.argument (.missing "query" sampleQuery))
  | .str s =>
    match Json.parse? s with
    | some v => .ok v
    | none => .error (.argument .queryText)
  | v => .ok v

def planQuery (params : Json) : Except Fault Plan := do
  let given ← arguments decodeQuery params >>= givenQuery
  let query ← (Query.decode given).mapError fun m => .argument (.queryForm m)
  let query ← query.finished
  return ⟨.records query, fun answer => .obj [("query", query.encode), ("result", answer)]⟩

def planListing (inquiry : Inquiry) (limits : PageLimits) (params : Json) : Except Fault Plan := do
  let a ← arguments ListingChoice.decode params
  let (offset, limit) ← resolvePage a.page limits
  return ⟨inquiry, pageOf offset limit⟩

def planAlert (params : Json) : Except Fault Plan := do
  let given ← arguments decodeRuleId params
  let id ← need given "ruleId" (ArgumentFault.sampleMember "ruleId" "42")
  return ⟨.alertRule (Text.trim id), fun answer => answer⟩

def planDashboard (params : Json) : Except Fault Plan := do
  let given ← arguments decodeUuid params
  let given ← need given "uuid" ArgumentFault.sampleUuid
  match Backend.Uuid.ofText? (Text.trim given) with
  | some uuid => return ⟨.dashboard uuid, fun answer => answer⟩
  | none => throw (.argument (.uuid given))

/-- One of the known signals. -/
def signalOf (given : Option String) : Except Fault Signal := do
  let given ← need given "signal" (ArgumentFault.sampleMember "signal" "traces")
  match Signal.ofText (Text.lower (Text.trim given)) with
  | .other name => throw (.argument (.signal name))
  | signal => return signal

def planFieldKeys (params : Json) : Except Fault Plan := do
  let a ← arguments FieldKeysChoice.decode params
  let signal ← signalOf a.signal
  return ⟨.fieldKeys signal a.search, fun answer => answer⟩

/-- A field whose values can be listed. -/
def sampleField : String := "\x7b\"signal\": \"traces\", \"name\": \"service.name\"\x7d"

def planFieldValues (params : Json) : Except Fault Plan := do
  let a ← arguments FieldValuesChoice.decode params
  let signal ← signalOf a.signal
  let name ← need a.name "name" sampleField
  return ⟨.fieldValues signal (Text.trim name) a.search, fun answer => answer⟩

def plan (t : Tool) (limits : PageLimits) (now : Time.Instant) (params : Json) : Except Fault Plan :=
  match t with
  | listServices => planServices limits now params
  | searchLogs => planSearch .logs limits now params
  | searchTraces => planSearch .traces limits now params
  | traceDetails => planTrace limits now params
  | summarizeLogs => planSummary .logs now params
  | summarizeTraces => planSummary .traces now params
  | queryMetrics => planMetrics now params
  | runQuery => planQuery params
  | listAlerts => planListing .alerts limits params
  | getAlert => planAlert params
  | listDashboards => planListing .dashboards limits params
  | getDashboard => planDashboard params
  | listFieldKeys => planFieldKeys params
  | listFieldValues => planFieldValues params

/-- Carries out a plan: the backend is asked once. -/
def Plan.carryOut (p : Plan) (client : Client) : Http.Dialogue (Except Fault Json) := do
  return (← client.ask p.inquiry).map p.answer

def call (client : Client) (limits : PageLimits) (now : Time.Instant) (name : String) (params : Json) :
    Http.Dialogue (Except Fault Json) :=
  match ofName? name with
  | none => .done (.error (.unknownTool name))
  | some t =>
    match t.plan limits now params with
    | .error f => .done (.error f)
    | .ok p => p.carryOut client

end TelemetryGateway.Tool
