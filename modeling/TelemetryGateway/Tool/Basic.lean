import TelemetryGateway.Summary

set_option autoImplicit false

/-!
# Tools

The tools an agent can call, each with its name, what it is for, and the form of its arguments.
-/

namespace TelemetryGateway

inductive Tool where
  | listServices
  | searchLogs
  | searchTraces
  | traceDetails
  | summarizeLogs
  | summarizeTraces
  | queryMetrics
  | runQuery
  | listAlerts
  | getAlert
  | listDashboards
  | getDashboard
  | listFieldKeys
  | listFieldValues
  deriving DecidableEq, Inhabited

namespace Tool

/-- All tools in the order of their names. -/
def inventory : List Tool :=
  [summarizeLogs, summarizeTraces, runQuery, getAlert, getDashboard, traceDetails, listAlerts,
    listDashboards, listFieldKeys, listFieldValues, listServices, queryMetrics, searchLogs,
    searchTraces]

def name : Tool → String
  | listServices => "list_services"
  | searchLogs => "search_logs"
  | searchTraces => "search_traces"
  | traceDetails => "get_trace_details"
  | summarizeLogs => "aggregate_logs"
  | summarizeTraces => "aggregate_traces"
  | queryMetrics => "query_metrics"
  | runQuery => "execute_query"
  | listAlerts => "list_alerts"
  | getAlert => "get_alert"
  | listDashboards => "list_dashboards"
  | getDashboard => "get_dashboard"
  | listFieldKeys => "list_field_keys"
  | listFieldValues => "list_field_values"

def ofName? (s : String) : Option Tool := inventory.find? fun t => t.name = s

def description : Tool → String
  | listServices => "List services that reported traces in the window."
  | searchLogs => "Search log records, newest first."
  | searchTraces => "Search spans, newest first."
  | traceDetails => "Get every span of one trace in start order."
  | summarizeLogs =>
    "Compute counts, averages or percentiles over logs, optionally grouped. Example: " ++
      "\x7b\"aggregation\": \"count\", \"groupBy\": \"service.name\", \"severity\": \"ERROR\"\x7d"
  | summarizeTraces =>
    "Compute counts, averages or percentiles over spans, optionally grouped. Example: " ++
      "\x7b\"aggregation\": \"p99\", \"aggregateOn\": \"duration_nano\", " ++
      "\"groupBy\": \"service.name\"\x7d"
  | queryMetrics => "Query a metric as a time series."
  | runQuery =>
    "Run a raw query_range request. The query is checked and corrected before it is sent."
  | listAlerts => "List active alerts."
  | getAlert => "Get the definition of one alert rule."
  | listDashboards => "List dashboards."
  | getDashboard => "Get one dashboard with its panels and queries."
  | listFieldKeys => "List the attribute and resource keys available for a signal."
  | listFieldValues => "List values seen for one field."

/-- An argument and what is said about it. -/
def property (type name description : String) : String × Json :=
  (name, .obj [("description", .str description), ("type", .str type)])

def textProperty (name description : String) : String × Json := property "string" name description

/-- An argument that is one of several texts. -/
def choiceProperty (name description : String) (choices : List String) : String × Json :=
  (name, .obj [("description", .str description), ("enum", .arr (choices.map .str)),
    ("type", .str "string")])

def windowProperties (defaultRange : String) : Members :=
  [textProperty "timeRange"
      ("Relative window ending now, e.g. 30m, 2h, 7d (default: " ++ defaultRange ++
        "). Wins over start/end"),
    textProperty "start" "Window start as an epoch timestamp",
    textProperty "end" "Window end as an epoch timestamp (default: now)"]

def pageProperties : Members :=
  [textProperty "offset" "Number of items to skip (default: 0)",
    textProperty "limit" "Page size (default: 50, max: 500)"]

def filterProperties : Members :=
  [textProperty "filter"
      "Filter expression, e.g. service.name = 'checkout' AND http.status_code >= 500",
    textProperty "service" "Only this service"]

def logProperties : Members :=
  [textProperty "severity" "Severity text, e.g. ERROR",
    textProperty "searchText" "Text the log body must contain"]

def traceProperties : Members :=
  [textProperty "operation" "Span name, e.g. GET /api/cart",
    textProperty "error" "true for error spans only, false to exclude them"]

def summaryProperties : Members :=
  [choiceProperty "aggregation" "Aggregation to compute" Summary.verbs,
    textProperty "aggregateOn" "Field to aggregate, required unless aggregation is count or rate",
    textProperty "groupBy" "Comma-separated fields to group by",
    textProperty "orderBy"
      "Expression to order by with optional asc/desc (default: the aggregation, desc)",
    textProperty "limit" "Number of groups to return (default: 10)"]

def signalProperty : String × Json :=
  choiceProperty "signal" "Signal the field belongs to" ["logs", "traces", "metrics"]

def properties : Tool → Members
  | listServices => windowProperties "6h" ++ pageProperties
  | searchLogs => filterProperties ++ logProperties ++ windowProperties "1h" ++ pageProperties
  | searchTraces => filterProperties ++ traceProperties ++ windowProperties "1h" ++ pageProperties
  | traceDetails => textProperty "traceId" "Hex trace id" :: windowProperties "24h"
  | summarizeLogs =>
    filterProperties ++ logProperties ++ windowProperties "1h" ++ summaryProperties
  | summarizeTraces =>
    filterProperties ++ traceProperties ++ windowProperties "1h" ++ summaryProperties
  | queryMetrics =>
    [textProperty "metricName" "Metric to query",
      textProperty "timeAggregation"
        "Reduction within each series per step, e.g. avg, rate, sum (default: avg)",
      textProperty "spaceAggregation" "Reduction across series, e.g. sum, avg, p99 (default: sum)",
      textProperty "groupBy" "Comma-separated labels to group by",
      textProperty "stepInterval" "Step in seconds (default: 60)"] ++
      filterProperties ++ windowProperties "1h"
  | runQuery =>
    [property "object" "query" "Query with start, end, requestType and compositeQuery.queries"]
  | listAlerts => pageProperties
  | getAlert => [textProperty "ruleId" "Alert rule id"]
  | listDashboards => pageProperties
  | getDashboard => [textProperty "uuid" "Dashboard uuid"]
  | listFieldKeys => [signalProperty, textProperty "searchText" "Only keys containing this text"]
  | listFieldValues =>
    [signalProperty, textProperty "name" "Field name, e.g. service.name",
      textProperty "searchText" "Only values containing this text"]

/-- The arguments without which a tool does nothing. -/
def required : Tool → List String
  | traceDetails => ["traceId"]
  | summarizeLogs | summarizeTraces => ["aggregation"]
  | queryMetrics => ["metricName"]
  | runQuery => ["query"]
  | getAlert => ["ruleId"]
  | getDashboard => ["uuid"]
  | listFieldKeys => ["signal"]
  | listFieldValues => ["signal", "name"]
  | _ => []

/-- The form of a tool's arguments. -/
def schema (t : Tool) : Json :=
  .obj [("properties", .obj (Members.ofPairs t.properties)),
    ("required", .arr (t.required.map .str)), ("type", .str "object")]

/-- A tool as it is shown to agents. -/
def encode (t : Tool) : Json :=
  .obj [("description", .str t.description), ("input_schema", t.schema), ("name", .str t.name)]

end Tool

end TelemetryGateway
