import TelemetryGateway.Console.Command
import TelemetryGateway.Console.Table
import TelemetryGateway.Http.Status
import TelemetryGateway.Server.Basic

set_option autoImplicit false

/-!
# Carrying out commands

A command asks the server, mostly by calling a tool, and shows the answer. What goes wrong is shown
as one line and ends the run.
-/

namespace TelemetryGateway.Console

open Http (Dialogue Exchange Reply Request)

inductive SessionFault where
  | unreachable (server : String)
  | status (code : Nat) (url : String)
  /-- The reply is not JSON. -/
  | unreadable
  | refused (tool : String) (reason : String)
  | noPair (given : String)
  | noKey (given : String)
  deriving DecidableEq

def SessionFault.message : SessionFault → String
  | unreachable server => "cannot reach " ++ server
  | status code url =>
    "HTTP status " ++ (if code < 500 then "client" else "server") ++ " error (" ++
      Http.statusText code ++ ") for url (" ++ url ++ ")"
  | unreadable => "error decoding response body"
  | refused tool reason => tool ++ " failed: " ++ reason
  | noPair given => "invalid parameter '" ++ given ++ "': expected key=value"
  | noKey given => "invalid parameter '" ++ given ++ "': empty key"

/-- The server, and the caller's key. -/
structure ServerClient where
  url : String
  apiKey : Option String
  deriving DecidableEq

namespace ServerClient

def of (i : Invocation) : ServerClient := ⟨Backend.Client.trimSlashes i.server, i.apiKey⟩

def read (r : Reply) : Except SessionFault Json :=
  match r.body.value with
  | some v => .ok v
  | none => .error .unreadable

/-- Reads a resource; the status is not looked at. -/
def get (c : ServerClient) (path : String) : Dialogue (Except SessionFault (Nat × Json)) := do
  match ← Dialogue.request ⟨.get, c.url, path, [], [], none⟩ with
  | .error _ => return .error (.unreachable c.url)
  | .ok reply => return (read reply).map fun v => (reply.status, v)

def callRequest (c : ServerClient) (call : Server.ToolCall) : Request where
  method := .post
  base := c.url
  path := "/mcp"
  params := []
  headers := (c.apiKey.map fun key => ("X-API-Key", key)).toList
  body := some call.encode

/-- What an answer to a tool call says. -/
def unframed (tool : String) (v : Json) : Except SessionFault Json :=
  if v.get? "success" = some (.bool true) then .ok (v.field "data")
  else .error (.refused tool ((v.get? "error" >>= Json.string?).getD "unknown error"))

/-- What a reply to a tool call says. -/
def outcome (c : ServerClient) (tool : String) : Exchange → Except SessionFault Json
  | .error _ => .error (.unreachable c.url)
  | .ok reply =>
    if 400 ≤ reply.status ∧ reply.status < 600 then
      .error (.status reply.status (c.url ++ "/mcp"))
    else read reply >>= unframed tool

def callTool (c : ServerClient) (call : Server.ToolCall) : Dialogue (Except SessionFault Json) := do
  return c.outcome call.tool (← Dialogue.request (c.callRequest call))

end ServerClient

/-- A key and the text after the first equals sign. -/
def splitPair? (pair : String) : Option (String × String) :=
  let key := pair.toList.takeWhile (· ≠ '=')
  match pair.toList.drop key.length with
  | [] => none
  | _ :: value => some (String.ofList key, String.ofList value)

/-- A text that is JSON stands for its value, any other for itself. -/
def looseValue (s : String) : Json := (Json.parse? s).getD (.str s)

def addPair (members : Members) (pair : String) : Except SessionFault Members :=
  match splitPair? pair with
  | none => .error (.noPair pair)
  | some (key, value) =>
    if Text.isBlank key then .error (.noKey pair)
    else .ok (members.insert (Text.trim key) (looseValue value))

/-- The arguments that pairs spell; of pairs with the same key the last one counts. -/
def readPairs (pairs : List String) : Except SessionFault Members := pairs.foldlM addPair []

/-- The columns and rows of the first result set, if it has columns. -/
def scalarTable? (result : Json) : Option (List String × List (List String)) := do
  let sets ← result.path? ["data", "data", "results"]
  let table ←
    match sets with
    | .arr items => items.head?
    | v => v.get? "0"
  let columns ← table.get? "columns" >>= Json.items?
  let rows := (table.get? "data" >>= Json.items?).getD []
  return (columns.map fun c => (c.get? "name" >>= Json.string?).getD "?",
    (rows.filterMap Json.items?).map fun cells => cells.map cellText)

/-- A value as JSON, on one line in the compact form. -/
def jsonLines (form : OutputForm) (v : Json) : List String :=
  [if form = .compact then v.compact else v.indented]

def member (v : Json) (key default : String) : String := (v.get? key >>= Json.string?).getD default

def toolLines (form : OutputForm) (v : Json) : List String :=
  match form with
  | .table =>
    let tools := (v.get? "tools" >>= Json.items?).getD []
    tableLines ["TOOL", "DESCRIPTION"]
      (tools.map fun t => [member t "name" "", truncate (member t "description" "") 70])
  | _ => jsonLines form v

def logLines (form : OutputForm) (data : Json) : List String :=
  let rows := Tool.rowsOf (data.field "result")
  match form with
  | .json => jsonLines form data
  | .compact => rows.map fun row =>
    let log := row.field "data"
    cellText (row.field "timestamp") ++ " [" ++ member log "severity_text" "-" ++ "] " ++
      member log "body" ""
  | .table =>
    tableLines ["TIMESTAMP", "SEVERITY", "SERVICE", "MESSAGE"] (rows.map fun row =>
      let log := row.field "data"
      [cellText (row.field "timestamp"), cellText (log.field "severity_text"),
        cellText (log.field "service.name"), truncate (member log "body" "") 60])

def spanLines (form : OutputForm) (data : Json) : List String :=
  let rows := Tool.rowsOf (data.field "result")
  match form with
  | .json => jsonLines form data
  | .compact => rows.map fun row =>
    let span := row.field "data"
    cellText (span.field "trace_id") ++ " " ++ cellText (span.field "service.name") ++ " " ++
      cellText (span.field "name") ++ " " ++ cellText (span.field "duration_nano") ++ "ns"
  | .table =>
    tableLines ["TIMESTAMP", "TRACE", "SERVICE", "OPERATION", "DURATION_NS", "ERROR"]
      (rows.map fun row =>
        let span := row.field "data"
        [cellText (row.field "timestamp"), cellText (span.field "trace_id"),
          cellText (span.field "service.name"), cellText (span.field "name"),
          cellText (span.field "duration_nano"), cellText (span.field "has_error")])

/-- A summary as a table under some lines of its own, or as JSON. -/
def summaryLines (form : OutputForm) (heading : List String) (data : Json) : List String :=
  match form, scalarTable? (data.field "result") with
  | .table, some (columns, rows) => heading ++ tableLines columns rows
  | _, _ => jsonLines form data

def statusLines (form : OutputForm) (server : String) (code : Nat) (health tools : Json) : List String :=
  let count := ((tools.get? "tools" >>= Json.items?).getD []).length
  match form with
  | .table =>
    ["Lookout Status", "==============", "",
      "Server:  " ++ server ++ " (" ++ Http.statusText code ++ ")",
      "Backend: " ++ member health "status" "unknown", "Tools:   " ++ Text.naturalText count]
  | _ => jsonLines form (.obj [("backend", health), ("httpStatus", .nat code),
      ("server", .str server), ("tools", .nat count)])

/-- The call of a tool that a command comes to, and how its answer is shown. -/
def toolCall (form : OutputForm) : Command → Option (Except SessionFault Server.ToolCall × (Json → List String))
  | .call tool pairs =>
    some ((readPairs pairs).map fun members => ⟨tool, .obj members⟩, jsonLines form)
  | .searchLogs text range severity service filter limit =>
    some (.ok ⟨"search_logs", .obj [("filter", .ofText? filter), ("limit", .nat limit),
      ("searchText", .ofText? text), ("service", .ofText? service),
      ("severity", .ofText? severity), ("timeRange", .str range)]⟩, logLines form)
  | .logErrors range limit =>
    some (.ok ⟨"aggregate_logs", .obj [("aggregation", .str "count"), ("groupBy", .str "service.name"),
      ("limit", .nat limit), ("severity", .str "ERROR"), ("timeRange", .str range)]⟩,
      summaryLines form ["Error logs per service (last " ++ range ++ "):", ""])
  | .searchTraces range service operation errors limit =>
    some (.ok ⟨"search_traces", .obj [("error", if errors then .str "true" else .null),
      ("limit", .nat limit), ("operation", .ofText? operation), ("service", .ofText? service),
      ("timeRange", .str range)]⟩, spanLines form)
  | .summarizeTraces verb target groups order range service limit =>
    some (.ok ⟨"aggregate_traces", .obj [("aggregateOn", .ofText? target), ("aggregation", .str verb),
      ("groupBy", .ofText? groups), ("limit", .nat limit), ("orderBy", .ofText? order),
      ("service", .ofText? service), ("timeRange", .str range)]⟩, summaryLines form [])
  | _ => none

/-- Carries out a command; the result is what it shows. -/
def carryOut (i : Invocation) : Dialogue (Except SessionFault (List String)) :=
  let c := ServerClient.of i
  match toolCall i.form i.command with
  | some (.error f, _) => .done (.error f)
  | some (.ok call, shown) => do return (← c.callTool call).map shown
  | none =>
    if i.command = .tools then do
      return (← c.get "/tools").map fun r => toolLines i.form r.2
    else do
      match ← c.get "/health" with
      | .error f => return .error f
      | .ok (code, health) =>
        return (← c.get "/tools").map fun r => statusLines i.form c.url code health r.2

/-- How a run ends: its code, and what it writes. -/
structure Ending where
  code : Nat
  output : String
  errors : String
  deriving DecidableEq

def versionText : String := "lookout 0.1.0\n"

def usageText : String := "Usage: lookout [OPTIONS] <COMMAND>\n"

namespace Ending

/-- Lines, each with its end. -/
def lines (ls : List String) : String := String.join (ls.map (· ++ "\n"))

def ofRefusal : Refusal → Ending
  | .help => ⟨0, usageText, ""⟩
  | .version => ⟨0, versionText, ""⟩
  | .misuse => ⟨2, "", usageText⟩

def ofOutcome : Except SessionFault (List String) → Ending
  | .ok ls => ⟨0, lines ls, ""⟩
  | .error f => ⟨1, "", "Error: " ++ f.message ++ "\n"⟩

end Ending

/-- A whole run, from the arguments and the environment. -/
def run (serverVariable keyVariable : Option String) (args : List String) : Dialogue Ending :=
  match Invocation.ofArgs serverVariable keyVariable args with
  | .error r => .done (.ofRefusal r)
  | .ok i => do return .ofOutcome (← carryOut i)

end TelemetryGateway.Console
