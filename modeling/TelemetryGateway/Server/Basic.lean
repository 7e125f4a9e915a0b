import TelemetryGateway.Backend.Cache
import TelemetryGateway.Server.Credential
import TelemetryGateway.Tool.Plan

set_option autoImplicit false

/-!
# The server

Agents call tools over HTTP. A call is carried out with the client of the caller's credential. A
tool that fails is still answered with success at the level of HTTP; the answer says what went
wrong.
-/

namespace TelemetryGateway

open Http (Content Dialogue)

/-- What the server keeps between requests. -/
structure Server where
  clients : Backend.Cache Backend.Client
  limits : PageLimits

namespace Server

structure Incoming where
  method : String
  path : String
  headers : Headers
  body : Content

/-- A status, and a body where it is JSON. -/
structure Outgoing where
  status : Nat
  body : Option Json
  deriving DecidableEq

/-- The request that a client's request becomes on arrival; a value is sent as JSON. -/
def Incoming.ofRequest (r : Http.Request) : Incoming where
  method := r.method.text
  path := r.path
  headers := r.headers ++ (if r.body.isSome then [("content-type", "application/json")] else [])
  body := (r.body.map Content.ofJson).getD Content.none

def ofSettings (s : Settings) : Server := ⟨.ofClient (.ofSettings s.backend), s.pages⟩

/-- A tool to call and its arguments. -/
structure ToolCall where
  tool : String
  params : Json
  deriving DecidableEq

namespace ToolCall

def record : Record (Option String × Json) where
  title := "McpRequest"
  fields := ["tool", "params"]
  set c key v :=
    match key with
    | "tool" => (Json.Decoder.text v).map fun s => (some s, c.2)
    | "params" => .ok (c.1, v)
    | _ => .ok c

def decode : Json.Decoder ToolCall := fun v => do
  match ← record.read (none, .null) v with
  | (some tool, params) => return ⟨tool, params⟩
  | (none, _) => throw (record.absent "tool" v)

def encode (c : ToolCall) : Json := .obj [("params", c.params), ("tool", .str c.tool)]

end ToolCall

def framed : Except Fault Json → Json
  | .ok v => .obj [("data", v), ("success", .bool true)]
  | .error f => .obj [("error", .str f.message), ("success", .bool false)]

/-- Whether a header says that the body is JSON. -/
def isJsonType (contentType : String) : Bool :=
  let essence :=
    Text.lowerAscii (Text.trim (String.ofList (contentType.toList.takeWhile (· ≠ ';'))))
  essence = "application/json" ||
    ("application/".toList.isPrefixOf essence.toList && "+json".toList.isSuffixOf essence.toList)

/-- The call that a request holds, or the status with which it is refused. -/
def readCall (r : Incoming) : Except Nat ToolCall :=
  if !((visible? r.headers "content-type").any isJsonType) then .error 415
  else
    match r.body.value with
    | none => .error 400
    | some v => (ToolCall.decode v).mapError fun _ => 422

/-- Calls a tool with the client of the caller's credential. -/
def callTool (s : Server) (now : Time.Instant) (headers : Headers) (c : ToolCall) :
    Dialogue (Outgoing × Server) := do
  let (client, clients) := s.clients.resolve (credential? headers)
  let outcome ← Tool.call client s.limits now c.tool c.params
  return (⟨200, some (framed outcome)⟩, { s with clients })

def answerCall (s : Server) (now : Time.Instant) (r : Incoming) : Dialogue (Outgoing × Server) :=
  match readCall r with
  | .error status => .done (⟨status, none⟩, s)
  | .ok c => s.callTool now r.headers c

/-- Says whether the backend answers the service itself. -/
def answerHealth (s : Server) : Dialogue Outgoing := do
  match ← s.clients.default.isHealthy with
  | .ok _ => return ⟨200, some (.obj [("status", .str "healthy")])⟩
  | .error _ => return ⟨503, some (.obj [("status", .str "unhealthy")])⟩

def inventory : Json := .obj [("tools", .arr (Tool.inventory.map Tool.encode))]

/-- A resource that is read: `GET` gives it, `HEAD` its status alone. -/
def answerRead (s : Server) (method : String) (resource : Dialogue Outgoing) :
    Dialogue (Outgoing × Server) :=
  if method = "GET" then do return (← resource, s)
  else if method = "HEAD" then do return ({ (← resource) with body := none }, s)
  else .done (⟨405, none⟩, s)

/-- The path without a query. -/
def route (path : String) : String := String.ofList (path.toList.takeWhile (· ≠ '?'))

/-- Answers a request. Browsers may ask beforehand with `OPTIONS` what is allowed. -/
def answer (s : Server) (now : Time.Instant) (r : Incoming) : Dialogue (Outgoing × Server) :=
  if r.method = "OPTIONS" then .done (⟨200, none⟩, s)
  else
    match route r.path with
    | "/health" => s.answerRead r.method s.answerHealth
    | "/ping" => s.answerRead r.method (.done ⟨200, some (.obj [("pong", .bool true)])⟩)
    | "/tools" => s.answerRead r.method (.done ⟨200, some inventory⟩)
    | "/mcp" => if r.method = "POST" then s.answerCall now r else .done (⟨405, none⟩, s)
    | _ => .done (⟨404, none⟩, s)

end Server

end TelemetryGateway
