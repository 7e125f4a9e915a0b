import TelemetryGateway.Backend.Uuid
import TelemetryGateway.Http.Message
import TelemetryGateway.Query.Wire
import TelemetryGateway.Query.Build
import TelemetryGateway.Settings

set_option autoImplicit false

/-!
# Asking the backend

An inquiry is something the backend can be asked for. A client knows the backend's address and holds
at most one key, which it sends in a header of its own with every request.
-/

namespace TelemetryGateway.Backend

inductive Inquiry where
  | health
  /-- Services that reported spans in a window of nanoseconds. -/
  | services (window : Window)
  | alerts
  | alertRule (id : String)
  | dashboards
  | dashboard (id : Uuid)
  | fieldKeys (signal : Signal) (search : Option String)
  | fieldValues (signal : Signal) (name : String) (search : Option String)
  | records (query : Query)
  deriving DecidableEq

namespace Inquiry

open Http (Method)

def method : Inquiry → Method
  | services _ | records _ => .post
  | _ => .get

def queryPath : String := "/api/v5/query_range"

def path : Inquiry → String
  | health => "/api/v1/health"
  | services _ => "/api/v1/services"
  | alerts => "/api/v1/alerts"
  | alertRule id => "/api/v1/rules/" ++ id
  | dashboards => "/api/v1/dashboards"
  | dashboard id => "/api/v1/dashboards/" ++ id.text
  | fieldKeys _ _ => "/api/v1/fields/keys"
  | fieldValues _ _ _ => "/api/v1/fields/values"
  | records _ => queryPath

/-- The text that names or values must contain. -/
def searchParam (search : Option String) : List (String × String) :=
  (search.map fun s => ("searchText", s)).toList

def params : Inquiry → List (String × String)
  | fieldKeys signal search => ("signal", signal.text) :: searchParam search
  | fieldValues signal name search => ("signal", signal.text) :: ("name", name) :: searchParam search
  | _ => []

def body? : Inquiry → Option Json
  | services w =>
    some (.obj [("end", .str (Text.integerText w.stop)), ("start", .str (Text.integerText w.start)),
      ("tags", .arr [])])
  | records q => some q.encode
  | _ => none

end Inquiry

structure Client where
  url : String
  authHeader : String
  apiKey : Option String
  deriving DecidableEq, Inhabited

namespace Client

/-- A text without slashes at its end. -/
def trimSlashes (s : String) : String :=
  String.ofList ((s.toList.reverse.dropWhile (· = '/')).reverse)

/-- The client of the service itself; an empty key is none. -/
def ofSettings (s : BackendSettings) : Client :=
  ⟨trimSlashes s.url, s.authHeader, s.apiKey.filter (· ≠ "")⟩

def withKey (c : Client) (key : String) : Client := { c with apiKey := some key }

/-- How a client is shown; its key is not. -/
def shown (c : Client) : String :=
  "BackendClient \x7b base_url: " ++ Text.quoted c.url ++ ", auth_header: " ++
    Text.quoted c.authHeader ++ ", api_key: " ++
    (if c.apiKey.isSome then "Some(\"<redacted>\")" else "None") ++ " \x7d"

def request (c : Client) (i : Inquiry) : Http.Request where
  method := i.method
  base := c.url
  path := i.path
  params := i.params
  headers := (c.apiKey.map fun key => (c.authHeader, key)).toList
  body := i.body?

/-- What a reply says: its value, nothing for a blank body, or a fault. -/
def outcome : Http.Exchange → Except Fault Json
  | .error reason => .error (.connection reason)
  | .ok reply =>
    if !reply.isSuccess then .error (.backend reply.status reply.body.text)
    else if Text.isBlank reply.body.text then .ok .null
    else
      match reply.body.value with
      | some v => .ok v
      | none => .error .unreadable

def ask (c : Client) (i : Inquiry) : Http.Dialogue (Except Fault Json) := do
  return outcome (← Http.Dialogue.request (c.request i))

def isHealthy (c : Client) : Http.Dialogue (Except Fault Bool) := do
  return (← c.ask .health).map fun _ => true

end Client

end TelemetryGateway.Backend
