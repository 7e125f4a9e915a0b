import TelemetryGateway.Fault
import TelemetryGateway.Page
import TelemetryGateway.Text.Case

set_option autoImplicit false

/-!
# Settings

The settings of the server: where the backend is and how it is asked, where the server listens, and
how long pages are. They are read from JSON, or from environment variables whose names spell the
path of a field. Two more variables give the defaults of the backend's address and key.
-/

namespace TelemetryGateway

/-- Variables and their values, in the order in which they were set. -/
abbrev Environment := List (String × String)

structure BackendSettings where
  url : String
  apiKey : Option String
  /-- The header that carries the key. -/
  authHeader : String
  timeout : Nat
  deriving DecidableEq, Inhabited

structure ListenSettings where
  host : String
  port : Nat
  enabled : Bool
  deriving DecidableEq, Inhabited

structure Settings where
  backend : BackendSettings
  listen : ListenSettings
  pages : PageLimits
  deriving DecidableEq, Inhabited

/-- The values of settings that nothing sets. -/
def PageLimits.standard : PageLimits := ⟨50, 500⟩

namespace BackendSettings

def standard (env : Environment) : BackendSettings where
  url := (env.lookup "LOOKOUT_BACKEND_URL").getD "http://localhost:8080"
  apiKey := env.lookup "LOOKOUT_BACKEND_API_KEY"
  authHeader := "SIGNOZ-API-KEY"
  timeout := 30

def record : Record BackendSettings where
  title := "BackendConfig"
  fields := ["url", "api_key", "auth_header", "timeout_secs"]
  set s key v :=
    match key with
    | "url" => (Json.Decoder.text v).map fun t => { s with url := t }
    | "api_key" => (Json.Decoder.optional Json.Decoder.text v).map fun t => { s with apiKey := t }
    | "auth_header" => (Json.Decoder.text v).map fun t => { s with authHeader := t }
    | "timeout_secs" => (Json.Decoder.word64 v).map fun n => { s with timeout := n }
    | _ => .ok s

def decode (env : Environment) : Json.Decoder BackendSettings := record.read (standard env)

def encode (s : BackendSettings) : Json :=
  .obj [("api_key", .ofText? s.apiKey), ("auth_header", .str s.authHeader),
    ("timeout_secs", .nat s.timeout), ("url", .str s.url)]

end BackendSettings

namespace ListenSettings

def standard : ListenSettings := ⟨"0.0.0.0", 8000, true⟩

def record : Record ListenSettings where
  title := "McpConfig"
  fields := ["host", "port", "enabled"]
  set s key v :=
    match key with
    | "host" => (Json.Decoder.text v).map fun t => { s with host := t }
    | "port" => (Json.Decoder.natural 65535 "u16" v).map fun n => { s with port := n }
    | "enabled" => (Json.Decoder.flag v).map fun b => { s with enabled := b }
    | _ => .ok s

def decode : Json.Decoder ListenSettings := record.read standard

def encode (s : ListenSettings) : Json :=
  .obj [("enabled", .bool s.enabled), ("host", .str s.host), ("port", .nat s.port)]

end ListenSettings

namespace PageLimits

def record : Record PageLimits where
  title := "QueryConfig"
  fields := ["default_page_size", "max_page_size"]
  set s key v :=
    let size := Json.Decoder.natural Text.maxUInt64 "usize"
    match key with
    | "default_page_size" => (size v).map fun n => { s with default := n }
    | "max_page_size" => (size v).map fun n => { s with maximum := n }
    | _ => .ok s

def decode : Json.Decoder PageLimits := record.read standard

def encode (s : PageLimits) : Json :=
  .obj [("default_page_size", .nat s.default), ("max_page_size", .nat s.maximum)]

end PageLimits

namespace Settings

def standard (env : Environment) : Settings := ⟨.standard env, .standard, .standard⟩

def record (env : Environment) : Record Settings where
  title := "Config"
  fields := ["backend", "mcp", "query"]
  set s key v :=
    match key with
    | "backend" => (BackendSettings.decode env v).map fun b => { s with backend := b }
    | "mcp" => (ListenSettings.decode v).map fun l => { s with listen := l }
    | "query" => (PageLimits.decode v).map fun p => { s with pages := p }
    | _ => .ok s

def decode (env : Environment) : Json.Decoder Settings := (record env).read (standard env)

def encode (s : Settings) : Json :=
  .obj [("backend", s.backend.encode), ("mcp", s.listen.encode), ("query", s.pages.encode)]

/-- Whether a path may consist of a name: letters, digits and a few marks. -/
def isNameChar (c : Char) : Bool := c.isAlphanum || c = '_' || c = '-' || c = ' '

/-- The path that a variable's name spells in any letter case: what follows the common start, with
two underscores or a point between the names. -/
def path? (name : String) : Option (List String) := do
  let rest ← ((Text.lower name).dropPrefix? "lookout__").map (·.toString)
  let names := (rest.replace "__" ".").splitOn "."
  if names.all fun n => n ≠ "" ∧ n.all isNameChar then some names else none

/-- A truth value as variables spell it. -/
def truth? (s : String) : Option Bool :=
  let s := Text.lower s
  if ["1", "true", "on", "yes"].contains s then some true
  else if ["0", "false", "off", "no"].contains s then some false
  else none

/-- A number as variables spell it, up to a bound. -/
def number? (bound : Nat) (s : String) : Option Nat :=
  let n? :=
    if ["true", "on", "yes"].contains (Text.lower s) then some 1
    else if ["false", "off", "no"].contains (Text.lower s) then some 0
    else Text.unsigned? s
  n?.filter (· ≤ bound)

/-- The settings with the field at a path set to a text, if the text fits it. Unknown fields are
passed over; a section, or what lies below a field, cannot be set to a text. -/
def set? (s : Settings) (path : List String) (text : String) : Option Settings :=
  let word := number? Text.maxUInt64 text
  match path with
  | ["backend", "url"] => some { s with backend := { s.backend with url := text } }
  | ["backend", "api_key"] => some { s with backend := { s.backend with apiKey := some text } }
  | ["backend", "auth_header"] => some { s with backend := { s.backend with authHeader := text } }
  | ["backend", "timeout_secs"] => word.map fun n => { s with backend := { s.backend with timeout := n } }
  | ["mcp", "host"] => some { s with listen := { s.listen with host := text } }
  | ["mcp", "port"] => (number? 65535 text).map fun n => { s with listen := { s.listen with port := n } }
  | ["mcp", "enabled"] => (truth? text).map fun b => { s with listen := { s.listen with enabled := b } }
  | ["query", "default_page_size"] => word.map fun n => { s with pages := { s.pages with default := n } }
  | ["query", "max_page_size"] => word.map fun n => { s with pages := { s.pages with maximum := n } }
  | [part] => if ["backend", "mcp", "query"].contains part then none else some s
  | part :: field :: _ :: _ =>
    let known :=
      match part with
      | "backend" => BackendSettings.record.fields
      | "mcp" => ListenSettings.record.fields
      | "query" => PageLimits.record.fields
      | _ => []
    if known.contains field then none else some s
  | _ => some s

/-- The settings that an environment asks for. -/
def load (env : Environment) : Except Fault Settings :=
  let s? := env.foldlM (fun (s : Settings) v =>
    match path? v.1 with
    | some path => s.set? path v.2
    | none => some s) (standard env)
  match s? with
  | some s => .ok s
  | none => .error (.settings Text.unstated)

/-- The settings of the environment, the standard ones where it is faulty. -/
def loadOrStandard (env : Environment) : Settings :=
  match load env with
  | .ok s => s
  | .error _ => standard env

end Settings

end TelemetryGateway
