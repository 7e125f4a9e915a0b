import TelemetryGateway.Argument
import TelemetryGateway.Fault
import TelemetryGateway.Filter.Basic
import TelemetryGateway.Text.Case

set_option autoImplicit false

/-!
# Filters asked for by arguments

Searches and summaries share these arguments: an expression in the filter language and shortcuts
for common comparisons. A shortcut counts where its signal has such a field and it is not blank.
-/

namespace TelemetryGateway

structure FilterChoice where
  expression : Option String
  service : Option String
  severity : Option String
  operation : Option String
  failed : Option String
  body : Option String
  deriving DecidableEq, Inhabited

namespace FilterChoice

def empty : FilterChoice := ⟨none, none, none, none, none, none⟩

def record : Record FilterChoice where
  title := "FilterArgs"
  fields := ["filter", "service", "severity", "operation", "error", "searchText"]
  set a key v :=
    match key with
    | "filter" => (Argument.text v).map fun s => { a with expression := s }
    | "service" => (Argument.text v).map fun s => { a with service := s }
    | "severity" => (Argument.text v).map fun s => { a with severity := s }
    | "operation" => (Argument.text v).map fun s => { a with operation := s }
    | "error" => (Argument.text v).map fun s => { a with failed := s }
    | "searchText" => (Argument.text v).map fun s => { a with body := s }
    | _ => .ok a

def decode : Json.Decoder FilterChoice := record.read empty

/-- A truth value in any letter case. -/
def flag (name given : String) : Except ArgumentFault Bool :=
  if Text.lower given = "true" then .ok true
  else if Text.lower given = "false" then .ok false
  else .error (.flag name given)

/-- One member where the argument is filled, none otherwise. -/
def member (argument : Option String) (build : String → Filter) : List Filter :=
  ((Text.filled argument).map build).toList

/-- The members that every signal has. -/
def shared (a : FilterChoice) (preset : Option String) : List Filter :=
  member a.expression .ofText ++ member preset .ofText ++
    member a.service fun s => .equals "service.name" (.text s)

def ofLogs (a : FilterChoice) : List Filter :=
  member a.severity (fun s => .equals "severity_text" (.text (Text.upper s))) ++
    member a.body (.containing "body")

def ofTraces (a : FilterChoice) : Except ArgumentFault (List Filter) := do
  let named := member a.operation fun s => .equals "name" (.text s)
  match Text.filled a.failed with
  | none => return named
  | some given => return named ++ [.equals "hasError" (.flag (← flag "error" given))]

/-- The conjunction of all that the arguments ask for and of a preset expression. -/
def build (a : FilterChoice) (signal : Signal) (preset : Option String) : Except ArgumentFault Filter := do
  let own ←
    match signal with
    | .logs => .ok a.ofLogs
    | .traces => a.ofTraces
    | _ => .ok []
  return .conjunction (a.shared preset ++ own)

end FilterChoice

end TelemetryGateway
