import TelemetryGateway.Console.Options

set_option autoImplicit false

/-!
# Commands

What can be asked on the command line: the tools, a call of any tool, searches and summaries of logs
and traces, and the state of the server.
-/

namespace TelemetryGateway.Console

inductive OutputForm where
  | table
  | json
  | compact
  deriving DecidableEq, Inhabited

def OutputForm.ofName? (s : String) : Option OutputForm :=
  if s = "table" then some table
  else if s = "json" then some json
  else if s = "compact" then some compact
  else none

inductive Command where
  | tools
  | call (tool : String) (pairs : List String)
  | searchLogs (text : Option String) (range : String) (severity service filter : Option String)
      (limit : Nat)
  | logErrors (range : String) (limit : Nat)
  | searchTraces (range : String) (service operation : Option String) (errors : Bool) (limit : Nat)
  | summarizeTraces (verb : String) (target groups order : Option String) (range : String)
      (service : Option String) (limit : Nat)
  | status
  deriving DecidableEq

/-- A command, where the server is, the caller's key, and how answers are shown. -/
structure Invocation where
  server : String
  apiKey : Option String
  form : OutputForm
  command : Command
  deriving DecidableEq

namespace Command

def rangeOption : OptionForm := .text "time-range" (some 't')

def serviceOption : OptionForm := .text "service" none

def limitOption : OptionForm := .count "limit" (some 'n')

def toolsLevel : Level := ⟨[], 0, [], false⟩

def callLevel : Level := ⟨[⟨"param", some 'p', true, true, fun _ => true⟩], 1, [], false⟩

def searchLogsLevel : Level :=
  ⟨[rangeOption, .text "severity" (some 's'), serviceOption, .text "filter" none, limitOption],
    1, [], false⟩

def logErrorsLevel : Level := ⟨[rangeOption, limitOption], 0, [], false⟩

def searchTracesLevel : Level :=
  ⟨[rangeOption, serviceOption, .text "operation" none, .flag "errors", limitOption], 0, [], false⟩

def summarizeTracesLevel : Level :=
  ⟨[.text "on" none, .text "group-by" (some 'g'), .text "order-by" none, rangeOption,
    serviceOption, limitOption], 1, [], false⟩

def logsLevel : Level := ⟨[], 0, ["search", "errors"], false⟩

def tracesLevel : Level := ⟨[], 0, ["search", "aggregate"], false⟩

def topLevel : Level :=
  ⟨[.text "server-url" none, .text "api-key" none,
    ⟨"format", some 'f', true, false, fun s => (OutputForm.ofName? s).isSome⟩],
    0, ["tools", "call", "logs", "traces", "status"], true⟩

/-- The first plain argument, which must be there. -/
def firstPlain (g : Given) : Except Refusal String :=
  match g.plain with
  | arg :: _ => .ok arg
  | [] => .error .misuse

/-- The command that was given at a level, which must be there. -/
def named (g : Given) : Except Refusal (String × List String) :=
  match g.command with
  | some c => .ok c
  | none => .error .misuse

def readLogs (args : List String) : Except Refusal Command := do
  let (name, args) ← named (← logsLevel.read args)
  if name = "search" then
    let g ← searchLogsLevel.read args
    return .searchLogs g.plain.head? ((g.value? "time-range").getD "1h") (g.value? "severity")
      (g.value? "service") (g.value? "filter") (g.number "limit" 50)
  else
    let g ← logErrorsLevel.read args
    return .logErrors ((g.value? "time-range").getD "24h") (g.number "limit" 10)

def readTraces (args : List String) : Except Refusal Command := do
  let (name, args) ← named (← tracesLevel.read args)
  if name = "search" then
    let g ← searchTracesLevel.read args
    return .searchTraces ((g.value? "time-range").getD "1h") (g.value? "service")
      (g.value? "operation") (g.isSet "errors") (g.number "limit" 50)
  else
    let g ← summarizeTracesLevel.read args
    return .summarizeTraces (← firstPlain g) (g.value? "on") (g.value? "group-by")
      (g.value? "order-by") ((g.value? "time-range").getD "1h") (g.value? "service")
      (g.number "limit" 10)

def readCommand (name : String) (args : List String) : Except Refusal Command :=
  match name with
  | "tools" => (toolsLevel.read args).map fun _ => tools
  | "call" => do
    let g ← callLevel.read args
    return call (← firstPlain g) (g.values? "param")
  | "logs" => readLogs args
  | "traces" => readTraces args
  | _ => (toolsLevel.read args).map fun _ => status

end Command

def defaultServer : String := "http://localhost:8000"

/-- What a command line asks for; options win over the environment. -/
def Invocation.ofArgs (serverVariable keyVariable : Option String) (args : List String) :
    Except Refusal Invocation := do
  let g ← Command.topLevel.read args
  let (name, rest) ← Command.named g
  let command ← Command.readCommand name rest
  return {
    server := (g.value? "server-url").getD (serverVariable.getD defaultServer)
    apiKey := g.value? "api-key" <|> keyVariable
    form := (g.value? "format" >>= OutputForm.ofName?).getD .table
    command }

end TelemetryGateway.Console
