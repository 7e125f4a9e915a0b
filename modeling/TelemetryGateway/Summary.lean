import TelemetryGateway.Filter.Choice
import TelemetryGateway.Query.Wire
import TelemetryGateway.Time.Window

set_option autoImplicit false

/-!
# Summaries

A summary reduces the records of a window to one value per group: "average duration by service, top
ten". It is compiled from free-form arguments, and every refusal shows arguments that would do.
-/

namespace TelemetryGateway

structure SummaryChoice where
  verb : Option String
  target : Option String
  groups : Option String
  order : Option String
  limit : Option String
  filter : FilterChoice
  window : WindowChoice
  deriving DecidableEq, Inhabited

/-- A summary that can be asked for. -/
structure Summary where
  signal : Signal
  verb : String
  target : Option String
  /-- The verb applied to its target. -/
  expression : String
  filter : Option String
  groups : List String
  order : SortKey
  limit : Nat
  window : Window
  deriving DecidableEq, Inhabited

namespace Summary

def verbs : List String :=
  ["count", "count_distinct", "avg", "sum", "min", "max", "p50", "p75", "p90", "p95", "p99", "rate"]

def targetless : List String := ["count", "rate"]

/-- The number of groups where none is asked for. -/
def defaultLimit : Nat := 10

def defaultRange : Time.Span := Time.hours 1

def parseVerb (given : Option String) : Except ArgumentFault String :=
  match Text.filled given with
  | none => .error (.noVerb verbs)
  | some given =>
    if verbs.contains (Text.lower given) then .ok (Text.lower given) else .error (.verb given verbs)

/-- The expression of a verb and its target. -/
def expressionOf (verb : String) (target : Option String) : Except ArgumentFault String :=
  match target with
  | some target => .ok (verb ++ "(" ++ target ++ ")")
  | none =>
    if targetless.contains verb then .ok (verb ++ "()") else .error (.noTarget verb targetless)

/-- The pieces of a text between separators. -/
def split (separator : Char) : List Char → List (List Char)
  | [] => [[]]
  | c :: rest =>
    if c = separator then [] :: split separator rest
    else
      match split separator rest with
      | [] => [[c]]
      | piece :: pieces => (c :: piece) :: pieces

/-- The names in a list parted by commas, trimmed, without the empty ones. -/
def parseGroups (given : Option String) : List String :=
  ((split ',' (given.getD "").toList).map fun piece => String.ofList (Text.strip piece)).filter (· ≠ "")

/-- What stands before a suffix in any ASCII letter case. -/
def beforeSuffix? (suffix : List Char) (cs : List Char) : Option (List Char) :=
  let kept := cs.length - suffix.length
  if suffix.length ≤ cs.length ∧ (cs.drop kept).map Char.toLower = suffix then some (cs.take kept)
  else none

/-- An expression with an optional direction behind it; greatest values first where there is none,
and by the summary itself where nothing is given. -/
def parseOrder (given : Option String) (expression : String) : SortKey :=
  match Text.filled given with
  | none => ⟨expression, .desc⟩
  | some given =>
    match beforeSuffix? " asc".toList given.toList with
    | some rest => ⟨String.ofList (Text.strip rest), .asc⟩
    | none =>
      match beforeSuffix? " desc".toList given.toList with
      | some rest => ⟨String.ofList (Text.strip rest), .desc⟩
      | none => ⟨given, .desc⟩

/-- A positive limit; any other number stands for the default. -/
def parseLimit (given : Option String) : Except ArgumentFault Nat :=
  match Text.filled given with
  | none => .ok defaultLimit
  | some given =>
    match Text.int64? given with
    | none => .error (.groupLimit given)
    | some n => .ok (if 0 < n then n.toNat else defaultLimit)

/-- Compiles the arguments; the first of verb, target, filter, limit and window that is wrong is
reported. -/
def compile (a : SummaryChoice) (signal : Signal) (preset : Option String) (now : Time.Instant) :
    Except Fault Summary := do
  let verb ← (parseVerb a.verb).mapError .argument
  let target := Text.filled a.target
  let expression ← (expressionOf verb target).mapError .argument
  let filter ← (a.filter.build signal preset).mapError .argument
  let limit ← (parseLimit a.limit).mapError .argument
  let window ← a.window.resolve .milliseconds defaultRange now
  return {
    signal, verb, target, expression, limit, window
    filter := filter.expression?
    groups := parseGroups a.groups
    order := parseOrder a.order expression }

def encode (s : Summary) : Json :=
  .obj [("end", .int s.window.stop), ("expression", .str s.expression), ("field", .ofText? s.target),
    ("filter", .ofText? s.filter), ("groupBy", .arr (s.groups.map .str)), ("limit", .nat s.limit),
    ("orderDirection", s.order.direction.encode), ("orderExpression", .str s.order.name),
    ("signal", s.signal.encode), ("start", .int s.window.start), ("verb", .str s.verb)]

def query (s : Summary) : Query :=
  .ofLegs s.window .scalar [{ Leg.named "A" s.signal with
    filter := s.filter
    limit := some s.limit
    order := [s.order]
    groups := s.groups.map .named
    reductions := [.ofExpression s.expression] }]

end Summary

namespace SummaryChoice

def empty : SummaryChoice := ⟨none, none, none, none, none, .empty, .empty⟩

def record : Record SummaryChoice where
  title := "AggregationArgs"
  fields := []
  set a key v :=
    match key with
    | "aggregation" => (Argument.text v).map fun s => { a with verb := s }
    | "aggregateOn" => (Argument.text v).map fun s => { a with target := s }
    | "groupBy" => (Argument.text v).map fun s => { a with groups := s }
    | "orderBy" => (Argument.text v).map fun s => { a with order := s }
    | "limit" => (Argument.text v).map fun s => { a with limit := s }
    | _ => .ok a

/-- Reads the summary's own members first, then those of its filter and of its window. -/
def decode : Json.Decoder SummaryChoice := fun v => do
  let a ← record.readObject empty v
  let filter ← FilterChoice.decode v
  let window ← WindowChoice.decode v
  return { a with filter, window }

end SummaryChoice

end TelemetryGateway
