import TelemetryGateway.Json.Record
import TelemetryGateway.Query.Basic
import TelemetryGateway.Time.Unit

set_option autoImplicit false

/-!
# Faults

Everything that can keep a call from being answered, as causes. The wording is in `Fault.message`
alone. Faults of a query and of an argument are read by the caller, so they say how to mend the
input.
-/

namespace TelemetryGateway

inductive LegFault where
  | unsupportedShape (shape : Shape) (signal : Signal)
  | unknownSignal (name : String)
  | noReductions (shape : Shape) (signal : Signal)
  deriving DecidableEq

inductive QueryFault where
  | noBounds
  | noEntries
  | leg (title : String) (cause : LegFault)
  | custom (text : String)
  deriving DecidableEq

inductive ArgumentFault where
  | mismatch (cause : Mismatch)
  | missing (name : String) (sample : String)
  | range (token : String)
  | rangeTooLarge (unit : Time.TimeUnit)
  | startAfterEnd (start stop : Int)
  | endTooEarly (stop : Int)
  | bound (name : String) (given : String) (unit : Time.TimeUnit)
  | flag (name : String) (given : String)
  | noVerb (verbs : List String)
  | verb (given : String) (verbs : List String)
  | noTarget (verb : String) (without : List String)
  | groupLimit (given : String)
  | negativeOffset (offset : Int)
  | limitAboveMaximum (limit : Int) (maximum : Nat)
  | signal (given : String)
  | traceId (given : String)
  | step (seconds : Int)
  | uuid (given : String)
  | queryText
  | queryForm (cause : Mismatch)
  | custom (text : String)
  deriving DecidableEq

inductive Fault where
  | query (cause : QueryFault)
  | argument (cause : ArgumentFault)
  /-- The backend answered with another status than success; its body is kept. -/
  | backend (status : Nat) (body : String)
  /-- The backend could not be asked. -/
  | connection (reason : String)
  | settings (reason : String)
  | notFound (what : String)
  | internal (what : String)
  /-- The backend's answer is not JSON. -/
  | unreadable
  deriving DecidableEq

namespace LegFault

def message : LegFault → String
  | unsupportedShape shape signal =>
    "unsupported requestType '" ++ shape.text ++ "' for " ++ signal.text
  | unknownSignal name => "unknown signal type '" ++ name ++ "'"
  | noReductions shape signal =>
    "missing aggregations for " ++ shape.text ++ " " ++ signal.text ++ " query"

end LegFault

namespace QueryFault

def message : QueryFault → String
  | noBounds => "missing start or end timestamp"
  | noEntries => "compositeQuery.queries must contain at least one query"
  | leg title cause => title ++ ": " ++ cause.message
  | custom text => text

end QueryFault

namespace ArgumentFault

/-- An instant of the present day in the unit. -/
def sampleInstant : Time.TimeUnit → String
  | .milliseconds => "1700000000000"
  | .nanoseconds => "1700000000000000000"

/-- A complete set of arguments for an aggregation. -/
def sampleAggregation : String :=
  "\x7b\"aggregation\": \"avg\", \"aggregateOn\": \"duration_nano\", " ++
      "\"groupBy\": \"service.name\", \"timeRange\": \"1h\"\x7d"

/-- An object with one member of text. -/
def sampleMember (name value : String) : String :=
  "\x7b\"" ++ name ++ "\": \"" ++ value ++ "\"\x7d"

def sampleUuid : String := sampleMember "uuid" "1f0c4d6e-5b7a-4c2d-9e3f-8a1b2c3d4e5f"

def sampleTraceId : String := sampleMember "traceId" "4bf92f3577b34da6a3ce929d0e0e4736"

def message : ArgumentFault → String
  | mismatch cause => cause.message
  | missing name sample => "missing required parameter '" ++ name ++ "'. Example: " ++ sample
  | range token =>
    "invalid timeRange '" ++ token ++ "': use a number followed by m, h or d, " ++
      "e.g. \"timeRange\": \"30m\", \"2h\" or \"7d\""
  | rangeTooLarge unit =>
    "time range is too large to express in " ++ unit.name ++
      "; use a smaller \"timeRange\" such as \"30d\""
  | startAfterEnd start stop =>
    "start (" ++ Text.integerText start ++ ") is after end (" ++ Text.integerText stop ++
      "); swap them or pass \"timeRange\": \"1h\" instead"
  | endTooEarly stop =>
    "end (" ++ Text.integerText stop ++ ") is too far in the past to look back from; " ++
      "pass a recent end or \"timeRange\": \"1h\" instead"
  | bound name given unit =>
    "invalid " ++ name ++ " '" ++ given ++ "': expected an integer timestamp in " ++ unit.name ++
      " (e.g. \"" ++ name ++ "\": \"" ++ sampleInstant unit ++
      "\"); or pass \"timeRange\": \"1h\" instead"
  | flag name given =>
    "invalid " ++ name ++ " '" ++ given ++ "': must be true or false. Example: \"" ++ name ++
      "\": \"true\""
  | noVerb verbs =>
    "missing required parameter 'aggregation': must be one of " ++ String.intercalate ", " verbs ++
      ". Example: " ++ sampleAggregation
  | verb given verbs =>
    "invalid aggregation '" ++ given ++ "': must be one of " ++ String.intercalate ", " verbs ++
      ". Example: " ++ sampleAggregation
  | noTarget name without =>
    "parameter 'aggregateOn' is required for aggregation '" ++ name ++ "'; only " ++
      String.intercalate " and " without ++ " work without a field. Example: \x7b\"aggregation\": \"" ++
      name ++ "\", \"aggregateOn\": \"duration_nano\"\x7d"
  | groupLimit given =>
    "invalid limit '" ++ given ++ "': must be a positive integer. Example: \"limit\": \"10\""
  | negativeOffset offset =>
    "offset must be zero or positive, got " ++ Text.integerText offset ++
      ". Example: \"offset\": \"0\""
  | limitAboveMaximum limit maximum =>
    "limit " ++ Text.integerText limit ++ " exceeds the maximum of " ++ Text.naturalText maximum ++
      "; page through results with \"offset\" instead, e.g. \"limit\": \"" ++
      Text.naturalText maximum ++ "\", \"offset\": \"" ++ Text.naturalText maximum ++ "\""
  | signal given =>
    "invalid signal '" ++ given ++ "': must be logs, traces or metrics. Example: " ++
      sampleMember "signal" "traces"
  | traceId given =>
    "invalid traceId '" ++ given ++ "': expected a hex string. Example: " ++ sampleTraceId
  | step seconds =>
    "invalid stepInterval '" ++ Text.integerText seconds ++
      "': must be a positive number of seconds. Example: \"stepInterval\": \"60\""
  | uuid given =>
    "invalid uuid '" ++ given ++ "': " ++ Text.unstated ++
      ". Use list_dashboards to find it. Example: " ++ sampleUuid
  | queryText => "query is not valid JSON: " ++ Text.unstated
  | queryForm cause => "query does not match the query_range format: " ++ cause.message
  | custom text => text

end ArgumentFault

namespace Fault

def unknownTool (name : String) : Fault := notFound ("Tool not found: " ++ name)

def message : Fault → String
  | query cause => cause.message
  | argument cause => "Invalid query parameter: " ++ cause.message
  | backend status body =>
    "Backend returned status " ++ Text.naturalText status ++ ": " ++ body
  | connection reason => "Backend request failed: " ++ reason
  | settings reason => "Configuration error: " ++ reason
  | notFound what => "Resource not found: " ++ what
  | internal what => "Internal error: " ++ what
  | unreadable => "Serialization error: " ++ Text.unstated

def isNotFound : Fault → Bool
  | notFound _ => true
  | _ => false

/-- Whether the caller can mend the input. -/
def isInput : Fault → Bool
  | query _ | argument _ => true
  | _ => false

/-- Whether the backend refused or could not be asked. -/
def isBackend : Fault → Bool
  | backend _ _ | connection _ => true
  | _ => false

def status? : Fault → Option Nat
  | backend status _ => some status
  | _ => none

end Fault

end TelemetryGateway
