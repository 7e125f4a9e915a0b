import TelemetryGateway.Argument
import TelemetryGateway.Query.Build
import TelemetryGateway.Time.Calendar
import TelemetryGateway.Time.Duration

set_option autoImplicit false

/-!
# Windows of time

A window is asked for in three ways: by a range such as `2h` that ends now, by its bounds, or not at
all, in which case a default range ends now. A range wins over bounds. Bounds are whole numbers in
the unit of the window and are never rescaled.
-/

namespace TelemetryGateway

namespace Time

/-- The greatest range: as many milliseconds as a signed 64-bit word counts. -/
def maxRange : Nat := 9223372036854775807 * 1000000

/-- Minutes, hours and days by their letter, in nanoseconds. -/
def letterSize? (c : Char) : Option Nat :=
  if c = 'm' then some 60000000000
  else if c = 'h' then some 3600000000000
  else if c = 'd' then some 86400000000000
  else none

/-- A range written as digits that fit a signed word and one letter: the amount and the size. -/
def letterRange? (token : List Char) : Option (Nat × Nat) := do
  let size ← token.getLast? >>= letterSize?
  let amount ← Text.natural? token.dropLast
  if (amount : Int) ≤ Text.maxInt64 then some (amount, size) else none

/-- Nanoseconds of a written range before its limits are looked at. -/
def rangeNanos? (token : String) : Option Nat :=
  match letterRange? token.toList with
  | some (amount, size) => some (amount * size)
  | none => duration? token

/-- The range that a token spells; it is neither zero nor too large. -/
def range (token : String) : Except ArgumentFault Span :=
  let token := Text.trim token
  match rangeNanos? token with
  | some nanos => if 0 < nanos ∧ nanos ≤ maxRange then .ok nanos else .error (.range token)
  | none => .error (.range token)

namespace TimeUnit

/-- An instant in whole units since the epoch. -/
def instant (u : TimeUnit) (t : Instant) : Except Fault Int :=
  let n := t / u.size
  if u = .milliseconds ∨ Text.FitsInt64 n then .ok n
  else .error (.internal (instantText t ++ " is out of range for " ++ u.name))

/-- A span in whole units. -/
def span (u : TimeUnit) (s : Span) : Except ArgumentFault Int :=
  let n := s / u.size
  if u = .milliseconds ∨ Text.FitsInt64 n then .ok n else .error (.rangeTooLarge u)

end TimeUnit

end Time

structure WindowChoice where
  range : Option String
  start : Option String
  stop : Option String
  deriving DecidableEq, Inhabited

namespace WindowChoice

open Time (TimeUnit Instant Span)

def empty : WindowChoice := ⟨none, none, none⟩

def record : Record WindowChoice where
  title := "TimeWindowArgs"
  fields := ["timeRange", "start", "end"]
  set a key v :=
    match key with
    | "timeRange" => (Argument.text v).map fun s => { a with range := s }
    | "start" => (Argument.text v).map fun s => { a with start := s }
    | "end" => (Argument.text v).map fun s => { a with stop := s }
    | _ => .ok a

def decode : Json.Decoder WindowChoice := record.read empty

def bound (name : String) (u : TimeUnit) (given : String) : Except ArgumentFault Int :=
  match Text.int64? (Text.trim given) with
  | some n => .ok n
  | none => .error (.bound name given u)

/-- The bound that lies a number of units before another. -/
def before (stop units : Int) : Except ArgumentFault Int :=
  if Text.FitsInt64 (stop - units) then .ok (stop - units) else .error (.endTooEarly stop)

/-- The window, given the present in its unit. -/
def resolveFrom (a : WindowChoice) (u : TimeUnit) (default : Span) (now : Int) : Except ArgumentFault Window :=
  match Text.filled a.range with
  | some token => do
    let units ← Time.range token >>= u.span
    let start ← before now units
    return ⟨start, now⟩
  | none => do
    let stop ←
      match Text.filled a.stop with
      | some given => bound "end" u given
      | none => .ok now
    let start ←
      match Text.filled a.start with
      | some given => bound "start" u given
      | none => u.span default >>= before stop
    if start ≤ stop then return ⟨start, stop⟩ else throw (.startAfterEnd start stop)

/-- The window in a unit, as seen at an instant. -/
def resolve (a : WindowChoice) (u : TimeUnit) (default : Span) (now : Instant) : Except Fault Window := do
  let now ← u.instant now
  (a.resolveFrom u default now).mapError .argument

end WindowChoice

end TelemetryGateway
