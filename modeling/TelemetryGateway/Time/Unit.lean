set_option autoImplicit false

/-!
# Units of time

An instant is a count of nanoseconds since the epoch; the two units in which bounds of a window are
given count whole milliseconds or nanoseconds.
-/

namespace TelemetryGateway.Time

/-- Nanoseconds since the epoch. -/
abbrev Instant := Int

/-- Nanoseconds between two instants. -/
abbrev Span := Int

inductive TimeUnit where
  | milliseconds
  | nanoseconds
  deriving DecidableEq, Inhabited

namespace TimeUnit

def name : TimeUnit → String
  | milliseconds => "milliseconds"
  | nanoseconds => "nanoseconds"

/-- Nanoseconds in one unit. -/
def size : TimeUnit → Int
  | milliseconds => 1000000
  | nanoseconds => 1

theorem size_pos (u : TimeUnit) : 0 < u.size := by cases u <;> decide

end TimeUnit

def hours (n : Int) : Span := n * 3600000000000

def ofMilliseconds (n : Int) : Span := n * 1000000

end TelemetryGateway.Time
