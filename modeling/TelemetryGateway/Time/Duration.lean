import TelemetryGateway.Text.Blank
import TelemetryGateway.Time.Unit

set_option autoImplicit false

/-!
# Written durations

A duration is written as a list of terms such as `1h 30m` or `2.5 days`: a number, whose digits
white space may part, and a unit. A unit ends at white space, at the next digit or at the end. A
fraction must come to a whole number of nanoseconds, from hours on of seconds. All arithmetic stays
within unsigned 64-bit words.
-/

namespace TelemetryGateway.Time

/-- Units by name, with what one comes to. -/
inductive Measure where
  | nanosecond
  | microsecond
  | millisecond
  | second
  | minute
  | hour
  | day
  | week
  | month
  | year
  deriving DecidableEq

namespace Measure

/-- The measures and all their names. -/
def names : List (Measure × List String) :=
  [(nanosecond, ["nanos", "nsec", "ns"]),
    (microsecond, ["usec", "us", "µs"]),
    (millisecond, ["millis", "msec", "ms"]),
    (second, ["seconds", "second", "secs", "sec", "s"]),
    (minute, ["minutes", "minute", "min", "mins", "m"]),
    (hour, ["hours", "hour", "hr", "hrs", "h"]),
    (day, ["days", "day", "d"]),
    (week, ["weeks", "week", "wk", "wks", "w"]),
    (month, ["months", "month", "M"]),
    (year, ["years", "year", "yr", "yrs", "y"])]

def ofName? (name : String) : Option Measure :=
  (names.find? fun m => m.2.contains name).map (·.1)

def nanosecondsPerSecond : Nat := 1000000000

/-- How many parts of a second or whole seconds one measure has: a count, and the nanoseconds in
one of the counted things. -/
def count : Measure → Nat × Nat
  | nanosecond => (1, 1)
  | microsecond => (1000, 1)
  | millisecond => (1000000, 1)
  | second => (1, nanosecondsPerSecond)
  | minute => (60, nanosecondsPerSecond)
  | hour => (3600, nanosecondsPerSecond)
  | day => (86400, nanosecondsPerSecond)
  | week => (604800, nanosecondsPerSecond)
  | month => (2630016, nanosecondsPerSecond)
  | year => (31557600, nanosecondsPerSecond)

/-- The same for the fraction of a measure; a nanosecond has none. -/
def fractionCount? : Measure → Option (Nat × Nat)
  | nanosecond => none
  | microsecond => some (1000, 1)
  | millisecond => some (1000000, 1)
  | second => some (nanosecondsPerSecond, 1)
  | minute => some (60 * nanosecondsPerSecond, 1)
  | m => some m.count

end Measure

/-- One more than the greatest 64-bit word. -/
def wordLimit : Nat := 18446744073709551616

structure Term where
  whole : Nat
  /-- Digits after the point: their value and how many there are. -/
  fraction : Option (Nat × Nat)
  measure : Measure
  deriving DecidableEq

/-- Adds nanoseconds given as seconds and parts of a second. -/
def addWithin (total seconds nanos : Nat) : Option Nat :=
  if seconds < wordLimit ∧ nanos < wordLimit ∧ total % Measure.nanosecondsPerSecond + nanos < wordLimit
  then some (total + seconds * Measure.nanosecondsPerSecond + nanos)
  else none

/-- Adds `number` things of `size` nanoseconds each. -/
def addCounted (total number size : Nat) : Option Nat :=
  if size = 1 then addWithin total 0 number else addWithin total number 0

namespace Term

/-- Adds a term to a sum of nanoseconds. -/
def addTo (total : Nat) (t : Term) : Option Nat := do
  let (count, size) := t.measure.count
  let total ← addCounted total (t.whole * count) size
  match t.fraction with
  | none => return total
  | some (value, places) =>
    let (count, size) ← t.measure.fractionCount?
    let parts := value * count
    if parts < wordLimit ∧ parts % Nat.pow 10 places = 0 then
      addCounted total (parts / Nat.pow 10 places) size
    else none

/-- The nanoseconds of all terms together. -/
def sum (terms : List Term) : Option Nat := terms.foldlM addTo 0

/-- How far reading has come within a term. -/
inductive Mode where
  | between
  | whole (n : Nat)
  | fraction (n value places : Nat)
  /-- The letters of the unit, last one first. -/
  | unit (n : Nat) (fraction : Option (Nat × Nat)) (letters : List Char)

/-- Terms read so far, last one first. -/
structure Progress where
  mode : Mode
  terms : List Term

def isUnitChar (c : Char) : Bool := c.isAlpha || c = 'µ'

def digitValue (c : Char) : Nat := c.toNat - '0'.toNat

/-- A number with one digit more, if it stays a 64-bit word. -/
def push? (n : Nat) (c : Char) : Option Nat :=
  let n := 10 * n + digitValue c
  if n < wordLimit then some n else none

/-- Ends a unit. -/
def close? (n : Nat) (fraction : Option (Nat × Nat)) (letters : List Char) : Option Term :=
  (Measure.ofName? (String.ofList letters.reverse)).map (⟨n, fraction, ·⟩)

def step (p : Progress) (c : Char) : Option Progress :=
  match p.mode with
  | .between =>
    if c.isDigit then some { p with mode := .whole (digitValue c) }
    else if Text.isBlankChar c then some p
    else none
  | .whole n =>
    if c.isDigit then (push? n c).map fun n => { p with mode := .whole n }
    else if Text.isBlankChar c then some p
    else if isUnitChar c then some { p with mode := .unit n none [c] }
    else if c = '.' then some { p with mode := .fraction n 0 0 }
    else none
  | .fraction n value places =>
    if c.isDigit then
      if Nat.pow 10 (places + 1) < wordLimit then
        (push? value c).map fun value => { p with mode := .fraction n value (places + 1) }
      else none
    else if Text.isBlankChar c then some p
    else if isUnitChar c ∧ places ≠ 0 then some { p with mode := .unit n (some (value, places)) [c] }
    else none
  | .unit n fraction letters =>
    if c.isDigit then
      (close? n fraction letters).map fun t => ⟨.whole (digitValue c), t :: p.terms⟩
    else if Text.isBlankChar c then
      (close? n fraction letters).map fun t => ⟨.between, t :: p.terms⟩
    else if isUnitChar c then some { p with mode := .unit n fraction (c :: letters) }
    else none

/-- The terms after the last character; a number must have its unit. -/
def finish (p : Progress) : Option (List Term) :=
  match p.mode with
  | .between => if p.terms = [] then none else some p.terms.reverse
  | .unit n fraction letters => (close? n fraction letters).map fun t => (t :: p.terms).reverse
  | _ => none

def ofChars? (cs : List Char) : Option (List Term) :=
  cs.foldlM step ⟨.between, []⟩ >>= finish

end Term

/-- The nanoseconds of a written duration. -/
def duration? (s : String) : Option Nat := Term.ofChars? s.toList >>= Term.sum

example : duration? "1h 30m" = some 5400000000000 ∧ duration? "2.5days" = some 216000000000000 := by
  decide +kernel
example : duration? "1.5ns" = none ∧ duration? "0.33333h" = none ∧ duration? "5" = none := by
  decide +kernel
example : duration? " 1 0 . 5 s1ms" = some 10501000000 := by decide +kernel

end TelemetryGateway.Time
