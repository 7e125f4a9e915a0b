import TelemetryGateway.Text.Integer
import TelemetryGateway.Time.Unit

set_option autoImplicit false

/-!
# Dates of the Gregorian calendar

The date and time of day of an instant, as messages show them. Years are counted from March so that
the leap day is the last of its year; a cycle of 400 such years has 146097 days.
-/

namespace TelemetryGateway.Time

structure Date where
  year : Int
  month : Nat
  day : Nat
  deriving DecidableEq

namespace Date

/-- The date a number of days after the epoch. -/
def ofDays (days : Int) : Date :=
  let shifted := days + 719468
  let cycle := shifted / 146097
  let dayOfCycle := (shifted % 146097).toNat
  let yearOfCycle :=
    (dayOfCycle - dayOfCycle / 1460 + dayOfCycle / 36524 - dayOfCycle / 146096) / 365
  let dayOfYear := dayOfCycle - (365 * yearOfCycle + yearOfCycle / 4 - yearOfCycle / 100)
  let marchMonth := (5 * dayOfYear + 2) / 153
  let month := if marchMonth < 10 then marchMonth + 3 else marchMonth - 9
  let year : Int := yearOfCycle + cycle * 400
  ⟨if month ≤ 2 then year + 1 else year, month, dayOfYear - (153 * marchMonth + 2) / 5 + 1⟩

example : ofDays 0 = ⟨1970, 1, 1⟩ ∧ ofDays 19844 = ⟨2024, 5, 1⟩ ∧ ofDays (-719162) = ⟨1, 1, 1⟩ ∧
    ofDays 11016 = ⟨2000, 2, 29⟩ := by decide +kernel

end Date

/-- Decimal digits, filled up with zeros on the left. -/
def padded (width n : Nat) : String :=
  let ds := Nat.toDigits 10 n
  String.ofList (List.replicate (width - ds.length) '0' ++ ds)

/-- Four digits, and outside the years 0 to 9999 a sign before them. -/
def yearText (year : Int) : String :=
  (if year < 0 then "-" else if 9999 < year then "+" else "") ++ padded 4 year.natAbs

/-- A fraction of a second with three, six or nine digits, or none if it is zero. -/
def fractionText (nanos : Nat) : String :=
  if nanos = 0 then ""
  else if nanos % 1000000 = 0 then "." ++ padded 3 (nanos / 1000000)
  else if nanos % 1000 = 0 then "." ++ padded 6 (nanos / 1000)
  else "." ++ padded 9 nanos

/-- An instant as date and time of day. -/
def instantText (t : Instant) : String :=
  let seconds := t / 1000000000
  let date := Date.ofDays (seconds / 86400)
  let second := (seconds % 86400).toNat
  yearText date.year ++ "-" ++ padded 2 date.month ++ "-" ++ padded 2 date.day ++ " " ++
    padded 2 (second / 3600) ++ ":" ++ padded 2 (second / 60 % 60) ++ ":" ++ padded 2 (second % 60) ++
    fractionText (t % 1000000000).toNat ++ " UTC"

end TelemetryGateway.Time
