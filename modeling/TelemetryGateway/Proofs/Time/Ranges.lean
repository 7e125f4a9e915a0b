import TelemetryGateway.Proofs.Time.Resolution

set_option autoImplicit false

/-!
# Ranges and their windows

The short cut for digits and one of the letters `m`, `h` and `d` comes to the same as the written
duration, however many digits there are. A range that is read is never empty, but its window is where
the range lasts less than one unit.
-/

namespace TelemetryGateway

namespace Time

/-- A token that is trimmed to digits and one of the letters of the short cut is read as the written
duration that it is, with the same range or the same refusal: the number times what the letter stands
for, however many digits spell it. And whatever a token spells, a range that is read is neither empty
nor longer than a word counts milliseconds. -/
theorem short_range_read_as_written (token : String) :
    (∀ digits letter measure seconds, (Text.trim token).toList = digits ++ [letter] → digits ≠ [] →
      (∀ d ∈ digits, d.isDigit = true) → Letter letter measure seconds →
      range token = writtenRange token ∧
        range token = limited (Text.trim token)
          (some (Nat.ofDigitChars 10 digits 0 * seconds * Measure.nanosecondsPerSecond))) ∧
    ∀ nanos, range token = .ok nanos → 0 < nanos ∧ nanos ≤ maxRange := by
  constructor
  · intro digits letter measure seconds spelled filled allDigits stands
    have alike := range_eq_writtenRange token
    refine ⟨alike, ?_⟩
    rw [alike, writtenRange]
    exact stands.limited_duration?_eq spelled ⟨filled, allDigits⟩
  · intro nanos read
    exact range_bounds read

/-- Ninety minutes with more digits than any word has. -/
theorem ninety_minutes_read_as_written :
    let token := " 0000000000000000000090m"
    let digits := "0000000000000000000090".toList
    (Text.trim token).toList = digits ++ ['m'] ∧ digits ≠ [] ∧
      (∀ d ∈ digits, d.isDigit = true) ∧ Letter 'm' .minute 60 ∧ range token = writtenRange token ∧
      ∃ nanos, range token = .ok nanos ∧ 0 < nanos ∧ nanos ≤ maxRange := by
  intro token digits
  have spelled : (Text.trim token).toList = digits ++ ['m'] := by decide +kernel
  have filled : digits ≠ [] := by decide
  have allDigits : ∀ d ∈ digits, d.isDigit = true := List.all_eq_true.1 (by decide +kernel)
  have read : range token = .ok 5400000000000 := by decide +kernel
  rcases short_range_read_as_written token with ⟨short, limits⟩
  rcases short digits 'm' _ _ spelled filled allDigits .minute with ⟨alike, -⟩
  exact ⟨spelled, filled, allDigits, .minute, alike, _, read, limits _ read⟩

end Time

namespace WindowChoice

open Time (TimeUnit Span Instant)

variable {a : WindowChoice} {u : TimeUnit} {default : Span} {now : Instant} {token : String}
  {nanos : Int} {w : Window}

/-- The window of a range is as many units long as the range has whole ones. -/
theorem length_of_range (ranged : Text.filled a.range = some token)
    (read : Time.range token = .ok nanos) (resolved : a.resolve u default now = .ok w) :
    w.stop - w.start = nanos / u.size := by
  rcases bind_eq_ok.1 resolved with ⟨present, -, resolved⟩
  have steps := mapError_eq_ok.1 resolved
  rw [resolveFrom_of_range ranged, read] at steps
  rcases bind_eq_ok.1 steps with ⟨units, counted, steps⟩
  rcases bind_eq_ok.1 steps with ⟨start, back, steps⟩
  rcases Time.range_bounds read with ⟨positive, longest⟩
  rcases (TimeUnit.span_eq_ok_iff (Int.le_of_lt positive) longest).1 counted with ⟨rfl, -⟩
  rcases before_eq_ok_iff.1 back with ⟨rfl, -⟩
  cases steps
  exact Int.sub_sub_self present (nanos / u.size)

/-- The window of a range that is read never ends before it starts, and it is empty exactly where it is
asked for in milliseconds and the range lasts less than one of them: a range is checked not to be
zero before it is counted in units of the window. -/
theorem window_of_range_empty_iff (a : WindowChoice) (u : TimeUnit) (default : Span) (now : Instant)
    (token : String) (nanos : Int) (w : Window) (ranged : Text.filled a.range = some token)
    (read : Time.range token = .ok nanos) (resolved : a.resolve u default now = .ok w) :
    w.start ≤ w.stop ∧
      (w.start = w.stop ↔ u = .milliseconds ∧ nanos < Time.ofMilliseconds 1) := by
  have length := length_of_range ranged read resolved
  have positive := (Time.range_bounds read).1
  cases u with
  | milliseconds =>
    have short : Time.ofMilliseconds 1 = 1000000 := rfl
    simp only [TimeUnit.size, short, true_and] at length ⊢
    omega
  | nanoseconds =>
    simp only [TimeUnit.size, reduceCtorEq, false_and, iff_false] at length ⊢
    omega

/-- A range of one nanosecond leaves nothing of a window in milliseconds. -/
theorem nanosecond_window_empty :
    let a : WindowChoice := ⟨some "1ns", none, none⟩
    let now : Instant := 1714564800000000000
    Text.filled a.range = some "1ns" ∧ Time.range "1ns" = .ok 1 ∧
      ∃ w, a.resolve .milliseconds (Time.hours 1) now = .ok w ∧ w.start = w.stop := by
  intro a now
  have ranged : Text.filled a.range = some "1ns" := by decide +kernel
  have read : Time.range "1ns" = .ok 1 := by decide +kernel
  have resolved : a.resolve .milliseconds (Time.hours 1) now =
      .ok ⟨1714564800000, 1714564800000⟩ := by decide +kernel
  rcases window_of_range_empty_iff a .milliseconds (Time.hours 1) now "1ns" 1 _ ranged read resolved
    with ⟨-, empty⟩
  exact ⟨ranged, read, _, resolved, empty.2 ⟨rfl, by decide⟩⟩

end WindowChoice

end TelemetryGateway
