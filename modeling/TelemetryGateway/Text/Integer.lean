set_option autoImplicit false

/-!
# Integers as text

Written in decimal with a minus sign where needed. Read as one optional sign and decimal digits,
nothing else, within a range. Reading gives back what was written.
-/

namespace TelemetryGateway.Text

/-- A run of one or more ASCII digits. -/
def natural? (ds : List Char) : Option Nat :=
  if ds ≠ [] ∧ ds.all Char.isDigit then some (Nat.ofDigitChars 10 ds 0) else none

/-- One sign at most, then digits. -/
def signed? : List Char → Option Int
  | '-' :: ds => (natural? ds).map fun n => -(n : Int)
  | '+' :: ds => (natural? ds).map Int.ofNat
  | ds => (natural? ds).map Int.ofNat

/-- The least and the greatest integer of a signed 64-bit word. -/
def minInt64 : Int := -9223372036854775808

def maxInt64 : Int := 9223372036854775807

/-- The greatest integer of an unsigned 64-bit word. -/
def maxUInt64 : Nat := 18446744073709551615

/-- Whether a value fits a signed 64-bit word. -/
def FitsInt64 (n : Int) : Prop := minInt64 ≤ n ∧ n ≤ maxInt64

instance (n : Int) : Decidable (FitsInt64 n) := inferInstanceAs (Decidable (_ ∧ _))

/-- The integer a text spells, if it fits a signed 64-bit word. -/
def int64? (s : String) : Option Int :=
  (signed? s.toList).filter fun n => FitsInt64 n

theorem fits_of_int64? {s : String} {n : Int} (h : int64? s = some n) : FitsInt64 n := by
  simpa using (Option.filter_eq_some_iff.1 h).2

/-- The natural number a text spells, with an optional plus sign. -/
def unsigned? (s : String) : Option Nat :=
  match s.toList with
  | '+' :: ds => natural? ds
  | ds => natural? ds

def naturalText (n : Nat) : String := String.ofList (Nat.toDigits 10 n)

def integerChars : Int → List Char
  | .ofNat n => Nat.toDigits 10 n
  | .negSucc n => '-' :: Nat.toDigits 10 (n + 1)

def integerText (n : Int) : String := String.ofList (integerChars n)

theorem natural?_toDigits (n : Nat) : natural? (Nat.toDigits 10 n) = some n := by
  have digits : ∀ c ∈ Nat.toDigits 10 n, c.isDigit = true := fun c h =>
    Nat.isDigit_of_mem_toDigits (by decide) (by decide) h
  simpa [natural?, Nat.toDigits_ne_nil] using digits

theorem signed?_digits {d : Char} {ds : List Char} (h : d.isDigit = true) :
    signed? (d :: ds) = (natural? (d :: ds)).map Int.ofNat := by
  unfold signed?
  split
  · next heq => cases heq; exact absurd h (by decide)
  · next heq => cases heq; exact absurd h (by decide)
  · rfl

theorem signed?_integerChars (n : Int) : signed? (integerChars n) = some n := by
  cases n with
  | ofNat n =>
    have read := natural?_toDigits n
    have digits : ∀ c ∈ Nat.toDigits 10 n, c.isDigit = true := fun c h =>
      Nat.isDigit_of_mem_toDigits (by decide) (by decide) h
    rw [integerChars]
    cases written : Nat.toDigits 10 n with
    | nil => exact absurd written Nat.toDigits_ne_nil
    | cons d ds =>
      rw [written] at read digits
      rw [signed?_digits (digits d (by simp)), read]
      rfl
  | negSucc n =>
    simp only [integerChars, signed?, natural?_toDigits]
    rfl

theorem int64?_integerText {n : Int} (h : FitsInt64 n) : int64? (integerText n) = some n := by
  simp [int64?, integerText, signed?_integerChars, h]

example : int64? "+007" = some 7 ∧ int64? "-" = none ∧ int64? "9223372036854775808" = none := by
  decide +kernel

end TelemetryGateway.Text
