set_option autoImplicit false

/-!
# Finite binary64 values

A value is a sign, a whole significand and a power of two. Rounding a fraction to the nearest value
uses exact integers throughout; a half goes to the even neighbour. Products and quotients are the
exact ones, rounded.
-/

namespace TelemetryGateway.Number

/-- Nearest integer to `num / den`, a half going to the even one. -/
def roundDiv (num den : Nat) : Nat :=
  let quotient := num / den
  let twice := 2 * (num % den)
  if twice < den ∨ (twice = den ∧ quotient % 2 = 0) then quotient else quotient + 1

/-- The value `± significand · 2 ^ exponent`. -/
structure Binary64 where
  negative : Bool
  significand : Nat
  exponent : Int
  deriving DecidableEq, Inhabited

namespace Binary64

/-- One more than the greatest significand. -/
def significandLimit : Nat := 9007199254740992

def minExponent : Int := -1074

def maxExponent : Int := 971

def zero (negative : Bool) : Binary64 := ⟨negative, 0, minExponent⟩

/-- Numerator and denominator of `n / d · 2 ^ e`. -/
def scaled (n d : Nat) (e : Int) : Nat × Nat :=
  if 0 ≤ e then (n * Nat.pow 2 e.toNat, d) else (n, d * Nat.pow 2 (-e).toNat)

/-- The value nearest to `± num / den`, unless it is too large. -/
def round? (negative : Bool) (num den : Nat) : Option Binary64 :=
  if num = 0 then some (zero negative)
  else
    let guess := max ((num.log2 : Int) - den.log2 - 53) minExponent
    let fraction := scaled num den (-guess)
    let exponent := if fraction.1 / fraction.2 < significandLimit then guess else guess + 1
    let fraction := scaled num den (-exponent)
    let significand := roundDiv fraction.1 fraction.2
    let value : Binary64 :=
      if significand < significandLimit then ⟨negative, significand, exponent⟩
      else ⟨negative, significand / 2, exponent + 1⟩
    if value.exponent ≤ maxExponent then some value else none

/-- Numerator and denominator of the magnitude. -/
def magnitude (x : Binary64) : Nat × Nat := scaled x.significand 1 x.exponent

def isWhole (x : Binary64) : Bool := x.magnitude.1 % x.magnitude.2 == 0

/-- The product, rounded once. -/
def times? (x y : Binary64) : Option Binary64 :=
  round? (x.negative != y.negative) (x.magnitude.1 * y.magnitude.1) (x.magnitude.2 * y.magnitude.2)

/-- The quotient by a value other than zero, rounded once. -/
def over? (x y : Binary64) : Option Binary64 :=
  round? (x.negative != y.negative) (x.magnitude.1 * y.magnitude.2) (x.magnitude.2 * y.magnitude.1)

/-- The greatest power of ten that is a value. -/
def maxTenPower : Int := 308

/-- The value nearest to a power of ten, up to the greatest. -/
def tenPower (power : Int) : Binary64 := (round? false (Nat.pow 10 power.toNat) 1).getD (zero false)

/-- The value with its decimal point moved. It is multiplied or divided by a power of ten and
rounded after each step; two divisions by the greatest power leave nothing of any 64-bit word. -/
def movePoint? (x : Binary64) (power : Int) : Option Binary64 :=
  if x.significand = 0 then some x
  else if maxTenPower < power then none
  else if 0 ≤ power then x.times? (tenPower power)
  else if -maxTenPower ≤ power then x.over? (tenPower (-power))
  else if -(2 * maxTenPower) ≤ power then do
    (← x.over? (tenPower maxTenPower)).over? (tenPower (-power - maxTenPower))
  else some (zero x.negative)

/-- The value of `± digits · 10 ^ power`: the digits are rounded, then the point is moved. -/
def ofDecimal? (negative : Bool) (digits : Nat) (power : Int) : Option Binary64 := do
  (← round? negative digits 1).movePoint? power

example : ofDecimal? false 1 (-1) = some ⟨false, 7205759403792794, -56⟩ := by decide +kernel
example : ofDecimal? true 5 (-324) = some ⟨true, 1, -1074⟩ := by decide +kernel
example : ofDecimal? false 18 307 = none := by decide +kernel

end Binary64

end TelemetryGateway.Number
