import TelemetryGateway.Number.Binary64

set_option autoImplicit false

/-!
# Shortest decimal digits

The fewest decimal digits that read back as the same binary64 value, and of those the digits
nearest to it. For every count of digits in turn the two neighbours of the value on that decimal
grid are compared with the interval of numbers that round to it.
-/

namespace TelemetryGateway.Number

/-- Whether `10 ^ k · a` lies below, at or above `num / den`. -/
def compareDecimal (a : Nat) (k : Int) (num den : Nat) : Ordering :=
  if 0 ≤ k then compare (a * Nat.pow 10 k.toNat * den) num
  else compare (a * den) (num * Nat.pow 10 (-k).toNat)

/-- The whole number of steps `10 ^ k` below `num / den`. -/
def decimalFloor (k : Int) (num den : Nat) : Nat :=
  if 0 ≤ k then num / (den * Nat.pow 10 k.toNat) else num * Nat.pow 10 (-k).toNat / den

/-- The power of the leading decimal digit of a positive fraction. -/
def leadingPower (num den : Nat) : Int :=
  if den ≤ num then ((Nat.toDigits 10 (num / den)).length : Int) - 1
  else -((Nat.toDigits 10 ((den + num - 1) / num - 1)).length : Int)

/-- Decimal digits and the power of ten of the last one. -/
structure Decimal where
  digits : Nat
  power : Int
  deriving DecidableEq

namespace Binary64

/-- Whether `d` rounds to `x`: it lies between the midpoints to the neighbours of `x`, which
themselves round to `x` when its significand is even. -/
def roundsFrom (x : Binary64) (d : Decimal) : Bool :=
  let lowest := x.significand = significandLimit / 2 ∧ minExponent < x.exponent
  let below := scaled (4 * x.significand - if lowest then 1 else 2) 4 x.exponent
  let above := scaled (4 * x.significand + 2) 4 x.exponent
  let even := x.significand % 2 == 0
  let low := compareDecimal d.digits d.power below.1 below.2
  let high := compareDecimal d.digits d.power above.1 above.2
  (low == .gt || (even && low == .eq)) && (high == .lt || (even && high == .eq))

/-- The neighbour of `x` on the grid of step `10 ^ k` that rounds to `x`, the nearer of two. -/
def onGrid? (x : Binary64) (k : Int) : Option Decimal :=
  let (num, den) := x.magnitude
  let down : Decimal := ⟨decimalFloor k num den, k⟩
  let up : Decimal := ⟨down.digits + 1, k⟩
  match x.roundsFrom down, x.roundsFrom up with
  | true, false => some down
  | false, true => some up
  | false, false => none
  | true, true =>
    match compareDecimal (2 * down.digits + 1) k (2 * num) den with
    | .gt => some down
    | .lt => some up
    | .eq => some (if down.digits % 2 = 0 then down else up)

/-- Shortest digits of a nonzero value; seventeen always suffice. -/
def shortest (x : Binary64) : Decimal :=
  if x.significand = 0 then ⟨0, 0⟩
  else
    let (num, den) := x.magnitude
    let lead := leadingPower num den
    ((List.range 17).findSome? fun (n : Nat) => x.onGrid? (lead - n)).getD
      ⟨decimalFloor (lead - 17) num den, lead - 17⟩

end Binary64

/-- How a number with a fraction is written: plainly while the power of the leading digit lies
within the bounds, with an exponent otherwise. -/
structure DecimalForm where
  leastPlain : Int
  greatestPlain : Int

namespace DecimalForm

/-- Whether the leading digit's power calls for plain notation. -/
def isPlain (form : DecimalForm) (lead : Int) : Bool :=
  form.leastPlain ≤ lead && lead ≤ form.greatestPlain

/-- Digits around a decimal point, at least one on either side. -/
def plain (ds : List Char) (lead : Int) : List Char :=
  if lead < 0 then '0' :: '.' :: (List.replicate (-lead - 1).toNat '0' ++ ds)
  else
    let whole := lead.toNat + 1
    let fraction := ds.drop whole
    ds.take whole ++ List.replicate (whole - ds.length) '0' ++ '.' ::
      (if fraction = [] then ['0'] else fraction)

/-- One digit, a fraction if there are more, and the exponent with its sign. -/
def scientific (ds : List Char) (lead : Int) : List Char :=
  ds.take 1 ++ (if ds.length ≤ 1 then [] else '.' :: ds.drop 1) ++
    'e' :: (if lead < 0 then '-' else '+') :: Nat.toDigits 10 lead.natAbs

def text (form : DecimalForm) (x : Binary64) : String :=
  let d := x.shortest
  let written := Nat.toDigits 10 d.digits
  let lead := d.power + ((written.length : Int) - 1)
  let trimmed := (written.reverse.dropWhile (· = '0')).reverse
  let ds := if trimmed = [] then ['0'] else trimmed
  String.ofList ((if x.negative then ['-'] else []) ++
    if form.isPlain lead then plain ds lead else scientific ds lead)

end DecimalForm

namespace Binary64

/-- The value with three decimal places, a half going to the even digit. -/
def toThousandths (x : Binary64) : String :=
  let (num, den) := x.magnitude
  let thousandths := roundDiv (num * 1000) den
  let fraction := Nat.toDigits 10 (thousandths % 1000)
  String.ofList ((if x.negative then ['-'] else []) ++ Nat.toDigits 10 (thousandths / 1000) ++
    '.' :: (List.replicate (3 - fraction.length) '0' ++ fraction))

end Binary64

end TelemetryGateway.Number
