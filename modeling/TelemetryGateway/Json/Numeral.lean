import TelemetryGateway.Json.Basic
import TelemetryGateway.Text.Integer

set_option autoImplicit false

/-!
# Numbers as written in JSON

A whole number stays exact within signed and unsigned 64-bit words. One outside them, one with a
fraction or an exponent, and a negative zero are read as a binary64 value: as many leading digits as
make a 64-bit word are rounded, then the decimal point is moved to its place.
-/

namespace TelemetryGateway

/-- The pieces of a written number: sign, digits before and after the point, exponent. -/
structure Literal where
  negative : Bool
  whole : List Char
  fraction : Option (List Char)
  exponent : Option Int

namespace Literal

/-- One or more digits, and what follows them. -/
def digits? (cs : List Char) : Option (List Char × List Char) :=
  match cs.takeWhile Char.isDigit with
  | [] => none
  | ds => some (ds, cs.dropWhile Char.isDigit)

/-- The fraction, where a point announces one. -/
def fraction? : List Char → Option (Option (List Char) × List Char)
  | '.' :: cs => (digits? cs).map fun (ds, rest) => (some ds, rest)
  | cs => some (none, cs)

/-- The exponent up to the end of the text, where a letter announces one. -/
def exponent? : List Char → Option (Option Int)
  | [] => some none
  | c :: cs =>
    if c = 'e' ∨ c = 'E' then (Text.signed? cs).map some else none

/-- Splits a written number; a leading zero stands alone. -/
def ofChars? (cs : List Char) : Option Literal := do
  let (negative, cs) := match cs with
    | '-' :: rest => (true, rest)
    | cs => (false, cs)
  let (whole, cs) ← digits? cs
  if whole.head? = some '0' ∧ whole.length ≠ 1 then none
  let (fraction, cs) ← fraction? cs
  let exponent ← exponent? cs
  return ⟨negative, whole, fraction, exponent⟩

/-- Whether the number is written as a whole one; a negative zero does not count. -/
def isWhole (l : Literal) : Bool :=
  l.fraction.isNone && l.exponent.isNone && !(l.negative && l.whole == ['0'])

/-- Appends digits to a number as long as it stays an unsigned 64-bit word, and counts the digits
that are left over. -/
def gather (n : Nat) : List Char → Nat × Nat
  | [] => (n, 0)
  | d :: ds =>
    let longer := Nat.ofDigitChars 10 [d] n
    if longer ≤ Text.maxUInt64 then gather longer ds else (n, ds.length + 1)

/-- The binary64 value of a written number, unless it is too large. Digits left over before the
point still count as places. -/
def float? (l : Literal) : Option Number.Binary64 :=
  let fraction := l.fraction.getD []
  let (whole, dropped) := gather 0 l.whole
  let (digits, ignored) := gather whole fraction
  Number.Binary64.ofDecimal? l.negative digits (l.exponent.getD 0 + dropped + ignored - fraction.length)

/-- The value of a written number, unless it is too large. -/
def numeral? (l : Literal) : Option Numeral :=
  let magnitude := Nat.ofDigitChars 10 l.whole 0
  let value : Int := if l.negative then -magnitude else magnitude
  if l.isWhole ∧ Text.minInt64 ≤ value ∧ value ≤ Text.maxUInt64 then some (.int value)
  else l.float?.map .float

end Literal

/-- Reads a whole text as a number. -/
def Numeral.ofChars? (cs : List Char) : Option Numeral := Literal.ofChars? cs >>= Literal.numeral?

example : Numeral.ofChars? "18446744073709551615".toList = some (.int 18446744073709551615) := by
  decide +kernel
example : Numeral.ofChars? "01".toList = none ∧ Numeral.ofChars? "1.".toList = none := by
  decide +kernel
example : Numeral.ofChars? "-0".toList = some (.float (.zero true)) := by decide +kernel

end TelemetryGateway
