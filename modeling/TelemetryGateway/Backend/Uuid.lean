set_option autoImplicit false

/-!
# Identifiers of dashboards

A universally unique identifier is 32 hexadecimal digits, written in groups of 8, 4, 4, 4 and 12
with hyphens between them. The plain digits, braces around the groups and a prefix are also read.
-/

namespace TelemetryGateway.Backend

structure Uuid where
  /-- The digits in lower case. -/
  digits : List Char
  deriving DecidableEq, Inhabited

namespace Uuid

def isHexDigit (c : Char) : Bool :=
  c.isDigit || ('a' ≤ c && c ≤ 'f') || ('A' ≤ c && c ≤ 'F')

def hyphenated (ds : List Char) : List Char :=
  ds.take 8 ++ '-' :: ((ds.drop 8).take 4 ++ '-' :: ((ds.drop 12).take 4 ++ '-' ::
    ((ds.drop 16).take 4 ++ '-' :: (ds.drop 20).take 12)))

def text (u : Uuid) : String := String.ofList (hyphenated u.digits)

/-- Digits without any hyphens. -/
def ofDigits? (ds : List Char) : Option Uuid :=
  if ds.length = 32 ∧ ds.all isHexDigit then some ⟨ds.map Char.toLower⟩ else none

/-- Digits with hyphens just where the groups end. -/
def ofGroups? (cs : List Char) : Option Uuid :=
  let ds := cs.take 8 ++ (cs.drop 9).take 4 ++ (cs.drop 14).take 4 ++ (cs.drop 19).take 4 ++
    (cs.drop 24).take 12
  if cs = hyphenated ds then ofDigits? ds else none

/-- What may stand before the groups, in any letter case. -/
def scheme : List Char := "urn:uuid:".toList

def ofText? (s : String) : Option Uuid :=
  match s.toList with
  | '{' :: rest => if rest.getLast? = some '}' then ofGroups? rest.dropLast else none
  | cs =>
    if (cs.take scheme.length).map Char.toLower = scheme then ofGroups? (cs.drop scheme.length)
    else if cs.length = 32 then ofDigits? cs
    else ofGroups? cs

example : (ofText? "URN:UUID:1F0C4D6E-5B7A-4C2D-9E3F-8A1B2C3D4E5F").map text =
    some "1f0c4d6e-5b7a-4c2d-9e3f-8a1b2c3d4e5f" := by decide +kernel
example : ofText? "1f0c4d6e5b7a-4c2d-9e3f-8a1b2c3d4e5f" = none := by decide +kernel

end Uuid

end TelemetryGateway.Backend
