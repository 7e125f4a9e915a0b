import TelemetryGateway.Text.Blank
import TelemetryGateway.Text.HiddenTable

set_option autoImplicit false

/-!
# Quoted text

A text as it is shown inside a message: in double quotes, with what would not show written as an
escape.
-/

namespace TelemetryGateway.Text

/-- Lower-case hexadecimal digits without leading zeros. -/
def hexText (n : Nat) : String := String.ofList (Nat.toDigits 16 n)

/-- Control characters, and those that the table hides. -/
def isHidden (c : Char) : Bool :=
  c.toNat < 0x20 || (0x7F ≤ c.toNat && inRanges hiddenRanges c)

def quotedChar (c : Char) : String :=
  if c = '"' then "\\\""
  else if c = '\\' then "\\\\"
  else if c = '\t' then "\\t"
  else if c = '\r' then "\\r"
  else if c = '\n' then "\\n"
  else if c = '\x00' then "\\0"
  else if isHidden c then "\\u\x7b" ++ hexText c.toNat ++ "\x7d"
  else c.toString

def quoted (s : String) : String := "\"" ++ String.join (s.toList.map quotedChar) ++ "\""

/-- Stands in a message for a reason that is worded elsewhere. -/
def unstated : String := "<reason>"

example : quoted "a\"\\é\u0301\x07" = "\"a\\\"\\\\é\\u\x7b301\x7d\\u\x7b7\x7d\"" := by decide +kernel

end TelemetryGateway.Text
