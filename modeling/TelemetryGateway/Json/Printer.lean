import TelemetryGateway.Json.Basic
import TelemetryGateway.Number.Shortest
import TelemetryGateway.Text.Integer
import TelemetryGateway.Text.Quoted

set_option autoImplicit false

/-!
# JSON texts

Members are written in key order. The compact text has no spaces; the indented text gives every
item and member a line of its own and keeps empty containers on one.
-/

namespace TelemetryGateway

namespace Numeral

/-- Exponents are written below `10 ^ -5` and from `10 ^ 16` on. -/
def form : Number.DecimalForm := ⟨-5, 15⟩

/-- The text of a number: decimal digits, and for binary64 the shortest that read back. -/
def text : Numeral → String
  | int n => Text.integerText n
  | float x => form.text x

example : text (.float ⟨false, 1, -1074⟩) = "5e-324" ∧ text (.float ⟨true, 5, -1⟩) = "-2.5" := by
  decide +kernel

end Numeral

namespace Json

def hexFour (n : Nat) : String :=
  let ds := Nat.toDigits 16 n
  String.ofList (List.replicate (4 - ds.length) '0' ++ ds)

/-- Quotes, backslashes and control characters are escaped, all else stands for itself. -/
def escapedChar (c : Char) : String :=
  if c = '"' then "\\\""
  else if c = '\\' then "\\\\"
  else if c = '\x08' then "\\b"
  else if c = '\x0c' then "\\f"
  else if c = '\n' then "\\n"
  else if c = '\r' then "\\r"
  else if c = '\t' then "\\t"
  else if c.toNat < 0x20 then "\\u" ++ hexFour c.toNat
  else c.toString

def stringText (s : String) : String :=
  "\"" ++ String.join (s.toList.map escapedChar) ++ "\""

mutual

/-- The text without spaces, members as they stand. -/
def compactText : Json → String
  | null => "null"
  | bool true => "true"
  | bool false => "false"
  | num n => n.text
  | str s => stringText s
  | arr items => "[" ++ String.intercalate "," (compactItems items) ++ "]"
  | obj members => "\x7b" ++ String.intercalate "," (compactMembers members) ++ "\x7d"

def compactItems : List Json → List String
  | [] => []
  | v :: rest => v.compactText :: compactItems rest

def compactMembers : List (String × Json) → List String
  | [] => []
  | (k, v) :: rest => (stringText k ++ ":" ++ v.compactText) :: compactMembers rest

end

def compact (v : Json) : String := v.sorted.compactText

/-- The start of a line at a depth. -/
def newline (depth : Nat) : String := "\n" ++ String.ofList (List.replicate (2 * depth) ' ')

/-- Lines between an opening and a closing bracket. -/
def block (depth : Nat) (opening closing : String) (lines : List String) : String :=
  if lines = [] then opening ++ closing
  else
    opening ++ newline (depth + 1) ++ String.intercalate ("," ++ newline (depth + 1)) lines ++
      newline depth ++ closing

mutual

/-- The text with one line per item and member, members as they stand. -/
def indentedText (depth : Nat) : Json → String
  | arr items => block depth "[" "]" (indentedItems (depth + 1) items)
  | obj members => block depth "\x7b" "\x7d" (indentedMembers (depth + 1) members)
  | v => v.compactText

def indentedItems (depth : Nat) : List Json → List String
  | [] => []
  | v :: rest => v.indentedText depth :: indentedItems depth rest

def indentedMembers (depth : Nat) : List (String × Json) → List String
  | [] => []
  | (k, v) :: rest => (stringText k ++ ": " ++ v.indentedText depth) :: indentedMembers depth rest

end

def indented (v : Json) : String := v.sorted.indentedText 0

example : compact (.obj [("b", .arr [.int 1, .null]), ("a", .str "x\n")]) =
    "\x7b\"a\":\"x\\n\",\"b\":[1,null]\x7d" := by decide +kernel

end Json

end TelemetryGateway
