import TelemetryGateway.Text.Blank
import TelemetryGateway.Text.CaseTable

set_option autoImplicit false

/-!
# Letter case

Upper and lower case of a whole text by the full Unicode mappings: one character may become
several, and a capital sigma at the end of a word becomes a final sigma. Where only ASCII letters
count, `lowerAscii` is used instead.
-/

namespace TelemetryGateway.Text

/-- The image of a code point under the first run that holds it. -/
def CaseRun.image? (runs : List CaseRun) (n : Nat) : Option Nat :=
  (runs.find? fun r => r.first ≤ n && n ≤ r.last && (n - r.first) % r.step == 0).map
    fun r => r.image + (n - r.first)

/-- The characters that a character beyond ASCII turns into. -/
def mapByTables (runs : List CaseRun) (special : List (Nat × List Char)) (c : Char) : List Char :=
  match special.lookup c.toNat with
  | some cs => cs
  | none => [((CaseRun.image? runs c.toNat).map Char.ofNat).getD c]

def isAscii (c : Char) : Bool := c.toNat < 0x80

/-- The lower case of a character out of context. -/
def lowerChar (c : Char) : List Char :=
  if isAscii c then [c.toLower] else mapByTables lowerRuns lowerSpecial c

def upperChar (c : Char) : List Char :=
  if isAscii c then [c.toUpper] else mapByTables upperRuns upperSpecial c

theorem lowerChar_ascii {c : Char} (h : isAscii c = true) : lowerChar c = [c.toLower] := by
  simp [lowerChar, h]

/-- Whether the nearest character that case does not ignore is a cased one. -/
def nextIsCased (cs : List Char) : Bool :=
  match cs.dropWhile (inRanges caseIgnorableRanges) with
  | [] => false
  | c :: _ => inRanges casedRanges c

/-- Lower case of `after`, given the characters before it, nearest first. -/
def lowerAfter (before : List Char) : List Char → List Char
  | [] => []
  | c :: after =>
    (if c = 'Σ' then [if nextIsCased before && !nextIsCased after then 'ς' else 'σ']
      else lowerChar c) ++ lowerAfter (c :: before) after

def lower (s : String) : String := String.ofList (lowerAfter [] s.toList)

def upper (s : String) : String := String.ofList (s.toList.flatMap upperChar)

/-- Lower case of the ASCII letters; all else stays. -/
def lowerAscii (s : String) : String := String.ofList (s.toList.map Char.toLower)

example : lower "ΑΣ ΣΑΣ" = "ας σας" := by decide +kernel
example : lower "İ" = "i̇" := by decide +kernel
example : upper "straße ﬁ" = "STRASSE FI" := by decide +kernel

end TelemetryGateway.Text
