set_option autoImplicit false

/-!
# Blank text

White space is the Unicode property White_Space. Trimming takes it off both ends of a text, and a
text is blank when nothing is left.
-/

namespace TelemetryGateway.Text

/-- Code points with the property White_Space. -/
def blankRanges : List (Nat × Nat) :=
  [(0x9, 0xD), (0x20, 0x20), (0x85, 0x85), (0xA0, 0xA0), (0x1680, 0x1680), (0x2000, 0x200A),
    (0x2028, 0x2029), (0x202F, 0x202F), (0x205F, 0x205F), (0x3000, 0x3000)]

/-- Whether one of the ranges holds the code point of `c`. -/
def inRanges (ranges : List (Nat × Nat)) (c : Char) : Bool :=
  ranges.any fun r => decide (r.1 ≤ c.toNat) && decide (c.toNat ≤ r.2)

def isBlankChar (c : Char) : Bool := inRanges blankRanges c

/-- The characters without white space before the first and after the last other one. -/
def strip (cs : List Char) : List Char :=
  ((cs.dropWhile isBlankChar).reverse.dropWhile isBlankChar).reverse

@[simp] theorem strip_nil : strip [] = [] := rfl

def trim (s : String) : String := String.ofList (strip s.toList)

@[simp] theorem toList_trim (s : String) : (trim s).toList = strip s.toList := by simp [trim]

def isBlank (s : String) : Bool := s.toList.all isBlankChar

theorem dropWhile_eq_nil {p : Char → Bool} {cs : List Char} :
    cs.dropWhile p = [] ↔ cs.all p = true := by
  induction cs with
  | nil => simp
  | cons c rest ih => by_cases h : p c <;> simp [h, ih]

theorem strip_eq_nil {cs : List Char} : strip cs = [] ↔ cs.all isBlankChar = true := by
  rw [strip, List.reverse_eq_nil_iff, dropWhile_eq_nil, List.all_reverse]
  constructor
  · intro rest
    rw [← List.takeWhile_append_dropWhile (p := isBlankChar) (l := cs), List.all_append, rest]
    simp [List.all_takeWhile]
  · intro blank
    simp [dropWhile_eq_nil.2 blank]

/-- The trimmed text, unless it is absent or blank. -/
def filled (s : Option String) : Option String :=
  (s.map trim).filter fun t => t ≠ ""

@[simp] theorem filled_none : filled none = none := rfl

end TelemetryGateway.Text
