import TelemetryGateway.Text.Blank
import TelemetryGateway.Text.Integer

set_option autoImplicit false

/-!
# Filter expressions

A filter is a tree of comparisons, texts written by the caller, conjunctions and disjunctions. It is
written in the backend's filter language in one place, so that every value is quoted in the same
way. Empty members are left out, and a node with one member left is written as that member.
-/

namespace TelemetryGateway

inductive Comparison where
  | equal
  | notEqual
  | greater
  | greaterOrEqual
  | less
  | lessOrEqual
  | contains
  deriving DecidableEq, Inhabited

def Comparison.text : Comparison → String
  | equal => "="
  | notEqual => "!="
  | greater => ">"
  | greaterOrEqual => ">="
  | less => "<"
  | lessOrEqual => "<="
  | contains => "CONTAINS"

inductive Operand where
  | text (s : String)
  | int (n : Int)
  | flag (b : Bool)
  deriving DecidableEq, Inhabited

namespace Operand

/-- A backslash goes before every quote and every backslash. -/
def escape : List Char → List Char
  | [] => []
  | c :: rest => if c = '\\' ∨ c = '\'' then '\\' :: c :: escape rest else c :: escape rest

/-- The value in the filter language; text stands in single quotes. -/
def written : Operand → String
  | text s => "'" ++ String.ofList (escape s.toList) ++ "'"
  | int n => Text.integerText n
  | flag b => if b then "true" else "false"

end Operand

inductive Filter where
  /-- An expression as the caller wrote it. -/
  | raw (expression : String)
  | compare (field : String) (op : Comparison) (value : Operand)
  | all (members : List Filter)
  | any (members : List Filter)
  deriving Inhabited

namespace Filter

mutual

/-- Whether there is nothing to write. -/
def isEmpty : Filter → Bool
  | raw s => Text.isBlank s
  | compare _ _ _ => false
  | all members => areEmpty members
  | any members => areEmpty members

def areEmpty : List Filter → Bool
  | [] => true
  | f :: rest => f.isEmpty && areEmpty rest

end

theorem areEmpty_eq_all (members : List Filter) : areEmpty members = members.all isEmpty := by
  induction members with
  | nil => rfl
  | cons f rest ih => simp [areEmpty, ih]

/-- Whether a member of a conjunction goes into parentheses. -/
def wrapsInAll : Filter → Bool
  | raw _ | any _ => true
  | _ => false

/-- Whether a member of a disjunction goes into parentheses. -/
def wrapsInAny : Filter → Bool
  | raw _ | all _ => true
  | _ => false

/-- Written members with a word between them; a single one stands alone. -/
def join (word : String) : List (Bool × String) → String
  | [m] => m.2
  | ms => String.intercalate word (ms.map fun m => if m.1 then "(" ++ m.2 ++ ")" else m.2)

mutual

/-- The expression in the filter language. -/
def text : Filter → String
  | raw s => Text.trim s
  | compare field op value => field ++ " " ++ op.text ++ " " ++ value.written
  | all members => join " AND " (texts wrapsInAll members)
  | any members => join " OR " (texts wrapsInAny members)

/-- The members that are not empty, with whether they are wrapped. -/
def texts (wraps : Filter → Bool) : List Filter → List (Bool × String)
  | [] => []
  | f :: rest =>
    if f.isEmpty then texts wraps rest else (wraps f, f.text) :: texts wraps rest

end

theorem texts_eq_map (wraps : Filter → Bool) (members : List Filter) :
    texts wraps members =
      (members.filter fun f => !f.isEmpty).map fun f => (wraps f, f.text) := by
  induction members with
  | nil => rfl
  | cons f rest ih => by_cases h : f.isEmpty <;> simp [texts, h, ih]

/-- The expression, unless there is nothing to filter by. -/
def expression? (f : Filter) : Option String := if f.isEmpty then none else some f.text

/-- An expression of the caller without the white space around it. -/
def ofText (s : String) : Filter := raw (Text.trim s)

def equals (field : String) (value : Operand) : Filter := compare field .equal value

def containing (field : String) (s : String) : Filter := compare field .contains (.text s)

/-- The conjunction of the members that are not empty. -/
def conjunction (members : List Filter) : Filter := all (members.filter fun f => !f.isEmpty)

/-- The disjunction of the members that are not empty. -/
def disjunction (members : List Filter) : Filter := any (members.filter fun f => !f.isEmpty)

end Filter

end TelemetryGateway
