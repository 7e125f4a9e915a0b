import TelemetryGateway.Json.Record
import TelemetryGateway.Text.Integer

set_option autoImplicit false

/-!
# Argument slots

Callers write `"limit": 10` where text is documented and the reverse. A slot for a scalar takes
text, numbers and booleans alike; `null` and blank text leave it empty, and only a container is
refused.
-/

namespace TelemetryGateway.Argument

def text : Json.Decoder (Option String)
  | .null => .ok none
  | .str s => .ok (if Text.isBlank s then none else some s)
  | .num n => .ok (some n.text)
  | .bool b => .ok (some (if b then "true" else "false"))
  | v => .error (.notText v)

/-- A slot that holds a whole number of 64 bits. -/
def integer : Json.Decoder (Option Int)
  | .null => .ok none
  | .num n =>
    match n with
    | .int n => if Text.FitsInt64 n then .ok (some n) else .error (.notInteger (Text.integerText n))
    | .float _ => .error (.notInteger n.text)
  | .str s =>
    if Text.isBlank s then .ok none
    else
      match Text.int64? (Text.trim s) with
      | some n => .ok (some n)
      | none => .error (.notInteger ("'" ++ s ++ "'"))
  | v => .error (.notInteger v.kind)

/-- A whole number that is zero where none is given. -/
def integerOrZero : Json.Decoder Int := fun v => (integer v).map (·.getD 0)

/-- The arguments of a call; none at all are an empty object. -/
def given : Json → Json
  | .null => .obj []
  | v => v

theorem integer_int {n : Int} (h : Text.FitsInt64 n) : integer (Json.int n) = .ok (some n) := by
  simp [integer, Json.int, h]

end TelemetryGateway.Argument
