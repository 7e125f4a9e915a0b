import TelemetryGateway.Json.Printer

set_option autoImplicit false

/-!
# Reading records from JSON

A record is read member by member, in the order in which its members stand, so the first bad one is
reported. Members that the record does not know are passed over. A record may also be given as an
array of its leading fields in declared order. A mismatch says what was found and what was wanted.
-/

namespace TelemetryGateway

/-- Why a value does not have the form asked for. -/
inductive Mismatch where
  | type (found : Json) (wanted : String)
  | value (found : Json) (wanted : String)
  | length (found : Nat) (wanted : String)
  | missing (field : String)
  | variant (name : String) (allowed : List String)
  /-- A container where one piece of text is due. -/
  | notText (found : Json)
  /-- Something else where a whole number is due. -/
  | notInteger (shown : String)
  deriving DecidableEq

namespace Json

/-- What a value is called in a mismatch. -/
def described : Json → String
  | null => "null"
  | bool b => if b then "boolean `true`" else "boolean `false`"
  | num (.int n) => "integer `" ++ Text.integerText n ++ "`"
  | num (.float x) => "floating point `" ++ (Numeral.float x).text ++ "`"
  | str s => "string " ++ Text.quoted s
  | arr _ => "sequence"
  | obj _ => "map"

/-- The kind of a value with its article. -/
def kind : Json → String
  | null => "null"
  | bool _ => "a boolean"
  | num _ => "a number"
  | str _ => "a string"
  | arr _ => "an array"
  | obj _ => "an object"

end Json

namespace Mismatch

/-- Names in backticks, the last two joined by a word. -/
def alternatives : List String → String
  | [] => ""
  | [a] => "`" ++ a ++ "`"
  | [a, b] => "`" ++ a ++ "` or `" ++ b ++ "`"
  | a :: rest => "`" ++ a ++ "`, " ++ alternatives rest

def message : Mismatch → String
  | type found wanted => "invalid type: " ++ found.described ++ ", expected " ++ wanted
  | value found wanted => "invalid value: " ++ found.described ++ ", expected " ++ wanted
  | length found wanted => "invalid length " ++ Text.naturalText found ++ ", expected " ++ wanted
  | missing field => "missing field `" ++ field ++ "`"
  | variant name allowed => "unknown variant `" ++ name ++ "`, expected " ++ alternatives allowed
  | notText found => "expected a string or number, got " ++ found.kind
  | notInteger shown => "expected an integer, got " ++ shown

end Mismatch

namespace Json

abbrev Decoder (α : Type) := Json → Except Mismatch α

namespace Decoder

variable {α : Type}

def text : Decoder String
  | .str s => .ok s
  | v => .error (.type v "a string")

def flag : Decoder Bool
  | .bool b => .ok b
  | v => .error (.type v "a boolean")

/-- A natural number up to a bound; `wanted` names the bound. -/
def natural (bound : Nat) (wanted : String) : Decoder Nat
  | .num (.int n) =>
    if 0 ≤ n ∧ n ≤ bound then .ok n.toNat else .error (.value (.int n) wanted)
  | v => .error (.type v wanted)

def word64 : Decoder Nat := natural Text.maxUInt64 "u64"

/-- Any value, `null` being none. -/
def optional (read : Decoder α) : Decoder (Option α)
  | .null => .ok none
  | v => (read v).map some

def list (read : Decoder α) : Decoder (List α)
  | .arr items => items.mapM read
  | v => .error (.type v "a sequence")

def members : Decoder Members
  | .obj ms => .ok ms
  | v => .error (.type v "a map")

@[simp] theorem text_str (s : String) : text (.str s) = .ok s := rfl

@[simp] theorem flag_bool (b : Bool) : flag (.bool b) = .ok b := rfl

@[simp] theorem optional_null (read : Decoder α) : optional read .null = .ok none := rfl

@[simp] theorem list_arr (read : Decoder α) (items : List Json) :
    list read (.arr items) = items.mapM read := rfl

@[simp] theorem members_obj (ms : Members) : members (.obj ms) = .ok ms := rfl

end Decoder

end Json

/-- How a record is read: its title in messages, its fields in declared order, and what a member
does to the record read so far. -/
structure Record (α : Type) where
  title : String
  fields : List String
  set : α → String → Json → Except Mismatch α

namespace Record

variable {α : Type}

/-- Takes the members one after the other. -/
def visit (r : Record α) (start : α) (members : Members) : Except Mismatch α :=
  members.foldlM (fun a m => r.set a m.1 m.2) start

@[simp] theorem visit_nil (r : Record α) (start : α) : r.visit start [] = .ok start := rfl

@[simp] theorem visit_cons (r : Record α) (start : α) (m : String × Json) (rest : Members) :
    r.visit start (m :: rest) = (r.set start m.1 m.2).bind (r.visit · rest) := rfl

theorem visit_append (r : Record α) (start : α) (xs ys : Members) :
    r.visit start (xs ++ ys) = (r.visit start xs).bind (r.visit · ys) := by
  simp only [visit, List.foldlM_append]
  rfl

/-- A record given as an object. -/
def readObject (r : Record α) (start : α) : Json.Decoder α
  | .obj members => r.visit start members
  | v => .error (.type v ("struct " ++ r.title))

/-- A record given as an object or as an array of its leading fields. -/
def read (r : Record α) (start : α) : Json.Decoder α
  | .arr items => do
    let a ← r.visit start (r.fields.zip items)
    if r.fields.length < items.length then
      throw (.length items.length "fewer elements in array")
    return a
  | v => r.readObject start v

@[simp] theorem read_obj (r : Record α) (start : α) (members : Members) :
    r.read start (.obj members) = r.visit start members := rfl

@[simp] theorem readObject_obj (r : Record α) (start : α) (members : Members) :
    r.readObject start (.obj members) = r.visit start members := rfl

/-- A required field that did not come: an array is too short for it, an object lacks it. -/
def absent (r : Record α) (field : String) (v : Json) : Mismatch :=
  match v with
  | .arr items =>
    let count := r.fields.length
    .length items.length ("struct " ++ r.title ++ " with " ++ Text.naturalText count ++
      if count = 1 then " element" else " elements")
  | _ => .missing field

end Record

end TelemetryGateway
