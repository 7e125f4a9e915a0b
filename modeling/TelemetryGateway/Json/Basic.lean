import TelemetryGateway.Number.Binary64

set_option autoImplicit false

/-!
# JSON values

An object holds its members as a list. Values that were read from a text hold them in key order
and each key once; `Members.insert` keeps that order, and looking up a key takes the first member
that has it.
-/

namespace TelemetryGateway

/-- A number as written: whole ones within 64 bits stay exact, all others are binary64. -/
inductive Numeral where
  | int (n : Int)
  | float (x : Number.Binary64)
  deriving DecidableEq, Inhabited

inductive Json where
  | null
  | bool (b : Bool)
  | num (n : Numeral)
  | str (s : String)
  | arr (items : List Json)
  | obj (members : List (String × Json))
  deriving Inhabited

abbrev Members := List (String × Json)

namespace Json

mutual

def decEq : (a b : Json) → Decidable (a = b)
  | .null, .null => .isTrue rfl
  | .bool a, .bool b => decidable_of_iff (a = b) (by simp)
  | .num a, .num b => decidable_of_iff (a = b) (by simp)
  | .str a, .str b => decidable_of_iff (a = b) (by simp)
  | .arr a, .arr b => @decidable_of_iff _ (a = b) (by simp) (decEqItems a b)
  | .obj a, .obj b => @decidable_of_iff _ (a = b) (by simp) (decEqMembers a b)
  | .null, .bool _ | .null, .num _ | .null, .str _ | .null, .arr _ | .null, .obj _
  | .bool _, .null | .bool _, .num _ | .bool _, .str _ | .bool _, .arr _ | .bool _, .obj _
  | .num _, .null | .num _, .bool _ | .num _, .str _ | .num _, .arr _ | .num _, .obj _
  | .str _, .null | .str _, .bool _ | .str _, .num _ | .str _, .arr _ | .str _, .obj _
  | .arr _, .null | .arr _, .bool _ | .arr _, .num _ | .arr _, .str _ | .arr _, .obj _
  | .obj _, .null | .obj _, .bool _ | .obj _, .num _ | .obj _, .str _ | .obj _, .arr _ =>
    .isFalse nofun

def decEqItems : (a b : List Json) → Decidable (a = b)
  | [], [] => .isTrue rfl
  | [], _ :: _ | _ :: _, [] => .isFalse nofun
  | a :: as, b :: bs =>
    have := decEq a b
    have := decEqItems as bs
    decidable_of_iff (a = b ∧ as = bs) (by simp)

def decEqMembers : (a b : List (String × Json)) → Decidable (a = b)
  | [], [] => .isTrue rfl
  | [], _ :: _ | _ :: _, [] => .isFalse nofun
  | (k, a) :: as, (l, b) :: bs =>
    have := decEq a b
    have := decEqMembers as bs
    decidable_of_iff ((k = l ∧ a = b) ∧ as = bs) (by simp)

end

instance : DecidableEq Json := decEq

def int (n : Int) : Json := .num (.int n)

def nat (n : Nat) : Json := int n

/-- Text where there is one, `null` otherwise. -/
def ofText? (s : Option String) : Json := (s.map str).getD null

def get? (v : Json) (key : String) : Option Json :=
  match v with
  | obj members => members.lookup key
  | _ => none

/-- The member of an object under `key`, `null` where there is none. -/
def field (v : Json) (key : String) : Json := (v.get? key).getD null

def string? : Json → Option String
  | str s => some s
  | _ => none

def items? : Json → Option (List Json)
  | arr items => some items
  | _ => none

/-- The value at the end of a path of keys. -/
def path? (v : Json) (keys : List String) : Option Json := keys.foldlM get? v

@[simp] theorem get?_obj (members : Members) (key : String) :
    (obj members).get? key = members.lookup key := rfl

@[simp] theorem items?_arr (items : List Json) : (arr items).items? = some items := rfl

end Json

namespace Members

/-- Puts a member in its place by key; a member with the same key gives way. -/
def insert (key : String) (value : Json) : Members → Members
  | [] => [(key, value)]
  | m :: rest =>
    if key < m.1 then (key, value) :: m :: rest
    else if key = m.1 then (key, value) :: rest
    else m :: insert key value rest

/-- Members in key order; the last of several with one key stays. -/
def ofPairs (pairs : List (String × Json)) : Members :=
  pairs.foldl (fun members m => insert m.1 m.2 members) []

theorem lookup_cons (wanted : String) (m : String × Json) (rest : Members) :
    List.lookup wanted (m :: rest) = if wanted = m.1 then some m.2 else rest.lookup wanted := by
  change (match wanted == m.1 with | true => some m.2 | false => rest.lookup wanted) = _
  by_cases h : wanted = m.1
  · simp [h]
  · simp [h, beq_eq_false_iff_ne.2 h]

theorem lookup_insert (key wanted : String) (value : Json) (members : Members) :
    (insert key value members).lookup wanted =
      if wanted = key then some value else members.lookup wanted := by
  induction members with
  | nil => simp [insert, lookup_cons]
  | cons m rest ih =>
    simp only [insert]
    split
    · rw [lookup_cons]
    · split
      · next same => rw [lookup_cons, lookup_cons, same]; split <;> rfl
      · next different =>
        rw [lookup_cons, lookup_cons, ih]
        by_cases h : wanted = m.1
        · simp [h, Ne.symm different]
        · simp [h]

end Members

namespace Json

mutual

/-- The value with the members of every object in key order. -/
def sorted : Json → Json
  | arr items => arr (sortedItems items)
  | obj members => obj (Members.ofPairs (sortedMembers members))
  | v => v

def sortedItems : List Json → List Json
  | [] => []
  | v :: rest => v.sorted :: sortedItems rest

def sortedMembers : List (String × Json) → List (String × Json)
  | [] => []
  | (k, v) :: rest => (k, v.sorted) :: sortedMembers rest

end

end Json

end TelemetryGateway
