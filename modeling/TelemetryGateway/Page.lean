import TelemetryGateway.Argument
import TelemetryGateway.Fault

set_option autoImplicit false

/-!
# Pages of lists

The backend answers a listing with the whole list. A page of it is cut out here and says where the
next one starts. Offsets and limits may be any signed 64-bit words; counts are unsigned ones.
-/

namespace TelemetryGateway

/-- A page and what is needed to ask for the next one. -/
structure Page (α : Type) where
  data : List α
  total : Nat
  offset : Nat
  limit : Nat
  hasMore : Bool
  next : Option Nat
  deriving DecidableEq

/-- A sum kept within unsigned 64-bit words. -/
def addClamped (a b : Nat) : Nat := min (a + b) Text.maxUInt64

namespace Page

variable {α : Type}

/-- The items from an offset on, as many as the limit says. -/
def slice (items : List α) (offset limit : Int) : List α :=
  (items.drop offset.toNat).take limit.toNat

@[simp] theorem length_slice (items : List α) (offset limit : Int) :
    (slice items offset limit).length = min limit.toNat (items.length - offset.toNat) := by
  simp [slice]

/-- A page with its position. The next offset follows from the limit asked for, not from the
length of the page. -/
def of (data : List α) (total offset limit : Nat) : Page α :=
  let hasMore := decide (addClamped offset data.length < total)
  ⟨data, total, offset, limit, hasMore, if hasMore then some (addClamped offset limit) else none⟩

/-- A page whose items were cut out already. -/
def wrap (data : List α) (total : Nat) (offset limit : Int) : Page α :=
  of data total offset.toNat limit.toNat

def paginate (items : List α) (offset limit : Int) : Page α :=
  of (slice items offset limit) items.length (min offset.toNat items.length) limit.toNat

def encode (p : Page Json) : Json :=
  .obj ([("data", .arr p.data), ("hasMore", .bool p.hasMore), ("limit", .nat p.limit)] ++
    (p.next.map fun n => ("nextOffset", Json.nat n)).toList ++
    [("offset", .nat p.offset), ("total", .nat p.total)])

/-- The items of a list, given alone or as the `data` of an object. -/
def listed? : Json → Option (List Json)
  | .arr items => some items
  | .obj members => members.lookup "data" >>= Json.items?
  | _ => none

end Page

/-- How many items a page has where none or too many are asked for. -/
structure PageLimits where
  default : Nat
  maximum : Nat
  deriving DecidableEq, Inhabited

structure PageChoice where
  offset : Option Int
  limit : Option Int
  deriving DecidableEq, Inhabited

namespace PageChoice

def empty : PageChoice := ⟨none, none⟩

def record : Record PageChoice where
  title := "PageArgs"
  fields := ["offset", "limit"]
  set a key v :=
    match key with
    | "offset" => (Argument.integer v).map fun n => { a with offset := n }
    | "limit" => (Argument.integer v).map fun n => { a with limit := n }
    | _ => .ok a

def decode : Json.Decoder PageChoice := record.read empty

/-- The limit where a positive one is asked for, the default otherwise, which like the maximum is
kept within signed 64-bit words. -/
def chosenLimit (a : PageChoice) (limits : PageLimits) : Int :=
  match a.limit.filter fun n => 0 < n with
  | some n => n
  | none =>
    if (limits.default : Int) ≤ Text.maxInt64 then limits.default
    else min limits.maximum Text.maxInt64

def resolve (a : PageChoice) (limits : PageLimits) : Except ArgumentFault (Int × Int) :=
  let offset := a.offset.getD 0
  let limit := a.chosenLimit limits
  if offset < 0 then .error (.negativeOffset offset)
  else if min (limits.maximum : Int) Text.maxInt64 < limit then
    .error (.limitAboveMaximum limit limits.maximum)
  else .ok (offset, limit)

end PageChoice

end TelemetryGateway
