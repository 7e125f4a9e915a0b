import TelemetryGateway.Proofs.Query.ReadBack

set_option autoImplicit false

/-!
# What is written under a key

Queries and legs are written from parts that may be left out. Looking up a key finds the part that
stands under it, whatever the other parts are.
-/

namespace TelemetryGateway

/-- The value that is written for a list: nothing where it has no items. -/
def listed? (items : List Json) : Option Json := if items = [] then none else some (.arr items)

theorem items?_eq_member? (key : String) (items : List Json) :
    items? key items = member? key (listed? items) := by
  cases items with
  | nil => rfl
  | cons v rest => rfl

namespace Leg

/-- What is written for a leg under a key, its unmodelled members apart. -/
def written? (l : Leg) (key : String) : Option Json :=
  match key with
  | "aggregations" => listed? (l.reductions.map Reduction.encode)
  | "disabled" => some (.bool l.disabled)
  | "filter" => l.filter.map encodeFilter
  | "groupBy" => listed? (l.groups.map FieldRef.encode)
  | "having" => l.having
  | "limit" => l.limit.map .nat
  | "name" => l.name.map .str
  | "offset" => l.offset.map .nat
  | "order" => listed? (l.order.map SortKey.encode)
  | "selectFields" => listed? (l.selected.map FieldRef.encode)
  | "signal" => l.signal.map Signal.encode
  | "stepInterval" => l.step.map .int
  | _ => none

theorem lookup_members (l : Leg) (key : String) :
    (l.withExtra []).members.lookup key = l.written? key := by
  unfold written?
  split
  all_goals
    simp_all [members, withExtra, items?_eq_member?, List.lookup_append, lookup_member?,
      Members.lookup_cons]

theorem get?_encode_of_plain {l : Leg} (plain : l.extra = []) (key : String) :
    l.encode.get? key = l.written? key := by
  have same : l = l.withExtra [] := by
    rw [withExtra, ← plain]
  rw [encode, Json.get?_obj, ← lookup_members, ← same]

/-- Names to group by are written one by one, and not at all where there are none. -/
theorem groups_of_named {l : Leg} {names : List String} (plain : l.extra = [])
    (named : l.groups = names.map FieldRef.named) :
    (l.encode.get? "groupBy").getD (.arr []) =
      .arr (names.map fun name => .obj [("name", .str name)]) := by
  have written : l.encode.get? "groupBy" = listed? (l.groups.map FieldRef.encode) :=
    get?_encode_of_plain plain "groupBy"
  rw [written, named, List.map_map]
  cases names with
  | nil => rfl
  | cons name rest => rfl

end Leg

namespace Query

/-- What is written for a query under a key. -/
def written? (q : Query) (key : String) : Option Json :=
  match key with
  | "compositeQuery" => some (encodeEntries q.entries)
  | "end" => some (.int q.stop)
  | "formatOptions" => q.format.map TableFormat.encode
  | "requestType" => q.shape.map Shape.encode
  | "schemaVersion" => some (.str q.version)
  | "start" => some (.int q.start)
  | "variables" => if q.bindings = [] then none else some (.obj q.bindings)
  | _ => none

theorem encodeBindings_eq_member? (bindings : Members) :
    encodeBindings bindings =
      member? "variables" (if bindings = [] then none else some (.obj bindings)) := by
  cases bindings with
  | nil => rfl
  | cons m rest => rfl

theorem get?_encode (q : Query) (key : String) : q.encode.get? key = q.written? key := by
  unfold written?
  split
  all_goals
    simp_all [encode, encodeBindings_eq_member?, List.lookup_append, lookup_member?,
      Members.lookup_cons]

end Query

end TelemetryGateway
