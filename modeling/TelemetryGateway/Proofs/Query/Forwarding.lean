import TelemetryGateway.Proofs.Json.Fate
import TelemetryGateway.Proofs.Query.Finishing
import TelemetryGateway.Proofs.Query.Written

set_option autoImplicit false

/-!
# What of a query is passed on

A query that is given as JSON is read, finished and written again. What becomes of each member that
is given follows from the record it stands in: a leg keeps what it does not model, all other records
drop it.
-/

namespace TelemetryGateway

open Json (Decoder)

/-! ### Values -/

namespace Fate

variable {α : Type} {read : Decoder α} {write : α → Json}

/-- A value that may be null, in which case it is left out. -/
theorem carries_optional {fate : Fate} (absent : fate.Carries .null none)
    (each : ∀ v a, v.Canonical → read v = .ok a → fate.Carries v (some (write a))) {v : Json}
    (canonical : v.Canonical) {x : Option α} (done : Decoder.optional read v = .ok x) :
    fate.Carries v (x.map write) := by
  cases v with
  | null =>
    obtain rfl := Except.ok.inj done
    exact absent
  | _ =>
    obtain ⟨a, inner, rfl⟩ := map_eq_ok.1 done
    exact each _ a canonical inner

/-- A value that is written back as it was read, or left out. -/
theorem carries_scalar (back : ∀ v a, read v = .ok a → write a = v) {v : Json} (canonical : v.Canonical)
    {x : Option α} (done : Decoder.optional read v = .ok x) : same.Carries v (x.map write) := by
  have absent : same.Carries .null none := .inl ⟨rfl, rfl⟩
  refine carries_optional absent (fun v a _ inner => ?_) canonical done
  exact .inr (congrArg some (back v a inner))

theorem carries_items {item : Fate}
    (each : ∀ v a, v.Canonical → read v = .ok a → item.Carries v (some (write a)))
    {items : List Json} (canonical : ∀ v ∈ items, v.Canonical) {xs : List α}
    (done : items.mapM read = .ok xs) :
    List.Forall₂ (fun v w => item.Carries v (some w)) items (xs.map write) := by
  induction items generalizing xs with
  | nil =>
    obtain rfl := pure_eq_ok.1 done
    exact .nil
  | cons v items ih =>
    obtain ⟨first, others⟩ := List.forall_mem_cons.1 canonical
    rw [List.mapM_cons] at done
    obtain ⟨x, here, rest⟩ := bind_eq_ok.1 done
    obtain ⟨xs, later, result⟩ := bind_eq_ok.1 rest
    obtain rfl := pure_eq_ok.1 result
    exact .cons (each v x first here) (ih others later)

variable {item : Fate} {v : Json} {xs : List α}

theorem carries_list (each : ∀ v a, v.Canonical → read v = .ok a → item.Carries v (some (write a)))
    (canonical : v.Canonical) (done : Decoder.list read v = .ok xs) :
    (list item).Carries v (some (.arr (xs.map write))) := by
  cases v with
  | arr items =>
    exact .inr ⟨items, _, rfl, rfl, carries_items each (Json.canonical_arr.1 canonical) done⟩
  | _ => simp [Decoder.list] at done

/-- A list that is left out where it has no items. -/
theorem carries_listed? (each : ∀ v a, v.Canonical → read v = .ok a → item.Carries v (some (write a)))
    (canonical : v.Canonical) (done : Decoder.list read v = .ok xs) :
    (list item).Carries v (listed? (xs.map write)) := by
  cases v with
  | arr items =>
    have carried := carries_items each (Json.canonical_arr.1 canonical) done
    cases xs with
    | nil =>
      rw [List.map_nil] at carried
      cases carried
      exact .inl ⟨rfl, rfl⟩
    | cons x xs => exact .inr ⟨items, _, rfl, rfl, carried⟩
  | _ => simp [Decoder.list] at done

end Fate

/-- A record whose members settle what is written under their keys is carried as they are. -/
theorem Record.Settles.carries {α : Type} {r : Record α} {write : α → String → Option Json}
    {fate : String → Fate} (h : r.Settles write fun key v sent => (fate key).Carries v sent)
    (distinct : r.fields.Nodup) {a b : α} {v : Json} (canonical : v.Canonical)
    (done : r.read a v = .ok b) {written : Members} (lookup : ∀ key, written.lookup key = write b key) :
    (Fate.record r.fields fun _ key => fate key).Carries v (some (.obj written)) := by
  refine .inr ⟨r.given v, written, isGiven_of_read done, rfl, fun m among => ?_⟩
  rw [lookup]
  exact h.visit (canonical_given canonical) (distinct_given distinct canonical) (visit_given done)
    m among

theorem Json.Decoder.str_of_text {v : Json} {s : String} (done : Decoder.text v = .ok s) :
    Json.str s = v :=
  (Decoder.text_eq_ok.1 done).symm

theorem Json.Decoder.bool_of_flag {v : Json} {b : Bool} (done : Decoder.flag v = .ok b) :
    Json.bool b = v := by
  cases v <;> simp_all [Decoder.flag]

theorem Signal.encode_of_decode {v : Json} {s : Signal} (done : decode v = .ok s) : s.encode = v := by
  obtain ⟨name, text, rfl⟩ := map_eq_ok.1 done
  rw [encode, text_ofText, Decoder.str_of_text text]

/-! ### Parts of legs -/

namespace FieldRef

def fate : Fate := .flat record.fields

/-- What is written for a field under a key. -/
def written? (f : Option String × FieldRef) (key : String) : Option Json :=
  match key with
  | "name" => f.1.map .str
  | "fieldDataType" => f.2.dataType.map .str
  | "signal" => f.2.signal.map Signal.encode
  | "fieldContext" => f.2.context.map .str
  | _ => none

theorem settles : record.Settles written? fun key v sent =>
    (Fate.ofField record.fields key).Carries v sent where
  own := by
    intro a key v b canonical set
    simp only [record] at set
    split at set
    · obtain ⟨s, read, rfl⟩ := map_eq_ok.1 set
      exact .inr (congrArg some (Decoder.str_of_text read))
    · obtain ⟨s, read, rfl⟩ := map_eq_ok.1 set
      exact Fate.carries_scalar (fun _ _ => Decoder.str_of_text) canonical read
    · obtain ⟨s, read, rfl⟩ := map_eq_ok.1 set
      exact Fate.carries_scalar (fun _ _ => Signal.encode_of_decode) canonical read
    · obtain ⟨s, read, rfl⟩ := map_eq_ok.1 set
      exact Fate.carries_scalar (fun _ _ => Decoder.str_of_text) canonical read
    · have absent : written? b key = none := by simp_all [written?]
      rw [absent]
      exact Fate.carries_ofField_of_notMem (by simp_all [record]) v
  frame := by
    intro a key v b set other different
    simp only [record] at set
    split at set
    case h_5 => rw [Except.ok.inj set]
    all_goals
      obtain ⟨s, -, rfl⟩ := map_eq_ok.1 set
      unfold written?
      split
      all_goals first | rfl | exact absurd rfl different

theorem carries_of_decode {v : Json} {f : FieldRef} (canonical : v.Canonical)
    (read : decode v = .ok f) : fate.Carries v (some f.encode) := by
  obtain ⟨⟨name, g⟩, visited, rest⟩ := bind_eq_ok.1 read
  cases name with
  | none => exact absurd rest throw_ne_ok
  | some name =>
    obtain rfl := pure_eq_ok.1 rest
    refine settles.carries (by decide) canonical visited fun key => ?_
    unfold written?
    split
    all_goals simp_all [List.lookup_append, lookup_member?, Members.lookup_cons]

end FieldRef

namespace Reduction

def fate : Fate := .flat record.fields

/-- What is written for a reduction under a key. -/
def written? (r : Reduction) (key : String) : Option Json :=
  match key with
  | "expression" => r.expression.map .str
  | "alias" => r.label.map .str
  | "metricName" => r.metric.map .str
  | "timeAggregation" => r.overTime.map .str
  | "spaceAggregation" => r.overSpace.map .str
  | _ => none

theorem settles : record.Settles written? fun key v sent =>
    (Fate.ofField record.fields key).Carries v sent where
  own := by
    intro a key v b canonical set
    simp only [record] at set
    split at set
    case h_6 =>
      have absent : written? b key = none := by simp_all [written?]
      rw [absent]
      exact Fate.carries_ofField_of_notMem (by simp_all [record]) v
    all_goals
      obtain ⟨s, read, rfl⟩ := map_eq_ok.1 set
      exact Fate.carries_scalar (fun _ _ => Decoder.str_of_text) canonical read
  frame := by
    intro a key v b set other different
    simp only [record] at set
    split at set
    case h_6 => rw [Except.ok.inj set]
    all_goals
      obtain ⟨s, -, rfl⟩ := map_eq_ok.1 set
      unfold written?
      split
      all_goals first | rfl | exact absurd rfl different

theorem carries_of_decode {v : Json} {r : Reduction} (canonical : v.Canonical)
    (read : decode v = .ok r) : fate.Carries v (some r.encode) := by
  refine settles.carries (by decide) canonical read fun key => ?_
  unfold written?
  split
  all_goals simp_all [List.lookup_append, lookup_member?]

end Reduction

namespace SortKey

def nameFate : Fate := .flat nameRecord.fields

def memberFate (key : String) : Fate :=
  match key with
  | "key" => nameFate
  | "direction" => .word
  | _ => .lost

def fate : Fate := .record record.fields fun _ => memberFate

/-- What is written for a name under a key. -/
def writtenName? (name : Option String) (key : String) : Option Json :=
  if key = "name" then name.map .str else none

theorem settles_name : nameRecord.Settles writtenName? fun key v sent =>
    (Fate.ofField nameRecord.fields key).Carries v sent where
  own := by
    intro a key v b canonical set
    simp only [nameRecord] at set
    split at set
    · obtain ⟨s, read, rfl⟩ := map_eq_ok.1 set
      exact .inr (congrArg some (Decoder.str_of_text read))
    · rename_i other
      rw [writtenName?, if_neg other]
      exact Fate.carries_ofField_of_notMem (by simp_all [nameRecord]) v
  frame := by
    intro a key v b set other different
    simp only [nameRecord] at set
    split at set
    · rw [writtenName?, writtenName?, if_neg different, if_neg different]
    · rw [Except.ok.inj set]

theorem carries_of_decodeName {v : Json} {name : String} (canonical : v.Canonical)
    (read : decodeName v = .ok name) : nameFate.Carries v (some (.obj [("name", .str name)])) := by
  obtain ⟨given, visited, rest⟩ := bind_eq_ok.1 read
  cases given with
  | none => exact absurd rest throw_ne_ok
  | some given =>
    obtain rfl := pure_eq_ok.1 rest
    refine settles_name.carries (by decide) canonical visited fun key => ?_
    rw [Members.lookup_cons]
    rfl

theorem text_of_ofText {s : String} {d : Direction} (read : Direction.ofText s = .ok d) :
    d.text = s := by
  unfold Direction.ofText at read
  split at read
  · cases read
    exact (by assumption : s = "asc").symm
  · obtain ⟨rfl, rfl⟩ := ite_eq_ok.1 read
    rfl

theorem carries_direction {v : Json} {d : Direction} (read : Direction.decode v = .ok d) :
    Fate.word.Carries v (some d.encode) := by
  unfold Direction.decode at read
  split at read
  · rename_i s
    exact ⟨s, .inl rfl, by rw [Direction.encode, text_of_ofText read]⟩
  · rename_i name w
    obtain ⟨given, named, rest⟩ := bind_eq_ok.1 read
    split at rest
    · rename_i unit
      obtain rfl := pure_eq_ok.1 rest
      exact ⟨name, .inr (by rw [unit]), by rw [Direction.encode, text_of_ofText named]⟩
    · exact absurd rest throw_ne_ok
  · exact absurd read (by simp)
  · exact absurd read (by simp)

/-- What is written for a sort key under a key. -/
def written? (s : Option String × Direction) (key : String) : Option Json :=
  match key with
  | "key" => s.1.map fun name => .obj [("name", .str name)]
  | "direction" => some s.2.encode
  | _ => none

theorem settles : record.Settles written? fun key v sent => (memberFate key).Carries v sent where
  own := by
    intro a key v b canonical set
    simp only [record] at set
    split at set
    · obtain ⟨name, read, rfl⟩ := map_eq_ok.1 set
      exact carries_of_decodeName canonical read
    · obtain ⟨d, read, rfl⟩ := map_eq_ok.1 set
      exact carries_direction read
    · have unknown : memberFate key = .lost := by simp_all [memberFate]
      rw [unknown]
      simp_all [Fate.Carries, written?]
  frame := by
    intro a key v b set other different
    simp only [record] at set
    split at set
    case h_3 => rw [Except.ok.inj set]
    all_goals
      obtain ⟨x, -, rfl⟩ := map_eq_ok.1 set
      unfold written?
      split
      all_goals first | rfl | exact absurd rfl different

theorem carries_of_decode {v : Json} {s : SortKey} (canonical : v.Canonical)
    (read : decode v = .ok s) : fate.Carries v (some s.encode) := by
  obtain ⟨⟨name, direction⟩, visited, rest⟩ := bind_eq_ok.1 read
  cases name with
  | none => exact absurd rest throw_ne_ok
  | some name =>
    obtain rfl := pure_eq_ok.1 rest
    refine settles.carries (by decide) canonical visited fun key => ?_
    unfold written?
    split
    all_goals simp_all [Members.lookup_cons]

end SortKey

/-! ### Legs -/

namespace Leg

def filterFate : Fate := .flat filterRecord.fields

def memberFate (key : String) : Fate :=
  match key with
  | "stepInterval" => .settled
  | "filter" => filterFate
  | "order" => .list SortKey.fate
  | "selectFields" => .list FieldRef.fate
  | "groupBy" => .list FieldRef.fate
  | "aggregations" => .list Reduction.fate
  | _ => .same

/-- What a leg does not model is kept as it is. -/
def fate : Fate := .record record.fields fun _ => memberFate

/-- What is written for a filter under a key. -/
def writtenFilter? (expression : String) (key : String) : Option Json :=
  if key = "expression" then some (.str expression) else none

theorem settles_filter : filterRecord.Settles writtenFilter? fun key v sent =>
    (Fate.ofField filterRecord.fields key).Carries v sent where
  own := by
    intro a key v b canonical set
    simp only [filterRecord] at set
    split at set
    · exact .inr (congrArg some (Decoder.str_of_text set))
    · rename_i other
      rw [writtenFilter?, if_neg other]
      exact Fate.carries_ofField_of_notMem (by simp_all [filterRecord]) v
  frame := by
    intro a key v b set other different
    simp only [filterRecord] at set
    split at set
    · rw [writtenFilter?, writtenFilter?, if_neg different, if_neg different]
    · rw [Except.ok.inj set]

theorem carries_of_decodeFilter {v : Json} {expression : String} (canonical : v.Canonical)
    (read : decodeFilter v = .ok expression) :
    filterFate.Carries v (some (encodeFilter expression)) := by
  refine settles_filter.carries (by decide) canonical read fun key => ?_
  rw [Members.lookup_cons]
  rfl

theorem encode_of_word64 {v : Json} {n : Nat} (read : Decoder.word64 v = .ok n) : Json.nat n = v := by
  unfold Decoder.word64 Decoder.natural at read
  split at read
  · obtain ⟨⟨positive, -⟩, rfl⟩ := ite_eq_ok.1 read
    rw [Json.nat, Json.int, Int.toNat_of_nonneg positive]
  · exact absurd read (by simp)

theorem settles : record.Settles written? fun key v sent =>
    key ∈ modelled → (memberFate key).Carries v sent where
  own := by
    intro l key v b canonical set known
    simp only [record] at set
    split at set
    · obtain ⟨x, read, rfl⟩ := map_eq_ok.1 set
      exact Fate.carries_scalar (fun _ _ => Decoder.str_of_text) canonical read
    · obtain ⟨x, read, rfl⟩ := map_eq_ok.1 set
      exact Fate.carries_scalar (fun _ _ => Signal.encode_of_decode) canonical read
    · obtain ⟨x, read, rfl⟩ := map_eq_ok.1 set
      exact .inr (congrArg some (Decoder.bool_of_flag read))
    · trivial
    · obtain ⟨x, read, rfl⟩ := map_eq_ok.1 set
      have absent : filterFate.Carries .null none := .inl ⟨rfl, rfl⟩
      exact Fate.carries_optional absent (fun _ _ => carries_of_decodeFilter) canonical read
    · obtain ⟨x, read, rfl⟩ := map_eq_ok.1 set
      exact Fate.carries_scalar (fun _ _ => encode_of_word64) canonical read
    · obtain ⟨x, read, rfl⟩ := map_eq_ok.1 set
      exact Fate.carries_scalar (fun _ _ => encode_of_word64) canonical read
    · obtain ⟨x, read, rfl⟩ := map_eq_ok.1 set
      exact Fate.carries_listed? (fun _ _ => SortKey.carries_of_decode) canonical read
    · obtain ⟨x, read, rfl⟩ := map_eq_ok.1 set
      exact Fate.carries_listed? (fun _ _ => FieldRef.carries_of_decode) canonical read
    · obtain ⟨x, read, rfl⟩ := map_eq_ok.1 set
      exact Fate.carries_listed? (fun _ _ => FieldRef.carries_of_decode) canonical read
    · obtain ⟨x, read, rfl⟩ := map_eq_ok.1 set
      exact Fate.carries_listed? (fun _ _ => Reduction.carries_of_decode) canonical read
    · obtain ⟨x, read, rfl⟩ := map_eq_ok.1 set
      have carried : Fate.same.Carries v (x.map id) :=
        Fate.carries_scalar (fun _ _ taken => (Except.ok.inj taken).symm) canonical read
      rwa [Option.map_id] at carried
    · simp_all [modelled]
  frame := by
    intro l key v b set other different
    simp only [record] at set
    split at set
    case h_13 =>
      obtain rfl := Except.ok.inj set
      rfl
    all_goals
      obtain ⟨x, -, rfl⟩ := map_eq_ok.1 set
      unfold written?
      split
      all_goals first | rfl | exact absurd rfl different

theorem memberFate_of_unmodelled {key : String} (other : key ∉ modelled) : memberFate key = .same := by
  simp only [modelled, List.mem_cons, not_or] at other
  unfold memberFate
  split <;> simp_all

/-- Completing a leg touches its step only. -/
theorem get?_encode_completed (l : Leg) (shape : Shape) {key : String} (other : key ≠ "stepInterval") :
    (l.completed shape).encode.get? key = l.encode.get? key := by
  have modelled : (l.completed shape).written? key = l.written? key := by
    unfold written?
    split
    all_goals first | rfl | exact absurd rfl other
  rw [get?_encode, get?_encode, lookup_members, lookup_members, modelled]
  rfl

theorem carries_of_decode_completed {v : Json} {l : Leg} (canonical : v.Canonical)
    (read : decode v = .ok l) (shape : Shape) :
    fate.Carries v (some (l.completed shape).encode) := by
  have carried := carries_of_decode canonical read
  obtain ⟨members, rfl, -⟩ := extra_of_decode read
  obtain ⟨ordered, values⟩ := Json.canonical_obj.1 canonical
  refine .inr ⟨members, _, .inl rfl, rfl, fun m among => ?_⟩
  change (memberFate m.1).Carries m.2 ((l.completed shape).encode.get? m.1)
  by_cases step : m.1 = "stepInterval"
  · rw [step]
    trivial
  rw [get?_encode_completed l shape step]
  by_cases known : m.1 ∈ modelled
  · have written : l.encode.get? m.1 = l.written? m.1 := by
      rw [carried.modelled m.1 known, encode, Json.get?_obj]
      exact lookup_members l m.1
    rw [written]
    exact settles.visit values ordered.distinct read m among known
  · rw [memberFate_of_unmodelled known, carried.unmodelled m.1 known]
    exact .inr (Members.lookup_of_mem ordered.distinct among)

end Leg

/-! ### Entries -/

namespace Entry

def memberFate (members : Members) (key : String) : Fate :=
  match key with
  | "type" => .same
  | "spec" => if members.lookup "type" = some (.str legKind) then Leg.fate else .same
  | _ => .lost

/-- The body of an entry that is no leg is kept as it is. -/
def fate : Fate := .record record.fields memberFate

/-- The body of an entry, as it is written once the entry is completed. -/
theorem exists_carried_body {e : Entry} {kind : String} {body : Json}
    (canonical : body.Canonical)
    (found : (kind = legKind ∧ ∃ l, Leg.decode body = .ok l ∧ e = leg l) ∨
      (kind ≠ legKind ∧ e = foreign kind body)) (shape : Shape) :
    ∃ sent, (e.completed shape).encode = .obj [("spec", sent), ("type", .str kind)] ∧
      (if kind = legKind then Leg.fate else .same).Carries body (some sent) := by
  rcases found with ⟨rfl, l, read, rfl⟩ | ⟨other, rfl⟩
  · refine ⟨(l.completed shape).encode, rfl, ?_⟩
    rw [if_pos rfl]
    exact Leg.carries_of_decode_completed canonical read shape
  · refine ⟨body, rfl, ?_⟩
    rw [if_neg other]
    exact .inr rfl

theorem carries_of_decode_completed {v : Json} {e : Entry} (canonical : v.Canonical)
    (read : decode v = .ok e) (shape : Shape) :
    fate.Carries v (some (e.completed shape).encode) := by
  obtain ⟨kind, body, outer, found⟩ := decode_cases read
  have distinct := Record.distinct_given (r := record) (by decide) canonical
  obtain ⟨sameKind, sameBody⟩ := visit_lookup distinct (Record.visit_given outer)
  obtain ⟨sent, written, carried⟩ := exists_carried_body (canonical_body canonical outer) found shape
  have holdsLeg : (record.given v).lookup "type" = some (.str legKind) ↔ kind = legKind := by
    cases given : (record.given v).lookup "type" with
    | none =>
      have blank : "" = kind := by simpa [given] using sameKind
      exact iff_of_false (by simp) (blank ▸ by decide)
    | some w =>
      have same : w = .str kind := by simpa [given] using sameKind
      simp [same]
  rw [written]
  refine .inr ⟨record.given v, _, Record.isGiven_of_read outer, rfl, fun ⟨key, w⟩ among => ?_⟩
  have given := Members.lookup_of_mem distinct among
  simp only [memberFate]
  split
  · obtain rfl : w = .str kind := by simpa [given] using sameKind
    exact .inr rfl
  · obtain rfl : w = body := by simpa [given] using sameBody
    simp only [holdsLeg]
    exact carried
  · rename_i notKind notBody
    simp_all [Fate.Carries, Members.lookup_cons]

end Entry

namespace TableFormat

def fate : Fate := .flat record.fields

/-- What is written for a format under a key. -/
def written? (f : TableFormat) (key : String) : Option Json :=
  match key with
  | "formatTableResultForUI" => some (.bool f.forDisplay)
  | "fillGaps" => some (.bool f.fillGaps)
  | _ => none

theorem settles : record.Settles written? fun key v sent =>
    (Fate.ofField record.fields key).Carries v sent where
  own := by
    intro a key v b canonical set
    simp only [record] at set
    split at set
    case h_3 =>
      have absent : written? b key = none := by simp_all [written?]
      rw [absent]
      exact Fate.carries_ofField_of_notMem (by simp_all [record]) v
    all_goals
      obtain ⟨x, read, rfl⟩ := map_eq_ok.1 set
      exact .inr (congrArg some (Decoder.bool_of_flag read))
  frame := by
    intro a key v b set other different
    simp only [record] at set
    split at set
    case h_3 => rw [Except.ok.inj set]
    all_goals
      obtain ⟨x, -, rfl⟩ := map_eq_ok.1 set
      unfold written?
      split
      all_goals first | rfl | exact absurd rfl different

theorem carries_of_decode {v : Json} {f : TableFormat} (canonical : v.Canonical)
    (read : decode v = .ok f) : fate.Carries v (some f.encode) := by
  refine settles.carries (by decide) canonical read fun key => ?_
  unfold written?
  split
  all_goals simp_all [Members.lookup_cons]

end TableFormat

/-! ### Queries -/

namespace Query

def entriesMemberFate (key : String) : Fate :=
  match key with
  | "queries" => .list Entry.fate
  | _ => .lost

def entriesFate : Fate := .record entriesRecord.fields fun _ => entriesMemberFate

def memberFate (key : String) : Fate :=
  match key with
  | "schemaVersion" => .settled
  | "start" => .whole
  | "end" => .whole
  | "requestType" => .settled
  | "compositeQuery" => entriesFate
  | "formatOptions" => TableFormat.fate
  | "variables" => .same
  | _ => .lost

/-- What becomes of a query that is given: only legs keep what is not modelled. -/
def fate : Fate := .record record.fields fun _ => memberFate

/-- What is written under a key for entries that are completed. -/
def writtenEntries? (shape : Shape) (entries : List Entry) (key : String) : Option Json :=
  if key = "queries" then some (.arr (entries.map fun e => (e.completed shape).encode)) else none

theorem settles_entries (shape : Shape) :
    entriesRecord.Settles (writtenEntries? shape) fun key v sent =>
      (entriesMemberFate key).Carries v sent where
  own := by
    intro a key v b canonical set
    simp only [entriesRecord] at set
    split at set
    · have each : ∀ v e, v.Canonical → Entry.decode v = .ok e →
          Entry.fate.Carries v (some (e.completed shape).encode) := fun v e canonical read =>
        Entry.carries_of_decode_completed canonical read shape
      exact Fate.carries_list each canonical set
    · rename_i other
      have unknown : entriesMemberFate key = .lost := by simp_all [entriesMemberFate]
      rw [unknown, writtenEntries?, if_neg other]
      rfl
  frame := by
    intro a key v b set other different
    simp only [entriesRecord] at set
    split at set
    · rw [writtenEntries?, writtenEntries?, if_neg different, if_neg different]
    · rw [Except.ok.inj set]

theorem carries_of_decodeEntries {v : Json} {entries : List Entry} (canonical : v.Canonical)
    (read : decodeEntries v = .ok entries) (shape : Shape) :
    entriesFate.Carries v (some (encodeEntries (entries.map (Entry.completed shape)))) := by
  refine (settles_entries shape).carries (by decide) canonical read fun key => ?_
  rw [Members.lookup_cons, List.map_map]
  rfl

/-- The query with its entries completed and nothing else. -/
def withCompleted (q : Query) (shape : Shape) : Query :=
  { q with entries := q.entries.map (Entry.completed shape) }

/-- What is written for a member before it is known that the bounds are not zero. -/
def Offers (key : String) (v : Json) (sent : Option Json) : Prop :=
  match key with
  | "start" => ∃ n, Argument.integerOrZero v = .ok n ∧ sent = some (.int n)
  | "end" => ∃ n, Argument.integerOrZero v = .ok n ∧ sent = some (.int n)
  | key => (memberFate key).Carries v sent

theorem settles (shape : Shape) :
    record.Settles (fun q key => (q.withCompleted shape).written? key) Offers where
  own := by
    intro a key v b canonical set
    simp only [record] at set
    split at set
    · trivial
    · obtain ⟨n, read, rfl⟩ := map_eq_ok.1 set
      exact ⟨n, read, rfl⟩
    · obtain ⟨n, read, rfl⟩ := map_eq_ok.1 set
      exact ⟨n, read, rfl⟩
    · trivial
    · obtain ⟨entries, read, rfl⟩ := map_eq_ok.1 set
      exact carries_of_decodeEntries canonical read shape
    · obtain ⟨f, read, rfl⟩ := map_eq_ok.1 set
      have absent : TableFormat.fate.Carries .null none := .inl ⟨rfl, rfl⟩
      exact Fate.carries_optional absent (fun _ _ => TableFormat.carries_of_decode) canonical read
    · obtain ⟨members, read, rfl⟩ := map_eq_ok.1 set
      obtain rfl := Decoder.members_eq_ok.1 read
      cases members with
      | nil => exact .inl ⟨rfl, rfl⟩
      | cons m rest => exact .inr rfl
    · have unknown : memberFate key = .lost := by simp_all [memberFate]
      simp_all [Offers, Fate.Carries, written?]
  frame := by
    intro a key v b set other different
    simp only [record] at set
    split at set
    case h_8 => rw [Except.ok.inj set]
    all_goals
      obtain ⟨x, -, rfl⟩ := map_eq_ok.1 set
      unfold written?
      split
      all_goals first | rfl | exact absurd rfl different

/-- A bound that is not zero was given as the number or as its text. -/
theorem carries_whole {v : Json} {n : Int} (read : Argument.integerOrZero v = .ok n) (bound : n ≠ 0) :
    Fate.whole.Carries v (some (.int n)) := by
  obtain ⟨given, inner, rfl⟩ := map_eq_ok.1 read
  cases given with
  | none => exact absurd rfl bound
  | some n => exact ⟨n, inner, rfl⟩

/-- What becomes of a query that is given and can be sent, and of everything in it. -/
theorem carries_of_decode_completed {v : Json} {q : Query} (canonical : v.Canonical)
    (read : decode v = .ok q) (start : q.start ≠ 0) (stop : q.stop ≠ 0) :
    fate.Carries v (some q.completed.encode) := by
  refine .inr ⟨record.given v, _, Record.isGiven_of_read read, rfl, fun ⟨key, w⟩ among => ?_⟩
  change (memberFate key).Carries w (q.completed.encode.get? key)
  have distinct := Record.distinct_given (r := record) (by decide) canonical
  have offered := (settles q.answeredAs).visit (Record.canonical_given canonical) distinct
    (Record.visit_given read) (key, w) among
  rw [get?_encode]
  simp only [memberFate]
  split
  · trivial
  · obtain ⟨n, given, same⟩ := offered
    obtain rfl : q.start = n := by simpa [written?, withCompleted, Json.int] using same
    exact carries_whole given start
  · obtain ⟨n, given, same⟩ := offered
    obtain rfl : q.stop = n := by simpa [written?, withCompleted, Json.int] using same
    exact carries_whole given stop
  · trivial
  · exact offered
  · exact offered
  · exact offered
  · simp_all [Fate.Carries, written?]

end Query

end TelemetryGateway
