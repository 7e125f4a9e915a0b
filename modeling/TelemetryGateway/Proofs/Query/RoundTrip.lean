import TelemetryGateway.Proofs.Json.Members

set_option autoImplicit false

/-!
# Queries written and read back

What can be written so that it is read back: names that stand for no known signal or shape are kept
apart from the known ones, numbers fit their words, and the unmodelled members of a leg have keys of
their own. Everything that is read from JSON is of this kind, and what is of this kind is read back
as it was.
-/

namespace TelemetryGateway

open Json (Decoder)

namespace Signal

/-- Whether the signal is the one that its name stands for. -/
def Canonical (s : Signal) : Prop := ofText s.text = s

theorem canonical_of_decode {v : Json} {s : Signal} (read : decode v = .ok s) : s.Canonical := by
  obtain ⟨name, -, rfl⟩ := map_eq_ok.1 read
  rw [Canonical, text_ofText]

theorem decode_encode {s : Signal} (h : s.Canonical) : decode s.encode = .ok s :=
  congrArg Except.ok h

end Signal

namespace Shape

/-- Whether the shape is the one that its name stands for, and the name is not blank. -/
structure Storable (s : Shape) : Prop where
  canonical : ofText s.text = s
  named : Text.isBlank s.text = false

end Shape

namespace Direction

theorem decode_encode (d : Direction) : decode d.encode = .ok d := by cases d <;> rfl

end Direction

namespace SortKey

theorem decode_encode (s : SortKey) : decode s.encode = .ok s := by
  obtain ⟨name, direction⟩ := s
  cases direction <;> rfl

end SortKey

namespace FieldRef

structure Storable (f : FieldRef) : Prop where
  signal : ∀ s ∈ f.signal, s.Canonical

theorem storable_of_decode {v : Json} {f : FieldRef} (read : decode v = .ok f) : f.Storable := by
  obtain ⟨⟨name, g⟩, visited, rest⟩ := bind_eq_ok.1 read
  have storable : g.Storable := by
    refine Record.read_keeps (P := fun p : Option String × FieldRef => p.2.Storable) ?_
      ⟨by simp [named]⟩ visited
    intro a key v b h set
    simp only [record] at set
    split at set
    · obtain ⟨s, -, rfl⟩ := map_eq_ok.1 set
      exact h
    · obtain ⟨s, -, rfl⟩ := map_eq_ok.1 set
      exact ⟨h.signal⟩
    · obtain ⟨s, read, rfl⟩ := map_eq_ok.1 set
      exact ⟨Decoder.optional_keeps (fun _ _ => Signal.canonical_of_decode) read⟩
    · obtain ⟨s, -, rfl⟩ := map_eq_ok.1 set
      exact ⟨h.signal⟩
    · obtain rfl := Except.ok.inj set
      exact h
  cases name with
  | none => exact absurd rest throw_ne_ok
  | some name =>
    obtain rfl := pure_eq_ok.1 rest
    exact ⟨storable.signal⟩

theorem decode_encode {f : FieldRef} (h : f.Storable) : decode f.encode = .ok f := by
  obtain ⟨name, dataType, signal, context⟩ := f
  have contexts : record.visit (none, named "") (member? "fieldContext" (context.map .str)) =
      .ok (none, ⟨"", none, none, context⟩) :=
    Record.visit_optional (by rintro rfl; rfl) (by rintro _ rfl; rfl)
  have types : record.visit (none, ⟨"", none, none, context⟩)
      (member? "fieldDataType" (dataType.map .str)) = .ok (none, ⟨"", dataType, none, context⟩) :=
    Record.visit_optional (by rintro rfl; rfl) (by rintro _ rfl; rfl)
  have names : record.visit (none, ⟨"", dataType, none, context⟩) [("name", .str name)] =
      .ok (some name, ⟨"", dataType, none, context⟩) :=
    Record.visit_single rfl
  have signals : record.visit (some name, ⟨"", dataType, none, context⟩)
      (member? "signal" (signal.map Signal.encode)) =
        .ok (some name, ⟨"", dataType, signal, context⟩) := by
    apply Record.visit_optional
    · rintro rfl
      rfl
    rintro s rfl
    have read : Decoder.optional Signal.decode s.encode = .ok (some s) :=
      Decoder.optional_some (by simp [Signal.encode]) (Signal.decode_encode (h.signal s rfl))
    simp [record, read, Except.map]
  have visited : record.read (none, named "") (encode ⟨name, dataType, signal, context⟩) =
      .ok (some name, ⟨"", dataType, signal, context⟩) := by
    rw [encode, Record.read_obj]
    simp only [List.append_assoc]
    rw [Record.visit_append_of contexts, Record.visit_append_of types, Record.visit_append_of names]
    exact signals
  rw [decode, visited]
  rfl

end FieldRef

namespace Reduction

theorem decode_encode (r : Reduction) : decode r.encode = .ok r := by
  obtain ⟨expression, label, metric, overTime, overSpace⟩ := r
  have labels : record.visit empty (member? "alias" (label.map .str)) =
      .ok ⟨none, label, none, none, none⟩ :=
    Record.visit_optional (by rintro rfl; rfl) (by rintro _ rfl; rfl)
  have expressions : record.visit ⟨none, label, none, none, none⟩
      (member? "expression" (expression.map .str)) = .ok ⟨expression, label, none, none, none⟩ :=
    Record.visit_optional (by rintro rfl; rfl) (by rintro _ rfl; rfl)
  have metrics : record.visit ⟨expression, label, none, none, none⟩
      (member? "metricName" (metric.map .str)) = .ok ⟨expression, label, metric, none, none⟩ :=
    Record.visit_optional (by rintro rfl; rfl) (by rintro _ rfl; rfl)
  have spaces : record.visit ⟨expression, label, metric, none, none⟩
      (member? "spaceAggregation" (overSpace.map .str)) =
        .ok ⟨expression, label, metric, none, overSpace⟩ :=
    Record.visit_optional (by rintro rfl; rfl) (by rintro _ rfl; rfl)
  have times : record.visit ⟨expression, label, metric, none, overSpace⟩
      (member? "timeAggregation" (overTime.map .str)) =
        .ok ⟨expression, label, metric, overTime, overSpace⟩ :=
    Record.visit_optional (by rintro rfl; rfl) (by rintro _ rfl; rfl)
  rw [decode, encode, Record.read_obj]
  simp only [List.append_assoc]
  rw [Record.visit_append_of labels, Record.visit_append_of expressions,
    Record.visit_append_of metrics, Record.visit_append_of spaces]
  exact times

end Reduction

namespace Leg

/-- The keys under which a leg keeps what is modelled. -/
def modelled : List String :=
  ["name", "signal", "disabled", "stepInterval", "filter", "limit", "offset", "order", "selectFields",
    "groupBy", "aggregations", "having"]

structure Storable (l : Leg) : Prop where
  signal : ∀ s ∈ l.signal, s.Canonical
  step : ∀ n ∈ l.step, Text.FitsInt64 n
  limit : ∀ n ∈ l.limit, n ≤ Text.maxUInt64
  offset : ∀ n ∈ l.offset, n ≤ Text.maxUInt64
  selected : ∀ f ∈ l.selected, f.Storable
  groups : ∀ f ∈ l.groups, f.Storable
  having : ∀ v ∈ l.having, v ≠ .null
  extra : ∀ m ∈ l.extra, m.1 ∉ modelled

theorem storable_empty : empty.Storable := by
  constructor <;> simp [empty]

/-- A member that is not modelled is kept as it comes. -/
theorem set_unmodelled (l : Leg) {key : String} (other : key ∉ modelled) (v : Json) :
    record.set l key v = .ok { l with extra := l.extra ++ [(key, v)] } := by
  simp only [modelled, List.mem_cons, not_or] at other
  simp only [record]
  split <;> simp_all

theorem set_keeps (l : Leg) (key : String) (v : Json) (b : Leg) (h : l.Storable)
    (set : record.set l key v = .ok b) : b.Storable := by
  by_cases known : key ∈ modelled
  · simp only [record] at set
    split at set
    -- members that no condition speaks of
    case h_1 | h_3 | h_5 | h_8 | h_11 =>
      obtain ⟨x, -, rfl⟩ := map_eq_ok.1 set
      exact ⟨h.signal, h.step, h.limit, h.offset, h.selected, h.groups, h.having, h.extra⟩
    case h_2 =>
      obtain ⟨x, read, rfl⟩ := map_eq_ok.1 set
      have canonical := Decoder.optional_keeps (fun _ _ => Signal.canonical_of_decode) read
      exact ⟨canonical, h.step, h.limit, h.offset, h.selected, h.groups, h.having, h.extra⟩
    case h_4 =>
      obtain ⟨x, read, rfl⟩ := map_eq_ok.1 set
      have fits := Argument.integer_fits read
      exact ⟨h.signal, fits, h.limit, h.offset, h.selected, h.groups, h.having, h.extra⟩
    case h_6 =>
      obtain ⟨x, read, rfl⟩ := map_eq_ok.1 set
      have fits := Decoder.optional_keeps (fun _ _ => Decoder.word64_fits) read
      exact ⟨h.signal, h.step, fits, h.offset, h.selected, h.groups, h.having, h.extra⟩
    case h_7 =>
      obtain ⟨x, read, rfl⟩ := map_eq_ok.1 set
      have fits := Decoder.optional_keeps (fun _ _ => Decoder.word64_fits) read
      exact ⟨h.signal, h.step, h.limit, fits, h.selected, h.groups, h.having, h.extra⟩
    case h_9 =>
      obtain ⟨x, read, rfl⟩ := map_eq_ok.1 set
      have each := Decoder.list_keeps (fun _ _ => FieldRef.storable_of_decode) read
      exact ⟨h.signal, h.step, h.limit, h.offset, each, h.groups, h.having, h.extra⟩
    case h_10 =>
      obtain ⟨x, read, rfl⟩ := map_eq_ok.1 set
      have each := Decoder.list_keeps (fun _ _ => FieldRef.storable_of_decode) read
      exact ⟨h.signal, h.step, h.limit, h.offset, h.selected, each, h.having, h.extra⟩
    case h_12 =>
      obtain ⟨x, read, rfl⟩ := map_eq_ok.1 set
      have filled := Decoder.optional_value read
      exact ⟨h.signal, h.step, h.limit, h.offset, h.selected, h.groups, filled, h.extra⟩
    case h_13 => simp_all [modelled]
  · rw [set_unmodelled l known] at set
    obtain rfl := Except.ok.inj set
    refine ⟨h.signal, h.step, h.limit, h.offset, h.selected, h.groups, h.having, ?_⟩
    intro m among
    rcases List.mem_append.1 among with old | new
    · exact h.extra m old
    · obtain rfl := List.mem_singleton.1 new
      exact known

theorem storable_of_decode {v : Json} {l : Leg} (read : decode v = .ok l) : l.Storable :=
  Record.readObject_keeps set_keeps storable_empty read

/-! Each part of a written leg puts in what it holds and leaves all else as it is. -/

section Parts

variable {l : Leg}

theorem visit_reductions (absent : l.reductions = []) (rs : List Reduction) :
    record.visit l (items? "aggregations" (rs.map Reduction.encode)) =
      .ok { l with reductions := rs } := by
  have read : (rs.map Reduction.encode).mapM Reduction.decode = .ok rs :=
    Decoder.mapM_encode fun r _ => r.decode_encode
  exact Record.visit_list (by rintro rfl; rw [← absent]) (by simp [record, read, Except.map])

theorem visit_disabled (b : Bool) :
    record.visit l [("disabled", .bool b)] = .ok { l with disabled := b } :=
  Record.visit_single rfl

theorem visit_filter (absent : l.filter = none) (expression : Option String) :
    record.visit l (member? "filter" (expression.map encodeFilter)) =
      .ok { l with filter := expression } :=
  Record.visit_optional (by rintro rfl; rw [← absent]) (by rintro _ rfl; rfl)

theorem visit_groups (absent : l.groups = []) {fs : List FieldRef} (storable : ∀ f ∈ fs, f.Storable) :
    record.visit l (items? "groupBy" (fs.map FieldRef.encode)) = .ok { l with groups := fs } := by
  have read := Decoder.mapM_encode fun f among => FieldRef.decode_encode (storable f among)
  exact Record.visit_list (by rintro rfl; rw [← absent]) (by simp [record, read, Except.map])

theorem visit_having (absent : l.having = none) {given : Option Json} (filled : ∀ v ∈ given, v ≠ .null) :
    record.visit l (member? "having" given) = .ok { l with having := given } := by
  cases given with
  | none => exact congrArg Except.ok (by rw [← absent])
  | some v =>
    have read : Decoder.optional .ok v = .ok (some v) := Decoder.optional_some (filled v rfl) rfl
    exact Record.visit_single (by simp [record, read, Except.map])

theorem optional_word64 {n : Nat} (fits : n ≤ Text.maxUInt64) :
    Decoder.optional Decoder.word64 (.nat n) = .ok (some n) :=
  Decoder.optional_some (by simp [Json.nat, Json.int]) (Decoder.word64_nat fits)

theorem visit_limit (absent : l.limit = none) {limit : Option Nat}
    (fits : ∀ n ∈ limit, n ≤ Text.maxUInt64) :
    record.visit l (member? "limit" (limit.map .nat)) = .ok { l with limit } := by
  refine Record.visit_optional (by rintro rfl; rw [← absent]) ?_
  rintro n rfl
  simp [record, optional_word64 (fits n rfl), Except.map]

theorem visit_name (absent : l.name = none) (name : Option String) :
    record.visit l (member? "name" (name.map .str)) = .ok { l with name } :=
  Record.visit_optional (by rintro rfl; rw [← absent]) (by rintro _ rfl; rfl)

theorem visit_offset (absent : l.offset = none) {offset : Option Nat}
    (fits : ∀ n ∈ offset, n ≤ Text.maxUInt64) :
    record.visit l (member? "offset" (offset.map .nat)) = .ok { l with offset } := by
  refine Record.visit_optional (by rintro rfl; rw [← absent]) ?_
  rintro n rfl
  simp [record, optional_word64 (fits n rfl), Except.map]

theorem visit_order (absent : l.order = []) (keys : List SortKey) :
    record.visit l (items? "order" (keys.map SortKey.encode)) = .ok { l with order := keys } := by
  have read : (keys.map SortKey.encode).mapM SortKey.decode = .ok keys :=
    Decoder.mapM_encode fun k _ => k.decode_encode
  exact Record.visit_list (by rintro rfl; rw [← absent]) (by simp [record, read, Except.map])

theorem visit_selected (absent : l.selected = []) {fs : List FieldRef}
    (storable : ∀ f ∈ fs, f.Storable) :
    record.visit l (items? "selectFields" (fs.map FieldRef.encode)) =
      .ok { l with selected := fs } := by
  have read := Decoder.mapM_encode fun f among => FieldRef.decode_encode (storable f among)
  exact Record.visit_list (by rintro rfl; rw [← absent]) (by simp [record, read, Except.map])

theorem visit_signal (absent : l.signal = none) {signal : Option Signal}
    (canonical : ∀ s ∈ signal, s.Canonical) :
    record.visit l (member? "signal" (signal.map Signal.encode)) = .ok { l with signal } := by
  refine Record.visit_optional (by rintro rfl; rw [← absent]) ?_
  rintro s rfl
  have read : Decoder.optional Signal.decode s.encode = .ok (some s) :=
    Decoder.optional_some (by simp [Signal.encode]) (Signal.decode_encode (canonical s rfl))
  simp [record, read, Except.map]

theorem visit_step (absent : l.step = none) {step : Option Int} (fits : ∀ n ∈ step, Text.FitsInt64 n) :
    record.visit l (member? "stepInterval" (step.map .int)) = .ok { l with step } := by
  refine Record.visit_optional (by rintro rfl; rw [← absent]) ?_
  rintro n rfl
  simp [record, Argument.integer_int (fits n rfl), Except.map]

theorem visit_extra {members : Members} (other : ∀ m ∈ members, m.1 ∉ modelled) :
    record.visit l members = .ok { l with extra := l.extra ++ members } := by
  induction members generalizing l with
  | nil => simp
  | cons m rest ih =>
    obtain ⟨first, others⟩ := List.forall_mem_cons.1 other
    rw [Record.visit_cons, set_unmodelled l first]
    change record.visit _ rest = _
    rw [ih others, List.append_assoc]
    rfl

end Parts

theorem decode_encode {l : Leg} (h : l.Storable) : decode l.encode = .ok l := by
  rw [decode, encode, Record.readObject_obj, members]
  simp only [List.append_assoc]
  refine (Record.visit_append_of (visit_reductions (by rfl) _) _).trans ?_
  refine (Record.visit_append_of (visit_disabled _) _).trans ?_
  refine (Record.visit_append_of (visit_filter (by rfl) _) _).trans ?_
  refine (Record.visit_append_of (visit_groups (by rfl) h.groups) _).trans ?_
  refine (Record.visit_append_of (visit_having (by rfl) h.having) _).trans ?_
  refine (Record.visit_append_of (visit_limit (by rfl) h.limit) _).trans ?_
  refine (Record.visit_append_of (visit_name (by rfl) _) _).trans ?_
  refine (Record.visit_append_of (visit_offset (by rfl) h.offset) _).trans ?_
  refine (Record.visit_append_of (visit_order (by rfl) _) _).trans ?_
  refine (Record.visit_append_of (visit_selected (by rfl) h.selected) _).trans ?_
  refine (Record.visit_append_of (visit_signal (by rfl) h.signal) _).trans ?_
  refine (Record.visit_append_of (visit_step (by rfl) h.step) _).trans ?_
  exact visit_extra h.extra

end Leg

namespace Entry

def Storable : Entry → Prop
  | leg l => l.Storable
  | foreign kind _ => kind ≠ legKind

/-- What was read for an entry: a body of the kind that holds a leg, and the leg in it, or a body of
another kind. -/
theorem decode_cases {v : Json} {e : Entry} (read : decode v = .ok e) :
    ∃ kind body, record.read ("", .null) v = .ok (kind, body) ∧
      ((kind = legKind ∧ ∃ l, Leg.decode body = .ok l ∧ e = leg l) ∨
        (kind ≠ legKind ∧ e = foreign kind body)) := by
  obtain ⟨⟨kind, body⟩, outer, rest⟩ := bind_eq_ok.1 read
  refine ⟨kind, body, outer, ?_⟩
  by_cases holdsLeg : kind = legKind
  · simp only [if_pos holdsLeg] at rest
    obtain ⟨l, inner, result⟩ := bind_eq_ok.1 rest
    exact .inl ⟨holdsLeg, l, inner, (pure_eq_ok.1 result).symm⟩
  · simp only [if_neg holdsLeg] at rest
    exact .inr ⟨holdsLeg, (pure_eq_ok.1 rest).symm⟩

theorem storable_of_decode {v : Json} {e : Entry} (read : decode v = .ok e) : e.Storable := by
  obtain ⟨kind, body, -, ⟨-, l, inner, rfl⟩ | ⟨other, rfl⟩⟩ := decode_cases read
  · exact Leg.storable_of_decode inner
  · exact other

theorem decode_encode {e : Entry} (h : e.Storable) : decode e.encode = .ok e := by
  cases e with
  | leg l =>
    have visited : record.read ("", .null) (encode (leg l)) = .ok (legKind, l.encode) := rfl
    rw [decode, visited, ok_bind]
    simp only [if_pos, Leg.decode_encode h]
    rfl
  | foreign kind body =>
    have visited : record.read ("", .null) (encode (foreign kind body)) = .ok (kind, body) := rfl
    rw [decode, visited, ok_bind]
    exact if_neg h

end Entry

namespace TableFormat

theorem decode_encode (f : TableFormat) : decode f.encode = .ok f := rfl

end TableFormat

namespace Query

structure Storable (q : Query) : Prop where
  start : Text.FitsInt64 q.start
  stop : Text.FitsInt64 q.stop
  shape : ∀ s ∈ q.shape, s.Storable
  entries : ∀ e ∈ q.entries, e.Storable

theorem storable_empty : empty.Storable where
  start := by decide
  stop := by decide
  shape := by simp [empty]
  entries := by simp [empty]

theorem storable_of_decodeEntries {v : Json} {entries : List Entry}
    (read : decodeEntries v = .ok entries) : ∀ e ∈ entries, e.Storable := by
  refine Record.read_keeps (P := fun es : List Entry => ∀ e ∈ es, e.Storable) ?_ (by simp) read
  intro a key v b h set
  simp only [entriesRecord] at set
  split at set
  · exact Decoder.list_keeps (fun _ _ => Entry.storable_of_decode) set
  · obtain rfl := Except.ok.inj set
    exact h

theorem storable_of_decodeShape {v : Json} {shape : Option Shape}
    (read : decodeShape v = .ok shape) : ∀ s ∈ shape, s.Storable := by
  obtain ⟨name, -, rfl⟩ := map_eq_ok.1 read
  intro s among
  obtain ⟨t, kept, rfl⟩ := Option.map_eq_some_iff.1 among
  have named : Text.isBlank t = false := by
    simpa using (Option.filter_eq_some_iff.1 kept).2
  exact ⟨by rw [Shape.text_ofText], by rw [Shape.text_ofText, named]⟩

theorem set_keeps (q : Query) (key : String) (v : Json) (b : Query) (h : q.Storable)
    (set : record.set q key v = .ok b) : b.Storable := by
  simp only [record] at set
  split at set
  case h_1 | h_6 | h_7 =>
    obtain ⟨x, -, rfl⟩ := map_eq_ok.1 set
    exact ⟨h.start, h.stop, h.shape, h.entries⟩
  case h_2 =>
    obtain ⟨x, read, rfl⟩ := map_eq_ok.1 set
    exact ⟨Argument.integerOrZero_fits read, h.stop, h.shape, h.entries⟩
  case h_3 =>
    obtain ⟨x, read, rfl⟩ := map_eq_ok.1 set
    exact ⟨h.start, Argument.integerOrZero_fits read, h.shape, h.entries⟩
  case h_4 =>
    obtain ⟨x, read, rfl⟩ := map_eq_ok.1 set
    exact ⟨h.start, h.stop, storable_of_decodeShape read, h.entries⟩
  case h_5 =>
    obtain ⟨x, read, rfl⟩ := map_eq_ok.1 set
    exact ⟨h.start, h.stop, h.shape, storable_of_decodeEntries read⟩
  case h_8 =>
    obtain rfl := Except.ok.inj set
    exact h

theorem storable_of_decode {v : Json} {q : Query} (read : decode v = .ok q) : q.Storable :=
  Record.read_keeps set_keeps storable_empty read

section Parts

variable {q : Query}

theorem decodeEntries_encode {entries : List Entry} (storable : ∀ e ∈ entries, e.Storable) :
    decodeEntries (encodeEntries entries) = .ok entries := by
  rw [decodeEntries, encodeEntries, Record.read_obj]
  apply Record.visit_single
  exact Decoder.mapM_encode fun e among => Entry.decode_encode (storable e among)

theorem visit_entries {entries : List Entry} (storable : ∀ e ∈ entries, e.Storable) :
    record.visit q [("compositeQuery", encodeEntries entries)] = .ok { q with entries } :=
  Record.visit_single (by simp [record, decodeEntries_encode storable, Except.map])

theorem visit_start {n : Int} (fits : Text.FitsInt64 n) :
    record.visit q [("start", .int n)] = .ok { q with start := n } :=
  Record.visit_single (by simp [record, Argument.integerOrZero_int fits, Except.map])

theorem visit_stop {n : Int} (fits : Text.FitsInt64 n) :
    record.visit q [("end", .int n)] = .ok { q with stop := n } :=
  Record.visit_single (by simp [record, Argument.integerOrZero_int fits, Except.map])

theorem visit_format (absent : q.format = none) (format : Option TableFormat) :
    record.visit q (member? "formatOptions" (format.map TableFormat.encode)) =
      .ok { q with format } :=
  Record.visit_optional (by rintro rfl; rw [← absent]) (by rintro _ rfl; rfl)

theorem decodeShape_encode {s : Shape} (h : s.Storable) : decodeShape s.encode = .ok (some s) := by
  have kept : (some s.text).filter (fun t => !Text.isBlank t) = some s.text := by
    simp [Option.filter, h.named]
  have read : Decoder.optional Decoder.text s.encode = .ok (some s.text) := rfl
  rw [decodeShape, read]
  simp [Except.map, kept, h.canonical]

theorem visit_shape (absent : q.shape = none) {shape : Option Shape}
    (storable : ∀ s ∈ shape, s.Storable) :
    record.visit q (member? "requestType" (shape.map Shape.encode)) = .ok { q with shape } := by
  refine Record.visit_optional (by rintro rfl; rw [← absent]) ?_
  rintro s rfl
  simp [record, decodeShape_encode (storable s rfl), Except.map]

theorem visit_version (version : String) :
    record.visit q [("schemaVersion", .str version)] = .ok { q with version } :=
  Record.visit_single rfl

theorem visit_bindings (absent : q.bindings = []) (bindings : Members) :
    record.visit q (encodeBindings bindings) = .ok { q with bindings } := by
  cases bindings with
  | nil => exact congrArg Except.ok (by rw [← absent])
  | cons m rest => exact Record.visit_single rfl

end Parts

theorem decode_encode {q : Query} (h : q.Storable) : decode q.encode = .ok q := by
  rw [decode, encode, Record.read_obj]
  simp only [List.append_assoc]
  refine (Record.visit_append_of (visit_entries h.entries) _).trans ?_
  refine (Record.visit_append_of (visit_stop h.stop) _).trans ?_
  refine (Record.visit_append_of (visit_format (by rfl) _) _).trans ?_
  refine (Record.visit_append_of (visit_shape (by rfl) h.shape) _).trans ?_
  refine (Record.visit_append_of (visit_version _) _).trans ?_
  refine (Record.visit_append_of (visit_start h.start) _).trans ?_
  exact visit_bindings (by rfl) _

end Query

end TelemetryGateway
