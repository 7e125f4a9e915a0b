import TelemetryGateway.Proofs.Json.Reading
import TelemetryGateway.Proofs.Query.RoundTrip

set_option autoImplicit false

/-!
# Reading back what was read

Whatever a reader accepts, its writer gives back in a form that reads the same, as written and with
all members put in key order. The order matters for the unmodelled members of a leg: they are
collected as they come, so they come back in place only where they came in order.
-/

namespace TelemetryGateway

open Json (Decoder)

/-! ### Records with members in order -/

namespace Record

variable {α : Type} {r : Record α} {a : α} {v : Json}

theorem canonical_given (canonical : v.Canonical) : ∀ m ∈ r.given v, m.2.Canonical := by
  intro m among
  cases v with
  | arr items => exact Json.canonical_arr.1 canonical m.2 (List.of_mem_zip among).2
  | obj members => exact (Json.canonical_obj.1 canonical).2 m among
  | _ => exact absurd among List.not_mem_nil

theorem distinct_given (distinct : r.fields.Nodup) (canonical : v.Canonical) :
    ((r.given v).map Prod.fst).Nodup := by
  cases v with
  | arr items => exact (Members.keys_zip r.fields items).nodup distinct
  | obj members => exact (Json.canonical_obj.1 canonical).1.distinct
  | _ => exact List.nodup_nil

end Record

theorem Json.Decoder.list_keeps_canonical {α : Type} {read : Decoder α} {P : α → Prop}
    (each : ∀ v a, v.Canonical → read v = .ok a → P a) {v : Json} (canonical : v.Canonical)
    {xs : List α} (done : Decoder.list read v = .ok xs) : ∀ x ∈ xs, P x := by
  cases v with
  | arr items => exact Decoder.mapM_keeps_of each (Json.canonical_arr.1 canonical) done
  | _ => simp [Decoder.list] at done

/-- Whether members have these keys at most, in the order given, and canonical values. -/
structure Written (keys : List String) (members : Members) : Prop where
  keys : (members.map Prod.fst).Sublist keys
  values : ∀ m ∈ members, m.2.Canonical

namespace Written

variable {keys others : List String} {xs ys : Members} {β : Type} {write : β → Json}

theorem append (h : Written keys xs) (h' : Written others ys) :
    Written (keys ++ others) (xs ++ ys) where
  keys := by
    rw [List.map_append]
    exact h.keys.append h'.keys
  values := List.forall_mem_append.2 ⟨h.values, h'.values⟩

theorem single (key : String) {v : Json} (canonical : v.Canonical) : Written [key] [(key, v)] where
  keys := List.Sublist.refl _
  values := List.forall_mem_singleton.2 canonical

theorem optional (key : String) {value : Option Json} (each : ∀ v ∈ value, v.Canonical) :
    Written [key] (member? key value) := by
  cases value with
  | none => exact ⟨List.nil_sublist _, List.forall_mem_nil _⟩
  | some v => exact single key (each v rfl)

theorem mapped (key : String) (each : ∀ x, (write x).Canonical) (value : Option β) :
    Written [key] (member? key (value.map write)) := by
  refine optional key fun v among => ?_
  obtain ⟨x, -, rfl⟩ := Option.map_eq_some_iff.1 among
  exact each x

theorem list (key : String) (each : ∀ x, (write x).Canonical) (items : List β) :
    Written [key] (items? key (items.map write)) := by
  cases items with
  | nil => exact ⟨List.nil_sublist _, List.forall_mem_nil _⟩
  | cons x rest =>
    refine single key (Json.canonical_arr.2 ?_)
    exact List.forall_mem_map.2 fun x _ => each x

theorem inOrder (h : Written keys xs) (ascending : keys.Pairwise (· < ·)) : xs.InOrder :=
  List.pairwise_map.1 (ascending.sublist h.keys)

theorem canonical (h : Written keys xs) (ascending : keys.Pairwise (· < ·)) :
    (Json.obj xs).Canonical :=
  Json.canonical_obj.2 ⟨h.inOrder ascending, h.values⟩

/-- A record is read the same with its members in order, where they were written in order and the
first one does not mind. -/
theorem read_sorted {α : Type} {r : Record α} {a : α} {key : String} {v : Json}
    (h : Written keys xs) (ascending : (key :: keys).Pairwise (· < ·))
    (same : r.set a key v.sorted = r.set a key v) :
    r.read a (Json.obj ((key, v) :: xs)).sorted = r.read a (.obj ((key, v) :: xs)) := by
  have ordered : Members.InOrder ((key, v) :: xs) :=
    List.pairwise_map.1 (ascending.sublist (h.keys.cons_cons key))
  rw [Json.sorted_obj ordered, Json.sortedMembers, Json.sortedMembers_eq h.values, Record.read_obj,
    Record.read_obj, Record.visit_cons, Record.visit_cons, same]

end Written

/-! ### Parts that hold nothing unmodelled -/

theorem SortKey.canonical_encode (s : SortKey) : s.encode.Canonical := by
  have name := (Written.single "name" (Json.canonical_str s.name)).canonical (by decide)
  have parts := (Written.single "direction" (Json.canonical_str s.direction.text))
    |>.append (.single "key" name)
  exact parts.canonical (by decide)

theorem Signal.canonical_encode (s : Signal) : s.encode.Canonical := Json.canonical_str _

theorem Shape.canonical_encode (s : Shape) : s.encode.Canonical := Json.canonical_str _

theorem FieldRef.canonical_encode (f : FieldRef) : f.encode.Canonical := by
  have parts := (Written.mapped "fieldContext" Json.canonical_str f.context)
    |>.append (.mapped "fieldDataType" Json.canonical_str f.dataType)
    |>.append (.single "name" (Json.canonical_str f.name))
    |>.append (.mapped "signal" Signal.canonical_encode f.signal)
  exact parts.canonical (by decide)

theorem Reduction.canonical_encode (r : Reduction) : r.encode.Canonical := by
  have parts := (Written.mapped "alias" Json.canonical_str r.label)
    |>.append (.mapped "expression" Json.canonical_str r.expression)
    |>.append (.mapped "metricName" Json.canonical_str r.metric)
    |>.append (.mapped "spaceAggregation" Json.canonical_str r.overSpace)
    |>.append (.mapped "timeAggregation" Json.canonical_str r.overTime)
  exact parts.canonical (by decide)

theorem TableFormat.canonical_encode (f : TableFormat) : f.encode.Canonical := by
  have parts := (Written.single "fillGaps" (Json.canonical_bool f.fillGaps))
    |>.append (.single "formatTableResultForUI" (Json.canonical_bool f.forDisplay))
  exact parts.canonical (by decide)

/-! ### Legs -/

namespace Leg

theorem canonical_encodeFilter (expression : String) : (encodeFilter expression).Canonical :=
  (Written.single "expression" (Json.canonical_str expression)).canonical (by decide)

/-- Whether what the leg passes on as it came is canonical. -/
structure Canonical (l : Leg) : Prop where
  having : ∀ v ∈ l.having, v.Canonical
  extra : (Json.obj l.extra).Canonical

def withExtra (l : Leg) (extra : Members) : Leg := { l with extra }

def isModelled (key : String) : Bool := modelled.contains key

theorem isModelled_iff {key : String} : isModelled key = true ↔ key ∈ modelled :=
  List.contains_iff_mem

theorem map_withExtra {β : Type} {x : Except Mismatch β} {extra : Members} {f g : β → Leg}
    (same : ∀ b, g b = (f b).withExtra extra) : x.map g = (x.map f).map (withExtra · extra) := by
  cases x with
  | error m => rfl
  | ok b => exact congrArg Except.ok (same b)

/-- A modelled member neither reads nor changes the unmodelled ones. -/
theorem set_withExtra (l : Leg) {key : String} (known : key ∈ modelled) (v : Json)
    (extra : Members) :
    record.set (l.withExtra extra) key v = (record.set l key v).map (withExtra · extra) := by
  simp only [modelled, List.mem_cons, List.not_mem_nil, or_false] at known
  rcases known with rfl | rfl | rfl | rfl | rfl | rfl | rfl | rfl | rfl | rfl | rfl | rfl <;>
    exact map_withExtra fun _ => rfl

theorem extra_of_set {l next : Leg} {key : String} {v : Json} (known : key ∈ modelled)
    (set : record.set l key v = .ok next) : next.extra = l.extra := by
  have unchanged := set_withExtra l known v l.extra
  rw [show l.withExtra l.extra = l from rfl, set] at unchanged
  have same : next = next.withExtra l.extra := Except.ok.inj unchanged
  rw [same]
  rfl

theorem visit_withExtra (l : Leg) {members : Members} (known : ∀ m ∈ members, m.1 ∈ modelled)
    (extra : Members) :
    record.visit (l.withExtra extra) members =
      (record.visit l members).map (withExtra · extra) :=
  Record.visit_map_of (fun l m among => set_withExtra l (known m among) m.2 extra) l

/-- The modelled members make the leg, and the others are collected in the order in which they
stand among them. -/
theorem visit_eq (l : Leg) (members : Members) :
    record.visit l members =
      (record.visit l (members.filter fun m => isModelled m.1)).map
        (withExtra · (l.extra ++ members.filter fun m => !isModelled m.1)) := by
  induction members generalizing l with
  | nil =>
    rw [List.filter_nil, List.filter_nil, List.append_nil]
    rfl
  | cons m rest ih =>
    rw [List.filter_cons, List.filter_cons]
    cases kind : isModelled m.1 with
    | true =>
      rw [if_neg (by decide), if_pos rfl, Record.visit_cons, Record.visit_cons]
      cases set : record.set l m.1 m.2 with
      | error e => rfl
      | ok next =>
        change record.visit next rest = _
        rw [ih next, extra_of_set (isModelled_iff.1 kind) set]
        rfl
    | false =>
      have other : m.1 ∉ modelled := by
        rw [← isModelled_iff, kind]
        decide
      have known : ∀ n ∈ rest.filter fun n => isModelled n.1, n.1 ∈ modelled := fun n among =>
        isModelled_iff.1 (List.mem_filter.1 among).2
      -- the member is collected at once, and the modelled ones behind it do not see it
      rw [if_pos (by decide), if_neg (by decide), Record.visit_cons, set_unmodelled l other]
      change record.visit (l.withExtra (l.extra ++ [m])) rest = _
      rw [ih, visit_withExtra l known,
        List.append_cons l.extra m (rest.filter fun n => !isModelled n.1)]
      cases record.visit l (rest.filter fun n => isModelled n.1) with
      | error e => rfl
      | ok next => rfl

/-- The unmodelled members that a leg is read with are those of the object it is read from. -/
theorem extra_of_decode {v : Json} {l : Leg} (read : decode v = .ok l) :
    ∃ members, v = .obj members ∧ l.extra = members.filter fun m => !isModelled m.1 := by
  cases v with
  | obj members =>
    rw [decode, Record.readObject_obj, visit_eq] at read
    obtain ⟨next, -, rfl⟩ := map_eq_ok.1 read
    exact ⟨members, rfl, rfl⟩
  | _ => simp [decode, Record.readObject] at read

theorem having_keeps (l : Leg) (key : String) (v : Json) (b : Leg)
    (h : ∀ w ∈ l.having, w.Canonical) (canonical : v.Canonical)
    (set : record.set l key v = .ok b) : ∀ w ∈ b.having, w.Canonical := by
  simp only [record] at set
  split at set
  case h_12 =>
    obtain ⟨given, read, rfl⟩ := map_eq_ok.1 set
    intro w among
    rw [Decoder.optional_ok read w among]
    exact canonical
  case h_13 =>
    obtain rfl := Except.ok.inj set
    exact h
  all_goals
    obtain ⟨x, -, rfl⟩ := map_eq_ok.1 set
    exact h

theorem canonical_of_decode {v : Json} {l : Leg} (canonical : v.Canonical) (read : decode v = .ok l) :
    l.Canonical := by
  obtain ⟨members, rfl, extra⟩ := extra_of_decode read
  obtain ⟨ordered, values⟩ := Json.canonical_obj.1 canonical
  refine ⟨Record.visit_keeps_of having_keeps (by simp [empty]) values read, ?_⟩
  rw [extra]
  refine Json.canonical_obj.2 ⟨ordered.filter _, fun m among => ?_⟩
  exact values m (List.mem_filter.1 among).1

/-- The keys under which what is modelled is written, in order. -/
def writtenKeys : List String :=
  ["aggregations", "disabled", "filter", "groupBy", "having", "limit", "name", "offset", "order",
    "selectFields", "signal", "stepInterval"]

theorem members_eq (l : Leg) : l.members = (l.withExtra []).members ++ l.extra := by
  simp [members, withExtra]

theorem written_members (l : Leg) (having : ∀ v ∈ l.having, v.Canonical) :
    Written writtenKeys (l.withExtra []).members := by
  have parts := (Written.list "aggregations" Reduction.canonical_encode l.reductions)
    |>.append (.single "disabled" (Json.canonical_bool l.disabled))
    |>.append (.mapped "filter" canonical_encodeFilter l.filter)
    |>.append (.list "groupBy" FieldRef.canonical_encode l.groups)
    |>.append (.optional "having" having)
    |>.append (.mapped "limit" Json.canonical_nat l.limit)
    |>.append (.mapped "name" Json.canonical_str l.name)
    |>.append (.mapped "offset" Json.canonical_nat l.offset)
    |>.append (.list "order" SortKey.canonical_encode l.order)
    |>.append (.list "selectFields" FieldRef.canonical_encode l.selected)
    |>.append (.mapped "signal" Signal.canonical_encode l.signal)
    |>.append (.mapped "stepInterval" Json.canonical_int l.step)
  rw [members, withExtra]
  simp only [List.append_nil]
  exact parts

theorem isModelled_of_mem_writtenKeys : ∀ key ∈ writtenKeys, isModelled key = true := by decide

/-- The members that are written for a leg, apart by whether they are modelled. -/
theorem filter_members {l : Leg} (h : l.Storable) (c : l.Canonical) :
    (l.members.filter fun m => isModelled m.1) = (l.withExtra []).members ∧
      (l.members.filter fun m => !isModelled m.1) = l.extra := by
  have written := written_members l c.having
  have known : ∀ m ∈ (l.withExtra []).members, isModelled m.1 = true := fun m among =>
    isModelled_of_mem_writtenKeys m.1 (written.keys.subset (List.mem_map_of_mem among))
  have other : ∀ m ∈ l.extra, isModelled m.1 = false := by
    intro m among
    rw [← Bool.not_eq_true, isModelled_iff]
    exact h.extra m among
  rw [members_eq, List.filter_append, List.filter_append]
  rw [List.filter_eq_self.2 known, List.filter_eq_nil_iff.2 (by simpa using other),
    List.filter_eq_nil_iff.2 (by simpa using known), List.filter_eq_self.2 (by simpa using other)]
  exact ⟨List.append_nil _, List.nil_append _⟩

theorem sorted_encode {l : Leg} (c : l.Canonical) :
    l.encode.sorted = .obj (Members.ofPairs l.members) := by
  have values : ∀ m ∈ l.members, m.2.Canonical := by
    rw [members_eq]
    exact List.forall_mem_append.2
      ⟨(written_members l c.having).values, (Json.canonical_obj.1 c.extra).2⟩
  rw [encode, Json.sorted, Json.sortedMembers_eq values]

theorem Storable.withExtra {l : Leg} (h : l.Storable) : (l.withExtra []).Storable :=
  ⟨h.signal, h.step, h.limit, h.offset, h.selected, h.groups, h.having, List.forall_mem_nil _⟩

theorem decode_sorted {l : Leg} (h : l.Storable) (c : l.Canonical) :
    decode l.encode.sorted = .ok l := by
  obtain ⟨known, other⟩ := filter_members h c
  have ordered := (written_members l c.having).inOrder (by decide)
  have plain : record.visit empty (l.withExtra []).members = .ok (l.withExtra []) :=
    decode_encode h.withExtra
  rw [sorted_encode c, decode, Record.readObject_obj, visit_eq, Members.filter_ofPairs,
    Members.filter_ofPairs fun key => !isModelled key, known, other, ordered.ofPairs_eq,
    (Json.canonical_obj.1 c.extra).1.ofPairs_eq, plain]
  rfl

/-- Whether what is written for a leg carries the unmodelled members of a value beside what is
modelled, and neither takes the place of the other. -/
structure Carries (v : Json) (l : Leg) : Prop where
  unmodelled : ∀ key ∉ modelled, l.encode.get? key = v.get? key
  modelled : ∀ key ∈ modelled, l.encode.get? key = (l.withExtra []).encode.get? key
  distinct : (l.members.map Prod.fst).Nodup
  sorted : ∀ key, l.encode.sorted.get? key = l.encode.get? key

theorem get?_encode (l : Leg) (key : String) :
    l.encode.get? key = ((l.withExtra []).members.lookup key).or (l.extra.lookup key) := by
  rw [encode, Json.get?_obj, members_eq, List.lookup_append]

/-- No key is written twice. -/
theorem distinct_members {l : Leg} (h : l.Storable) (c : l.Canonical) :
    (l.members.map Prod.fst).Nodup := by
  have written := written_members l c.having
  rw [members_eq, List.map_append]
  refine List.nodup_append.2 ⟨(written.inOrder (by decide)).distinct,
    (Json.canonical_obj.1 c.extra).1.distinct, ?_⟩
  rintro _ known _ among rfl
  obtain ⟨m, other, rfl⟩ := List.mem_map.1 among
  have kind := isModelled_of_mem_writtenKeys m.1 (written.keys.subset known)
  exact h.extra m other (isModelled_iff.1 kind)

theorem carries_of_decode {v : Json} {l : Leg} (canonical : v.Canonical) (read : decode v = .ok l) :
    l.Carries v := by
  obtain ⟨members, rfl, extra⟩ := extra_of_decode read
  have h := storable_of_decode read
  have c := canonical_of_decode canonical read
  have distinct := distinct_members h c
  refine ⟨?_, ?_, distinct, ?_⟩
  · intro key other
    have kind : (!isModelled key) = true := by simpa using mt isModelled_iff.1 other
    have absent : key ∉ (l.withExtra []).members.map Prod.fst := by
      intro known
      have written := (written_members l c.having).keys.subset known
      exact other (isModelled_iff.1 (isModelled_of_mem_writtenKeys key written))
    rw [get?_encode, Members.lookup_of_notMem absent, Option.none_or, extra,
      Members.lookup_filter (fun key => !isModelled key) kind, Json.get?_obj]
  · intro key known
    have absent : key ∉ l.extra.map Prod.fst := by
      intro among
      obtain ⟨m, other, rfl⟩ := List.mem_map.1 among
      exact h.extra m other known
    rw [get?_encode, Members.lookup_of_notMem absent, Option.or_none, encode, Json.get?_obj]
  · intro key
    rw [sorted_encode c, encode, Json.get?_obj, Json.get?_obj, Members.lookup_ofPairs distinct]

end Leg

/-! ### Entries -/

namespace Entry

def Canonical : Entry → Prop
  | leg l => l.Canonical
  | foreign _ body => body.Canonical

theorem body_keeps (e : String × Json) (key : String) (v : Json) (b : String × Json)
    (h : e.2.Canonical) (canonical : v.Canonical) (set : record.set e key v = .ok b) :
    b.2.Canonical := by
  simp only [record] at set
  split at set
  · obtain ⟨kind, -, rfl⟩ := map_eq_ok.1 set
    exact h
  · obtain rfl := Except.ok.inj set
    exact canonical
  · obtain rfl := Except.ok.inj set
    exact h

theorem canonical_body {v body : Json} {kind : String} (canonical : v.Canonical)
    (read : record.read ("", .null) v = .ok (kind, body)) : body.Canonical :=
  Record.visit_keeps_of (P := fun e : String × Json => e.2.Canonical) body_keeps
    Json.canonical_null (Record.canonical_given canonical) (Record.visit_given read)

theorem canonical_of_decode {v : Json} {e : Entry} (canonical : v.Canonical)
    (read : decode v = .ok e) : e.Canonical := by
  obtain ⟨kind, body, outer, ⟨-, l, inner, rfl⟩ | ⟨-, rfl⟩⟩ := decode_cases read
  · exact Leg.canonical_of_decode (canonical_body canonical outer) inner
  · exact canonical_body canonical outer

theorem sorted_members (kind : String) (body : Json) :
    (Json.obj [("spec", body), ("type", .str kind)]).sorted =
      .obj [("spec", body.sorted), ("type", .str kind)] := by
  rw [Json.sorted_obj (List.pairwise_pair.2 (by decide : "spec" < "type"))]
  rfl

theorem decode_sorted {e : Entry} (h : e.Storable) (c : e.Canonical) :
    decode e.encode.sorted = .ok e := by
  cases e with
  | leg l =>
    have visited : record.read ("", .null) (encode (leg l)).sorted =
        .ok (legKind, l.encode.sorted) := by
      rw [encode, sorted_members]
      rfl
    rw [decode, visited, ok_bind]
    simp only [if_pos, Leg.decode_sorted h c]
    rfl
  | foreign kind body =>
    have visited : record.read ("", .null) (encode (foreign kind body)).sorted =
        .ok (kind, body.sorted) := by
      rw [encode, sorted_members]
      rfl
    rw [decode, visited, ok_bind, c]
    exact if_neg h

/-- Where no key stands twice, an entry has the kind and the body that the members say, or the
ones from before. -/
theorem visit_lookup {e b : String × Json} {members : Members}
    (distinct : (members.map Prod.fst).Nodup) (visited : record.visit e members = .ok b) :
    (members.lookup "type").getD (.str e.1) = .str b.1 ∧
      (members.lookup "spec").getD e.2 = b.2 := by
  induction members generalizing e with
  | nil =>
    obtain rfl := Except.ok.inj visited
    exact ⟨rfl, rfl⟩
  | cons m rest ih =>
    obtain ⟨key, v⟩ := m
    obtain ⟨fresh, others⟩ := List.nodup_cons.1 distinct
    rw [Record.visit_cons] at visited
    obtain ⟨next, here, later⟩ := bind_eq_ok.1 visited
    obtain ⟨kind, body⟩ := ih others later
    simp only [record] at here
    rw [Members.lookup_cons, Members.lookup_cons]
    split at here
    · obtain ⟨s, text, rfl⟩ := map_eq_ok.1 here
      obtain rfl := Decoder.text_eq_ok.1 text
      rw [Members.lookup_of_notMem fresh] at kind
      rw [if_pos rfl, if_neg (by decide : "spec" ≠ "type")]
      exact ⟨kind, body⟩
    · obtain rfl := Except.ok.inj here
      rw [Members.lookup_of_notMem fresh] at body
      rw [if_neg (by decide : "type" ≠ "spec"), if_pos rfl]
      exact ⟨kind, body⟩
    · obtain rfl := Except.ok.inj here
      rename_i notKind notBody
      rw [if_neg (Ne.symm notKind), if_neg (Ne.symm notBody)]
      exact ⟨kind, body⟩

/-- Whether what is written for an entry has the kind that a value gives, and carries its body: that
of a leg with all that is not modelled, any other as it is. -/
structure Carries (v : Json) (e : Entry) : Prop where
  kind : e.encode.get? "type" = some (((record.given v).lookup "type").getD (.str ""))
  body : match e with
    | leg l => e.encode.get? "spec" = some l.encode ∧
        l.Carries (((record.given v).lookup "spec").getD .null)
    | foreign _ _ => e.encode.get? "spec" = some (((record.given v).lookup "spec").getD .null)

theorem carries_of_decode {v : Json} {e : Entry} (canonical : v.Canonical)
    (read : decode v = .ok e) : e.Carries v := by
  obtain ⟨kind, body, outer, found⟩ := decode_cases read
  obtain ⟨sameKind, sameBody⟩ :=
    visit_lookup (Record.distinct_given (by decide) canonical) (Record.visit_given outer)
  rcases found with ⟨rfl, l, inner, rfl⟩ | ⟨-, rfl⟩
  · refine ⟨?_, ?_⟩
    · rw [sameKind]
      rfl
    · rw [sameBody]
      exact ⟨rfl, Leg.carries_of_decode (canonical_body canonical outer) inner⟩
  · refine ⟨?_, ?_⟩
    · rw [sameKind]
      rfl
    · rw [sameBody]
      rfl

end Entry

/-! ### Queries -/

namespace Query

/-- Whether what the query passes on as it came is canonical. -/
structure Canonical (q : Query) : Prop where
  entries : ∀ e ∈ q.entries, e.Canonical
  bindings : (Json.obj q.bindings).Canonical

theorem canonical_empty : empty.Canonical := ⟨List.forall_mem_nil _, rfl⟩

theorem entries_keep (entries : List Entry) (key : String) (v : Json) (b : List Entry)
    (h : ∀ e ∈ entries, e.Canonical) (canonical : v.Canonical)
    (set : entriesRecord.set entries key v = .ok b) : ∀ e ∈ b, e.Canonical := by
  simp only [entriesRecord] at set
  split at set
  · exact Decoder.list_keeps_canonical (fun _ _ => Entry.canonical_of_decode) canonical set
  · obtain rfl := Except.ok.inj set
    exact h

theorem canonical_of_decodeEntries {v : Json} {entries : List Entry} (canonical : v.Canonical)
    (read : decodeEntries v = .ok entries) : ∀ e ∈ entries, e.Canonical :=
  Record.visit_keeps_of entries_keep (List.forall_mem_nil _) (Record.canonical_given canonical)
    (Record.visit_given read)

theorem canonical_keeps (q : Query) (key : String) (v : Json) (b : Query) (h : q.Canonical)
    (canonical : v.Canonical) (set : record.set q key v = .ok b) : b.Canonical := by
  simp only [record] at set
  split at set
  case h_5 =>
    obtain ⟨entries, read, rfl⟩ := map_eq_ok.1 set
    exact ⟨canonical_of_decodeEntries canonical read, h.bindings⟩
  case h_7 =>
    obtain ⟨members, read, rfl⟩ := map_eq_ok.1 set
    obtain rfl := Decoder.members_eq_ok.1 read
    exact ⟨h.entries, canonical⟩
  case h_8 =>
    obtain rfl := Except.ok.inj set
    exact h
  all_goals
    obtain ⟨x, -, rfl⟩ := map_eq_ok.1 set
    exact ⟨h.entries, h.bindings⟩

theorem canonical_of_decode {v : Json} {q : Query} (canonical : v.Canonical)
    (read : decode v = .ok q) : q.Canonical :=
  Record.visit_keeps_of canonical_keeps canonical_empty
    (Record.canonical_given canonical) (Record.visit_given read)

theorem decodeEntries_sorted {entries : List Entry} (storable : ∀ e ∈ entries, e.Storable)
    (canonical : ∀ e ∈ entries, e.Canonical) :
    decodeEntries (encodeEntries entries).sorted = .ok entries := by
  have items : (Json.arr (entries.map Entry.encode)).sorted =
      .arr (entries.map fun e => e.encode.sorted) := by
    rw [Json.sorted, Json.sortedItems_eq_map, List.map_map]
    rfl
  have read : (entries.map fun e => e.encode.sorted).mapM Entry.decode = .ok entries :=
    Decoder.mapM_encode fun e among => Entry.decode_sorted (storable e among) (canonical e among)
  rw [decodeEntries, encodeEntries, Json.sorted_obj (List.pairwise_singleton _ _), Json.sortedMembers,
    items]
  exact Record.visit_single read

theorem written_bindings {bindings : Members} (canonical : (Json.obj bindings).Canonical) :
    Written ["variables"] (encodeBindings bindings) := by
  cases bindings with
  | nil => exact ⟨List.nil_sublist _, List.forall_mem_nil _⟩
  | cons m rest => exact .single "variables" canonical

theorem decode_sorted {q : Query} (h : q.Storable) (c : q.Canonical) :
    decode q.encode.sorted = .ok q := by
  have parts := (Written.single "end" (Json.canonical_int q.stop))
    |>.append (.mapped "formatOptions" TableFormat.canonical_encode q.format)
    |>.append (.mapped "requestType" Shape.canonical_encode q.shape)
    |>.append ((Written.single "schemaVersion" (Json.canonical_str q.version)).append
      (.single "start" (Json.canonical_int q.start)))
    |>.append (written_bindings c.bindings)
  have entries : record.set empty "compositeQuery" (encodeEntries q.entries).sorted =
      record.set empty "compositeQuery" (encodeEntries q.entries) := by
    simp only [record, decodeEntries_sorted h.entries c.entries, decodeEntries_encode h.entries]
  exact (parts.read_sorted (by decide) entries).trans (decode_encode h)

end Query

/-! ### All parts of a query -/

/-- Whether whatever is read reads the same once it is written: as it is written, and with members
in key order where it came so. -/
def ReadsBack {α : Type} (decode : Decoder α) (encode : α → Json) : Prop :=
  ∀ v x, decode v = .ok x →
    decode (encode x) = .ok x ∧ (v.Canonical → decode (encode x).sorted = .ok x)

theorem readsBack_of {α : Type} {decode : Decoder α} {encode : α → Json} {S C : α → Prop}
    (storable : ∀ v x, decode v = .ok x → S x)
    (canonical : ∀ v x, v.Canonical → decode v = .ok x → C x)
    (back : ∀ x, S x → decode (encode x) = .ok x)
    (sorted : ∀ x, S x → C x → decode (encode x).sorted = .ok x) : ReadsBack decode encode := by
  intro v x read
  have stored := storable v x read
  exact ⟨back x stored, fun ordered => sorted x stored (canonical v x ordered read)⟩

/-- What is always written in key order reads back in either form. -/
theorem readsBack_of_canonical {α : Type} {decode : Decoder α} {encode : α → Json}
    (ordered : ∀ x, (encode x).Canonical)
    (back : ∀ v x, decode v = .ok x → decode (encode x) = .ok x) : ReadsBack decode encode := by
  intro v x read
  have plain := back v x read
  refine ⟨plain, fun _ => ?_⟩
  rwa [ordered x]

/-- Reading undoes writing on everything that is read: queries and all of their parts. An entry
keeps its kind, an entry that is no leg its body, and a leg all that is not modelled, beside what is
modelled. Values that texts are read as are canonical, so all of this holds of them. -/
theorem decoded_reads_back :
    (ReadsBack Query.decode Query.encode ∧ ReadsBack Query.decodeEntries Query.encodeEntries ∧
      ReadsBack Entry.decode Entry.encode ∧ ReadsBack Leg.decode Leg.encode ∧
      ReadsBack FieldRef.decode FieldRef.encode ∧ ReadsBack Reduction.decode Reduction.encode ∧
      ReadsBack SortKey.decode SortKey.encode ∧ ReadsBack Leg.decodeFilter Leg.encodeFilter ∧
      ReadsBack TableFormat.decode TableFormat.encode) ∧
    (∀ v e, v.Canonical → Entry.decode v = .ok e → e.Carries v) ∧
    (∀ v l, v.Canonical → Leg.decode v = .ok l → l.Carries v) ∧
    ∀ text v, Json.parse? text = some v → v.Canonical := by
  refine ⟨⟨?_, ?_, ?_, ?_, ?_, ?_, ?_, ?_, ?_⟩, ?_, ?_, ?_⟩
  · exact readsBack_of (fun _ _ => Query.storable_of_decode)
      (fun _ _ => Query.canonical_of_decode) (fun _ => Query.decode_encode)
      (fun _ => Query.decode_sorted)
  · exact readsBack_of (fun _ _ => Query.storable_of_decodeEntries)
      (fun _ _ => Query.canonical_of_decodeEntries) (fun _ => Query.decodeEntries_encode)
      (fun _ => Query.decodeEntries_sorted)
  · exact readsBack_of (fun _ _ => Entry.storable_of_decode)
      (fun _ _ => Entry.canonical_of_decode) (fun _ => Entry.decode_encode)
      (fun _ => Entry.decode_sorted)
  · exact readsBack_of (fun _ _ => Leg.storable_of_decode) (fun _ _ => Leg.canonical_of_decode)
      (fun _ => Leg.decode_encode) (fun _ => Leg.decode_sorted)
  · exact readsBack_of_canonical FieldRef.canonical_encode fun _ _ read =>
      FieldRef.decode_encode (FieldRef.storable_of_decode read)
  · exact readsBack_of_canonical Reduction.canonical_encode fun _ r _ => r.decode_encode
  · exact readsBack_of_canonical SortKey.canonical_encode fun _ s _ => s.decode_encode
  · exact readsBack_of_canonical Leg.canonical_encodeFilter fun _ _ _ => rfl
  · exact readsBack_of_canonical TableFormat.canonical_encode fun _ f _ => f.decode_encode
  · exact fun _ _ => Entry.carries_of_decode
  · exact fun _ _ => Leg.carries_of_decode
  · exact fun _ _ => Json.canonical_of_parse?

/-- A leg with members that are not modelled, before, between and behind those that are. -/
def richLeg : Json :=
  .obj [("functions", .arr []), ("having", .null), ("legend", .str "all"), ("limit", .int 5),
    ("signal", .str "logs"), ("source", .null)]

/-- A query with times as text, a blank shape and a formula. -/
def mixedQuery : Json :=
  .obj [("compositeQuery", .obj [("queries", .arr [
      .obj [("spec", .obj [("expression", .str "A / B")]), ("type", .str "builder_formula")],
      .obj [("spec", richLeg), ("type", .str "builder_query")]])]),
    ("end", .str " 2 "), ("requestType", .str " "), ("start", .int 1)]

theorem mixedQuery_reads_back :
    mixedQuery.Canonical ∧ richLeg.Canonical ∧
      (∃ q, Query.decode mixedQuery = .ok q ∧ Query.decode q.encode = .ok q ∧
        Query.decode q.encode.sorted = .ok q) ∧
      ∃ l, Leg.decode richLeg = .ok l ∧ l.encode.get? "legend" = some (.str "all") ∧
        l.encode.get? "source" = some .null := by
  have mixed : mixedQuery.Canonical := rfl
  have rich : richLeg.Canonical := rfl
  obtain ⟨⟨queries, -⟩, -, legs, -⟩ := decoded_reads_back
  obtain ⟨q, read⟩ : ∃ q, Query.decode mixedQuery = .ok q := ⟨_, rfl⟩
  obtain ⟨l, readLeg⟩ : ∃ l, Leg.decode richLeg = .ok l := ⟨_, rfl⟩
  obtain ⟨plain, sorted⟩ := queries mixedQuery q read
  have carries := legs richLeg l rich readLeg
  refine ⟨mixed, rich, ⟨q, read, plain, sorted mixed⟩, l, readLeg, ?_, ?_⟩
  · exact carries.unmodelled "legend" (by decide)
  · exact carries.unmodelled "source" (by decide)

end TelemetryGateway
