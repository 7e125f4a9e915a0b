import Mathlib.Data.String.Basic
import TelemetryGateway.Json.Basic

set_option autoImplicit false

/-!
# Members in key order

Objects that were read from a text, and those that are written to one, hold their members in key
order, each key once. Putting members in order keeps apart those with keys of one kind and those
with keys of the other.
-/

namespace TelemetryGateway

namespace Members

/-- Whether the keys ascend; no key stands twice then. -/
def InOrder (members : Members) : Prop := members.Pairwise fun m n => m.1 < n.1

theorem mem_insert {key : String} {value : Json} {members : Members} {m : String × Json}
    (among : m ∈ insert key value members) : m = (key, value) ∨ m ∈ members := by
  induction members with
  | nil => exact .inl (List.mem_singleton.1 among)
  | cons first rest ih =>
    rw [insert] at among
    split at among
    · exact List.mem_cons.1 among
    · split at among
      · rcases List.mem_cons.1 among with here | later
        · exact .inl here
        · exact .inr (List.mem_cons_of_mem _ later)
      · rcases List.mem_cons.1 among with rfl | later
        · exact .inr List.mem_cons_self
        · rcases ih later with new | old
          · exact .inl new
          · exact .inr (List.mem_cons_of_mem _ old)

theorem InOrder.insert {members : Members} (h : members.InOrder) (key : String) (value : Json) :
    (insert key value members).InOrder := by
  induction members with
  | nil => exact List.pairwise_singleton _ _
  | cons first rest ih =>
    obtain ⟨before, inner⟩ := List.pairwise_cons.1 h
    rw [Members.insert]
    split
    · rename_i smaller
      refine List.pairwise_cons.2 ⟨?_, h⟩
      intro m among
      rcases List.mem_cons.1 among with rfl | later
      · exact smaller
      · exact lt_trans smaller (before m later)
    · split
      · rename_i same
        exact List.pairwise_cons.2 ⟨fun m later => same ▸ before m later, inner⟩
      · rename_i notSmaller different
        refine List.pairwise_cons.2 ⟨?_, ih inner⟩
        intro m among
        rcases mem_insert among with rfl | later
        · exact lt_of_le_of_ne (not_lt.1 notSmaller) (Ne.symm different)
        · exact before m later

/-- Members in order stay in order while more are put in. -/
theorem InOrder.foldl_insert {members : Members} (h : members.InOrder) (pairs : Members) :
    (pairs.foldl (fun members m => Members.insert m.1 m.2 members) members).InOrder := by
  induction pairs generalizing members with
  | nil => exact h
  | cons m rest ih => exact ih (h.insert m.1 m.2)

theorem inOrder_ofPairs (pairs : Members) : (ofPairs pairs).InOrder :=
  InOrder.foldl_insert List.Pairwise.nil pairs

/-- A key that is greater than all others goes to the end. -/
theorem insert_greatest {key : String} (value : Json) {members : Members}
    (greatest : ∀ m ∈ members, m.1 < key) : insert key value members = members ++ [(key, value)] := by
  induction members with
  | nil => rfl
  | cons first rest ih =>
    obtain ⟨here, later⟩ := List.forall_mem_cons.1 greatest
    rw [insert, if_neg (lt_asymm here), if_neg (ne_of_gt here), ih later, List.cons_append]

theorem foldl_insert_eq_append {members pairs : Members} (h : (members ++ pairs).InOrder) :
    pairs.foldl (fun members m => insert m.1 m.2 members) members = members ++ pairs := by
  induction pairs generalizing members with
  | nil => rw [List.foldl_nil, List.append_nil]
  | cons m rest ih =>
    have greatest : ∀ n ∈ members, n.1 < m.1 := fun n among =>
      (List.pairwise_append.1 h).2.2 n among m List.mem_cons_self
    have whole : members ++ m :: rest = (members ++ [m]) ++ rest := by simp
    rw [List.foldl_cons, insert_greatest m.2 greatest, whole]
    exact ih (whole ▸ h)

/-- What is in order already stays as it is. -/
theorem InOrder.ofPairs_eq {members : Members} (h : members.InOrder) : ofPairs members = members :=
  foldl_insert_eq_append h

section Kinds

variable (kind : String → Bool)

theorem filter_insert {members : Members} (h : members.InOrder) (key : String) (value : Json) :
    (insert key value members).filter (fun m => kind m.1) =
      if kind key then insert key value (members.filter fun m => kind m.1)
      else members.filter fun m => kind m.1 := by
  induction members with
  | nil => cases wanted : kind key <;> simp [insert, wanted]
  | cons first rest ih =>
    obtain ⟨before, inner⟩ := List.pairwise_cons.1 h
    rw [insert]
    split
    · rename_i smaller
      have least : ∀ m ∈ (first :: rest).filter (fun m => kind m.1), key < m.1 := by
        intro m among
        rcases List.mem_cons.1 (List.mem_filter.1 among).1 with rfl | later
        · exact smaller
        · exact lt_trans smaller (before m later)
      rw [List.filter_cons]
      refine ite_congr rfl (fun _ => ?_) fun _ => rfl
      cases kept : (first :: rest).filter (fun m => kind m.1) with
      | nil => rfl
      | cons m others =>
        rw [insert, if_pos (least m (by rw [kept]; exact List.mem_cons_self))]
    · split
      · rename_i notSmaller same
        subst same
        cases wanted : kind first.1 <;> simp [wanted, insert]
      · rename_i notSmaller different
        rw [List.filter_cons, List.filter_cons, ih inner]
        cases wanted : kind key <;> cases kept : kind first.1 <;>
          simp [insert, notSmaller, different]

theorem filter_foldl_insert {members : Members} (h : members.InOrder) (pairs : Members) :
    (pairs.foldl (fun members m => insert m.1 m.2 members) members).filter (fun m => kind m.1) =
      (pairs.filter fun m => kind m.1).foldl (fun members m => insert m.1 m.2 members)
        (members.filter fun m => kind m.1) := by
  induction pairs generalizing members with
  | nil => rfl
  | cons m rest ih =>
    rw [List.foldl_cons, ih (h.insert m.1 m.2), filter_insert kind h, List.filter_cons]
    split <;> rfl

/-- Putting members in order and picking those of a kind can change places. -/
theorem filter_ofPairs (pairs : Members) :
    (ofPairs pairs).filter (fun m => kind m.1) = ofPairs (pairs.filter fun m => kind m.1) :=
  filter_foldl_insert kind List.Pairwise.nil pairs

/-- Among the members of a kind, a key of that kind is looked up as among all. -/
theorem lookup_filter {wanted : String} (chosen : kind wanted = true) (members : Members) :
    (members.filter fun m => kind m.1).lookup wanted = members.lookup wanted := by
  induction members with
  | nil => rfl
  | cons m rest ih =>
    rw [List.filter_cons, lookup_cons]
    by_cases same : wanted = m.1
    · rw [if_pos (same ▸ chosen), lookup_cons, if_pos same, if_pos same]
    · rw [if_neg same, ← ih]
      split
      · rw [lookup_cons, if_neg same]
      · rfl

end Kinds

theorem lookup_of_notMem {members : Members} {wanted : String}
    (absent : wanted ∉ members.map Prod.fst) : members.lookup wanted = none := by
  rw [List.lookup_eq_none_iff]
  intro m among
  rw [bne_iff_ne]
  rintro rfl
  exact absent (List.mem_map_of_mem among)

/-- Where no key stands twice, a member is found under its key. -/
theorem lookup_of_mem {members : Members} (distinct : (members.map Prod.fst).Nodup)
    {m : String × Json} (among : m ∈ members) : members.lookup m.1 = some m.2 := by
  induction members with
  | nil => exact absurd among List.not_mem_nil
  | cons n rest ih =>
    obtain ⟨fresh, others⟩ := List.nodup_cons.1 distinct
    rw [lookup_cons]
    rcases List.mem_cons.1 among with rfl | later
    · rw [if_pos rfl]
    · have different : m.1 ≠ n.1 := fun same => fresh (same ▸ List.mem_map_of_mem later)
      rw [if_neg different, ih others later]

/-- Where no key stands twice, exactly the members are found. -/
theorem lookup_eq_some_iff {members : Members} (distinct : (members.map Prod.fst).Nodup)
    {key : String} {v : Json} : members.lookup key = some v ↔ (key, v) ∈ members := by
  constructor
  · intro found
    rcases List.lookup_eq_some_iff.1 found with ⟨front, back, whole, -⟩
    rw [whole]
    exact List.mem_append_right _ List.mem_cons_self
  · exact lookup_of_mem distinct

theorem lookup_foldl_insert {pairs : Members} (distinct : (pairs.map Prod.fst).Nodup)
    (members : Members) (wanted : String) :
    (pairs.foldl (fun members m => insert m.1 m.2 members) members).lookup wanted =
      (pairs.lookup wanted).or (members.lookup wanted) := by
  induction pairs generalizing members with
  | nil => rfl
  | cons m rest ih =>
    obtain ⟨fresh, others⟩ := List.nodup_cons.1 distinct
    rw [List.foldl_cons, ih others, lookup_insert, lookup_cons]
    by_cases same : wanted = m.1
    · rw [if_pos same, if_pos same, lookup_of_notMem (same ▸ fresh)]
      rfl
    · rw [if_neg same, if_neg same]

/-- Where no key stands twice, putting members in order overwrites nothing. -/
theorem lookup_ofPairs {pairs : Members} (distinct : (pairs.map Prod.fst).Nodup) (wanted : String) :
    (ofPairs pairs).lookup wanted = pairs.lookup wanted := by
  rw [ofPairs, lookup_foldl_insert distinct]
  exact Option.or_none

/-- Of members with the same key the last one counts. -/
theorem lookup_foldl_insert_reverse (pairs members : Members) (wanted : String) :
    (pairs.foldl (fun members m => insert m.1 m.2 members) members).lookup wanted =
      (pairs.reverse.lookup wanted).or (members.lookup wanted) := by
  induction pairs generalizing members with
  | nil => rfl
  | cons m rest ih =>
    rw [List.foldl_cons, ih, lookup_insert, List.reverse_cons, List.lookup_append, Option.or_assoc,
      lookup_cons]
    by_cases same : wanted = m.1
    · rw [if_pos same, if_pos same]
      rfl
    · rw [if_neg same, if_neg same]
      rfl

theorem lookup_ofPairs_reverse (pairs : Members) (wanted : String) :
    (ofPairs pairs).lookup wanted = pairs.reverse.lookup wanted := by
  rw [ofPairs, lookup_foldl_insert_reverse]
  exact Option.or_none

theorem keys_zip (keys : List String) (items : List Json) :
    ((keys.zip items).map Prod.fst).Sublist keys := by
  induction keys generalizing items with
  | nil => exact List.Sublist.refl _
  | cons key rest ih =>
    cases items with
    | nil => exact List.nil_sublist _
    | cons v items => exact (ih items).cons_cons key

theorem InOrder.distinct {members : Members} (h : members.InOrder) :
    (members.map Prod.fst).Nodup :=
  List.pairwise_map.2 (h.imp fun less => ne_of_lt less)

theorem InOrder.nodup {members : Members} (h : members.InOrder) : members.Nodup :=
  h.imp fun less => ne_of_apply_ne Prod.fst (ne_of_lt less)

/-- Members in order are told by what is found among them. -/
theorem InOrder.ext {members others : Members} (h : members.InOrder) (h' : others.InOrder)
    (alike : ∀ key, members.lookup key = others.lookup key) : members = others := by
  have same (m : String × Json) : m ∈ members ↔ m ∈ others := by
    rw [← lookup_eq_some_iff h.distinct, ← lookup_eq_some_iff h'.distinct, alike]
  have perm : members.Perm others :=
    (List.perm_ext_iff_of_nodup h.nodup h'.nodup).2 same
  exact perm.eq_of_pairwise (fun _ _ _ _ less more => absurd more (lt_asymm less)) h h'

/-- In whichever order members are put in, they end up in key order. -/
theorem InOrder.ofPairs_eq_of_perm {members given : Members} (h : members.InOrder)
    (perm : given.Perm members) : ofPairs given = members := by
  have distinct : (given.map Prod.fst).Nodup := (perm.map Prod.fst).nodup_iff.2 h.distinct
  apply InOrder.ext (inOrder_ofPairs given) h
  intro key
  rw [lookup_ofPairs distinct]
  apply Option.ext
  intro v
  rw [lookup_eq_some_iff distinct, lookup_eq_some_iff h.distinct, perm.mem_iff]

end Members

namespace Json

/-- Whether every object within the value holds its members in key order. -/
def Canonical (v : Json) : Prop := v.sorted = v

theorem sortedItems_eq_map (items : List Json) : sortedItems items = items.map sorted := by
  induction items with
  | nil => rfl
  | cons v rest ih => rw [sortedItems, ih, List.map_cons]

theorem sortedMembers_eq_map (members : Members) :
    sortedMembers members = members.map fun m => (m.1, m.2.sorted) := by
  induction members with
  | nil => rfl
  | cons m rest ih => rw [sortedMembers, ih, List.map_cons]

/-- A list stays as it is exactly if all of its items do. -/
theorem map_eq_self_iff {α : Type} {f : α → α} {items : List α} :
    items.map f = items ↔ ∀ a ∈ items, f a = a := by
  have pointwise : items.map f = items.map id ↔ ∀ a ∈ items, f a = id a := List.map_eq_map_iff
  rwa [List.map_id] at pointwise

theorem sortedMembers_eq {members : Members} (values : ∀ m ∈ members, m.2.Canonical) :
    sortedMembers members = members := by
  rw [sortedMembers_eq_map, map_eq_self_iff]
  exact fun m among => Prod.ext rfl (values m among)

@[simp] theorem canonical_null : null.Canonical := rfl

@[simp] theorem canonical_bool (b : Bool) : (bool b).Canonical := rfl

@[simp] theorem canonical_str (s : String) : (str s).Canonical := rfl

@[simp] theorem canonical_int (n : Int) : (int n).Canonical := rfl

@[simp] theorem canonical_nat (n : Nat) : (nat n).Canonical := rfl

theorem canonical_arr {items : List Json} :
    (arr items).Canonical ↔ ∀ v ∈ items, v.Canonical := by
  rw [Canonical, sorted, sortedItems_eq_map, arr.injEq]
  exact map_eq_self_iff

theorem inOrder_sortedMembers {members : Members} (h : members.InOrder) :
    Members.InOrder (sortedMembers members) := by
  rw [sortedMembers_eq_map]
  exact List.pairwise_map.2 h

theorem sorted_obj {members : Members} (h : members.InOrder) :
    (obj members).sorted = obj (sortedMembers members) := by
  rw [sorted, (inOrder_sortedMembers h).ofPairs_eq]

theorem canonical_obj {members : Members} :
    (obj members).Canonical ↔ members.InOrder ∧ ∀ m ∈ members, m.2.Canonical := by
  rw [Canonical, sorted, obj.injEq]
  constructor
  · intro same
    have ordered : members.InOrder := same ▸ Members.inOrder_ofPairs _
    rw [(inOrder_sortedMembers ordered).ofPairs_eq, sortedMembers_eq_map] at same
    exact ⟨ordered, fun m among => congrArg Prod.snd (map_eq_self_iff.1 same m among)⟩
  · rintro ⟨ordered, values⟩
    rw [sortedMembers_eq values, ordered.ofPairs_eq]

end Json

end TelemetryGateway
