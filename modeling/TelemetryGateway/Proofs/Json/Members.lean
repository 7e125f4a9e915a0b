import TelemetryGateway.Proofs.Outcome
import TelemetryGateway.Query.Wire

set_option autoImplicit false

/-!
# Members read and written

What holds of a record at the start and is kept by each member holds of the record that is read. A
list of members that was put together from parts is read part by part.
-/

namespace TelemetryGateway

theorem lookup_member? (wanted key : String) (value : Option Json) :
    (member? key value).lookup wanted = if wanted = key then value else none := by
  cases value with
  | none => simp [member?]
  | some v => simp [member?, Members.lookup_cons]

namespace Record

variable {α : Type} {r : Record α} {P : α → Prop}

/-- What every member keeps whose value is of a kind, a record of such members keeps. -/
theorem visit_keeps_of {Q : Json → Prop}
    (keeps : ∀ a key v b, P a → Q v → r.set a key v = .ok b → P b) {a b : α} {members : Members}
    (start : P a) (values : ∀ m ∈ members, Q m.2) (visited : r.visit a members = .ok b) : P b := by
  induction members generalizing a with
  | nil =>
    obtain rfl := Except.ok.inj visited
    exact start
  | cons m rest ih =>
    obtain ⟨first, others⟩ := List.forall_mem_cons.1 values
    rw [visit_cons] at visited
    obtain ⟨next, here, later⟩ := bind_eq_ok.1 visited
    exact ih (keeps a m.1 m.2 next start first here) others later

/-- What every member keeps, a record keeps. -/
theorem visit_keeps (keeps : ∀ a key v b, P a → r.set a key v = .ok b → P b) {a b : α}
    {members : Members} (start : P a) (visited : r.visit a members = .ok b) : P b :=
  visit_keeps_of (Q := fun _ => True) (fun a key v b h _ => keeps a key v b h) start
    (fun _ _ => trivial) visited

theorem readObject_keeps (keeps : ∀ a key v b, P a → r.set a key v = .ok b → P b) {a b : α}
    {v : Json} (start : P a) (read : r.readObject a v = .ok b) : P b := by
  cases v with
  | obj members => exact visit_keeps keeps start read
  | _ => simp [readObject] at read

/-- The members of a record: those of an object, or the leading fields with the items of an
array. -/
def given (r : Record α) : Json → Members
  | .obj members => members
  | .arr items => r.fields.zip items
  | _ => []

theorem visit_given {a b : α} {v : Json} (done : r.read a v = .ok b) :
    r.visit a (r.given v) = .ok b := by
  cases v with
  | arr items =>
    obtain ⟨last, visited, rest⟩ := bind_eq_ok.1 done
    split at rest
    · obtain ⟨_, refused, -⟩ := bind_eq_ok.1 rest
      exact absurd refused throw_ne_ok
    · obtain rfl := pure_eq_ok.1 rest
      exact visited
  | obj members => exact done
  | _ => simp [read, readObject] at done

theorem read_keeps (keeps : ∀ a key v b, P a → r.set a key v = .ok b → P b) {a b : α} {v : Json}
    (start : P a) (done : r.read a v = .ok b) : P b :=
  visit_keeps keeps start (visit_given done)

theorem visit_append_of {a b : α} {xs : Members} (first : r.visit a xs = .ok b) (ys : Members) :
    r.visit a (xs ++ ys) = r.visit b ys := by
  rw [visit_append, first]
  rfl

theorem visit_single {a b : α} {key : String} {v : Json} (set : r.set a key v = .ok b) :
    r.visit a [(key, v)] = .ok b := by
  rw [visit_cons, set]
  rfl

/-- What every member passes over, a record passes over. -/
theorem visit_map_of {f : α → α} {members : Members}
    (passes : ∀ a, ∀ m ∈ members, r.set (f a) m.1 m.2 = (r.set a m.1 m.2).map f) (a : α) :
    r.visit (f a) members = (r.visit a members).map f := by
  induction members generalizing a with
  | nil => rfl
  | cons m rest ih =>
    have others : ∀ a, ∀ m ∈ rest, r.set (f a) m.1 m.2 = (r.set a m.1 m.2).map f :=
      fun a n among => passes a n (List.mem_cons_of_mem m among)
    rw [visit_cons, visit_cons, passes a m List.mem_cons_self]
    cases r.set a m.1 m.2 with
    | error e => rfl
    | ok next => exact ih others next

/-- A member under a new key counts wherever it is put, if the others do not mind it. -/
theorem visit_insert {f : α → α} {key : String} {v : Json} {members : Members}
    (put : ∀ a, r.set a key v = .ok (f a)) (free : ∀ m ∈ members, m.1 ≠ key)
    (passes : ∀ a, ∀ m ∈ members, r.set (f a) m.1 m.2 = (r.set a m.1 m.2).map f) (a : α) :
    r.visit a (members.insert key v) = (r.visit a members).map f := by
  induction members generalizing a with
  | nil => exact visit_single (put a)
  | cons m rest ih =>
    rw [Members.insert]
    split
    · rw [visit_cons, put a]
      exact visit_map_of passes a
    · rw [if_neg (free m List.mem_cons_self).symm, visit_cons, visit_cons]
      cases r.set a m.1 m.2 with
      | error e => rfl
      | ok next =>
        exact ih (fun n among => free n (List.mem_cons_of_mem m among))
          (fun a n among => passes a n (List.mem_cons_of_mem m among)) next

/-- A member that no record knows is passed over wherever it is put. -/
theorem visit_insert_unknown {key : String} {v : Json} {members : Members}
    (unknown : ∀ a, r.set a key v = .ok a) (free : ∀ m ∈ members, m.1 ≠ key) (a : α) :
    r.visit a (members.insert key v) = r.visit a members := by
  have passes (a : α) (m : String × Json) : r.set a m.1 m.2 = (r.set a m.1 m.2).map id := by
    rw [Except.map_id]
    rfl
  rw [visit_insert (f := id) unknown free (fun a m _ => passes a m) a, Except.map_id]
  rfl

/-- A member that is written only where there is a value. -/
theorem visit_optional {β : Type} {a b : α} {key : String} {write : β → Json} {value : Option β}
    (absent : value = none → a = b)
    (present : ∀ x, value = some x → r.set a key (write x) = .ok b) :
    r.visit a (member? key (value.map write)) = .ok b := by
  cases value with
  | none => exact congrArg Except.ok (absent rfl)
  | some x => exact visit_single (present x rfl)

/-- A member that is written only where the list has items. -/
theorem visit_list {β : Type} {a b : α} {key : String} {write : β → Json} {items : List β}
    (absent : items = [] → a = b) (present : r.set a key (.arr (items.map write)) = .ok b) :
    r.visit a (items? key (items.map write)) = .ok b := by
  cases items with
  | nil => exact congrArg Except.ok (absent rfl)
  | cons item rest => exact visit_single present

end Record

namespace Json.Decoder

variable {α : Type} {read : Decoder α} {P : α → Prop}

theorem mapM_keeps_of {Q : Json → Prop} (each : ∀ v a, Q v → read v = .ok a → P a)
    {items : List Json} (kind : ∀ v ∈ items, Q v) {xs : List α} (done : items.mapM read = .ok xs) :
    ∀ x ∈ xs, P x := by
  induction items generalizing xs with
  | nil =>
    obtain rfl := pure_eq_ok.1 done
    simp
  | cons v items ih =>
    obtain ⟨first, others⟩ := List.forall_mem_cons.1 kind
    rw [List.mapM_cons] at done
    obtain ⟨x, here, rest⟩ := bind_eq_ok.1 done
    obtain ⟨xs, later, result⟩ := bind_eq_ok.1 rest
    obtain rfl := pure_eq_ok.1 result
    rw [List.forall_mem_cons]
    exact ⟨each v x first here, ih others later⟩

theorem mapM_keeps (each : ∀ v a, read v = .ok a → P a) {items : List Json} {xs : List α}
    (done : items.mapM read = .ok xs) : ∀ x ∈ xs, P x :=
  mapM_keeps_of (Q := fun _ => True) (fun v a _ => each v a) (fun _ _ => trivial) done

theorem list_keeps (each : ∀ v a, read v = .ok a → P a) {v : Json} {xs : List α}
    (done : list read v = .ok xs) : ∀ x ∈ xs, P x := by
  cases v with
  | arr items => exact mapM_keeps each done
  | _ => simp [list] at done

theorem optional_keeps (each : ∀ v a, read v = .ok a → P a) {v : Json} {x : Option α}
    (done : optional read v = .ok x) : ∀ a ∈ x, P a := by
  cases v with
  | null =>
    obtain rfl := Except.ok.inj done
    simp
  | _ =>
    obtain ⟨a, inner, rfl⟩ := map_eq_ok.1 done
    simpa using each _ a inner

/-- A value that is taken as it comes is never `null`. -/
theorem optional_value {v : Json} {x : Option Json} (done : optional .ok v = .ok x) :
    ∀ w ∈ x, w ≠ .null := by
  cases v with
  | null =>
    obtain rfl := Except.ok.inj done
    simp
  | _ =>
    obtain rfl := Except.ok.inj done
    simp

theorem optional_ok {v : Json} {x : Option Json} (done : optional .ok v = .ok x) :
    ∀ w ∈ x, w = v := by
  cases v with
  | null =>
    obtain rfl := Except.ok.inj done
    simp
  | _ =>
    obtain rfl := Except.ok.inj done
    simp

/-- Items that were written one by one are read one by one. -/
theorem mapM_encode {encode : α → Json} {xs : List α}
    (each : ∀ x ∈ xs, read (encode x) = .ok x) : (xs.map encode).mapM read = .ok xs := by
  induction xs with
  | nil => rfl
  | cons x xs ih =>
    obtain ⟨first, others⟩ := List.forall_mem_cons.1 each
    rw [List.map_cons, List.mapM_cons, first, ih others]
    rfl

theorem text_eq_ok {v : Json} {s : String} : text v = .ok s ↔ v = .str s := by
  cases v <;> simp [text]

theorem members_eq_ok {v : Json} {ms : Members} : members v = .ok ms ↔ v = .obj ms := by
  cases v <;> simp [members]

theorem optional_some {v : Json} {a : α} (filled : v ≠ .null) (done : read v = .ok a) :
    optional read v = .ok (some a) := by
  cases v with
  | null => exact absurd rfl filled
  | _ => simp [optional, done, Except.map]

theorem word64_nat {n : Nat} (fits : n ≤ Text.maxUInt64) : word64 (.nat n) = .ok n := by
  simp [word64, natural, Json.nat, Json.int, fits]

theorem word64_fits {v : Json} {n : Nat} (done : word64 v = .ok n) : n ≤ Text.maxUInt64 := by
  unfold word64 natural at done
  split at done
  · obtain ⟨inside, rfl⟩ := ite_eq_ok.1 done
    omega
  · exact absurd done (by simp)

end Json.Decoder

namespace Argument

theorem integer_fits {v : Json} {n : Option Int} (done : integer v = .ok n) :
    ∀ m ∈ n, Text.FitsInt64 m := by
  intro m among
  obtain rfl : n = some m := among
  unfold integer at done
  split at done
  · exact absurd done (by simp)
  · split at done
    · obtain ⟨fits, same⟩ := ite_eq_ok.1 done
      exact Option.some.inj same ▸ fits
    · exact absurd done (by simp)
  · split at done
    · exact absurd done (by simp)
    · split at done
      · rename_i spelled
        cases done
        exact Text.fits_of_int64? spelled
      · exact absurd done (by simp)
  · exact absurd done (by simp)

theorem integerOrZero_fits {v : Json} {n : Int} (done : integerOrZero v = .ok n) :
    Text.FitsInt64 n := by
  obtain ⟨given, read, rfl⟩ := map_eq_ok.1 done
  cases given with
  | none => decide
  | some m => exact integer_fits read m rfl

theorem integerOrZero_int {n : Int} (fits : Text.FitsInt64 n) : integerOrZero (.int n) = .ok n := by
  rw [integerOrZero, integer_int fits]
  rfl

end Argument

end TelemetryGateway
