import TelemetryGateway.Proofs.Json.Order
import TelemetryGateway.Proofs.Json.Members

set_option autoImplicit false

/-!
# What becomes of given values

A value that is read into a record and written again may come out otherwise than it went in. What
becomes of it is told along its nesting: which members are written as they are, which come back in
another spelling, which are lost. From this it follows for which values nothing is lost.
-/

namespace TelemetryGateway

/-- Whether a value is null or has nothing in it, so that it may be left out. -/
def Json.isEmpty : Json → Bool
  | null => true
  | str s => s = ""
  | arr items => items.isEmpty
  | obj members => members.isEmpty
  | _ => false

/-- What becomes of a given value. -/
inductive Fate where
  /-- It is written as it is. -/
  | same
  /-- What is written in its place does not depend on it alone. -/
  | settled
  /-- It is a whole number, maybe as text, and is written as a number. -/
  | whole
  /-- It is a name, maybe as an object with no other key, and is written as text. -/
  | word
  /-- Nothing is written for it. -/
  | lost
  | list (item : Fate)
  /-- It is an object, maybe as an array of the leading fields, and is written as an object. The
  fate of a member depends on its key and on the members beside it. -/
  | record (fields : List String) (member : Members → String → Fate)

namespace Fate

/-- The fate of a member where nothing is written but these fields, and they as they are. -/
def ofField (fields : List String) (key : String) : Fate := if key ∈ fields then same else lost

def flat (fields : List String) : Fate := record fields fun _ => ofField fields

/-- Whether members are those of an object, or the leading fields with the items of an array. -/
def IsGiven (fields : List String) (v : Json) (members : Members) : Prop :=
  v = .obj members ∨ ∃ items, v = .arr items ∧ members = fields.zip items

/-- Whether what is written for a value is what its fate says. -/
def Carries : Fate → Json → Option Json → Prop
  | same, v, sent => v.isEmpty = true ∧ sent = none ∨ sent = some v
  | settled, _, _ => True
  | whole, v, sent => ∃ n, Argument.integer v = .ok (some n) ∧ sent = some (.int n)
  | word, v, sent => ∃ s, (v = .str s ∨ v = .obj [(s, .null)]) ∧ sent = some (.str s)
  | lost, _, sent => sent = none
  | list item, v, sent => v = .arr [] ∧ sent = none ∨
      ∃ items written, v = .arr items ∧ sent = some (.arr written) ∧
        List.Forall₂ (fun v w => item.Carries v (some w)) items written
  | record fields member, v, sent => v = .null ∧ sent = none ∨
      ∃ members written, IsGiven fields v members ∧ sent = some (.obj written) ∧
        ∀ m ∈ members, (member members m.1).Carries m.2 (written.lookup m.1)

/-- Whether everything within a value is present in what is written: equal, but that what is empty
may be left out, that text for a whole number may have become the number, and that what is settled
otherwise may differ. -/
def Keeps : Fate → Json → Option Json → Prop
  | same, v, sent | word, v, sent | lost, v, sent => v.isEmpty = true ∧ sent = none ∨ sent = some v
  | settled, _, _ => True
  | whole, v, sent => sent = some v ∨ ∃ n, Argument.integer v = .ok (some n) ∧ sent = some (.int n)
  | list item, v, sent => v.isEmpty = true ∧ sent = none ∨
      ∃ items written, v = .arr items ∧ sent = some (.arr written) ∧
        List.Forall₂ (fun v w => item.Keeps v (some w)) items written
  | record _ member, v, sent => v.isEmpty = true ∧ sent = none ∨
      ∃ members written, v = .obj members ∧ sent = some (.obj written) ∧
        ∀ m ∈ members, (member members m.1).Keeps m.2 (written.lookup m.1)

/-- Whether a value has nothing in it that is lost or written in another form than it has. -/
def isPlain : Fate → Json → Bool
  | same, _ | settled, _ | whole, _ => true
  | word, v => v.string?.isSome
  | lost, v => v.isEmpty
  | list item, v =>
    match v with
    | .arr items => items.all item.isPlain
    | _ => false
  | record _ member, v =>
    match v with
    | .obj members => members.all fun m => (member members m.1).isPlain m.2
    | .null => true
    | _ => false

theorem carries_ofField_of_notMem {fields : List String} {key : String} (other : key ∉ fields)
    (v : Json) : (ofField fields key).Carries v none := by
  rw [ofField, if_neg other]
  rfl

theorem forall₂_iff_all {C K : Json → Json → Prop} {P : Json → Bool} {items written : List Json}
    (carried : List.Forall₂ C items written) (each : ∀ v w, C v w → (K v w ↔ P v = true)) :
    List.Forall₂ K items written ↔ items.all P = true := by
  induction carried with
  | nil => simp
  | cons first others ih =>
    rw [List.forall₂_cons, List.all_cons, Bool.and_eq_true, each _ _ first, ih]

/-- Everything within a value is kept exactly if the value is plain. -/
theorem Carries.keeps_iff {fate : Fate} {v : Json} {sent : Option Json} (h : fate.Carries v sent) :
    fate.Keeps v sent ↔ fate.isPlain v = true := by
  induction fate generalizing v sent with
  | same => exact iff_of_true h rfl
  | settled => exact iff_of_true trivial rfl
  | whole => exact iff_of_true (.inr h) rfl
  | word =>
    obtain ⟨s, rfl | rfl, rfl⟩ := h
    · exact iff_of_true (.inr rfl) rfl
    · exact iff_of_false (by simp [Keeps]) (by simp [isPlain, Json.string?])
  | lost =>
    obtain rfl : sent = none := h
    simp [Keeps, isPlain]
  | list item ih =>
    rcases h with ⟨rfl, rfl⟩ | ⟨items, written, rfl, rfl, carried⟩
    · exact iff_of_true (.inl ⟨rfl, rfl⟩) rfl
    have each := forall₂_iff_all (K := fun v w => item.Keeps v (some w)) carried fun v w => ih
    constructor
    · rintro (⟨-, ⟨⟩⟩ | ⟨_, _, ⟨⟩, ⟨⟩, kept⟩)
      exact each.1 kept
    · intro plain
      exact .inr ⟨items, written, rfl, rfl, each.2 plain⟩
  | record fields member ih =>
    rcases h with ⟨rfl, rfl⟩ | ⟨members, written, rfl | ⟨items, rfl, rfl⟩, rfl, carried⟩
    · exact iff_of_true (.inl ⟨rfl, rfl⟩) rfl
    · have each (m : String × Json) (among : m ∈ members) := ih members m.1 (carried m among)
      constructor
      · rintro (⟨-, ⟨⟩⟩ | ⟨_, _, ⟨⟩, ⟨⟩, kept⟩)
        exact List.all_eq_true.2 fun m among => (each m among).1 (kept m among)
      · intro plain
        exact .inr ⟨members, written, rfl, rfl, fun m among =>
          (each m among).2 (List.all_eq_true.1 plain m among)⟩
    · exact iff_of_false (by simp [Keeps]) (by simp [isPlain])

end Fate

/-! ### Records that are written member by member -/

namespace Record

variable {α : Type} {r : Record α} {write : α → String → Option Json}
  {Q : String → Json → Option Json → Prop}

/-- Whether each member settles what is written under its own key, and nothing else. -/
structure Settles (r : Record α) (write : α → String → Option Json)
    (Q : String → Json → Option Json → Prop) : Prop where
  own : ∀ a key v b, v.Canonical → r.set a key v = .ok b → Q key v (write b key)
  frame : ∀ a key v b, r.set a key v = .ok b → ∀ other ≠ key, write b other = write a other

theorem Settles.visit_frame (h : r.Settles write Q) {a b : α} {members : Members}
    (visited : r.visit a members = .ok b) {key : String} (absent : key ∉ members.map Prod.fst) :
    write b key = write a key := by
  induction members generalizing a with
  | nil =>
    obtain rfl := Except.ok.inj visited
    rfl
  | cons m rest ih =>
    rw [visit_cons] at visited
    obtain ⟨next, here, later⟩ := bind_eq_ok.1 visited
    obtain ⟨other, others⟩ := not_or.1 (mt List.mem_cons.2 absent)
    rw [ih later others, h.frame a m.1 m.2 next here key other]

/-- Where no key stands twice, what each member has settled is what is written in the end. -/
theorem Settles.visit (h : r.Settles write Q) {a b : α} {members : Members}
    (values : ∀ m ∈ members, m.2.Canonical) (distinct : (members.map Prod.fst).Nodup)
    (visited : r.visit a members = .ok b) : ∀ m ∈ members, Q m.1 m.2 (write b m.1) := by
  induction members generalizing a with
  | nil => exact List.forall_mem_nil _
  | cons m rest ih =>
    obtain ⟨first, others⟩ := List.forall_mem_cons.1 values
    obtain ⟨fresh, apart⟩ := List.nodup_cons.1 distinct
    rw [visit_cons] at visited
    obtain ⟨next, here, later⟩ := bind_eq_ok.1 visited
    refine List.forall_mem_cons.2 ⟨?_, ih others apart later⟩
    rw [h.visit_frame later fresh]
    exact h.own a m.1 m.2 next first here

theorem isGiven_of_read {a b : α} {v : Json} (read : r.read a v = .ok b) :
    Fate.IsGiven r.fields v (r.given v) := by
  cases v with
  | arr items => exact .inr ⟨items, rfl, rfl⟩
  | obj members => exact .inl rfl
  | _ => simp [Record.read, readObject] at read

end Record

end TelemetryGateway
