import Mathlib.Data.List.Perm.Basic
import TelemetryGateway.Proofs.Query.Finishing

set_option autoImplicit false

/-!
# Entries in another order

All legs together settle the shape of a query, and against that shape each entry is finished on its
own. Neither depends on where an entry stands, so a query with its entries rearranged is finished
like the query itself. An order is given by the positions in the order in which they are taken.
-/

namespace TelemetryGateway

/-! ### Orders -/

section Orders

variable {α β : Type} {order : List Nat} {xs ys : List α}

/-- The items at the positions of an order. -/
def arranged (order : List Nat) (xs : List α) : List α := order.filterMap fun i => xs[i]?

theorem arranged_map (order : List Nat) (f : α → β) (xs : List α) :
    arranged order (xs.map f) = (arranged order xs).map f := by
  simp only [arranged, List.getElem?_map, List.map_filterMap]

theorem arranged_range (xs : List α) : arranged (List.range xs.length) xs = xs := by
  induction xs with
  | nil => rfl
  | cons x xs ih =>
    rw [arranged, List.length_cons, List.range_succ_eq_map, List.filterMap_cons, List.filterMap_map]
    exact congrArg (x :: ·) ih

/-- An order of all positions drops no item and repeats none. -/
theorem perm_arranged (whole : order.Perm (List.range xs.length)) :
    (arranged order xs).Perm xs := by
  have taken : (arranged order xs).Perm (arranged (List.range xs.length) xs) := whole.filterMap _
  rwa [arranged_range] at taken

/-- The items found at the positions one by one are those of the order. -/
theorem arranged_of_forall₂ (found : List.Forall₂ (fun y i => xs[i]? = some y) ys order) :
    arranged order xs = ys := by
  induction found with
  | nil => rfl
  | @cons y i ys order here rest ih =>
    rw [arranged, List.filterMap_cons, here]
    exact congrArg (y :: ·) ih

/-- Lists with the same items differ by an order. -/
theorem perm_iff_arranged : ys.Perm xs ↔
    ∃ order : List Nat, order.Perm (List.range xs.length) ∧ ys = arranged order xs := by
  constructor
  · intro same
    have placed : List.Forall₂ (fun x i => xs[i]? = some x) xs (List.range xs.length) := by
      rw [List.forall₂_iff_get]
      refine ⟨by simp, fun i inside _ => ?_⟩
      simp
    obtain ⟨order, found, whole⟩ := List.perm_comp_forall₂ same placed
    exact ⟨order, whole, (arranged_of_forall₂ found).symm⟩
  · rintro ⟨order, whole, rfl⟩
    exact perm_arranged whole

end Orders

namespace Query

variable {q : Query} {order : List Nat}

/-- The query with its entries in another order. -/
def rearranged (order : List Nat) (q : Query) : Query :=
  { q with entries := arranged order q.entries }

theorem perm_entries_rearranged (whole : order.Perm (List.range q.entries.length)) :
    (q.rearranged order).entries.Perm q.entries :=
  perm_arranged whole

theorem perm_legs_rearranged (whole : order.Perm (List.range q.entries.length)) :
    (q.rearranged order).legs.Perm q.legs :=
  (perm_entries_rearranged whole).filterMap Entry.leg?

/-- The same legs settle the same shape. -/
theorem answeredAs_rearranged (whole : order.Perm (List.range q.entries.length)) :
    (q.rearranged order).answeredAs = q.answeredAs := by
  have same : (∃ l ∈ (q.rearranged order).legs, l.signal = some .metrics) ↔
      ∃ l ∈ q.legs, l.signal = some .metrics := by
    simp only [(perm_legs_rearranged whole).mem_iff]
  simp only [answeredAs, same]
  rfl

theorem finishable_rearranged_iff (whole : order.Perm (List.range q.entries.length)) :
    (q.rearranged order).Finishable ↔ q.Finishable := by
  have entries : (q.rearranged order).entries = [] ↔ q.entries = [] := by
    rw [← List.length_eq_zero_iff, ← List.length_eq_zero_iff,
      (perm_entries_rearranged whole).length_eq]
  constructor
  · rintro ⟨start, stop, filled, fits⟩
    refine ⟨start, stop, fun empty => filled (entries.2 empty), fun l among => ?_⟩
    rw [← answeredAs_rearranged whole]
    exact fits l ((perm_legs_rearranged whole).mem_iff.2 among)
  · rintro ⟨start, stop, filled, fits⟩
    refine ⟨start, stop, fun empty => filled (entries.1 empty), fun l among => ?_⟩
    rw [answeredAs_rearranged whole]
    exact fits l ((perm_legs_rearranged whole).mem_iff.1 among)

theorem completed_rearranged (whole : order.Perm (List.range q.entries.length)) :
    (q.rearranged order).completed = q.completed.rearranged order := by
  have entries : (arranged order q.entries).map (Entry.completed q.answeredAs) =
      arranged order (q.entries.map (Entry.completed q.answeredAs)) :=
    (arranged_map order _ q.entries).symm
  rw [completed, answeredAs_rearranged whole]
  simp only [rearranged, completed, entries]
  rfl

/-- The order of the entries has no say in whether a query is finished. It is finished in any order,
and then the entries of the result stand in that order and all else is as it was. -/
theorem finish_rearranged (q : Query) :
    (∀ es : List Entry, es.Perm q.entries ↔
      ∃ order : List Nat, order.Perm (List.range q.entries.length) ∧ es = arranged order q.entries) ∧
    ∀ order : List Nat, order.Perm (List.range q.entries.length) →
      ((∃ r, (q.rearranged order).finish = .ok r) ↔ ∃ r, q.finish = .ok r) ∧
      ∀ r, q.finish = .ok r → (q.rearranged order).finish = .ok (r.rearranged order) := by
  refine ⟨fun es => perm_iff_arranged, fun order whole => ⟨?_, ?_⟩⟩
  · simp only [finish_eq_ok_iff, finishable_rearranged_iff whole, exists_and_left, exists_eq, and_true]
  · intro r done
    obtain ⟨finishable, rfl⟩ := finish_eq_ok_iff.1 done
    rw [← completed_rearranged whole]
    exact finish_eq_ok_iff.2 ⟨(finishable_rearranged_iff whole).2 finishable, rfl⟩

/-- The crowded query with the metric that settles its shape in front instead of at the end. -/
theorem crowded_finished_rearranged :
    let order := [3, 2, 0, 1]
    order.Perm (List.range crowded.entries.length) ∧
      ∃ r, crowded.finish = .ok r ∧ (crowded.rearranged order).finish = .ok (r.rearranged order) ∧
        (r.rearranged order).legs.map Leg.step = [some 30, some 60, some 60] := by
  intro order
  have whole : order.Perm (List.range crowded.entries.length) := by decide
  obtain ⟨-, finished⟩ := (finish_rearranged crowded).2 order whole
  exact ⟨whole, _, rfl, finished _ rfl, rfl⟩

end Query

end TelemetryGateway
