import Mathlib.Data.List.Basic
import TelemetryGateway.Proofs.Outcome
import TelemetryGateway.Query.Finish

set_option autoImplicit false

/-!
# What finishing accepts and what it changes

The shape of a query is settled by all of its legs together; against that shape every leg is looked
at alone. `Query.Finishable` says which queries pass and `Query.completed` what they become, both
without running through the entries. Finishing is exactly these two, for lists of any length.
-/

namespace TelemetryGateway

namespace Leg

/-- Whether the leg reads records rather than a metric. -/
def ReadsRecords (leg : Leg) : Prop := leg.signal = some .logs ∨ leg.signal = some .traces

instance (leg : Leg) : Decidable leg.ReadsRecords := inferInstanceAs (Decidable (_ ∨ _))

/-- Whether the leg can be answered in a shape: metrics in any, records as a list, and as values or
series only where something reduces them. -/
def Fits (shape : Shape) (leg : Leg) : Prop :=
  leg.signal = some .metrics ∨
    leg.ReadsRecords ∧ shape = .raw ∨
    leg.ReadsRecords ∧ (shape = .scalar ∨ shape = .timeSeries) ∧ leg.reductions ≠ []

instance (shape : Shape) (leg : Leg) : Decidable (leg.Fits shape) :=
  inferInstanceAs (Decidable (_ ∨ _))

/-- The step of a finished leg: a series has one, a list or a value has none. -/
def finalStep (shape : Shape) (leg : Leg) : Option Int :=
  if leg.signal = some .metrics ∨ shape = .timeSeries then
    match leg.step with
    | some step => if 0 < step then some step else some 60
    | none => some 60
  else none

/-- The leg with its final step and nothing else changed. -/
def completed (shape : Shape) (leg : Leg) : Leg := { leg with step := leg.finalStep shape }

@[simp] theorem completed_signal (shape : Shape) (leg : Leg) :
    (leg.completed shape).signal = leg.signal := rfl

@[simp] theorem completed_reductions (shape : Shape) (leg : Leg) :
    (leg.completed shape).reductions = leg.reductions := rfl

@[simp] theorem fits_completed (shape : Shape) (leg : Leg) :
    (leg.completed shape).Fits shape ↔ leg.Fits shape := Iff.rfl

@[simp] theorem finalStep_completed (shape : Shape) (leg : Leg) :
    (leg.completed shape).finalStep shape = leg.finalStep shape := by
  by_cases series : leg.signal = some .metrics ∨ shape = .timeSeries
  · cases given : leg.step with
    | none => simp [finalStep, completed, series, given]
    | some step => by_cases positive : 0 < step <;> simp [finalStep, completed, series, given, positive]
  · simp [finalStep, completed, series]

theorem completed_completed (shape : Shape) (leg : Leg) :
    (leg.completed shape).completed shape = leg.completed shape := by
  rw [completed, finalStep_completed]
  rfl

theorem withStep_eq_completed (shape : Shape) {leg : Leg}
    (series : leg.signal = some .metrics ∨ shape = .timeSeries) :
    leg.withStep = leg.completed shape := by
  cases given : leg.step with
  | none => simp [withStep, completed, finalStep, series, given, defaultStep]
  | some step =>
    by_cases positive : 0 < step <;>
      simp [withStep, completed, finalStep, series, given, positive, defaultStep, Option.filter]

theorem withoutStep_eq_completed (shape : Shape) {leg : Leg} (records : leg.ReadsRecords)
    (flat : shape ≠ .timeSeries) : leg.withoutStep = leg.completed shape := by
  have other : leg.signal ≠ some .metrics := by
    rcases records with h | h <;> simp [h]
  simp [withoutStep, completed, finalStep, other, flat]

/-- Both signals of records are held against the shape in the same way. -/
theorem finishRecords_eq_ok_iff {shape : Shape} {signal : Signal} {leg finished : Leg}
    (records : leg.ReadsRecords) :
    leg.finishRecords shape signal = .ok finished ↔
      leg.Fits shape ∧ finished = leg.completed shape := by
  have other : leg.signal ≠ some .metrics := by
    rcases records with h | h <;> simp [h]
  cases shape with
  | raw =>
    rw [finishRecords, withoutStep_eq_completed .raw records (by decide)]
    simp [Fits, records, eq_comm]
  | scalar =>
    rw [finishRecords, withoutStep_eq_completed .scalar records (by decide)]
    by_cases reduced : leg.reductions = [] <;> simp [Fits, records, other, reduced, eq_comm]
  | timeSeries =>
    rw [finishRecords, withStep_eq_completed .timeSeries (.inr rfl)]
    by_cases reduced : leg.reductions = [] <;> simp [Fits, records, other, reduced, eq_comm]
  | trace => simp [finishRecords, Fits, other]
  | other name => simp [finishRecords, Fits, other]

theorem finish_eq_ok_iff {shape : Shape} {leg finished : Leg} :
    leg.finish shape = .ok finished ↔ leg.Fits shape ∧ finished = leg.completed shape := by
  cases read : leg.signal with
  | none => simp [finish, read, Fits, ReadsRecords]
  | some signal =>
    cases signal with
    | metrics =>
      simp only [finish, read]
      rw [withStep_eq_completed shape (.inl read)]
      simp [Fits, read, eq_comm]
    | logs =>
      simp only [finish, read]
      exact finishRecords_eq_ok_iff (.inl read)
    | traces =>
      simp only [finish, read]
      exact finishRecords_eq_ok_iff (.inr read)
    | other name => simp [finish, read, Fits, ReadsRecords]

end Leg

namespace Entry

/-- A leg is completed, a foreign entry stays as it is. -/
def completed (shape : Shape) : Entry → Entry
  | leg l => .leg (l.completed shape)
  | foreign kind body => .foreign kind body

@[simp] theorem leg?_completed (shape : Shape) (e : Entry) :
    (e.completed shape).leg? = e.leg?.map (Leg.completed shape) := by
  cases e <;> rfl

theorem completed_completed (shape : Shape) (e : Entry) :
    (e.completed shape).completed shape = e.completed shape := by
  cases e with
  | leg l => simp [completed, Leg.completed_completed]
  | foreign kind body => rfl

theorem finish_eq_ok_iff {shape : Shape} {index : Nat} {e finished : Entry} :
    e.finish shape index = .ok finished ↔
      (∀ l ∈ e.leg?, l.Fits shape) ∧ finished = e.completed shape := by
  cases e with
  | leg l =>
    cases result : l.finish shape with
    | error cause =>
      have unfit : ¬ l.Fits shape := fun fits => by
        simp [Leg.finish_eq_ok_iff.2 ⟨fits, rfl⟩] at result
      simp [finish, result, Except.map, leg?, unfit]
    | ok done =>
      obtain ⟨fits, rfl⟩ := Leg.finish_eq_ok_iff.1 result
      simp [finish, result, Except.map, leg?, fits, completed, eq_comm]
  | foreign kind body => simp [finish, leg?, completed, eq_comm]

/-- The entries pass where each leg among them fits, at whatever position the list starts. -/
theorem finishFrom_eq_ok_iff {shape : Shape} {index : Nat} {es finished : List Entry} :
    finishFrom shape index es = .ok finished ↔
      (∀ l ∈ es.filterMap leg?, l.Fits shape) ∧ finished = es.map (completed shape) := by
  induction es generalizing index finished with
  | nil => simp [finishFrom, eq_comm]
  | cons e rest ih =>
    simp only [finishFrom, bind_eq_ok, pure_eq_ok, finish_eq_ok_iff, ih]
    constructor
    · rintro ⟨_, ⟨first, rfl⟩, _, ⟨others, rfl⟩, rfl⟩
      refine ⟨?_, rfl⟩
      intro l among
      obtain ⟨found, member, read⟩ := List.mem_filterMap.1 among
      rcases List.mem_cons.1 member with rfl | later
      · exact first l read
      · exact others l (List.mem_filterMap.2 ⟨found, later, read⟩)
    · rintro ⟨fits, rfl⟩
      refine ⟨_, ⟨fun l read => fits l ?_, rfl⟩, _, ⟨fun l among => fits l ?_, rfl⟩, rfl⟩
      · exact List.mem_filterMap.2 ⟨e, by simp, read⟩
      · obtain ⟨found, member, read⟩ := List.mem_filterMap.1 among
        exact List.mem_filterMap.2 ⟨found, by simp [member], read⟩

end Entry

namespace Query

/-- The shape in which a query is answered: a series as soon as one leg reads a metric. -/
def answeredAs (q : Query) : Shape :=
  if ∃ l ∈ q.legs, l.signal = some .metrics then .timeSeries else q.shape.getD .raw

theorem finalShape_eq (q : Query) : q.finalShape = q.answeredAs := by
  simp [finalShape, answeredAs, readsMetrics]

/-- Whether a query can be sent once what is missing has been filled in. -/
structure Finishable (q : Query) : Prop where
  start_ne : q.start ≠ 0
  stop_ne : q.stop ≠ 0
  entries_ne : q.entries ≠ []
  legs_fit : ∀ l ∈ q.legs, l.Fits q.answeredAs

/-- The query with what is missing filled in. -/
def completed (q : Query) : Query :=
  { q with
    version := if Text.isBlank q.version then "v1" else q.version
    shape := some q.answeredAs
    entries := q.entries.map (Entry.completed q.answeredAs) }

theorem finish_eq_ok_iff {q r : Query} : q.finish = .ok r ↔ q.Finishable ∧ r = q.completed := by
  rw [finish, finalShape_eq, finalVersion]
  by_cases bounds : q.start = 0 ∨ q.stop = 0
  · have unbounded : ¬ q.Finishable := fun h => bounds.elim h.start_ne h.stop_ne
    simp [bounds, unbounded]
  · by_cases empty : q.entries = []
    · have nothing : ¬ q.Finishable := fun h => h.entries_ne empty
      simp [bounds, empty, nothing]
    · rw [if_neg bounds, if_neg empty, map_eq_ok]
      simp only [Entry.finishFrom_eq_ok_iff]
      constructor
      · rintro ⟨_, ⟨fits, rfl⟩, rfl⟩
        exact ⟨⟨fun h => bounds (.inl h), fun h => bounds (.inr h), empty, fits⟩, rfl⟩
      · rintro ⟨h, rfl⟩
        exact ⟨_, ⟨h.legs_fit, rfl⟩, rfl⟩

theorem legs_completed (q : Query) :
    q.completed.legs = q.legs.map (Leg.completed q.answeredAs) := by
  simp only [legs, completed, List.filterMap_map, List.map_filterMap]
  exact List.filterMap_congr fun e _ => Entry.leg?_completed _ e

@[simp] theorem answeredAs_completed (q : Query) : q.completed.answeredAs = q.answeredAs := by
  have same : (∃ l ∈ q.completed.legs, l.signal = some .metrics) ↔
      ∃ l ∈ q.legs, l.signal = some .metrics := by
    simp [legs_completed]
  by_cases reads : ∃ l ∈ q.legs, l.signal = some .metrics
  · simp only [answeredAs, if_pos reads, if_pos (same.2 reads)]
  · rw [answeredAs, if_neg fun h => reads (same.1 h)]
    simp [completed]

theorem Finishable.completed {q : Query} (h : q.Finishable) : q.completed.Finishable where
  start_ne := h.start_ne
  stop_ne := h.stop_ne
  entries_ne := by simpa [Query.completed] using h.entries_ne
  legs_fit := by
    intro l among
    rw [legs_completed] at among
    obtain ⟨given, member, rfl⟩ := List.mem_map.1 among
    rw [answeredAs_completed, Leg.fits_completed]
    exact h.legs_fit given member

theorem completed_completed (q : Query) : q.completed.completed = q.completed := by
  have version : (if Text.isBlank q.completed.version then "v1" else q.completed.version) =
      q.completed.version := by
    by_cases blank : Text.isBlank q.version
    · simp [completed, blank]
    · simp [completed, blank]
  have entries : q.completed.entries.map (Entry.completed q.answeredAs) = q.completed.entries := by
    simp [completed, Entry.completed_completed, Function.comp_def]
  rw [completed, answeredAs_completed, version, entries]
  rfl

/-- A finished query is finished once and for all. -/
theorem Finishable.finish_completed {q : Query} (h : q.Finishable) :
    q.completed.finish = .ok q.completed :=
  finish_eq_ok_iff.2 ⟨h.completed, (completed_completed q).symm⟩

/-- Finishing accepts a query exactly when it has bounds and entries and all its legs fit the shape
that they settle together. It then writes that shape, a version and the steps, and leaves all else
as it is, entry by entry. -/
theorem finish_succeeds_iff (q r : Query) :
    q.finish = .ok r ↔
      (q.start ≠ 0 ∧ q.stop ≠ 0 ∧ q.entries ≠ [] ∧ ∀ l ∈ q.legs, l.Fits q.answeredAs) ∧
      r = { q with
        version := if Text.isBlank q.version then "v1" else q.version
        shape := some q.answeredAs
        entries := q.entries.map (Entry.completed q.answeredAs) } := by
  constructor
  · intro done
    obtain ⟨h, completes⟩ := finish_eq_ok_iff.1 done
    exact ⟨⟨h.start_ne, h.stop_ne, h.entries_ne, h.legs_fit⟩, completes⟩
  · rintro ⟨⟨start, stop, entries, fits⟩, completes⟩
    exact finish_eq_ok_iff.2 ⟨⟨start, stop, entries, fits⟩, completes⟩

/-- What was finished is finished again without a refusal and without a change: the shape that one
leg has brought in is the one that all legs are held against the second time. -/
theorem finish_idempotent (q r : Query) (done : q.finish = .ok r) : r.finish = .ok r := by
  obtain ⟨finishable, rfl⟩ := finish_eq_ok_iff.1 done
  exact finishable.finish_completed

/-- An unknown shape that gives way to a metric, next to a leg over logs without a step, one over
traces with a step that counts for nothing, and a foreign entry. -/
def crowded : Query :=
  { empty with
    version := " "
    start := 1
    stop := 2
    shape := some (.other "heatmap")
    entries :=
      [.leg { Leg.empty with signal := some .logs, reductions := [.ofExpression "count()"] },
        .foreign "builder_formula" (.str "A / B"),
        .leg { Leg.empty with
          signal := some .traces, step := some (-5), reductions := [.ofExpression "p99(d)"] },
        .leg { Leg.empty with signal := some .metrics, step := some 30 }] }

theorem crowded_finished_once :
    ∃ r, crowded.finish = .ok r ∧ r ≠ crowded ∧ r.shape = some .timeSeries ∧
      r.legs.map Leg.step = [some 60, some 60, some 30] ∧ r.finish = .ok r :=
  ⟨_, rfl, by decide, rfl, rfl, finish_idempotent crowded _ rfl⟩

end Query

end TelemetryGateway
