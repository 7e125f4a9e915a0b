import TelemetryGateway.Proofs.Query.Finishing
import TelemetryGateway.Proofs.Summary.Compiling

set_option autoImplicit false

/-!
# Finishing what is built

The tools build queries whose legs fit their shape, so nothing can be missing but a bound of the
window. Over records a built query has all that the backend needs, and over a metric it lacks at
most the step.
-/

namespace TelemetryGateway

/-- Whether records can be searched by a signal. -/
def Signal.HasRecords (s : Signal) : Prop := s = .logs ∨ s = .traces

theorem Leg.readsRecords_of_signal {signal : Signal} (records : signal.HasRecords) {leg : Leg}
    (read : leg.signal = some signal) : leg.ReadsRecords := by
  rcases records with rfl | rfl
  · exact .inl read
  · exact .inr read

/-- Whether a leg can be sent in a shape as it is. -/
structure Leg.Flat (shape : Shape) (leg : Leg) : Prop where
  records : leg.ReadsRecords
  stepless : leg.step = none
  single : shape ≠ .timeSeries

theorem Leg.Flat.not_metrics {shape : Shape} {leg : Leg} (flat : leg.Flat shape) :
    leg.signal ≠ some .metrics := by
  rcases flat.records with read | read <;> simp [read]

theorem Leg.Flat.completed {shape : Shape} {leg : Leg} (flat : leg.Flat shape) :
    leg.completed shape = leg := by
  have step : leg.finalStep shape = leg.step := by
    rw [finalStep, if_neg (by simp [flat.not_metrics, flat.single]), flat.stepless]
  rw [Leg.completed, step]

/-- A query over a window, refused where the window lacks a bound. -/
def Window.accept (w : Window) (q : Query) : Except Fault Query :=
  if w.start = 0 ∨ w.stop = 0 then .error (.query .noBounds) else .ok q

theorem Window.accept_eq_ok_iff {w : Window} {q r : Query} :
    w.accept q = .ok r ↔ (w.start ≠ 0 ∧ w.stop ≠ 0) ∧ q = r := by
  rw [accept, ← not_or]
  by_cases unbounded : w.start = 0 ∨ w.stop = 0 <;> simp [unbounded]

namespace Query

variable {w : Window} {shape : Shape} {legs : List Leg}

/-! ### Legs over a window -/

theorem legs_ofLegs : (ofLegs w shape legs).legs = legs := by
  simp [Query.legs, ofLegs, List.filterMap_map, Function.comp_def, Entry.leg?]

/-- A query that reads a metric is built as a series, so its shape stays. -/
theorem answeredAs_ofLegs (series : ∀ l ∈ legs, l.signal = some .metrics → shape = .timeSeries) :
    (ofLegs w shape legs).answeredAs = shape := by
  rw [answeredAs, legs_ofLegs]
  split
  · rename_i reads
    obtain ⟨l, among, metrics⟩ := reads
    exact (series l among metrics).symm
  · rfl

theorem completed_ofLegs (series : ∀ l ∈ legs, l.signal = some .metrics → shape = .timeSeries) :
    (ofLegs w shape legs).completed = ofLegs w shape (legs.map (Leg.completed shape)) := by
  have entries : (ofLegs w shape legs).entries.map (Entry.completed shape) =
      (legs.map (Leg.completed shape)).map .leg := by
    simp only [ofLegs, List.map_map]
    rfl
  have version : (if Text.isBlank (ofLegs w shape legs).version then "v1"
      else (ofLegs w shape legs).version) = currentVersion := by
    change (if Text.isBlank currentVersion then "v1" else currentVersion) = currentVersion
    decide
  rw [completed, answeredAs_ofLegs series, entries, version]
  rfl

theorem finished_of_unbounded {q : Query} (unbounded : q.start = 0 ∨ q.stop = 0) :
    q.finished = .error (.query .noBounds) := by
  rw [finished, finish, if_pos unbounded]
  rfl

/-- Legs that fit the shape are refused for the window alone. -/
theorem finished_ofLegs (given : legs ≠ [])
    (series : ∀ l ∈ legs, l.signal = some .metrics → shape = .timeSeries)
    (fits : ∀ l ∈ legs, l.Fits shape) :
    (ofLegs w shape legs).finished =
      w.accept (ofLegs w shape (legs.map (Leg.completed shape))) := by
  by_cases unbounded : w.start = 0 ∨ w.stop = 0
  · rw [Window.accept, if_pos unbounded]
    exact finished_of_unbounded unbounded
  · have finishable : (ofLegs w shape legs).Finishable := {
      start_ne := fun zero => unbounded (.inl zero)
      stop_ne := fun zero => unbounded (.inr zero)
      entries_ne := by simpa [ofLegs] using given
      legs_fit := by rwa [legs_ofLegs, answeredAs_ofLegs series] }
    rw [Window.accept, if_neg unbounded, ← completed_ofLegs series]
    exact mapError_eq_ok.2 (finish_eq_ok_iff.2 ⟨finishable, rfl⟩)

theorem finished_ofLegs_of_flat (given : legs ≠ []) (flat : ∀ l ∈ legs, l.Flat shape)
    (fits : ∀ l ∈ legs, l.Fits shape) :
    (ofLegs w shape legs).finished = w.accept (ofLegs w shape legs) := by
  have same : legs.map (Leg.completed shape) = legs :=
    (List.map_congr_left fun l among => (flat l among).completed).trans (List.map_id _)
  have series : ∀ l ∈ legs, l.signal = some .metrics → shape = .timeSeries :=
    fun l among metrics => absurd metrics (flat l among).not_metrics
  rw [finished_ofLegs given series fits, same]

/-! ### The queries of the tools -/

theorem finished_newestFirst {signal : Signal} (records : signal.HasRecords) (w : Window)
    (filter : Option String) (limit offset : Nat) :
    (newestFirst signal w filter limit offset).finished =
      w.accept (newestFirst signal w filter limit offset) := by
  apply finished_ofLegs_of_flat (List.cons_ne_nil _ _)
  · rw [List.forall_mem_singleton]
    exact ⟨Leg.readsRecords_of_signal records rfl, rfl, by decide⟩
  · rw [List.forall_mem_singleton]
    exact .inr (.inl ⟨Leg.readsRecords_of_signal records rfl, rfl⟩)

theorem finished_oldestFirst {signal : Signal} (records : signal.HasRecords) (w : Window)
    (filter : Option String) (limit : Nat) :
    (oldestFirst signal w filter limit).finished = w.accept (oldestFirst signal w filter limit) := by
  apply finished_ofLegs_of_flat (List.cons_ne_nil _ _)
  · rw [List.forall_mem_singleton]
    exact ⟨Leg.readsRecords_of_signal records rfl, rfl, by decide⟩
  · rw [List.forall_mem_singleton]
    exact .inr (.inl ⟨Leg.readsRecords_of_signal records rfl, rfl⟩)

/-- The choice with its step, or with sixty seconds where the step is missing or not positive. -/
def MetricChoice.stepped (choice : MetricChoice) : MetricChoice :=
  { choice with step := if ∃ step ∈ choice.step, 0 < step then choice.step else some 60 }

theorem finished_ofMetric (w : Window) (choice : MetricChoice) :
    (ofMetric w choice).finished = w.accept (ofMetric w choice.stepped) := by
  have series : ∀ leg : Leg, leg.signal = some .metrics →
      leg.finalStep .timeSeries = if ∃ step ∈ leg.step, 0 < step then leg.step else some 60 := by
    intro leg metrics
    rw [Leg.finalStep, if_pos (.inl metrics)]
    cases leg.step <;> simp
  rw [ofMetric, finished_ofLegs (List.cons_ne_nil _ _) (fun _ _ _ => rfl)
    (List.forall_mem_singleton.2 (.inl rfl)), List.map_singleton, Leg.completed, series _ rfl]
  rfl

end Query

theorem Summary.finished_query {s : Summary} (records : s.signal.HasRecords) :
    s.query.finished = s.window.accept s.query := by
  apply Query.finished_ofLegs_of_flat (List.cons_ne_nil _ _)
  · rw [List.forall_mem_singleton]
    exact ⟨Leg.readsRecords_of_signal records rfl, rfl, by decide⟩
  · rw [List.forall_mem_singleton]
    exact .inr (.inr ⟨Leg.readsRecords_of_signal records rfl, .inl rfl, List.cons_ne_nil _ _⟩)

/-! ### Windows with a bound of zero -/

theorem WindowChoice.bound_integerText {n : Int} (fits : Text.FitsInt64 n) (name : String)
    (u : Time.TimeUnit) : bound name u (Text.integerText n) = .ok n := by
  rw [bound, Text.trim_integerText, Text.int64?_integerText fits]

/-- The choice of a window by its bounds. -/
def Window.written (w : Window) : WindowChoice :=
  ⟨none, some (Text.integerText w.start), some (Text.integerText w.stop)⟩

/-- Bounds in order are taken as they are written, zero among them. -/
theorem WindowChoice.resolve_written {w : Window} (fits : w.Fits) (ordered : w.start ≤ w.stop)
    (default : Time.Span) (now : Time.Instant) :
    w.written.resolve .milliseconds default now = .ok w := by
  have present : Time.TimeUnit.milliseconds.instant now = .ok (now / Time.TimeUnit.milliseconds.size) := by
    rw [Time.TimeUnit.instant, if_pos (.inl rfl)]
  have stop (now : Int) : w.written.givenStop .milliseconds now = .ok w.stop := by
    rw [givenStop, Window.written, Text.filled_integerText]
    exact bound_integerText fits.stop _ _
  have start : w.written.givenStart .milliseconds default w.stop = .ok w.start := by
    rw [givenStart, Window.written, Text.filled_integerText]
    exact bound_integerText fits.start _ _
  rw [resolve, present, ok_bind, resolveFrom_of_bounds rfl, stop, ok_bind, start, ok_bind, if_pos ordered]
  rfl

namespace Query

/-- Finishing accepts what the tools build over any window that has both bounds: a search and a
summary as they are, and a series with a positive step. Over a window with a bound of zero, which can
be asked for like any other, it refuses all three. -/
theorem finished_built :
    (∀ signal : Signal, signal.HasRecords → ∀ w filter limit offset,
      (newestFirst signal w filter limit offset).finished =
        w.accept (newestFirst signal w filter limit offset)) ∧
    (∀ a signal preset now s, signal.HasRecords → Summary.compile a signal preset now = .ok s →
      s.query.finished = s.window.accept s.query) ∧
    (∀ w choice, (ofMetric w choice).finished = w.accept (ofMetric w choice.stepped)) ∧
    ∀ w : Window, w.Fits → w.start ≤ w.stop → ∀ default now,
      w.written.resolve .milliseconds default now = .ok w := by
  refine ⟨?searched, ?summarized, finished_ofMetric, ?written⟩
  case searched =>
    intro signal records w filter limit offset
    exact finished_newestFirst records w filter limit offset
  case summarized =>
    intro a signal preset now s records compiled
    refine Summary.finished_query ?_
    rwa [(Summary.compile_eq_ok_iff.1 compiled).signal_eq]
  case written =>
    intro w fits ordered default now
    exact WindowChoice.resolve_written fits ordered default now

/-- A search, a summary and a series with a negative step, over two milliseconds that can be sent and
from the epoch on. -/
theorem finished_built_from_epoch :
    let later : Window := ⟨1, 2⟩
    let epoch : Window := ⟨0, 2⟩
    let spans : SummaryChoice :=
      { SummaryChoice.empty with verb := some "count", window := later.written }
    let count : Summary :=
      ⟨.traces, "count", none, "count()", none, [], ⟨"count()", .desc⟩, 10, later⟩
    let series (step : Int) : MetricChoice := ⟨"up", "latest", "sum", [], none, some step⟩
    (newestFirst .logs later none 100 0).finished = .ok (newestFirst .logs later none 100 0) ∧
      Summary.compile spans .traces none 0 = .ok count ∧ count.query.finished = .ok count.query ∧
      (ofMetric later (series (-5))).finished = .ok (ofMetric later (series 60)) ∧
      epoch.written.resolve .milliseconds 0 0 = .ok epoch ∧
      (newestFirst .logs epoch none 100 0).finished = .error (.query .noBounds) := by
  intro later epoch spans count series
  obtain ⟨searched, summarized, measured, written⟩ := finished_built
  have compiled : Summary.compile spans .traces none 0 = .ok count := by decide +kernel
  refine ⟨?_, compiled, ?_, ?_, ?_, ?_⟩
  · exact searched .logs (.inl rfl) later none 100 0
  · exact summarized spans .traces none 0 count (.inr rfl) compiled
  · exact measured later (series (-5))
  · exact written epoch ⟨by decide, by decide⟩ (by decide) 0 0
  · exact searched .logs (.inl rfl) epoch none 100 0

end Query

end TelemetryGateway
