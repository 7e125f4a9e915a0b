import TelemetryGateway.Proofs.Query.Building

set_option autoImplicit false

/-!
# The leg that is blamed

A query that has bounds and entries is refused for one leg alone, the first one that breaks the rule
of its signal. Of what stands behind that leg only a metric can matter, because it changes the shape
that all legs are held against.
-/

namespace TelemetryGateway

namespace Leg

/-- What a leg is called that is the `position`-th entry of a query, foreign entries counted. -/
inductive Called (position : Nat) (leg : Leg) : String → Prop
  | byName {name : String} : leg.name = some name → Text.isBlank name = false →
      Called position leg name
  | byPosition : (∀ name, leg.name = some name → Text.isBlank name = true) →
      Called position leg ("query at position " ++ Text.naturalText position)

/-- Why a leg breaks the rule of its signal in a shape, in the words of the refusal. -/
inductive Breaks (shape : Shape) (leg : Leg) : String → Prop
  | unreduced {signal : Signal} : leg.signal = some signal → signal.HasRecords →
      shape = .scalar ∨ shape = .timeSeries → leg.reductions = [] →
      Breaks shape leg ("missing aggregations for " ++ shape.text ++ " " ++ signal.text ++ " query")
  | unsupported {signal : Signal} : leg.signal = some signal → signal.HasRecords →
      shape ≠ .raw → shape ≠ .scalar → shape ≠ .timeSeries →
      Breaks shape leg ("unsupported requestType '" ++ shape.text ++ "' for " ++ signal.text)
  | unknown {name : String} : leg.signal = some (.other name) →
      Breaks shape leg ("unknown signal type '" ++ name ++ "'")
  | unsaid : leg.signal = none → Breaks shape leg "unknown signal type ''"

variable {shape : Shape} {leg : Leg}

theorem called_title (leg : Leg) (index : Nat) : leg.Called (index + 1) (leg.title index) := by
  unfold title
  split
  · next name chosen =>
    rcases Option.filter_eq_some_iff.1 chosen with ⟨named, filled⟩
    exact .byName named (by simpa using filled)
  · next unnamed =>
    apply Called.byPosition
    intro name named
    simpa using Option.filter_eq_none_iff.1 unnamed name named

theorem breaks_of_finishRecords {signal : Signal} {cause : LegFault}
    (read : leg.signal = some signal) (records : signal.HasRecords)
    (refused : leg.finishRecords shape signal = .error cause) : leg.Breaks shape cause.message := by
  cases shape with
  | raw => simp [finishRecords] at refused
  | scalar =>
    simp only [finishRecords] at refused
    split at refused
    · next none =>
      cases refused
      exact .unreduced read records (.inl rfl) none
    · simp at refused
  | timeSeries =>
    simp only [finishRecords] at refused
    split at refused
    · next none =>
      cases refused
      exact .unreduced read records (.inr rfl) none
    · simp at refused
  | trace =>
    cases refused
    exact .unsupported read records (by simp) (by simp) (by simp)
  | other name =>
    cases refused
    exact .unsupported read records (by simp) (by simp) (by simp)

theorem breaks_of_finish {cause : LegFault} (refused : leg.finish shape = .error cause) :
    leg.Breaks shape cause.message := by
  unfold finish at refused
  split at refused
  · simp at refused
  · next read => exact breaks_of_finishRecords read (.inl rfl) refused
  · next read => exact breaks_of_finishRecords read (.inr rfl) refused
  · next name read =>
    cases refused
    exact .unknown read
  · next read =>
    cases refused
    exact .unsaid read

theorem Breaks.not_fits {reason : String} (breaks : leg.Breaks shape reason) : ¬ leg.Fits shape := by
  cases breaks with
  | unreduced read records reduced none =>
    rcases records with rfl | rfl <;> rcases reduced with rfl | rfl <;>
      simp [Fits, ReadsRecords, read, none]
  | unsupported read records raw scalar series =>
    rcases records with rfl | rfl <;> simp [Fits, ReadsRecords, read, raw, scalar, series]
  | unknown read => simp [Fits, ReadsRecords, read]
  | unsaid read => simp [Fits, ReadsRecords, read]

end Leg

namespace Entry

variable {shape : Shape} {index : Nat}

theorem finish_eq_error {e : Entry} {f : QueryFault} (refused : e.finish shape index = .error f) :
    ∃ l cause, e = .leg l ∧ l.finish shape = .error cause ∧ f = .leg (l.title index) cause := by
  cases e with
  | foreign kind body => simp [finish] at refused
  | leg l =>
    cases outcome : l.finish shape with
    | ok done => simp [finish, outcome, Except.map] at refused
    | error cause =>
      simp only [finish, outcome, Except.map, mapError_error, Except.error.injEq] at refused
      exact ⟨l, cause, rfl, outcome, refused.symm⟩

/-- A leg that is refused behind legs that fit is blamed, whatever comes after it. -/
theorem finishFrom_blames {before : List Entry} {l : Leg} {cause : LegFault}
    (fits : ∀ m ∈ before.filterMap leg?, m.Fits shape) (refused : l.finish shape = .error cause)
    (after : List Entry) :
    finishFrom shape index (before ++ .leg l :: after) =
      .error (.leg (l.title (index + before.length)) cause) := by
  induction before generalizing index with
  | nil =>
    have first : (Entry.leg l).finish shape index = .error (.leg (l.title index) cause) := by
      simp [finish, refused, Except.map]
    rw [List.nil_append, finishFrom, first]
    rfl
  | cons e before ih =>
    have first : e.finish shape index = .ok (e.completed shape) := by
      apply finish_eq_ok_iff.2
      refine ⟨?_, rfl⟩
      intro m read
      exact fits m (List.mem_filterMap.2 ⟨e, by simp, read⟩)
    have others : ∀ m ∈ before.filterMap leg?, m.Fits shape := by
      intro m among
      rcases List.mem_filterMap.1 among with ⟨found, member, read⟩
      exact fits m (List.mem_filterMap.2 ⟨found, by simp [member], read⟩)
    have later : finishFrom shape (index + 1) (before ++ .leg l :: after) =
        .error (.leg (l.title (index + 1 + before.length)) cause) := ih others
    rw [List.cons_append, finishFrom, first, ok_bind, later, List.length_cons,
      show index + 1 + before.length = index + (before.length + 1) by omega]
    rfl

/-- The leg of a refusal is the first one that is refused. -/
theorem exists_blamed {es : List Entry} {f : QueryFault} (refused : finishFrom shape index es = .error f) :
    ∃ before l after cause, es = before ++ .leg l :: after ∧
      (∀ m ∈ before.filterMap leg?, m.Fits shape) ∧
      l.finish shape = .error cause ∧ f = .leg (l.title (index + before.length)) cause := by
  induction es generalizing index with
  | nil => simp [finishFrom] at refused
  | cons e rest ih =>
    rw [finishFrom] at refused
    rcases bind_eq_error.1 refused with here | ⟨done, passed, behind⟩
    · rcases finish_eq_error here with ⟨l, cause, rfl, unfit, rfl⟩
      exact ⟨[], l, rest, cause, by simp, by simp, unfit, by simp⟩
    · rcases bind_eq_error.1 behind with later | ⟨others, -, finished⟩
      · rcases ih later with ⟨before, l, after, cause, rfl, fits, unfit, rfl⟩
        refine ⟨e :: before, l, after, cause, by simp, ?_, unfit, ?_⟩
        · intro m among
          rcases List.mem_filterMap.1 among with ⟨found, member, read⟩
          rcases List.mem_cons.1 member with rfl | member
          · exact (finish_eq_ok_iff.1 passed).1 m read
          · exact fits m (List.mem_filterMap.2 ⟨found, member, read⟩)
        · rw [List.length_cons, show index + (before.length + 1) = index + 1 + before.length by omega]
      · simp [pure, Except.pure] at finished

end Entry

namespace Query

variable {q : Query}

theorem answeredAs_congr {es : List Entry}
    (same : (∃ l ∈ ({ q with entries := es } : Query).legs, l.signal = some .metrics) ↔
      ∃ l ∈ q.legs, l.signal = some .metrics) :
    ({ q with entries := es } : Query).answeredAs = q.answeredAs := by
  simp only [answeredAs, same]

/-- Where there are bounds and entries, the entries alone decide over a refusal. -/
theorem finished_eq_error_iff (start : q.start ≠ 0) (stop : q.stop ≠ 0) (filled : q.entries ≠ [])
    {f : Fault} :
    q.finished = .error f ↔
      ∃ cause, Entry.finishFrom q.answeredAs 0 q.entries = .error cause ∧ f = .query cause := by
  have bounded : ¬ (q.start = 0 ∨ q.stop = 0) := not_or.2 ⟨start, stop⟩
  rw [finished, finish, if_neg bounded, if_neg filled, finalShape_eq]
  cases Entry.finishFrom q.answeredAs 0 q.entries with
  | ok entries => simp [Except.map]
  | error cause => simp [Except.map, eq_comm]

/-- A query that has bounds and entries is refused for its first leg that breaks the rule of its
signal in the shape that all legs settle together. The refusal calls this leg by its name, or where
it has none by its place among all entries, and gives the reason. It stays the same whatever entries
follow that leg, as long as they leave it open or not, as before, whether a metric is read. -/
theorem refusal_blames_first_breach (q : Query) (start : q.start ≠ 0) (stop : q.stop ≠ 0)
    (filled : q.entries ≠ []) (f : Fault) (refused : q.finished = .error f) :
    ∃ before leg after called reason,
      q.entries = before ++ .leg leg :: after ∧
      (∀ l ∈ before.filterMap Entry.leg?, ∀ r, ¬ l.Breaks q.answeredAs r) ∧
      leg.Breaks q.answeredAs reason ∧ leg.Called (before.length + 1) called ∧
      (∃ cause, f = .query cause) ∧ f.message = called ++ ": " ++ reason ∧
      ∀ others : List Entry,
        let changed : Query := { q with entries := before ++ .leg leg :: others }
        ((∃ l ∈ changed.legs, l.signal = some .metrics) ↔
            ∃ l ∈ q.legs, l.signal = some .metrics) →
          changed.finished = .error f := by
  rcases (finished_eq_error_iff start stop filled).1 refused with ⟨cause, first, rfl⟩
  rcases Entry.exists_blamed first with ⟨before, leg, after, why, split, fits, unfit, rfl⟩
  refine ⟨before, leg, after, leg.title before.length, why.message, split, ?_,
    Leg.breaks_of_finish unfit, leg.called_title before.length, ⟨_, rfl⟩, ?_, ?_⟩
  · intro l among r breaks
    exact breaks.not_fits (fits l among)
  · rw [Nat.zero_add]
    rfl
  · intro others changed same
    apply (finished_eq_error_iff (q := changed) start stop (by simp [changed])).2
    refine ⟨_, ?_, rfl⟩
    rw [answeredAs_congr same]
    exact Entry.finishFrom_blames fits unfit others

/-- A list of records by its shape, which a metric at the end turns into a series. Before it stand a
foreign entry, a leg that is reduced, and one with a blank name that is not. -/
def lateMetric : Query :=
  { empty with
    start := 1
    stop := 2
    shape := some .raw
    entries :=
      [.foreign "promql" (.str "up"),
        .leg { Leg.named "errors" .logs with reductions := [.ofExpression "count()"] },
        .leg (Leg.named "  " .traces), .leg (Leg.named "cpu" .metrics)] }

theorem lateMetric_blames_third :
    ∃ f, lateMetric.start ≠ 0 ∧ lateMetric.stop ≠ 0 ∧ lateMetric.entries ≠ [] ∧
      lateMetric.finished = .error f ∧
      f.message = "query at position 3: missing aggregations for time_series traces query" ∧
      ∃ before leg after called reason, lateMetric.entries = before ++ .leg leg :: after ∧
        leg.Breaks .timeSeries reason ∧ leg.Called (before.length + 1) called ∧
        f.message = called ++ ": " ++ reason := by
  have start : lateMetric.start ≠ 0 := by decide
  have stop : lateMetric.stop ≠ 0 := by decide
  have filled : lateMetric.entries ≠ [] := by simp [lateMetric]
  have refused : lateMetric.finished =
      .error (.query (.leg "query at position 3" (.noReductions .timeSeries .traces))) := by rfl
  rcases refusal_blames_first_breach lateMetric start stop filled _ refused with
    ⟨before, leg, after, called, reason, split, -, breaks, named, -, message, -⟩
  exact ⟨_, start, stop, filled, refused, by rfl, before, leg, after, called, reason, split, breaks,
    named, message⟩

end Query

end TelemetryGateway
