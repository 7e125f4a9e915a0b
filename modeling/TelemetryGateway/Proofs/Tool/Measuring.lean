import TelemetryGateway.Proofs.Tool.Reporting
import TelemetryGateway.Proofs.Tool.Tracing

set_option autoImplicit false

/-!
# What series and traces report

The answer to a call that measures a metric repeats what was asked for: how the metric is reduced, and
the window. Both are settled once, before the query and the answer are written. The name of the metric
is not: it is sent without the white space about it, and answered with it. The id of a trace is
answered as it is written in the filter.
-/

namespace TelemetryGateway

open Backend (Client Inquiry)

/-- Whether a body asks for what one leg says, and for nothing else. -/
def AsksBy (body leg : Json) : Prop :=
  body.path? ["compositeQuery", "queries"] =
    some (.arr [.obj [("spec", leg), ("type", .str "builder_query")]])

/-- Whether an answer tells how a metric is reduced, and its name as it was given. -/
structure ReductionReported (given : String) (answer reduction : Json) : Prop where
  overTime : ∃ s, answer.get? "timeAggregation" = some (.str s) ∧
    reduction.get? "timeAggregation" = some (.str s)
  overSpace : ∃ s, answer.get? "spaceAggregation" = some (.str s) ∧
    reduction.get? "spaceAggregation" = some (.str s)
  named : answer.get? "metricName" = some (.str given)
  sent : reduction.get? "metricName" = some (.str (Text.trim given))

/-- The name that is answered is the one that is sent only if there is nothing to trim. -/
theorem ReductionReported.same_name_iff {given : String} {answer reduction : Json}
    (reported : ReductionReported given answer reduction) :
    answer.get? "metricName" = reduction.get? "metricName" ↔ Text.trim given = given := by
  rw [reported.named, reported.sent, Option.some.injEq, Json.str.injEq]
  exact eq_comm

/-- Whether an answer tells of the series that a body asks for, by one reduction of one metric. -/
structure SeriesReported (given : String) (answer body : Json) : Prop where
  reduction : ∃ leg reduction, AsksBy body leg ∧
    leg.get? "aggregations" = some (.arr [reduction]) ∧ ReductionReported given answer reduction ∧
    (answer.get? "metricName" = reduction.get? "metricName" ↔ Text.trim given = given)
  window : ∃ start stop,
    answer.get? "window" = some (.obj [("end", .int stop), ("start", .int start)]) ∧
    body.get? "start" = some (.int start) ∧ body.get? "end" = some (.int stop)

/-- Whether an answer tells of the trace whose id a body compares with. -/
def TraceReported (answer body : Json) : Prop :=
  ∃ leg expression id, AsksBy body leg ∧
    leg.get? "filter" = some (.obj [("expression", .str expression)]) ∧
    Tool.traceAsked? expression = some id ∧ answer.get? "traceId" = some (.str id)

/-! ### Queries for a metric -/

namespace Query

/-- The leg that asks for a metric. -/
def MetricChoice.leg (choice : MetricChoice) : Leg :=
  { Leg.named "A" .metrics with
    filter := choice.filter
    reductions := [{ Reduction.empty with
      metric := some choice.metric
      overTime := some choice.overTime
      overSpace := some choice.overSpace }]
    groups := choice.groups.map FieldRef.named
    step := choice.step }

theorem asksBy_ofMetric (w : Window) (choice : MetricChoice) :
    AsksBy (ofMetric w choice).encode choice.leg.encode := rfl

theorem MetricChoice.get?_leg (choice : MetricChoice) (key : String) :
    choice.leg.encode.get? key = choice.leg.written? key :=
  Leg.get?_encode_of_plain rfl key

end Query

namespace Tool

variable {limits : PageLimits} {now : Time.Instant} {params : Json} {p : Plan}

/-! ### Plans -/

/-- What is planned for a metric that is asked for by a name. -/
def seriesPlan (given : String) (w : Window) (choice : Query.MetricChoice) : Plan where
  inquiry := .records (.ofMetric w choice)
  answer := fun reply =>
    .obj [("metricName", .str given), ("result", reply), ("spaceAggregation", .str choice.overSpace),
      ("timeAggregation", .str choice.overTime), ("window", w.encode)]

theorem need_eq_ok {α : Type} {value : Option α} {name sample : String} {a : α} :
    need value name sample = .ok a ↔ value = some a := by
  cases value with
  | none => simp [need]
  | some b => simp [need]

/-- What a call for a metric is planned as: of its arguments only the name is written in two ways. -/
theorem series_of_planned (planned : planMetrics now params = .ok p) :
    ∃ a given w choice, arguments MetricsChoice.decode params = .ok a ∧ a.metric = some given ∧
      choice.metric = Text.trim given ∧ choice.groups = Summary.parseGroups a.groups ∧
      p = seriesPlan given w choice := by
  rcases bind_eq_ok.1 planned with ⟨a, read, planned⟩
  rcases bind_eq_ok.1 planned with ⟨given, named, planned⟩
  rcases bind_eq_ok.1 planned with ⟨-, -, planned⟩
  rcases bind_eq_ok.1 planned with ⟨w, -, planned⟩
  rcases bind_eq_ok.1 planned with ⟨filter, -, planned⟩
  rcases bind_eq_ok.1 planned with ⟨query, finished, planned⟩
  rw [Query.finished_ofMetric] at finished
  rcases Window.accept_eq_ok_iff.1 finished with ⟨-, rfl⟩
  rcases pure_eq_ok.1 planned
  exact ⟨a, given, w, _, read, need_eq_ok.1 named, rfl, rfl, rfl⟩

/-- What a call for a trace is planned as, whatever its arguments are. -/
theorem spans_of_planned (planned : planTrace limits now params = .ok p) :
    ∃ id w, p = spansPlan id w limits.maximum := by
  rcases bind_eq_ok.1 planned with ⟨a, -, planned⟩
  rcases bind_eq_ok.1 planned with ⟨given, -, planned⟩
  dsimp only at planned
  split at planned
  · exact absurd planned throw_ne_ok
  · rcases bind_eq_ok.1 planned with ⟨w, -, planned⟩
    rcases bind_eq_ok.1 planned with ⟨query, finished, planned⟩
    rw [Query.finished_oldestFirst (.inr rfl)] at finished
    rcases Window.accept_eq_ok_iff.1 finished with ⟨-, rfl⟩
    rcases pure_eq_ok.1 planned
    exact ⟨_, w, rfl⟩

/-! ### Answers -/

theorem reductionReported_seriesPlan (given : String) (w : Window) {choice : Query.MetricChoice}
    (trimmed : choice.metric = Text.trim given) (reply : Json) :
    ReductionReported given ((seriesPlan given w choice).answer reply)
      (.obj [("metricName", .str choice.metric), ("spaceAggregation", .str choice.overSpace),
        ("timeAggregation", .str choice.overTime)]) where
  overTime := ⟨choice.overTime, rfl, rfl⟩
  overSpace := ⟨choice.overSpace, rfl, rfl⟩
  named := rfl
  sent := by
    rw [← trimmed]
    rfl

/-- What is answered about a metric is what its query asks for, but for white space about the name. -/
theorem seriesReported (given : String) (w : Window) {choice : Query.MetricChoice}
    (trimmed : choice.metric = Text.trim given) (reply : Json) :
    SeriesReported given ((seriesPlan given w choice).answer reply)
      (Query.ofMetric w choice).encode where
  reduction := by
    have reported := reductionReported_seriesPlan given w trimmed reply
    exact ⟨choice.leg.encode, _, Query.asksBy_ofMetric w choice, choice.get?_leg "aggregations",
      reported, reported.same_name_iff⟩
  window := ⟨w.start, w.stop, rfl, Query.get?_encode _ "start", Query.get?_encode _ "end"⟩

theorem traceReported (id : String) (w : Window) (limit : Nat) (reply : Json) :
    TraceReported ((spansPlan id w limit).answer reply) (spansQuery id w limit).encode :=
  ⟨(spansLeg id limit).encode, _, id, rfl, get?_spansLeg id limit "filter", traceAsked?_equals id, rfl⟩

/-- Whether requests are one alone, which posts a query. -/
def PostsQuery (requests : List Http.Request) (body : Json) : Prop :=
  ∃ r, requests = [r] ∧ r.method = .post ∧ r.path = Inquiry.queryPath ∧ r.body = some body

theorem postsQuery_records (client : Client) (q : Query) :
    PostsQuery [client.request (.records q)] q.encode :=
  ⟨_, rfl, rfl, rfl, rfl⟩

/-- Whatever the arguments are, and however the backend replies: where a call for a metric ends in an
answer, one query was sent, and it asks for the metric to be reduced over the window as the answer
says. The name is answered as it was given and sent without the white space about it, so the two are
the same exactly if it has none. Where a call for a trace ends in an answer, the id in it is the very
text that the filter of the one query compares with. -/
theorem series_and_traces_report_what_is_sent (client : Client) (limits : PageLimits)
    (now : Time.Instant) (params : Json) (peer : Nat → Http.Peer) (sent : Nat) (answer : Json) :
    (((call client limits now queryMetrics.name params).run peer sent).1 = .ok answer →
      ∃ a given body, arguments MetricsChoice.decode params = .ok a ∧ a.metric = some given ∧
        PostsQuery ((call client limits now queryMetrics.name params).run peer sent).2 body ∧
        SeriesReported given answer body) ∧
    (((call client limits now traceDetails.name params).run peer sent).1 = .ok answer →
      ∃ body, PostsQuery ((call client limits now traceDetails.name params).run peer sent).2 body ∧
        TraceReported answer body) := by
  constructor
  · intro answered
    rcases planned_of_answered answered with ⟨p, reply, planned, requests, rfl⟩
    rw [planned_name] at planned
    rcases series_of_planned planned with ⟨a, given, w, choice, read, named, trimmed, -, rfl⟩
    refine ⟨a, given, (Query.ofMetric w choice).encode, read, named, ?_, seriesReported given w trimmed reply⟩
    rw [requests]
    exact postsQuery_records client _
  · intro answered
    rcases planned_of_answered answered with ⟨p, reply, planned, requests, rfl⟩
    rw [planned_name] at planned
    rcases spans_of_planned planned with ⟨id, w, rfl⟩
    refine ⟨(spansQuery id w limits.maximum).encode, ?_, traceReported id w limits.maximum reply⟩
    rw [requests]
    exact postsQuery_records client _

/-- A metric with a space before its name, and a trace in capital letters. -/
theorem padded_name_not_repeated :
    let client : Client := ⟨"http://backend", "KEY", none⟩
    let peer : Nat → Http.Peer := fun _ _ => .ok ⟨200, .ofJson .null⟩
    let ended (t : Tool) (params : Members) :=
      (call client .standard 0 t.name (.obj ([("end", .int 20)] ++ params))).run peer 0
    let measured := ended queryMetrics [("metricName", .str " up"), ("start", .str "10")]
    let traced := ended traceDetails [("start", .int 10), ("traceId", .str "\t0AF7")]
    (∃ answer body, measured.1 = .ok answer ∧ PostsQuery measured.2 body ∧
      SeriesReported " up" answer body ∧ Text.trim " up" ≠ " up") ∧
    ∃ answer body, traced.1 = .ok answer ∧ PostsQuery traced.2 body ∧ TraceReported answer body := by
  intro client peer ended measured traced
  constructor
  · rcases (⟨_, rfl⟩ : ∃ answer, measured.1 = .ok answer) with ⟨answer, answered⟩
    rcases (series_and_traces_report_what_is_sent client .standard 0 _ peer 0 answer).1 answered with
      ⟨a, given, body, read, named, posts, reported⟩
    cases read
    cases named
    exact ⟨answer, body, answered, posts, reported, by decide⟩
  · rcases (⟨_, rfl⟩ : ∃ answer, traced.1 = .ok answer) with ⟨answer, answered⟩
    rcases (series_and_traces_report_what_is_sent client .standard 0 _ peer 0 answer).2 answered with
      ⟨body, posts, reported⟩
    exact ⟨answer, body, answered, posts, reported⟩

end Tool

end TelemetryGateway
