import TelemetryGateway.Proofs.Tool.Searching

set_option autoImplicit false

/-!
# What a summary reports

The answer to a call that summarizes records holds the summary as it was compiled, while the request
holds the query that it was lowered to and that was finished. The two are written by different rules
and still describe one aggregation.
-/

namespace TelemetryGateway

open Backend (Client Inquiry)

/-- Whether a leg asks for the aggregation that a summary reports. What the summary reports as
nothing the leg leaves out. -/
structure LegReported (signal : Signal) (summary leg : Json) : Prop where
  name : leg.get? "name" = some (.str "A")
  signal : summary.get? "signal" = some (.str signal.text) ∧
    leg.get? "signal" = some (.str signal.text)
  reduction : ∃ expression, summary.get? "expression" = some (.str expression) ∧
    leg.get? "aggregations" = some (.arr [.obj [("expression", .str expression)]])
  filter : ∃ filter : Option String, summary.get? "filter" = some (.ofText? filter) ∧
    leg.get? "filter" = filter.map fun s => .obj [("expression", .str s)]
  groups : ∃ names : List String, summary.get? "groupBy" = some (.arr (names.map .str)) ∧
    (leg.get? "groupBy").getD (.arr []) = .arr (names.map fun name => .obj [("name", .str name)])
  order : ∃ expression direction, summary.get? "orderExpression" = some (.str expression) ∧
    summary.get? "orderDirection" = some (.str direction) ∧
    leg.get? "order" =
      some (.arr [.obj [("direction", .str direction), ("key", .obj [("name", .str expression)])]])
  limit : ∃ n, summary.get? "limit" = some (.nat n) ∧ leg.get? "limit" = some (.nat n)
  step : leg.get? "stepInterval" = none

/-- Whether a body asks for reduced values over the window that a summary reports, by one leg. -/
structure Reported (signal : Signal) (summary body : Json) : Prop where
  shape : body.get? "requestType" = some (.str "scalar")
  start : ∃ n, summary.get? "start" = some (.int n) ∧ body.get? "start" = some (.int n)
  stop : ∃ n, summary.get? "end" = some (.int n) ∧ body.get? "end" = some (.int n)
  leg : ∃ leg, body.path? ["compositeQuery", "queries"] =
      some (.arr [.obj [("spec", leg), ("type", .str "builder_query")]]) ∧
    LegReported signal summary leg

/-! ### Lowered summaries -/

namespace Summary

variable {s : Summary}

/-- The one leg of a lowered summary. -/
def leg (s : Summary) : Leg :=
  { Leg.named "A" s.signal with
    filter := s.filter
    limit := some s.limit
    order := [s.order]
    groups := s.groups.map .named
    reductions := [.ofExpression s.expression] }

/-- Finishing changes nothing about a summary of records, where it accepts it. -/
theorem query_of_finished (records : s.signal.HasRecords) {q : Query}
    (done : s.query.finished = .ok q) : s.query = q := by
  rw [finished_query records] at done
  exact (Window.accept_eq_ok_iff.1 done).2

theorem get?_leg (s : Summary) (key : String) : s.leg.encode.get? key = s.leg.written? key :=
  Leg.get?_encode_of_plain rfl key

theorem legReported (s : Summary) : LegReported s.signal s.encode s.leg.encode where
  name := get?_leg s "name"
  signal := ⟨rfl, get?_leg s "signal"⟩
  reduction := ⟨s.expression, rfl, get?_leg s "aggregations"⟩
  filter := ⟨s.filter, rfl, get?_leg s "filter"⟩
  groups := ⟨s.groups, rfl, Leg.groups_of_named rfl rfl⟩
  order := ⟨s.order.name, s.order.direction.text, rfl, rfl, get?_leg s "order"⟩
  limit := ⟨s.limit, rfl, get?_leg s "limit"⟩
  step := get?_leg s "stepInterval"

/-- What a summary reports is what its query asks for. -/
theorem reported (s : Summary) : Reported s.signal s.encode s.query.encode where
  shape := Query.get?_encode s.query "requestType"
  start := ⟨s.window.start, rfl, Query.get?_encode s.query "start"⟩
  stop := ⟨s.window.stop, rfl, Query.get?_encode s.query "end"⟩
  leg := ⟨s.leg.encode, rfl, legReported s⟩

end Summary

namespace Tool

variable {client : Client} {limits : PageLimits} {now : Time.Instant}

/-! ### Calls -/

/-- The signal that a tool summarizes, if it does. -/
def summarized? : Tool → Option Signal
  | summarizeLogs => some .logs
  | summarizeTraces => some .traces
  | _ => none

section Planned

variable {t : Tool} {signal : Signal} {params : Json}

theorem planned_of_summarized (summarizes : t.summarized? = some signal) (params : Json) :
    planned limits now t.name params = planSummary signal now params := by
  rw [planned_name]
  cases t with
  | summarizeLogs =>
    obtain rfl := Option.some.inj summarizes
    rfl
  | summarizeTraces =>
    obtain rfl := Option.some.inj summarizes
    rfl
  | _ => simp [summarized?] at summarizes

theorem hasRecords_of_summarized (summarizes : t.summarized? = some signal) : signal.HasRecords := by
  cases t with
  | summarizeLogs => exact .inl (Option.some.inj summarizes).symm
  | summarizeTraces => exact .inr (Option.some.inj summarizes).symm
  | _ => simp [summarized?] at summarizes

/-- What is planned for a summary: the query that it is lowered to, and an answer that reports it. -/
theorem summary_of_planned (records : signal.HasRecords) {p : Plan}
    (planned : planSummary signal now params = .ok p) :
    ∃ s : Summary, s.signal = signal ∧ p.inquiry = .records s.query ∧
      ∀ reply, p.answer reply = .obj [("aggregation", s.encode), ("result", reply)] := by
  obtain ⟨a, -, planned⟩ := bind_eq_ok.1 planned
  obtain ⟨s, compiled, planned⟩ := bind_eq_ok.1 planned
  obtain ⟨q, finished, planned⟩ := bind_eq_ok.1 planned
  obtain rfl := pure_eq_ok.1 planned
  obtain rfl := (Summary.compile_eq_ok_iff.1 compiled).signal_eq
  obtain rfl := Summary.query_of_finished records finished
  exact ⟨s, rfl, rfl, fun _ => rfl⟩

end Planned

/-- Whatever the arguments of a summary are, and however the backend replies: where the call ends in
an answer, one query was sent, and it asks for the very aggregation that the answer reports. -/
theorem summary_reports_what_is_sent {t : Tool} {signal : Signal}
    (summarizes : t.summarized? = some signal) (client : Client) (limits : PageLimits)
    (now : Time.Instant) (params : Json) (peer : Nat → Http.Peer) (sent : Nat) (answer : Json)
    (answered : ((call client limits now t.name params).run peer sent).1 = .ok answer) :
    ∃ r summary body, ((call client limits now t.name params).run peer sent).2 = [r] ∧
      r.method = .post ∧ r.path = Inquiry.queryPath ∧ r.body = some body ∧
      answer.get? "aggregation" = some summary ∧ Reported signal summary body := by
  obtain ⟨p, reply, planned, requests, rfl⟩ := planned_of_answered answered
  rw [planned_of_summarized summarizes] at planned
  obtain ⟨s, rfl, asked, answers⟩ :=
    summary_of_planned (hasRecords_of_summarized summarizes) planned
  refine ⟨client.request p.inquiry, s.encode, s.query.encode, requests, ?_, ?_, ?_, ?_, s.reported⟩
  · rw [asked]
    rfl
  · rw [asked]
    rfl
  · rw [asked]
    rfl
  · rw [answers]
    rfl

/-- Errors by service, without a name in the list that is empty. -/
def errorsByService : Json :=
  .obj [("aggregation", .str "COUNT"), ("end", .int 2000), ("filter", .str "a = 1"),
    ("groupBy", .str "service.name, "), ("limit", .int 3), ("start", .str "1000")]

theorem errorsByService_reported :
    let client : Client := ⟨"http://backend", "KEY", none⟩
    let peer : Nat → Http.Peer := fun _ _ => .ok ⟨200, .ofJson .null⟩
    let ended := (call client .standard 0 summarizeLogs.name errorsByService).run peer 0
    ∃ answer, ended.1 = .ok answer ∧
      ∃ r summary body, ended.2 = [r] ∧ r.method = .post ∧ r.path = Inquiry.queryPath ∧
        r.body = some body ∧ answer.get? "aggregation" = some summary ∧
        Reported .logs summary body := by
  intro client peer ended
  obtain ⟨answer, answered⟩ : ∃ answer, ended.1 = .ok answer := ⟨_, rfl⟩
  exact ⟨answer, answered, summary_reports_what_is_sent rfl client .standard 0 errorsByService peer 0
    answer answered⟩

end Tool

end TelemetryGateway
