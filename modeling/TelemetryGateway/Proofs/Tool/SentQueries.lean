import TelemetryGateway.Proofs.Query.Stored
import TelemetryGateway.Proofs.Tool.Sending

set_option autoImplicit false

/-!
# Queries that tools send

Whatever the arguments of a call are, a query that it sends is final: it is read back from the body
as it was and finishing changes nothing about it. So a query that was run can be taken from the
answer and run again, and the same is sent.
-/

namespace TelemetryGateway.Tool

open Backend (Client Inquiry)

/-- Whether the query that is asked for, if there is one, is final. -/
def Plan.SendsFinal (p : Plan) : Prop := ∀ q, p.inquiry = .records q → q.Final

section Plans

variable {limits : PageLimits} {now : Time.Instant} {params : Json} {p : Plan}

theorem searchChoice_page {v : Json} {a : SearchChoice} (read : SearchChoice.decode v = .ok a) :
    a.page.Storable := by
  obtain ⟨-, -, read⟩ := bind_eq_ok.1 read
  obtain ⟨filter, -, read⟩ := bind_eq_ok.1 read
  obtain ⟨window, -, read⟩ := bind_eq_ok.1 read
  obtain ⟨page, paged, read⟩ := bind_eq_ok.1 read
  obtain rfl := pure_eq_ok.1 read
  exact PageChoice.storable_of_decode paged

theorem planSearch_final {signal : Signal} (canonical : signal.Canonical)
    (clock : Text.FitsInt64 (now / 1000000)) (planned : planSearch signal limits now params = .ok p) :
    p.SendsFinal := by
  obtain ⟨a, read, planned⟩ := bind_eq_ok.1 planned
  obtain ⟨⟨offset, limit⟩, paged, planned⟩ := bind_eq_ok.1 planned
  obtain ⟨window, resolved, planned⟩ := bind_eq_ok.1 planned
  obtain ⟨filter, -, planned⟩ := bind_eq_ok.1 planned
  obtain ⟨query, finished, planned⟩ := bind_eq_ok.1 planned
  obtain rfl := pure_eq_ok.1 planned
  rintro q ⟨⟩
  have page := searchChoice_page (mapError_eq_ok.1 read)
  obtain ⟨offsetFits, limitFits⟩ := PageChoice.resolve_fits page (mapError_eq_ok.1 paged)
  have windowFits := WindowChoice.resolve_fits clock resolved
  exact Query.final_of_finished
    (Query.storable_newestFirst canonical windowFits limitFits offsetFits) finished

theorem planTrace_final (maximum : limits.maximum ≤ Text.maxUInt64)
    (clock : Text.FitsInt64 (now / 1000000)) (planned : planTrace limits now params = .ok p) :
    p.SendsFinal := by
  obtain ⟨a, -, planned⟩ := bind_eq_ok.1 planned
  obtain ⟨given, -, planned⟩ := bind_eq_ok.1 planned
  dsimp only at planned
  split at planned
  · obtain ⟨_, refused, -⟩ := bind_eq_ok.1 planned
    exact absurd refused throw_ne_ok
  · obtain ⟨window, resolved, planned⟩ := bind_eq_ok.1 planned
    obtain ⟨query, finished, planned⟩ := bind_eq_ok.1 planned
    obtain rfl := pure_eq_ok.1 planned
    rintro q ⟨⟩
    have windowFits := WindowChoice.resolve_fits clock resolved
    have traces : Signal.traces.Canonical := rfl
    exact Query.final_of_finished (Query.storable_oldestFirst traces windowFits maximum) finished

theorem planSummary_final {signal : Signal} (canonical : signal.Canonical)
    (clock : Text.FitsInt64 (now / 1000000)) (planned : planSummary signal now params = .ok p) :
    p.SendsFinal := by
  obtain ⟨a, -, planned⟩ := bind_eq_ok.1 planned
  obtain ⟨summary, compiled, planned⟩ := bind_eq_ok.1 planned
  obtain ⟨query, finished, planned⟩ := bind_eq_ok.1 planned
  obtain rfl := pure_eq_ok.1 planned
  rintro q ⟨⟩
  exact Query.final_of_finished (Summary.storable_of_compile canonical clock compiled) finished

theorem metricsChoice_step {v : Json} {a : MetricsChoice} (read : MetricsChoice.decode v = .ok a) :
    ∀ n ∈ a.step, Text.FitsInt64 n := by
  obtain ⟨own, visited, read⟩ := bind_eq_ok.1 read
  obtain ⟨filter, -, read⟩ := bind_eq_ok.1 read
  obtain ⟨window, -, read⟩ := bind_eq_ok.1 read
  obtain rfl := pure_eq_ok.1 read
  change ∀ n ∈ own.step, Text.FitsInt64 n
  refine Record.readObject_keeps (P := fun a : MetricsChoice => ∀ n ∈ a.step, Text.FitsInt64 n) ?_ ?_
    visited
  case refine_2 => simp
  intro a key v b h set
  simp only [MetricsChoice.record] at set
  split at set
  case h_5 =>
    obtain ⟨n, given, rfl⟩ := map_eq_ok.1 set
    exact Argument.integer_fits given
  case h_6 =>
    obtain rfl := Except.ok.inj set
    exact h
  all_goals
    obtain ⟨n, -, rfl⟩ := map_eq_ok.1 set
    exact h

theorem planMetrics_final (clock : Text.FitsInt64 (now / 1000000))
    (planned : planMetrics now params = .ok p) : p.SendsFinal := by
  obtain ⟨a, read, planned⟩ := bind_eq_ok.1 planned
  obtain ⟨metric, -, planned⟩ := bind_eq_ok.1 planned
  obtain ⟨-, -, planned⟩ := bind_eq_ok.1 planned
  obtain ⟨window, resolved, planned⟩ := bind_eq_ok.1 planned
  obtain ⟨filter, -, planned⟩ := bind_eq_ok.1 planned
  obtain ⟨query, finished, planned⟩ := bind_eq_ok.1 planned
  obtain rfl := pure_eq_ok.1 planned
  rintro q ⟨⟩
  have windowFits := WindowChoice.resolve_fits clock resolved
  have stepFits := metricsChoice_step (mapError_eq_ok.1 read)
  exact Query.final_of_finished (Query.storable_ofMetric windowFits stepFits) finished

def Plan.ofQuery (q : Query) : Plan :=
  ⟨.records q, fun answer => .obj [("query", q.encode), ("result", answer)]⟩

theorem planQuery_final (planned : planQuery params = .ok p) :
    ∃ q : Query, q.Final ∧ p = .ofQuery q := by
  obtain ⟨given, -, planned⟩ := bind_eq_ok.1 planned
  obtain ⟨raw, read, planned⟩ := bind_eq_ok.1 planned
  obtain ⟨query, finished, planned⟩ := bind_eq_ok.1 planned
  obtain rfl := pure_eq_ok.1 planned
  have storable := Query.storable_of_decode (mapError_eq_ok.1 read)
  exact ⟨query, Query.final_of_finished storable finished, rfl⟩

/-- A final query that is given as it was sent is sent again. -/
theorem planQuery_encode {q : Query} (h : q.Final) :
    planQuery (.obj [("query", q.encode)]) = .ok (.ofQuery q) := by
  have given : (arguments decodeQuery (.obj [("query", q.encode)]) >>= givenQuery) = .ok q.encode := rfl
  have finished : q.finished = .ok q := mapError_eq_ok.2 h.finished
  have read : ((Query.decode q.encode).mapError fun m => Fault.argument (.queryForm m)) = .ok q :=
    mapError_eq_ok.2 h.read
  simp only [planQuery, given, ok_bind, read, finished]
  rfl

theorem planListing_final {inquiry : Inquiry} (other : ∀ q, inquiry ≠ .records q)
    (planned : planListing inquiry limits params = .ok p) : p.SendsFinal := by
  obtain ⟨a, -, planned⟩ := bind_eq_ok.1 planned
  obtain ⟨⟨offset, limit⟩, -, planned⟩ := bind_eq_ok.1 planned
  obtain rfl := pure_eq_ok.1 planned
  intro q asked
  exact absurd asked (other q)

theorem plan_final {t : Tool} (maximum : limits.maximum ≤ Text.maxUInt64)
    (clock : Text.FitsInt64 (now / 1000000)) (planned : t.plan limits now params = .ok p) :
    p.SendsFinal := by
  have logs : Signal.logs.Canonical := rfl
  have traces : Signal.traces.Canonical := rfl
  cases t with
  | searchLogs => exact planSearch_final logs clock planned
  | searchTraces => exact planSearch_final traces clock planned
  | traceDetails => exact planTrace_final maximum clock planned
  | summarizeLogs => exact planSummary_final logs clock planned
  | summarizeTraces => exact planSummary_final traces clock planned
  | queryMetrics => exact planMetrics_final clock planned
  | runQuery =>
    obtain ⟨q, final, rfl⟩ := planQuery_final planned
    rintro r ⟨⟩
    exact final
  | listAlerts => exact planListing_final (by simp) planned
  | listDashboards => exact planListing_final (by simp) planned
  | listServices =>
    obtain ⟨a, -, planned⟩ := bind_eq_ok.1 planned
    obtain ⟨⟨offset, limit⟩, -, planned⟩ := bind_eq_ok.1 planned
    obtain ⟨window, -, planned⟩ := bind_eq_ok.1 planned
    obtain rfl := pure_eq_ok.1 planned
    rintro q ⟨⟩
  | getAlert =>
    obtain ⟨given, -, planned⟩ := bind_eq_ok.1 planned
    obtain ⟨id, -, planned⟩ := bind_eq_ok.1 planned
    obtain rfl := pure_eq_ok.1 planned
    rintro q ⟨⟩
  | getDashboard =>
    obtain ⟨given, -, planned⟩ := bind_eq_ok.1 planned
    obtain ⟨id, -, planned⟩ := bind_eq_ok.1 planned
    split at planned
    · obtain rfl := pure_eq_ok.1 planned
      rintro q ⟨⟩
    · exact absurd planned throw_ne_ok
  | listFieldKeys =>
    obtain ⟨a, -, planned⟩ := bind_eq_ok.1 planned
    obtain ⟨signal, -, planned⟩ := bind_eq_ok.1 planned
    obtain rfl := pure_eq_ok.1 planned
    rintro q ⟨⟩
  | listFieldValues =>
    obtain ⟨a, -, planned⟩ := bind_eq_ok.1 planned
    obtain ⟨signal, -, planned⟩ := bind_eq_ok.1 planned
    obtain ⟨name, -, planned⟩ := bind_eq_ok.1 planned
    obtain rfl := pure_eq_ok.1 planned
    rintro q ⟨⟩

end Plans

/-! ### Calls -/

variable {client : Client} {limits : PageLimits} {now : Time.Instant} {name : String} {params : Json}

/-- A call sends what its plan asks for. -/
theorem planned_of_sent {peer : Nat → Http.Peer} {sent : Nat} {r : Http.Request}
    (among : r ∈ ((call client limits now name params).run peer sent).2) :
    ∃ t p, plan t limits now params = .ok p ∧ r = client.request p.inquiry := by
  obtain ⟨p, found, rfl⟩ := planned_of_requested among
  unfold planned at found
  split at found
  · exact absurd found (by simp)
  · exact ⟨_, p, found, rfl⟩

/-- Only a query is posted to the path of queries. -/
theorem records_of_request {i : Inquiry} (posted : (client.request i).method = .post)
    (path : (client.request i).path = Inquiry.queryPath) : ∃ q, i = .records q := by
  cases i with
  | records q => exact ⟨q, rfl⟩
  | services window =>
    have same : "/api/v1/services" = Inquiry.queryPath := path
    exact absurd same (by decide)
  | _ => simp [Client.request, Inquiry.method] at posted

theorem call_runQuery :
    call client limits now runQuery.name params =
      match planQuery params with
      | .error f => .done (.error f)
      | .ok p => p.carryOut client := by
  rw [call, ofName?_name]
  rfl

/-- The answer to a query that was run holds the query, and with it the request is sent again. -/
theorem rerun {peer : Nat → Http.Peer} {sent : Nat} {answer : Json}
    (answered : ((call client limits now runQuery.name params).run peer sent).1 = .ok answer) :
    ∃ r, ((call client limits now runQuery.name params).run peer sent).2 = [r] ∧
      ∀ (limits' : PageLimits) (now' : Time.Instant) (peer' : Nat → Http.Peer) (sent' : Nat),
        ((call client limits' now' runQuery.name
          (.obj [("query", answer.field "query")])).run peer' sent').2 = [r] := by
  rw [call_runQuery] at answered ⊢
  cases planned : planQuery params with
  | error f => simp [planned] at answered
  | ok p =>
    obtain ⟨q, final, rfl⟩ := planQuery_final planned
    simp only [planned, run_carryOut] at answered ⊢
    by_cases sendable : (client.request (Plan.ofQuery q).inquiry).isSendable = true
    · simp only [if_pos sendable] at answered ⊢
      obtain ⟨reply, -, rfl⟩ := map_eq_ok.1 answered
      refine ⟨_, rfl, ?_⟩
      intro limits' now' peer' sent'
      have given : ((Plan.ofQuery q).answer reply).field "query" = q.encode := rfl
      rw [given, call_runQuery, planQuery_encode final]
      simp only [run_carryOut, if_pos sendable]
    · simp only [if_neg sendable] at answered
      exact absurd answered (by simp [Client.outcome, Except.map])

/-- Whatever is called with whatever arguments, a body that is posted to the path of queries is read
back as a query that finishing leaves as it is, with all that finishing settles. The query in the
answer to a query that was run can be run again, and the same request is sent. -/
theorem sent_queries_final (client : Client) (limits : PageLimits) (now : Time.Instant)
    (name : String) (params : Json) (peer : Nat → Http.Peer) (sent : Nat)
    (maximum : limits.maximum ≤ Text.maxUInt64) (clock : Text.FitsInt64 (now / 1000000)) :
    (∀ r ∈ ((call client limits now name params).run peer sent).2,
      r.method = .post → r.path = Inquiry.queryPath →
        ∃ body q, r.body = some body ∧ Query.decode body = .ok q ∧ q.finish = .ok q ∧
          q.start ≠ 0 ∧ q.stop ≠ 0 ∧ q.entries ≠ [] ∧ q.shape = some q.answeredAs ∧
          ∀ l ∈ q.legs, (∃ s, l.signal = some s ∧ s.isKnown = true) ∧ l.Fits q.answeredAs ∧
            l.step = l.finalStep q.answeredAs) ∧
    (∀ answer, name = runQuery.name →
      ((call client limits now name params).run peer sent).1 = .ok answer →
        ∃ r, ((call client limits now name params).run peer sent).2 = [r] ∧
          ∀ (limits' : PageLimits) (now' : Time.Instant) (peer' : Nat → Http.Peer) (sent' : Nat),
            ((call client limits' now' name
              (.obj [("query", answer.field "query")])).run peer' sent').2 = [r]) := by
  constructor
  · intro r among posted path
    obtain ⟨t, p, planned, rfl⟩ := planned_of_sent among
    obtain ⟨q, asked⟩ := records_of_request posted path
    have final := plan_final maximum clock planned q asked
    exact ⟨q.encode, q, by rw [asked]; rfl, final.read, final.finished, final.settled⟩
  · rintro answer rfl answered
    exact rerun answered

/-- A metric leg with nothing but its signal, in a query without shape or version. -/
def bareQuery : Json :=
  .obj [("start", .int 1), ("end", .str "2"), ("compositeQuery", .obj [("queries",
    .arr [.obj [("type", .str "builder_query"), ("spec", .obj [("signal", .str "metrics")])]])])]

def bareQueryFinished : Query :=
  { Query.empty with
    version := "v1"
    start := 1
    stop := 2
    shape := some .timeSeries
    entries := [.leg { Leg.empty with signal := some .metrics, step := some 60 }] }

theorem bareQuery_sent_final :
    let client : Client := ⟨"http://backend", "KEY", none⟩
    let peer : Nat → Http.Peer := fun _ _ => .ok ⟨200, .ofJson .null⟩
    ∃ answer r,
      (call client .standard 0 runQuery.name (.obj [("query", bareQuery)])).run peer 0 =
        (.ok answer, [r]) ∧
      (∃ body q, r.body = some body ∧ Query.decode body = .ok q ∧ q.finish = .ok q) ∧
      ((call client .standard 0 runQuery.name
        (.obj [("query", answer.field "query")])).run peer 0).2 = [r] := by
  intro client peer
  have done : (call client .standard 0 runQuery.name (.obj [("query", bareQuery)])).run peer 0 =
      (.ok ((Plan.ofQuery bareQueryFinished).answer .null),
        [client.request (.records bareQueryFinished)]) := rfl
  obtain ⟨sent, again⟩ := sent_queries_final client .standard 0 runQuery.name
    (.obj [("query", bareQuery)]) peer 0 (by decide) (by decide)
  obtain ⟨r, same, resent⟩ := again _ rfl (congrArg Prod.fst done)
  rw [done] at sent same
  obtain ⟨body, q, holds, read, finished, -⟩ := sent _ (List.mem_singleton_self _) rfl rfl
  refine ⟨_, _, done, ⟨body, q, holds, read, finished⟩, ?_⟩
  rw [resent, ← same]

end TelemetryGateway.Tool
