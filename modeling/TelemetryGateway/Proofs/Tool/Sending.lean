import TelemetryGateway.Proofs.Outcome
import TelemetryGateway.Tool.Plan

set_option autoImplicit false

/-!
# What a call hands over to be sent

All checks of a call come before its one inquiry. What they refuse is refused without the backend,
and what goes wrong afterwards is told by other faults. So the kind of a fault tells whether a
request was handed over, and never was more than one.
-/

namespace TelemetryGateway

namespace Fault

/-- Whether the fault refuses a call: the query, an argument, the tool or the clock is wrong. -/
def isRefusal : Fault → Bool
  | query _ | argument _ | notFound _ | internal _ => true
  | _ => false

/-- Whether the fault reports on a request: how it was answered, or that it was not. -/
def isReport : Fault → Bool
  | backend _ _ | connection _ | unreadable => true
  | _ => false

theorem isRefusal_of_isReport {f : Fault} (report : f.isReport = true) : f.isRefusal = false := by
  cases f <;> simp_all [isReport, isRefusal]

end Fault

/-! ### Steps that can only refuse -/

section Refusals

variable {α β ε : Type}

/-- Whether every fault of a step is a refusal. -/
def Refuses (x : Except Fault α) : Prop := ∀ f, x = .error f → f.isRefusal = true

theorem refuses_ok (a : α) : Refuses (.ok a) := nofun

theorem refuses_pure (a : α) : Refuses (pure a) := nofun

theorem refuses_error {f : Fault} (refusal : f.isRefusal = true) :
    Refuses (.error f : Except Fault α) := by
  rintro _ ⟨⟩
  exact refusal

theorem Refuses.bind {x : Except Fault α} {next : α → Except Fault β} (first : Refuses x)
    (others : ∀ a, Refuses (next a)) : Refuses (x >>= next) := by
  cases x with
  | error f => exact refuses_error (first f rfl)
  | ok a => exact others a

theorem Refuses.map {x : Except Fault α} (h : Refuses x) (f : α → β) : Refuses (x.map f) := by
  cases x with
  | error e => exact refuses_error (h e rfl)
  | ok a => exact refuses_ok (f a)

theorem refuses_mapError (x : Except ε α) {wrap : ε → Fault}
    (refusal : ∀ e, (wrap e).isRefusal = true) : Refuses (x.mapError wrap) := by
  cases x with
  | error e => exact refuses_error (refusal e)
  | ok a => exact refuses_ok a

end Refusals

/-! ### Plans -/

theorem WindowChoice.refuses_resolve (a : WindowChoice) (u : Time.TimeUnit) (default : Time.Span)
    (now : Time.Instant) : Refuses (a.resolve u default now) := by
  refine Refuses.bind ?_ fun present => refuses_mapError _ fun _ => rfl
  unfold Time.TimeUnit.instant
  dsimp only
  split
  · exact refuses_ok _
  · exact refuses_error rfl

theorem Query.refuses_finished (q : Query) : Refuses q.finished := refuses_mapError _ fun _ => rfl

theorem Summary.refuses_compile (a : SummaryChoice) (signal : Signal) (preset : Option String)
    (now : Time.Instant) : Refuses (compile a signal preset now) := by
  refine Refuses.bind (refuses_mapError _ fun _ => rfl) fun verb => ?_
  refine Refuses.bind (refuses_mapError _ fun _ => rfl) fun expression => ?_
  refine Refuses.bind (refuses_mapError _ fun _ => rfl) fun filter => ?_
  refine Refuses.bind (refuses_mapError _ fun _ => rfl) fun limit => ?_
  exact Refuses.bind (a.window.refuses_resolve _ _ now) fun window => refuses_pure _

namespace Tool

open Backend (Client Inquiry)

section Plans

variable {α : Type} (limits : PageLimits) (now : Time.Instant) (params : Json)

theorem refuses_arguments (decode : Json.Decoder α) : Refuses (arguments decode params) :=
  refuses_mapError _ fun _ => rfl

theorem refuses_need (value : Option α) (name sample : String) : Refuses (need value name sample) := by
  cases value with
  | none => exact refuses_error rfl
  | some a => exact refuses_ok a

theorem refuses_resolvePage (page : PageChoice) : Refuses (resolvePage page limits) :=
  refuses_mapError _ fun _ => rfl

theorem refuses_filterOf (filter : FilterChoice) (signal : Signal) : Refuses (filterOf filter signal) :=
  (refuses_mapError _ fun _ => rfl).map _

theorem refuses_planServices : Refuses (planServices limits now params) := by
  refine Refuses.bind (refuses_arguments params _) fun a => ?_
  refine Refuses.bind (refuses_resolvePage limits _) fun page => ?_
  exact Refuses.bind (a.window.refuses_resolve _ _ now) fun window => refuses_pure _

theorem refuses_planSearch (signal : Signal) : Refuses (planSearch signal limits now params) := by
  refine Refuses.bind (refuses_arguments params _) fun a => ?_
  refine Refuses.bind (refuses_resolvePage limits _) fun page => ?_
  refine Refuses.bind (a.window.refuses_resolve _ _ now) fun window => ?_
  refine Refuses.bind (refuses_filterOf a.filter signal) fun filter => ?_
  exact Refuses.bind (Query.refuses_finished _) fun query => refuses_pure _

theorem refuses_planTrace : Refuses (planTrace limits now params) := by
  refine Refuses.bind (refuses_arguments params _) fun a => ?_
  refine Refuses.bind (refuses_need _ _ _) fun given => ?_
  dsimp only
  split
  · exact refuses_error rfl
  · refine Refuses.bind (a.window.refuses_resolve _ _ now) fun window => ?_
    exact Refuses.bind (Query.refuses_finished _) fun query => refuses_pure _

theorem refuses_planSummary (signal : Signal) : Refuses (planSummary signal now params) := by
  refine Refuses.bind (refuses_arguments params _) fun a => ?_
  refine Refuses.bind (Summary.refuses_compile a signal none now) fun summary => ?_
  exact Refuses.bind (Query.refuses_finished _) fun query => refuses_pure _

theorem refuses_checkStep (step : Option Int) : Refuses (checkStep step) := by
  unfold checkStep
  split
  · exact refuses_error rfl
  · exact refuses_ok ()

theorem refuses_planMetrics : Refuses (planMetrics now params) := by
  refine Refuses.bind (refuses_arguments params _) fun a => ?_
  refine Refuses.bind (refuses_need _ _ _) fun metric => ?_
  refine Refuses.bind (refuses_checkStep a.step) fun _ => ?_
  refine Refuses.bind (a.window.refuses_resolve _ _ now) fun window => ?_
  refine Refuses.bind (refuses_filterOf a.filter .metrics) fun filter => ?_
  exact Refuses.bind (Query.refuses_finished _) fun query => refuses_pure _

theorem refuses_givenQuery (given : Json) : Refuses (givenQuery given) := by
  unfold givenQuery
  split
  · exact refuses_error rfl
  · split
    · exact refuses_ok _
    · exact refuses_error rfl
  · exact refuses_ok _

theorem refuses_planQuery : Refuses (planQuery params) := by
  refine Refuses.bind (Refuses.bind (refuses_arguments params _) refuses_givenQuery) fun given => ?_
  refine Refuses.bind (refuses_mapError _ fun _ => rfl) fun query => ?_
  exact Refuses.bind (Query.refuses_finished query) fun query => refuses_pure _

theorem refuses_planListing (inquiry : Inquiry) : Refuses (planListing inquiry limits params) := by
  refine Refuses.bind (refuses_arguments params _) fun a => ?_
  exact Refuses.bind (refuses_resolvePage limits _) fun page => refuses_pure _

theorem refuses_planAlert : Refuses (planAlert params) := by
  refine Refuses.bind (refuses_arguments params _) fun given => ?_
  exact Refuses.bind (refuses_need _ _ _) fun id => refuses_pure _

theorem refuses_planDashboard : Refuses (planDashboard params) := by
  refine Refuses.bind (refuses_arguments params _) fun given => ?_
  refine Refuses.bind (refuses_need _ _ _) fun given => ?_
  split
  · exact refuses_pure _
  · exact refuses_error rfl

theorem refuses_signalOf (given : Option String) : Refuses (signalOf given) := by
  refine Refuses.bind (refuses_need _ _ _) fun given => ?_
  split
  · exact refuses_error rfl
  · exact refuses_pure _

theorem refuses_planFieldKeys : Refuses (planFieldKeys params) := by
  refine Refuses.bind (refuses_arguments params _) fun a => ?_
  exact Refuses.bind (refuses_signalOf a.signal) fun signal => refuses_pure _

theorem refuses_planFieldValues : Refuses (planFieldValues params) := by
  refine Refuses.bind (refuses_arguments params _) fun a => ?_
  refine Refuses.bind (refuses_signalOf a.signal) fun signal => ?_
  exact Refuses.bind (refuses_need _ _ _) fun name => refuses_pure _

/-- Whatever keeps a call from being planned is a refusal. -/
theorem refuses_plan (t : Tool) : Refuses (t.plan limits now params) := by
  cases t with
  | listServices => exact refuses_planServices limits now params
  | searchLogs => exact refuses_planSearch limits now params .logs
  | searchTraces => exact refuses_planSearch limits now params .traces
  | traceDetails => exact refuses_planTrace limits now params
  | summarizeLogs => exact refuses_planSummary now params .logs
  | summarizeTraces => exact refuses_planSummary now params .traces
  | queryMetrics => exact refuses_planMetrics now params
  | runQuery => exact refuses_planQuery params
  | listAlerts => exact refuses_planListing limits params .alerts
  | getAlert => exact refuses_planAlert params
  | listDashboards => exact refuses_planListing limits params .dashboards
  | getDashboard => exact refuses_planDashboard params
  | listFieldKeys => exact refuses_planFieldKeys params
  | listFieldValues => exact refuses_planFieldValues params

end Plans

end Tool

/-! ### Calls -/

namespace Backend

/-- Whether the client's header can be sent. -/
def Client.Presentable (c : Client) : Prop :=
  ∀ key ∈ c.apiKey, Http.isHeaderName c.authHeader = true ∧ Http.isHeaderValue key = true

theorem Client.isSendable_request {c : Client} (h : c.Presentable) (i : Inquiry) :
    (c.request i).isSendable = true := by
  unfold Http.Request.isSendable Client.request
  cases held : c.apiKey with
  | none => simp
  | some key => simp [h key held]

theorem Client.isReport_of_outcome {e : Http.Exchange} {f : Fault} (failed : outcome e = .error f) :
    f.isReport = true := by
  unfold outcome at failed
  split at failed
  · obtain rfl := Except.error.inj failed
    rfl
  · split at failed
    · obtain rfl := Except.error.inj failed
      rfl
    · split at failed
      · exact absurd failed (by simp)
      · split at failed
        · exact absurd failed (by simp)
        · obtain rfl := Except.error.inj failed
          rfl

/-- Hands a request over to whatever carries it, also one that cannot be sent. -/
def Client.handOver (c : Client) (i : Inquiry) : Http.Dialogue (Except Fault Json) :=
  .ask (c.request i) fun e => .done (outcome e)

end Backend

/-- What carries requests to a peer: one that cannot be sent is not put to the peer. -/
def Http.carrier (peer : Nat → Peer) : Nat → Peer := fun sent r =>
  if r.isSendable then peer sent r else .error notSendable

namespace Tool

open Backend (Client Inquiry)

theorem ofName?_name (t : Tool) : ofName? t.name = some t := by
  cases t <;> decide

theorem name_of_ofName? {s : String} {t : Tool} (found : ofName? s = some t) : t.name = s := by
  simpa using List.find?_some found

/-- What a call comes to before the backend is asked. -/
def planned (limits : PageLimits) (now : Time.Instant) (name : String) (params : Json) :
    Except Fault Plan :=
  match ofName? name with
  | none => .error (.unknownTool name)
  | some t => t.plan limits now params

theorem planned_name (t : Tool) (limits : PageLimits) (now : Time.Instant) (params : Json) :
    planned limits now t.name params = t.plan limits now params := by
  rw [planned, ofName?_name]

theorem refuses_planned (limits : PageLimits) (now : Time.Instant) (name : String) (params : Json) :
    Refuses (planned limits now name params) := by
  unfold planned
  split
  · exact refuses_error rfl
  · exact refuses_plan limits now params _

/-- A call whose inquiries are taken to the backend in any way. -/
def callThrough {m : Type → Type} [Monad m] (send : Inquiry → m (Except Fault Json))
    (limits : PageLimits) (now : Time.Instant) (name : String) (params : Json) :
    m (Except Fault Json) :=
  match planned limits now name params with
  | .error f => pure (.error f)
  | .ok p => do return (← send p.inquiry).map p.answer

theorem call_eq_callThrough (client : Client) (limits : PageLimits) (now : Time.Instant)
    (name : String) (params : Json) :
    call client limits now name params = callThrough client.ask limits now name params := by
  rw [call, callThrough, planned]
  cases ofName? name with
  | none => rfl
  | some t =>
    dsimp only
    cases t.plan limits now params with
    | error f => rfl
    | ok p => rfl

variable {client : Client} {limits : PageLimits} {now : Time.Instant} {name : String} {params : Json}
  {p : Plan}

/-- The inquiry of a plan is sent once, or not at all where it cannot be. -/
theorem run_carryOut (p : Plan) (peer : Nat → Http.Peer) (sent : Nat) :
    (p.carryOut client).run peer sent =
      if (client.request p.inquiry).isSendable then
        ((Client.outcome (peer sent (client.request p.inquiry))).map p.answer,
          [client.request p.inquiry])
      else ((Client.outcome (.error Http.notSendable)).map p.answer, []) := by
  by_cases sendable : (client.request p.inquiry).isSendable = true
  · rw [if_pos sendable, Plan.carryOut, Client.ask, Http.Dialogue.request, if_pos sendable]
    rfl
  · rw [if_neg sendable, Plan.carryOut, Client.ask, Http.Dialogue.request, if_neg sendable]
    rfl

/-- A client that can send asks once for what is planned, and a call without a plan asks nothing. -/
theorem run_call {client : Client} (h : client.Presentable) (limits : PageLimits)
    (now : Time.Instant) (name : String) (params : Json) (peer : Nat → Http.Peer) (sent : Nat) :
    (call client limits now name params).run peer sent =
      match planned limits now name params with
      | .error f => (.error f, [])
      | .ok p =>
        ((Client.outcome (peer sent (client.request p.inquiry))).map p.answer,
          [client.request p.inquiry]) := by
  rw [call_eq_callThrough, callThrough]
  cases planned limits now name params with
  | error f => rfl
  | ok p =>
    change (p.carryOut client).run peer sent = _
    rw [run_carryOut, if_pos (Client.isSendable_request h p.inquiry)]

/-- A call that ends in an answer was planned, and its one request was sent and answered. -/
theorem planned_of_answered {peer : Nat → Http.Peer} {sent : Nat} {answer : Json}
    (answered : ((call client limits now name params).run peer sent).1 = .ok answer) :
    ∃ p reply, planned limits now name params = .ok p ∧
      ((call client limits now name params).run peer sent).2 = [client.request p.inquiry] ∧
      answer = p.answer reply := by
  rw [call_eq_callThrough, callThrough] at answered ⊢
  cases found : planned limits now name params with
  | error f => simp [found, pure] at answered
  | ok p =>
    simp only [found] at answered ⊢
    change ((p.carryOut client).run peer sent).1 = _ at answered
    change ∃ p' reply, _ ∧ ((p.carryOut client).run peer sent).2 = _ ∧ _
    rw [run_carryOut] at answered ⊢
    split at answered
    · obtain ⟨reply, -, rfl⟩ := map_eq_ok.1 answered
      exact ⟨p, reply, rfl, by simp [*], rfl⟩
    · exact absurd answered (by simp [Client.outcome, Except.map])

/-- A planned call hands its one request over, sendable or not. -/
theorem handed_of_planned (found : planned limits now name params = .ok p) (peer : Nat → Http.Peer)
    (sent : Nat) :
    (callThrough client.handOver limits now name params).run peer sent =
      ((Client.outcome (peer sent (client.request p.inquiry))).map p.answer,
        [client.request p.inquiry]) := by
  rw [callThrough, found]
  rfl

/-- A call that is not planned hands nothing over. -/
theorem handed_of_refused {f : Fault} (refused : planned limits now name params = .error f)
    (peer : Nat → Http.Peer) (sent : Nat) :
    (callThrough client.handOver limits now name params).run peer sent = (.error f, []) := by
  rw [callThrough, refused]
  rfl

/-- What a call hands over is what was planned. -/
theorem mem_handed_iff {peer : Nat → Http.Peer} {sent : Nat} {r : Http.Request} :
    r ∈ ((callThrough client.handOver limits now name params).run peer sent).2 ↔
      ∃ p, planned limits now name params = .ok p ∧ r = client.request p.inquiry := by
  cases found : planned limits now name params with
  | error f => simp [handed_of_refused found]
  | ok p => simp [handed_of_planned found]

/-- Whether a request is put to the peer or comes back at once, the call ends in the same way. -/
theorem run_call_eq_handed (client : Client) (limits : PageLimits) (now : Time.Instant)
    (name : String) (params : Json) (peer : Nat → Http.Peer) (sent : Nat) :
    (call client limits now name params).run peer sent =
      let handed := (callThrough client.handOver limits now name params).run (Http.carrier peer) sent
      (handed.1, handed.2.filter Http.Request.isSendable) := by
  rw [call_eq_callThrough]
  cases found : planned limits now name params with
  | error f =>
    rw [handed_of_refused found, callThrough, found]
    rfl
  | ok p =>
    rw [handed_of_planned found, callThrough, found]
    change (p.carryOut client).run peer sent = _
    rw [run_carryOut]
    by_cases sendable : (client.request p.inquiry).isSendable = true
    · simp [sendable, Http.carrier]
    · simp [sendable, Http.carrier]

theorem planned_of_requested {peer : Nat → Http.Peer} {sent : Nat} {r : Http.Request}
    (among : r ∈ ((call client limits now name params).run peer sent).2) :
    ∃ p, planned limits now name params = .ok p ∧ r = client.request p.inquiry := by
  rw [run_call_eq_handed] at among
  exact mem_handed_iff.1 (List.mem_filter.1 among).1

/-- Whatever is called with whatever arguments, and however the backend replies: a call that ends in
a refusal has handed no request over, and any other call has handed over exactly one and ends in an
answer or in a report on this request. The requests that reach the backend are those of them that
can be sent. -/
theorem refusals_hand_nothing_over (client : Client) (limits : PageLimits) (now : Time.Instant)
    (name : String) (params : Json) (peer : Nat → Http.Peer) (sent : Nat) :
    let handed := (callThrough client.handOver limits now name params).run (Http.carrier peer) sent
    (call client limits now name params).run peer sent =
        (handed.1, handed.2.filter Http.Request.isSendable) ∧
      ((∃ f, handed.1 = .error f ∧ f.isRefusal = true) ∧ handed.2 = [] ∨
        ((∃ answer, handed.1 = .ok answer) ∨
            ∃ f, handed.1 = .error f ∧ f.isReport = true ∧ f.isRefusal = false) ∧
          ∃ r, handed.2 = [r]) := by
  intro handed
  refine ⟨run_call_eq_handed client limits now name params peer sent, ?_⟩
  cases found : planned limits now name params with
  | error f =>
    have refused : handed = (.error f, []) := handed_of_refused found _ sent
    have refusal := refuses_planned limits now name params f found
    rw [refused]
    exact .inl ⟨⟨f, rfl, refusal⟩, rfl⟩
  | ok p =>
    have done : handed = (_, [client.request p.inquiry]) := handed_of_planned found _ sent
    rw [done]
    refine .inr ⟨?_, _, rfl⟩
    cases replied : Client.outcome (Http.carrier peer sent (client.request p.inquiry)) with
    | ok answer => exact .inl ⟨_, rfl⟩
    | error f =>
      have report := Client.isReport_of_outcome replied
      exact .inr ⟨f, rfl, report, Fault.isRefusal_of_isReport report⟩

end Tool

end TelemetryGateway
