import TelemetryGateway.Proofs.Summary.Grouping
import TelemetryGateway.Proofs.Tool.Measuring

set_option autoImplicit false

/-!
# By which names results are grouped

A summary and a series can be grouped by names, which stand in one argument as a list. The queries for
both carry the names that are read from the list, one field for each.
-/

namespace TelemetryGateway

open Backend (Client)

/-- Whether a body asks by its one leg for groups by these names, in this order, and by no others. -/
def GroupedBy (body : Json) (names : List String) : Prop :=
  ∃ leg, AsksBy body leg ∧
    (leg.get? "groupBy").getD (.arr []) = .arr (names.map fun name => .obj [("name", .str name)])

theorem Summary.groupedBy_query (s : Summary) : GroupedBy s.query.encode s.groups :=
  ⟨s.leg.encode, rfl, Leg.groups_of_named rfl rfl⟩

theorem Query.groupedBy_ofMetric (w : Window) (choice : MetricChoice) :
    GroupedBy (ofMetric w choice).encode choice.groups :=
  ⟨choice.leg.encode, asksBy_ofMetric w choice, Leg.groups_of_named rfl rfl⟩

theorem Summary.groupedBy_of_compile {a : SummaryChoice} {signal : Signal} {preset : Option String}
    {now : Time.Instant} {s : Summary} (compiled : compile a signal preset now = .ok s) :
    GroupedBy s.query.encode (parseGroups a.groups) := by
  rw [← (compile_eq_ok_iff.1 compiled).groups_eq]
  exact s.groupedBy_query

namespace Tool

variable {client : Client} {limits : PageLimits} {now : Time.Instant} {params : Json}
  {peer : Nat → Http.Peer} {sent : Nat} {r : Http.Request}

theorem groupedBy_of_summarized {t : Tool} {signal : Signal} (summarizes : t.summarized? = some signal)
    (among : r ∈ ((call client limits now t.name params).run peer sent).2) :
    ∃ a body, arguments SummaryChoice.decode params = .ok a ∧ r.body = some body ∧
      GroupedBy body (Summary.parseGroups a.groups) := by
  rcases planned_of_requested among with ⟨p, planned, rfl⟩
  rw [planned_of_summarized summarizes] at planned
  rcases bind_eq_ok.1 planned with ⟨a, read, planned⟩
  rcases bind_eq_ok.1 planned with ⟨s, compiled, planned⟩
  rcases bind_eq_ok.1 planned with ⟨q, finished, planned⟩
  rcases pure_eq_ok.1 planned
  have records : s.signal.HasRecords := by
    rw [(Summary.compile_eq_ok_iff.1 compiled).signal_eq]
    exact hasRecords_of_summarized summarizes
  rw [← Summary.query_of_finished records finished]
  exact ⟨a, s.query.encode, read, rfl, Summary.groupedBy_of_compile compiled⟩

theorem groupedBy_of_measured
    (among : r ∈ ((call client limits now queryMetrics.name params).run peer sent).2) :
    ∃ a body, arguments MetricsChoice.decode params = .ok a ∧ r.body = some body ∧
      GroupedBy body (Summary.parseGroups a.groups) := by
  rcases planned_of_requested among with ⟨p, planned, rfl⟩
  rw [planned_name] at planned
  rcases series_of_planned planned with ⟨a, given, w, choice, read, -, -, groups, rfl⟩
  refine ⟨a, (Query.ofMetric w choice).encode, read, rfl, ?_⟩
  rw [← groups]
  exact Query.groupedBy_ofMetric w choice

/-- What is read from a list are the names that it holds, in their order and as often as they stand
there, and each is filled, trimmed and without a comma. So names that are written as a list, with
white space about them and nothing between some commas, are read again, and so are those that were
read and joined by commas. The queries of summaries and series ask for groups by exactly these. -/
theorem groups_read_and_asked_for :
    (∀ given names, Summary.parseGroups (some given) = names ↔ Summary.Lists given names) ∧
    Summary.parseGroups none = [] ∧
    (∀ given, ∀ name ∈ Summary.parseGroups given, Summary.IsName name) ∧
    (∀ names, (∀ name ∈ names, Summary.IsName name) →
      Summary.parseGroups (some (String.intercalate "," names)) = names) ∧
    (∀ given, Summary.parseGroups (some (String.intercalate "," (Summary.parseGroups given))) =
      Summary.parseGroups given) ∧
    (∀ a signal preset now s, Summary.compile a signal preset now = .ok s →
      GroupedBy s.query.encode (Summary.parseGroups a.groups)) ∧
    (∀ (t : Tool) (signal : Signal), t.summarized? = some signal →
      ∀ (client : Client) limits now params peer sent,
        ∀ r ∈ ((call client limits now t.name params).run peer sent).2,
          ∃ a body, arguments SummaryChoice.decode params = .ok a ∧ r.body = some body ∧
            GroupedBy body (Summary.parseGroups a.groups)) ∧
    ∀ (client : Client) limits now params peer sent,
      ∀ r ∈ ((call client limits now queryMetrics.name params).run peer sent).2,
        ∃ a body, arguments MetricsChoice.decode params = .ok a ∧ r.body = some body ∧
          GroupedBy body (Summary.parseGroups a.groups) := by
  have joined (names : List String) (areNames : ∀ name ∈ names, Summary.IsName name) :
      Summary.parseGroups (some (String.intercalate "," names)) = names :=
    Summary.parseGroups_eq_iff.2 (Summary.lists_intercalate areNames)
  refine ⟨fun given names => Summary.parseGroups_eq_iff, rfl, ?isName, joined, ?again, ?compiled,
    ?summarized, ?measured⟩
  case isName =>
    intro given name among
    exact Summary.isName_of_mem_parseGroups among
  case again =>
    intro given
    exact joined _ fun name among => Summary.isName_of_mem_parseGroups among
  case compiled =>
    intro a signal preset now s compiled
    exact Summary.groupedBy_of_compile compiled
  case summarized =>
    intro t signal summarizes client limits now params peer sent r among
    exact groupedBy_of_summarized summarizes among
  case measured =>
    intro client limits now params peer sent r among
    exact groupedBy_of_measured among

/-- A list that holds one name twice, white space of several kinds and nothing between two commas. -/
theorem spaced_names_asked_for :
    let given := "\u2003a.b ,, größe,a.b\t, "
    let names := ["a.b", "größe", "a.b"]
    let counts : SummaryChoice :=
      { SummaryChoice.empty with
        verb := some "count", groups := some given, window := ⟨none, some "1", some "2"⟩ }
    let client : Client := ⟨"http://backend", "KEY", none⟩
    let requests (t : Tool) :=
      ((call client .standard 0 t.name (.obj [("aggregation", .str "count"), ("end", .int 2),
        ("groupBy", .str given), ("metricName", .str "up"), ("start", .int 1)])).run
          (fun _ _ => .ok ⟨200, .ofJson .null⟩) 0).2
    Summary.parseGroups (some given) = names ∧
      Summary.parseGroups (some (String.intercalate "," names)) = names ∧
      (∃ s, Summary.compile counts .logs none 0 = .ok s ∧ GroupedBy s.query.encode names) ∧
      ∀ t ∈ [summarizeTraces, queryMetrics],
        ∃ r ∈ requests t, ∃ body, r.body = some body ∧ GroupedBy body names := by
  intro given names counts client requests
  rcases groups_read_and_asked_for with ⟨-, -, isName, joined, -, compiled, summarized, measured⟩
  have read : Summary.parseGroups (some given) = names := by decide +kernel
  have areNames : ∀ name ∈ names, Summary.IsName name := by
    rw [← read]
    exact isName (some given)
  refine ⟨read, joined names areNames, ?_, ?_⟩
  · rcases (⟨_, rfl⟩ : ∃ s, Summary.compile counts .logs none 0 = .ok s) with ⟨s, done⟩
    have grouped := compiled counts .logs none 0 s done
    rw [read] at grouped
    exact ⟨s, done, grouped⟩
  · have posted (t : Tool) (among : t ∈ [summarizeTraces, queryMetrics]) :
        ∃ r, r ∈ requests t := by
      simp only [List.mem_cons, List.not_mem_nil, or_false] at among
      rcases among with rfl | rfl
      · exact ⟨_, List.mem_singleton_self _⟩
      · exact ⟨_, List.mem_singleton_self _⟩
    rw [List.forall_mem_cons, List.forall_mem_singleton]
    constructor
    · rcases posted summarizeTraces (by simp) with ⟨r, among⟩
      rcases summarized summarizeTraces .traces rfl client .standard 0 _ _ 0 r among with
        ⟨a, body, decoded, holds, grouped⟩
      have listed : a.groups = some given := by
        cases decoded
        decide +kernel
      rw [listed, read] at grouped
      exact ⟨r, among, body, holds, grouped⟩
    · rcases posted queryMetrics (by simp) with ⟨r, among⟩
      rcases measured client .standard 0 _ _ 0 r among with ⟨a, body, decoded, holds, grouped⟩
      have listed : a.groups = some given := by
        cases decoded
        decide +kernel
      rw [listed, read] at grouped
      exact ⟨r, among, body, holds, grouped⟩

end Tool

end TelemetryGateway
