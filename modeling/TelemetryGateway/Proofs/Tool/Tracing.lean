import TelemetryGateway.Proofs.Tool.Paging
import TelemetryGateway.Proofs.Tool.Paths

set_option autoImplicit false

/-!
# How much of a trace is answered

The spans of a trace are asked for at once, in order of time, and as many as the largest page of a
listing holds. The answer is the reply of the backend under the id of the trace. So a longer trace is
cut after this many spans, and the answer is the same as for a trace that ends there.
-/

namespace TelemetryGateway

namespace Json

/-- A whole number. -/
def whole? : Json → Option Int
  | .num (.int n) => some n
  | _ => none

@[simp] theorem whole?_int (n : Int) : (Json.int n).whole? = some n := rfl

end Json

namespace Tool

open Backend (Client Inquiry)

/-! ### A backend that holds spans -/

/-- What a request for the spans of one trace asks for. -/
structure SpanQuery where
  trace : String
  window : Window
  limit : Nat

/-- The trace that a filter asks for and nothing else, if it does. -/
def traceAsked? (expression : String) : Option String :=
  match Filter.Term.read? expression with
  | some [.compare field .equal (.text id)] => if field = "trace_id" then some id else none
  | _ => none

/-- Reads a request for the spans of one trace in order of time, from the first one on. -/
def spansAsked? (r : Http.Request) : Option SpanQuery := do
  let (limit, offset) ← pageAsked? r
  let body ← r.body
  let start ← body.get? "start" >>= Json.whole?
  let stop ← body.get? "end" >>= Json.whole?
  let entry ← body.path? ["compositeQuery", "queries"] >>= Json.sole?
  let spec ← entry.get? "spec"
  let trace ← spec.path? ["filter", "expression"] >>= Json.string? >>= traceAsked?
  if offset = 0 ∧ spec.get? "signal" = some (.str "traces") ∧
      spec.get? "order" = some (.arr [.obj
        [("direction", .str "asc"), ("key", .obj [("name", .str "timestamp")])]]) then
    some ⟨trace, ⟨start, stop⟩, limit⟩
  else none

/-- A span as a backend holds it: the trace that it is of, when it began and what is shown of it. -/
structure Span where
  trace : String
  timestamp : Int
  row : Json

/-- The spans of a backend in order of time, and which times it counts into a window. -/
structure Store where
  spans : List Span
  ordered : spans.Pairwise fun s t => s.timestamp ≤ t.timestamp
  covers : Window → Int → Bool

namespace Store

/-- The whole trace. -/
def trace (s : Store) (id : String) : List Span := s.spans.filter fun span => span.trace = id

/-- The first spans of a trace within a window, as many as a limit says. -/
def first (s : Store) (q : SpanQuery) : List Span :=
  ((s.trace q.trace).filter fun span => s.covers q.window span.timestamp).take q.limit

/-- Whether a peer answers a request for the spans of a trace with the first ones that match. -/
def Tells (s : Store) (peer : Http.Peer) : Prop :=
  ∀ r q, spansAsked? r = some q → Brings (peer r) ((s.first q).map Span.row)

/-- Whether two peers reply alike to a request that they bring the same spans for. -/
def Alike (s t : Store) (peer other : Http.Peer) : Prop :=
  ∀ r q, spansAsked? r = some q → s.first q = t.first q → peer r = other r

theorem ordered_first (s : Store) (q : SpanQuery) :
    (s.first q).Pairwise fun s t => s.timestamp ≤ t.timestamp := by
  apply List.Pairwise.sublist _ s.ordered
  exact (List.take_sublist _ _).trans (List.filter_sublist.trans List.filter_sublist)

/-- The trace is whole exactly if it lies within the window and is no longer than the limit. -/
theorem first_eq_trace_iff (s : Store) (q : SpanQuery) :
    s.first q = s.trace q.trace ↔
      (∀ span ∈ s.trace q.trace, s.covers q.window span.timestamp = true) ∧
        (s.trace q.trace).length ≤ q.limit := by
  unfold first
  constructor
  · intro whole
    have lengths := congrArg List.length whole
    have kept := List.length_filter_le (fun span => s.covers q.window span.timestamp) (s.trace q.trace)
    rw [List.length_take] at lengths
    have all : ((s.trace q.trace).filter fun span => s.covers q.window span.timestamp).length =
        (s.trace q.trace).length := by
      omega
    exact ⟨List.length_filter_eq_length_iff.1 all, by omega⟩
  · rintro ⟨covered, bounded⟩
    rw [List.filter_eq_self.2 covered, List.take_of_length_le bounded]

theorem pageAsked?_of_spansAsked? {r : Http.Request} {q : SpanQuery} (asked : spansAsked? r = some q) :
    pageAsked? r = some (q.limit, 0) := by
  rcases Option.bind_eq_some_iff.1 asked with ⟨⟨limit, offset⟩, page, asked⟩
  rcases Option.bind_eq_some_iff.1 asked with ⟨body, -, asked⟩
  rcases Option.bind_eq_some_iff.1 asked with ⟨start, -, asked⟩
  rcases Option.bind_eq_some_iff.1 asked with ⟨stop, -, asked⟩
  rcases Option.bind_eq_some_iff.1 asked with ⟨entry, -, asked⟩
  rcases Option.bind_eq_some_iff.1 asked with ⟨spec, -, asked⟩
  rcases Option.bind_eq_some_iff.1 asked with ⟨trace, -, asked⟩
  rcases Option.ite_none_right_eq_some.1 asked with ⟨⟨first, -, -⟩, same⟩
  cases same
  rw [page, first]

/-- A peer that holds spans and nothing else. -/
def peer (s : Store) : Http.Peer := fun r =>
  match spansAsked? r with
  | some q => holding ((s.first q).map Span.row) r
  | none => .ok ⟨404, .none⟩

theorem tells_peer (s : Store) : s.Tells s.peer := by
  intro r q asked
  have brought : Brings (holding ((s.first q).map Span.row) r)
      ((((s.first q).map Span.row).drop 0).take q.limit) :=
    holds_holding _ r q.limit 0 (pageAsked?_of_spansAsked? asked)
  have few : ((s.first q).map Span.row).length ≤ q.limit := by
    rw [List.length_map]
    exact List.length_take_le _ _
  rw [List.drop_zero, List.take_of_length_le few] at brought
  rw [peer, asked]
  exact brought

theorem alike_peer (s t : Store) : s.Alike t s.peer t.peer := by
  intro r q asked same
  simp only [peer, asked, same]

end Store

/-! ### The request for a trace -/

theorem traceAsked?_equals (id : String) :
    traceAsked? (Filter.equals "trace_id" (.text id)).text = some id := by
  have wellFormed : ∀ t ∈ [Filter.Term.compare "trace_id" .equal (.text id)], t.WellFormed := by
    rw [List.forall_mem_singleton]
    exact ⟨by decide, by decide⟩
  have read := Filter.Term.read?_intercalate (List.cons_ne_nil _ _) wellFormed
  rw [List.map_singleton, String.intercalate_singleton] at read
  change Filter.Term.read? (Filter.equals "trace_id" (.text id)).text = _ at read
  rw [traceAsked?, read]
  dsimp only
  rw [if_pos rfl]

/-- The leg that asks for the spans of a trace. -/
def spansLeg (id : String) (limit : Nat) : Leg :=
  { Leg.named "A" .traces with
    filter := (Filter.equals "trace_id" (.text id)).expression?
    limit := some limit
    order := [⟨"timestamp", .asc⟩] }

/-- What a written leg says under a key. -/
theorem get?_spansLeg (id : String) (limit : Nat) (key : String) :
    (spansLeg id limit).encode.get? key = (spansLeg id limit).written? key :=
  Leg.get?_encode_of_plain rfl key

/-- The query for the spans of a trace. -/
def spansQuery (id : String) (w : Window) (limit : Nat) : Query :=
  .oldestFirst .traces w (Filter.equals "trace_id" (.text id)).expression? limit

theorem spansAsked?_spansQuery (client : Client) (id : String) (w : Window) (limit : Nat) :
    spansAsked? (client.request (.records (spansQuery id w limit))) = some ⟨id, w, limit⟩ := by
  have page : pageAsked? (client.request (.records (spansQuery id w limit))) = some (limit, 0) :=
    pageAsked?_records client (q := spansQuery id w limit) (l := spansLeg id limit) rfl rfl rfl rfl
  have body : (client.request (.records (spansQuery id w limit))).body =
      some (spansQuery id w limit).encode := rfl
  have start : (spansQuery id w limit).encode.get? "start" = some (.int w.start) :=
    Query.get?_encode _ _
  have stop : (spansQuery id w limit).encode.get? "end" = some (.int w.stop) :=
    Query.get?_encode _ _
  have entry : ((spansQuery id w limit).encode.path? ["compositeQuery", "queries"]).bind Json.sole? =
      some (Entry.leg (spansLeg id limit)).encode := by
    simp [Json.path?, Query.get?_encode, Query.written?, Query.encodeEntries, Json.sole?, spansQuery,
      Query.oldestFirst, Query.ofLegs, spansLeg]
  have spec : (Entry.leg (spansLeg id limit)).encode.get? "spec" =
      some (spansLeg id limit).encode := rfl
  have written : (spansLeg id limit).encode.get? "filter" =
      some (.obj [("expression", .str (Filter.equals "trace_id" (.text id)).text)]) :=
    get?_spansLeg id limit _
  have filter : ((spansLeg id limit).encode.path? ["filter", "expression"]).bind Json.string? =
      some (Filter.equals "trace_id" (.text id)).text := by
    rw [Json.path?, List.foldlM_cons, written]
    rfl
  have signal : (spansLeg id limit).encode.get? "signal" = some (.str "traces") :=
    get?_spansLeg id limit _
  have order : (spansLeg id limit).encode.get? "order" = some (.arr [.obj
      [("direction", .str "asc"), ("key", .obj [("name", .str "timestamp")])]]) :=
    get?_spansLeg id limit _
  simp only [spansAsked?, page, body, start, stop, entry, spec, filter, signal, order,
    Option.bind_eq_bind, Option.bind_some, Json.whole?_int, traceAsked?_equals]
  exact if_pos ⟨trivial, trivial, trivial⟩

/-! ### Calls for a trace -/

theorem isPlain_of_isHexDigit {c : Char} (digit : Backend.Uuid.isHexDigit c = true) :
    Text.isPlain c = true := by
  have all : ∀ n < 128, Backend.Uuid.isHexDigit (Char.ofNat n) = true →
      Text.isPlain (Char.ofNat n) = true := by
    decide
  have ascii : c.toNat < 128 := Backend.Uuid.ascii_of_isHexDigit digit
  rw [← Char.ofNat_toNat c] at digit ⊢
  exact all c.toNat ascii digit

/-- What is planned for a trace over a window. -/
def spansPlan (id : String) (w : Window) (limit : Nat) : Plan :=
  ⟨.records (spansQuery id w limit), fun answer => .obj [("result", answer), ("traceId", .str id)]⟩

section Planned

variable {limits : PageLimits} {now : Time.Instant} {params : Json} {a : TraceChoice}
  {given id : String} {p : Plan}

/-- Where a trace is named, only the window can be wrong. -/
theorem planTrace_eq_ok_iff (read : arguments TraceChoice.decode params = .ok a)
    (named : a.traceId = some given) (spelled : Text.lowerAscii (Text.trim given) = id)
    (hex : id.toList.all Backend.Uuid.isHexDigit = true) :
    planTrace limits now params = .ok p ↔
      ∃ w, a.window.resolve .milliseconds (Time.hours 24) now = .ok w ∧
        (w.start ≠ 0 ∧ w.stop ≠ 0) ∧ spansPlan id w limits.maximum = p := by
  have plain : id.toList.all Text.isPlain = true := by
    rw [List.all_eq_true] at hex ⊢
    intro c among
    exact isPlain_of_isHexDigit (hex c among)
  have lowered : Text.lower (Text.trim given) = id := (Text.lower_eq_iff plain).2 spelled
  have needed : need a.traceId "traceId" ArgumentFault.sampleTraceId = .ok given := by
    rw [named]
    rfl
  rw [planTrace, read, ok_bind, needed, ok_bind]
  dsimp only
  rw [lowered, if_neg (by simp only [hex, Bool.not_true, Bool.false_eq_true, not_false_eq_true])]
  constructor
  · intro planned
    rcases bind_eq_ok.1 planned with ⟨w, resolved, planned⟩
    rcases bind_eq_ok.1 planned with ⟨query, finished, planned⟩
    rw [Query.finished_oldestFirst (.inr rfl)] at finished
    rcases Window.accept_eq_ok_iff.1 finished with ⟨bounds, rfl⟩
    rcases pure_eq_ok.1 planned
    exact ⟨w, resolved, bounds, rfl⟩
  · rintro ⟨w, resolved, bounds, rfl⟩
    have records : Signal.traces.HasRecords := .inr rfl
    have finished := (Query.finished_oldestFirst records w
      (Filter.equals "trace_id" (.text id)).expression? limits.maximum).trans
        (Window.accept_eq_ok_iff.2 ⟨bounds, rfl⟩)
    rw [resolved, ok_bind, finished]
    rfl

/-- What a call that is planned makes of the reply to its request. -/
theorem run_of_planTrace {client : Client} (presentable : client.Presentable) {w : Window}
    (planned : planTrace limits now params = .ok (spansPlan id w limits.maximum))
    (peer : Nat → Http.Peer) (sent : Nat) :
    ((call client limits now traceDetails.name params).run peer sent).1 =
      (Client.outcome (peer sent (client.request (.records (spansQuery id w limits.maximum))))).map
        (spansPlan id w limits.maximum).answer := by
  have found : Tool.planned limits now traceDetails.name params =
      .ok (spansPlan id w limits.maximum) :=
    (planned_name traceDetails limits now params).trans planned
  rw [run_call presentable, found]
  rfl

end Planned

/-- A call for a trace that is named in any letter case, with white space around it, succeeds over
every window with bounds. The answer holds the first spans of the trace within the window in order of
time, as many as the largest page has, so it is whole exactly if the trace lies within the window and
is no longer. It says nothing about what it leaves out: every other trace that begins with the same
spans is answered in the same way. -/
theorem trace_answered_up_to_maximum (store : Store) (client : Client)
    (presentable : client.Presentable) (limits : PageLimits) (now : Time.Instant) (params : Json)
    (a : TraceChoice) (read : arguments TraceChoice.decode params = .ok a) (given id : String)
    (named : a.traceId = some given) (spelled : Text.lowerAscii (Text.trim given) = id)
    (hex : id.toList.all Backend.Uuid.isHexDigit = true) (peer : Nat → Http.Peer) (sent : Nat)
    (tells : store.Tells (peer sent)) :
    let asked := call client limits now traceDetails.name params
    ((∃ answer, (asked.run peer sent).1 = .ok answer) ↔
        ∃ w, a.window.resolve .milliseconds (Time.hours 24) now = .ok w ∧ w.start ≠ 0 ∧ w.stop ≠ 0) ∧
      ∀ answer, (asked.run peer sent).1 = .ok answer →
        ∃ w spans, a.window.resolve .milliseconds (Time.hours 24) now = .ok w ∧
          spans = store.first ⟨id, w, limits.maximum⟩ ∧
          spans.Pairwise (fun s t => s.timestamp ≤ t.timestamp) ∧
          answer.get? "traceId" = some (.str id) ∧
          rowsOf (answer.field "result") = spans.map Span.row ∧
          (spans = store.trace id ↔
            (∀ span ∈ store.trace id, store.covers w span.timestamp = true) ∧
              (store.trace id).length ≤ limits.maximum) ∧
          ∀ (other : Store) (peer' : Nat → Http.Peer), store.Alike other (peer sent) (peer' sent) →
            spans = other.first ⟨id, w, limits.maximum⟩ → (asked.run peer' sent).1 = .ok answer := by
  intro asked
  have planned_iff (p : Plan) : planTrace limits now params = .ok p ↔
      ∃ w, a.window.resolve .milliseconds (Time.hours 24) now = .ok w ∧
        (w.start ≠ 0 ∧ w.stop ≠ 0) ∧ spansPlan id w limits.maximum = p :=
    planTrace_eq_ok_iff read named spelled hex
  -- a call that is answered has a window, and what it answers is the reply to its one request
  have windowed (answer : Json) (answered : (asked.run peer sent).1 = .ok answer) :
      ∃ w, a.window.resolve .milliseconds (Time.hours 24) now = .ok w ∧ w.start ≠ 0 ∧ w.stop ≠ 0 := by
    rcases planned_of_answered answered with ⟨p, -, planned, -, -⟩
    rw [planned_name] at planned
    rcases (planned_iff p).1 planned with ⟨w, resolved, bounds, -⟩
    exact ⟨w, resolved, bounds⟩
  have ran (w : Window) (resolved : a.window.resolve .milliseconds (Time.hours 24) now = .ok w)
      (bounds : w.start ≠ 0 ∧ w.stop ≠ 0) (peer : Nat → Http.Peer) :=
    run_of_planTrace presentable ((planned_iff _).2 ⟨w, resolved, bounds, rfl⟩) peer sent
  have told (w : Window) := (tells _ _ (spansAsked?_spansQuery client id w limits.maximum)).outcome
  constructor
  · constructor
    · rintro ⟨answer, answered⟩
      exact windowed answer answered
    · rintro ⟨w, resolved, bounds⟩
      rcases told w with ⟨reply, replied, -⟩
      refine ⟨(spansPlan id w limits.maximum).answer reply, ?_⟩
      rw [ran w resolved bounds peer, replied]
      rfl
  · intro answer answered
    rcases windowed answer answered with ⟨w, resolved, bounds⟩
    rcases told w with ⟨reply, replied, rows⟩
    rw [ran w resolved bounds peer, replied] at answered
    cases answered
    refine ⟨w, _, resolved, rfl, store.ordered_first _, rfl, rows, store.first_eq_trace_iff _, ?_⟩
    intro other peer' alike same
    rw [ran w resolved bounds peer',
      ← alike _ _ (spansAsked?_spansQuery client id w limits.maximum) same, replied]
    rfl

/-- A backend that holds spans of a trace at a time of its own each, and one of another trace. -/
def storeOf (times : List Int) (ordered : (0 :: times).Pairwise (· ≤ ·)) : Store where
  spans := ⟨"beef", 0, .str "other"⟩ :: times.map fun t => ⟨"0af7", t, .int t⟩
  ordered := by
    have shown : (⟨"beef", 0, .str "other"⟩ :: times.map fun t => (⟨"0af7", t, .int t⟩ : Span)).map
        Span.timestamp = 0 :: times := by
      simp [Function.comp_def]
    rw [← shown] at ordered
    exact List.pairwise_map.1 ordered
  covers w t := w.start ≤ t && t ≤ w.stop

/-- Of two spans one is answered where a page holds no more, as if it were the only one. -/
theorem second_span_left_out :
    let client : Client := ⟨"http://backend", "KEY", none⟩
    let params : Json := .obj [("end", .int 20), ("start", .int 10), ("traceId", .str " 0AF7\t")]
    let asked := call client ⟨50, 1⟩ 1714564800000000000 traceDetails.name params
    let long := storeOf [12, 15] (by decide)
    let short := storeOf [12] (by decide)
    Text.lowerAscii (Text.trim " 0AF7\t") = "0af7" ∧ (long.trace "0af7").length = 2 ∧
      ∃ answer, (asked.run (fun _ => long.peer) 0).1 = .ok answer ∧
        rowsOf (answer.field "result") = [.int 12] ∧
        (asked.run (fun _ => short.peer) 0).1 = .ok answer := by
  intro client params asked long short
  have presentable : client.Presentable := by
    rintro key ⟨⟩
  have spelled : Text.lowerAscii (Text.trim " 0AF7\t") = "0af7" := by decide
  rcases trace_answered_up_to_maximum long client presentable ⟨50, 1⟩ 1714564800000000000 params
    ⟨some " 0AF7\t", ⟨none, some "10", some "20"⟩⟩ rfl " 0AF7\t" "0af7" rfl spelled (by decide)
    (fun _ => long.peer) 0 long.tells_peer with ⟨succeeds, told⟩
  rcases succeeds.2 ⟨⟨10, 20⟩, rfl, by decide, by decide⟩ with ⟨answer, answered⟩
  rcases told answer answered with ⟨w, spans, resolved, cut, -, -, rows, -, same⟩
  have window : w = ⟨10, 20⟩ := Except.ok.inj resolved.symm
  rw [window] at cut same
  refine ⟨spelled, rfl, answer, answered, ?_, ?_⟩
  · rw [rows, cut]
    rfl
  · exact same short (fun _ => short.peer) (long.alike_peer short) (cut.trans rfl)

end Tool

end TelemetryGateway
