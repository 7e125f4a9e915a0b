import TelemetryGateway.Proofs.Tool.Searching

set_option autoImplicit false

/-!
# Paging through a search

The backend sends a page of records and not how many there are, so an answer promises another page
where its own is full. Following these promises from the first page on visits every record once. The
last page is empty where the limit divides the number of records.
-/

namespace TelemetryGateway

namespace Json

/-- A whole number that is not negative. -/
def count? : Json → Option Nat
  | .num (.int (.ofNat n)) => some n
  | _ => none

@[simp] theorem count?_nat (n : Nat) : (Json.nat n).count? = some n := rfl

/-- The item of a list of one. -/
def sole? : Json → Option Json
  | .arr [item] => some item
  | _ => none

end Json

namespace Tool

open Backend (Client Inquiry)

/-! ### A backend that holds rows -/

/-- Limit and offset of a request for the records of a single leg. No offset is zero. -/
def pageAsked? (r : Http.Request) : Option (Nat × Nat) := do
  let body ← r.body
  let entry ← body.path? ["compositeQuery", "queries"] >>= Json.sole?
  let spec ← entry.get? "spec"
  let limit ← spec.get? "limit" >>= Json.count?
  let offset ← ((spec.get? "offset").getD (.nat 0)).count?
  if r.method = .post ∧ r.path = Inquiry.queryPath ∧
      body.get? "requestType" = some (.str "raw") ∧ entry.get? "type" = some (.str "builder_query") then
    some (limit, offset)
  else none

theorem pageAsked?_records (client : Client) {q : Query} {l : Leg} (single : q.entries = [.leg l])
    (raw : q.shape = some .raw) (plain : l.extra = []) {limit : Nat} (bounded : l.limit = some limit) :
    pageAsked? (client.request (.records q)) = some (limit, l.offset.getD 0) := by
  have body : (client.request (.records q)).body = some q.encode := rfl
  have entry : (q.encode.path? ["compositeQuery", "queries"]).bind Json.sole? =
      some (Entry.leg l).encode := by
    simp [Json.path?, q.get?_encode, Query.written?, Query.encodeEntries, single, Json.sole?]
  have spec : (Entry.leg l).encode.get? "spec" = some l.encode := rfl
  have limited : (l.encode.get? "limit").bind Json.count? = some limit := by
    simp [Leg.get?_encode_of_plain plain, Leg.written?, bounded]
  have offset : ((l.encode.get? "offset").getD (.nat 0)).count? = some (l.offset.getD 0) := by
    rw [Leg.get?_encode_of_plain plain, Leg.written?]
    cases l.offset with
    | none => rfl
    | some n => rfl
  have shape : q.encode.get? "requestType" = some (.str "raw") := by
    rw [q.get?_encode, Query.written?, raw]
    rfl
  simp only [pageAsked?, body, entry, spec, limited, offset, Option.bind_eq_bind,
    Option.bind_some]
  exact if_pos ⟨rfl, rfl, shape, rfl⟩

theorem pageAsked?_newestFirst (client : Client) (signal : Signal) (w : Window)
    (filter : Option String) (limit offset : Nat) :
    pageAsked? (client.request (.records (.newestFirst signal w filter limit offset))) =
      some (limit, offset) := by
  have written : (if 0 < offset then some offset else none).getD 0 = offset := by
    split
    · rfl
    · simp only [Option.getD_none]
      omega
  rw [pageAsked?_records client rfl rfl rfl rfl]
  exact congrArg (fun o => some (limit, o)) written

/-- Whether an exchange brings rows, in one result set. -/
def Brings (exchange : Http.Exchange) (rows : List Json) : Prop :=
  ∃ reply answer set, exchange = .ok reply ∧ reply.isSuccess = true ∧
    Text.isBlank reply.body.text = false ∧ reply.body.value = some answer ∧
    answer.path? ["data", "data", "results"] = some (.arr [set]) ∧
    set.get? "rows" = some (.arr rows)

theorem Brings.outcome {exchange : Http.Exchange} {rows : List Json} (brings : Brings exchange rows) :
    ∃ answer, Client.outcome exchange = .ok answer ∧ rowsOf answer = rows := by
  rcases brings with ⟨reply, answer, set, replied, success, filled, value, results, page⟩
  refine ⟨answer, ?_, ?_⟩
  · rw [replied]
    simp [Client.outcome, success, filled, value]
  · simp [rowsOf, resultSets, results, page]

/-- Whether a peer answers a request for a page of records with this page of its rows. -/
def Holds (rows : List Json) (peer : Http.Peer) : Prop :=
  ∀ r limit offset, pageAsked? r = some (limit, offset) →
    Brings (peer r) ((rows.drop offset).take limit)

/-- A peer that holds rows and nothing else. -/
def holding (rows : List Json) : Http.Peer := fun r =>
  match pageAsked? r with
  | some (limit, offset) =>
    let set := Json.obj [("queryName", .str "A"), ("rows", .arr ((rows.drop offset).take limit))]
    .ok ⟨200, .ofJson (.obj
      [("data", .obj [("data", .obj [("results", .arr [set])]), ("type", .str "raw")]),
        ("status", .str "success")])⟩
  | none => .ok ⟨404, .none⟩

theorem isBlank_compact_obj (members : Members) : Text.isBlank (Json.obj members).compact = false := by
  have brace : Text.isBlankChar '\x7b' = false := by decide
  simp [Json.compact, Json.sorted, Json.compactText, Text.isBlank, brace]

theorem holds_holding (rows : List Json) : Holds rows (holding rows) := by
  intro r limit offset asked
  rw [holding, asked]
  exact ⟨_, _, _, rfl, rfl, isBlank_compact_obj _, rfl, rfl, rfl⟩

/-! ### Calls that differ in their offset -/

/-- A search that is called again and again from one offset or another. How the offset is written,
the clock and the backend may be other ones at each call. -/
structure Search where
  client : Client
  limits : PageLimits
  tool : Tool
  /-- The arguments that stay. -/
  given : Members
  written : Nat → Int → Option Json
  now : Nat → Time.Instant
  peer : Nat → Http.Peer

/-- A request that was sent and the answer that was given. -/
structure Turn where
  request : Http.Request
  answer : Json

/-- The rows that the caller receives. -/
def Turn.rows (t : Turn) : List Json := rowsOf (t.answer.field "result")

/-- Whether an answer tells how many rows came with it, and which page and which window the request
asked for. -/
structure Turn.Truthful (t : Turn) : Prop where
  returned : t.answer.get? "returned" = some (.nat t.rows.length)
  page : ∃ limit offset, pageAsked? t.request = some (limit, offset) ∧
    t.answer.get? "limit" = some (.nat limit) ∧ t.answer.get? "offset" = some (.nat offset)
  window : ∃ body start stop, t.request.body = some body ∧ body.get? "start" = some start ∧
    body.get? "end" = some stop ∧
    t.answer.get? "window" = some (.obj [("end", stop), ("start", start)])

namespace Search

variable {s : Search}

def params (s : Search) (number : Nat) (offset : Int) : Json :=
  .obj (s.given.withOffset (s.written number offset))

/-- The outcome of a call and the requests it sends. -/
def ask (s : Search) (number : Nat) (offset : Int) : Except Fault Json × List Http.Request :=
  (call s.client s.limits (s.now number) s.tool.name (s.params number offset)).run s.peer number

/-- The calls that are made when each next offset is followed as long as there is more. -/
inductive Pages (s : Search) : Nat → Int → List Turn → Prop
  | last {number : Nat} {offset : Int} {t : Turn} :
      s.ask number offset = (.ok t.answer, [t.request]) →
      t.answer.get? "hasMore" = some (.bool false) → Pages s number offset [t]
  | more {number : Nat} {offset next : Int} {t : Turn} {turns : List Turn} :
      s.ask number offset = (.ok t.answer, [t.request]) →
      t.answer.get? "hasMore" = some (.bool true) →
      t.answer.get? "nextOffset" = some (.int next) → Pages s (number + 1) next turns →
      Pages s number offset (t :: turns)

theorem turn_unique {number : Nat} {offset : Int} {t u : Turn}
    (asked : s.ask number offset = (.ok t.answer, [t.request]))
    (again : s.ask number offset = (.ok u.answer, [u.request])) : u = t := by
  rw [asked, Prod.mk.injEq, Except.ok.injEq, List.cons.injEq] at again
  obtain ⟨answer, request, -⟩ := again
  cases t
  cases u
  simp_all

/-- There is at most one way to page. -/
theorem Pages.unique {number : Nat} {offset : Int} {turns others : List Turn}
    (paged : s.Pages number offset turns) (other : s.Pages number offset others) :
    others = turns := by
  induction paged generalizing others with
  | last asked done =>
    cases other with
    | last again _ => rw [turn_unique asked again]
    | more again promised _ _ =>
      rw [turn_unique asked again, done] at promised
      exact absurd promised (by simp)
  | more asked promised next _ ih =>
    cases other with
    | last again done =>
      rw [turn_unique asked again, promised] at done
      exact absurd done (by simp)
    | more again _ same rest =>
      obtain rfl := turn_unique asked again
      rw [next, Option.some.injEq, Json.int, Json.int, Json.num.injEq, Numeral.int.injEq] at same
      obtain rfl := same
      rw [ih rest]

/-- Whether the calls of a search ask for the same records by pages of a limit. -/
structure Asks (s : Search) (signal : Signal) (choice : SearchChoice) (limit : Nat) : Prop where
  searches : s.tool.searched? = some signal
  presentable : s.client.Presentable
  free : ∀ m ∈ s.given, m.1 ≠ "offset"
  read : SearchChoice.decode (.obj s.given) = .ok choice
  offset : ∀ number n, 0 ≤ n → Text.FitsInt64 n →
    Argument.integerOrZero ((s.written number n).getD .null) = .ok n
  chosen : choice.page.chosenLimit s.limits = limit
  bounded : limit ≤ s.limits.maximum
  window : ∀ number, ∃ w, choice.window.resolve .milliseconds (Time.hours 1) (s.now number) = .ok w ∧
    w.start ≠ 0 ∧ w.stop ≠ 0
  filter : ∃ f, choice.filter.build signal none = .ok f

section Call

variable {signal : Signal} {choice : SearchChoice} {limit : Nat} {rows : List Json}

/-- What a call sends, and the answer that it makes of the reply. -/
theorem Asks.ask_eq (h : s.Asks signal choice limit) (limitFits : Text.FitsInt64 limit)
    (number : Nat) {offset : Nat} (fits : Text.FitsInt64 offset) :
    ∃ w expression,
      let r := s.client.request (.records (.newestFirst signal w expression limit offset))
      s.ask number offset =
        ((Client.outcome (s.peer number r)).map (searchAnswer w offset limit), [r]) := by
  obtain ⟨w, resolved, start, stop⟩ := h.window number
  obtain ⟨f, built⟩ := h.filter
  have written := h.offset number offset (Int.natCast_nonneg offset) fits
  obtain ⟨place, same, read⟩ := SearchChoice.decode_withOffset h.free h.read written
  have paged : (choice.page.startingAt place).resolve s.limits = .ok ((offset : Int), (limit : Int)) := by
    rw [← same]
    exact PageChoice.resolve_startingAt h.chosen (Int.ofNat_le.2 h.bounded) limitFits.2
      (same ▸ Int.natCast_nonneg offset)
  have decoded : arguments SearchChoice.decode (s.params number offset) =
      .ok { choice with page := choice.page.startingAt place } := mapError_eq_ok.2 read
  have plan := planSearch_eq_ok (hasRecords_of_searched h.searches) decoded paged resolved start
    stop built
  refine ⟨w, f.expression?, ?_⟩
  rw [ask, run_call h.presentable, planned_of_searched h.searches, plan]

/-- What one call of a search yields where the backend holds rows. -/
structure Step (s : Search) (rows : List Json) (limit number offset : Nat) (t : Turn) : Prop where
  asked : s.ask number offset = (.ok t.answer, [t.request])
  received : t.rows = (rows.drop offset).take limit
  truthful : t.Truthful
  hasMore : t.answer.get? "hasMore" = some (.bool (offset + limit ≤ rows.length))
  next : offset + limit ≤ rows.length →
    t.answer.get? "nextOffset" = some (.int (offset + limit : Nat))

theorem truthful_searchAnswer (client : Client) (signal : Signal) (w : Window)
    (expression : Option String) (limit offset : Nat) (reply : Json) :
    Turn.Truthful ⟨client.request (.records (.newestFirst signal w expression limit offset)),
      searchAnswer w offset limit reply⟩ where
  returned := by
    rw [Turn.rows, field_searchAnswer_result]
    exact get?_searchAnswer w offset limit reply (by decide)
  page := ⟨limit, offset, pageAsked?_newestFirst client signal w expression limit offset,
    get?_searchAnswer w offset limit reply (by decide),
    get?_searchAnswer w offset limit reply (by decide)⟩
  window := ⟨_, _, _, rfl, Query.get?_encode _ "start", Query.get?_encode _ "end",
    get?_searchAnswer w offset limit reply (by decide)⟩

theorem Asks.exists_step (h : s.Asks signal choice limit) (positive : 1 ≤ limit)
    (held : ∀ number, Holds rows (s.peer number)) (counted : Text.FitsInt64 (rows.length + limit : Nat))
    (number : Nat) {offset : Nat} (inside : offset ≤ rows.length) :
    ∃ t, s.Step rows limit number offset t := by
  have limitFits : Text.FitsInt64 limit := Text.fitsInt64_of_le (by omega) counted
  have offsetFits : Text.FitsInt64 offset := Text.fitsInt64_of_le (by omega) counted
  obtain ⟨w, expression, asked⟩ := h.ask_eq limitFits number offsetFits
  have page := pageAsked?_newestFirst s.client signal w expression limit offset
  obtain ⟨reply, answered, sent⟩ := (held number _ _ _ page).outcome
  dsimp only at asked
  rw [answered] at asked
  -- the page is full exactly where the rows reach beyond it or end with it
  have full : limit ≤ (rowsOf reply).length ↔ offset + limit ≤ rows.length := by
    rw [sent, List.length_take, List.length_drop]
    omega
  refine ⟨⟨_, searchAnswer w offset limit reply⟩, asked, ?_, ?_, ?_, ?_⟩
  · rw [Turn.rows, field_searchAnswer_result, sent]
  · exact truthful_searchAnswer s.client signal w expression limit offset reply
  · rw [get?_searchAnswer w offset limit reply (by decide)]
    simp [full]
  · intro more
    have within : Text.FitsInt64 ((offset + limit : Nat) : Int) := Text.fitsInt64_of_le (by omega) counted
    rw [get?_searchAnswer_nextOffset w offset limit reply (Int.ofNat_le.2 (full.2 more)),
      addWrapping_eq within]
    rfl

/-- The induction is on the rows that remain: a full page takes as many of them as the limit says,
and the first page that is not full ends the run. -/
theorem Asks.exists_pages (h : s.Asks signal choice limit) (positive : 1 ≤ limit)
    (held : ∀ number, Holds rows (s.peer number)) (counted : Text.FitsInt64 (rows.length + limit : Nat))
    (number : Nat) {offset : Nat} (inside : offset ≤ rows.length) :
    ∃ turns, s.Pages number offset turns ∧
      turns.length = (rows.length - offset) / limit + 1 ∧
      turns.flatMap Turn.rows = rows.drop offset ∧ ∀ t ∈ turns, t.Truthful := by
  induction remaining : rows.length - offset using Nat.strongRecOn generalizing number offset with
  | _ remaining ih =>
    subst remaining
    obtain ⟨t, step⟩ := h.exists_step positive held counted number inside
    by_cases more : offset + limit ≤ rows.length
    · obtain ⟨turns, paged, count, received, truthful⟩ :=
        ih (rows.length - (offset + limit)) (by omega) (number + 1) more rfl
      have promised : t.answer.get? "hasMore" = some (.bool true) := by
        simpa [more] using step.hasMore
      refine ⟨t :: turns, .more step.asked promised (step.next more) paged, ?_, ?_, ?_⟩
      · have needed : (rows.length - offset) / limit = (rows.length - offset - limit) / limit + 1 :=
          Nat.div_eq_sub_div positive (by omega)
        rw [List.length_cons, count, needed, Nat.sub_add_eq]
      · rw [List.flatMap_cons, step.received, received, ← List.drop_drop, List.take_append_drop]
      · exact List.forall_mem_cons.2 ⟨step.truthful, truthful⟩
    · have done : t.answer.get? "hasMore" = some (.bool false) := by
        simpa [more] using step.hasMore
      refine ⟨[t], .last step.asked done, ?_, ?_, ?_⟩
      · rw [Nat.div_eq_of_lt (by omega), List.length_singleton]
      · rw [List.flatMap_singleton, step.received, List.take_of_length_le]
        rw [List.length_drop]
        omega
      · exact List.forall_mem_singleton.2 step.truthful

end Call

end Search

/-- Where the backend holds rows, a search over a window with bounds can be paged in exactly one
way, and this ends after as many calls as there are full pages and one more. The caller receives the
rows in order, each once, and every answer tells rightly how many came with it and which page and
which window it asked for. -/
theorem search_visits_each_row_once (s : Search) (signal : Signal) (choice : SearchChoice)
    (limit : Nat) (rows : List Json) (asks : s.Asks signal choice limit) (positive : 1 ≤ limit)
    (held : ∀ number, Holds rows (s.peer number)) (counted : Text.FitsInt64 (rows.length + limit : Nat)) :
    ∃ turns, s.Pages 0 0 turns ∧ (∀ others, s.Pages 0 0 others → others = turns) ∧
      turns.length = rows.length / limit + 1 ∧ turns.flatMap Turn.rows = rows ∧
      ∀ t ∈ turns, t.Truthful := by
  obtain ⟨turns, paged, count, received, truthful⟩ :=
    asks.exists_pages positive held counted 0 (Nat.zero_le rows.length)
  refine ⟨turns, paged, fun others other => paged.unique other, ?_, ?_, truthful⟩
  · rw [count, Nat.sub_zero]
  · rw [received, List.drop_zero]

/-- Four spans of a service in twos, at first without an offset, then with one as text and as a
number by turns, while the clock goes on. -/
def spansInTwos : Search where
  client := ⟨"http://backend", "KEY", some "secret"⟩
  limits := .standard
  tool := searchTraces
  given := [("limit", .str " 2 "), ("service", .str "checkout"), ("timeRange", .str "1h")]
  written number n :=
    if n = 0 then none else if number % 2 = 0 then some (.int n) else some (.str (Text.integerText n))
  now number := if number = 0 then 1700000000000000000 else 1700000001000000000
  peer _ := holding [.int 1, .str "b", .null, .int 4]

theorem asks_spansInTwos :
    spansInTwos.Asks .traces
      ⟨{ FilterChoice.empty with service := some "checkout" },
        { WindowChoice.empty with range := some "1h" }, ⟨none, some 2⟩⟩ 2 where
  searches := rfl
  presentable := by
    rintro key ⟨⟩
    decide
  free := by decide
  read := rfl
  offset := by
    intro number n _ fits
    simp only [spansInTwos]
    split
    · rename_i zero
      rw [zero]
      rfl
    · split
      · exact Argument.integerOrZero_int fits
      · exact Argument.integerOrZero_text fits
  chosen := rfl
  bounded := by decide
  window := by
    intro number
    cases number with
    | zero => exact ⟨⟨1699996400000, 1700000000000⟩, rfl, by decide, by decide⟩
    | succ n => exact ⟨⟨1699996401000, 1700000001000⟩, rfl, by decide, by decide⟩
  filter := ⟨_, rfl⟩

/-- Two full pages and an empty one. -/
theorem four_spans_in_twos :
    ∃ choice, spansInTwos.Asks .traces choice 2 ∧ 1 ≤ 2 ∧
      (∀ number, Holds [.int 1, .str "b", .null, .int 4] (spansInTwos.peer number)) ∧
      Text.FitsInt64 (4 + 2 : Nat) ∧
      ∃ turns, spansInTwos.Pages 0 0 turns ∧ turns.length = 3 ∧
        turns.flatMap Turn.rows = [.int 1, .str "b", .null, .int 4] := by
  have held (number : Nat) : Holds [.int 1, .str "b", .null, .int 4] (spansInTwos.peer number) :=
    holds_holding _
  obtain ⟨turns, paged, -, count, received, -⟩ :=
    search_visits_each_row_once spansInTwos _ _ 2 _ asks_spansInTwos (by decide) held (by decide)
  exact ⟨_, asks_spansInTwos, by decide, held, by decide, turns, paged, count, received⟩

end Tool

end TelemetryGateway
