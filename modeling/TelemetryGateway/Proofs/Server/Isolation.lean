import TelemetryGateway.Proofs.Text.Spelling
import TelemetryGateway.Proofs.Tool.SentQueries
import TelemetryGateway.Server.Basic

set_option autoImplicit false

/-!
# Callers kept apart

The cache of clients is all that a server keeps from one request to the next. It only ever holds
clients of one backend, each with the key it is kept under, so a caller gets the client that a cache
with nothing in it would build. Every request is therefore answered as by a server that has just
been started.
-/

namespace TelemetryGateway

namespace Backend

/-- The client for a caller, told without a cache: the one that all start from, with the caller's
own key where there is one. -/
def Client.serving (origin : Client) (given : Option String) : Client :=
  match Cache.credential? given with
  | none => origin
  | some key => origin.withKey key

namespace Cache

/-- Whether all that the cache holds and builds comes from one client and differs in the key it is
kept under. -/
structure Bound (origin : Client) (cache : Cache Client) : Prop where
  default : cache.default = origin
  build : ∀ n key, cache.build n key = origin.withKey key
  stored : ∀ m ∈ cache.clients, m.2 = origin.withKey m.1

variable {origin : Client} {cache : Cache Client}

theorem bound_ofClient (origin : Client) : (ofClient origin).Bound origin where
  default := rfl
  build := fun _ _ => rfl
  stored := by simp [ofClient, empty]

theorem Bound.lookup (h : cache.Bound origin) {key : String} {client : Client}
    (found : cache.lookup key = some client) : client = origin.withKey key :=
  h.stored (key, client) (mem_of_lookup found)

theorem Bound.add (h : cache.Bound origin) (key : String) :
    (cache.add key).1 = origin.withKey key ∧ (cache.add key).2.Bound origin := by
  have built : cache.build cache.built key = origin.withKey key := h.build _ _
  refine ⟨built, h.default, h.build, ?_⟩
  intro m among
  rcases List.mem_append.1 among with old | new
  · exact h.stored m old
  · obtain rfl := List.mem_singleton.1 new
    exact built

/-- A caller gets the client that belongs to it, whatever was resolved before. -/
theorem Bound.resolve (h : cache.Bound origin) (given : Option String) :
    (cache.resolve given).1 = origin.serving given ∧ (cache.resolve given).2.Bound origin := by
  cases own : credential? given with
  | none => simp [Cache.resolve, Client.serving, own, h.default, h]
  | some key =>
    rw [resolve_of_credential cache own, Client.serving, own]
    cases found : cache.lookup key with
    | some client => simp [ensure, found, h.lookup found, h]
    | none =>
      rw [ensure, found]
      exact h.add key

end Cache

end Backend

namespace Tool

open Backend (Client Inquiry)

/-- Whatever can be sent or not, nothing but the planned inquiry is sent. -/
theorem headers_of_sent {client : Client} {limits : PageLimits} {now : Time.Instant} {name : String}
    {params : Json} {peer : Nat → Http.Peer} {sent : Nat} {r : Http.Request}
    (among : r ∈ ((call client limits now name params).run peer sent).2) :
    r.headers = (client.apiKey.map fun key => (client.authHeader, key)).toList := by
  obtain ⟨t, p, -, rfl⟩ := planned_of_sent among
  rfl

end Tool

namespace Http.Dialogue

variable {α β : Type}

/-- What is made of a result afterwards changes nothing about what is sent. -/
theorem run_bind_done (peer : Nat → Peer) (sent : Nat) (d : Dialogue α) (f : α → β) :
    (d >>= fun a => done (f a)).run peer sent = (f (d.run peer sent).1, (d.run peer sent).2) := by
  change (d.bind fun a => done (f a)).run peer sent = _
  rw [run_bind]
  simp

end Http.Dialogue

namespace Server

open Backend (Client Inquiry)
open Http (Dialogue)

/-! ### Keys that callers present -/

theorem mem_of_mem_strip {c : Char} {cs : List Char} (among : c ∈ Text.strip cs) : c ∈ cs := by
  rw [Text.strip, List.mem_reverse] at among
  have first := (List.dropWhile_suffix _).subset among
  exact (List.dropWhile_suffix _).subset (List.mem_reverse.1 first)

theorem isVisible_trim {s : String} (visible : isVisible s = true) :
    isVisible (Text.trim s) = true := by
  rw [isVisible, List.all_eq_true] at *
  intro c among
  rw [Text.toList_trim] at among
  exact visible c (mem_of_mem_strip among)

theorem isVisible_of_bearer? {s key : String} (visible : isVisible s = true)
    (presented : bearer? s = some key) : isVisible key = true := by
  unfold bearer? at presented
  split at presented
  · obtain rfl := Option.some.inj presented
    rw [isVisible, List.all_eq_true] at *
    intro c among
    rw [String.toList_ofList] at among
    exact visible c (List.mem_of_mem_drop among)
  · exact absurd presented (by simp)

theorem isVisible_of_visible? {headers : Headers} {name value : String}
    (present : visible? headers name = some value) : isVisible value = true :=
  (Option.filter_eq_some_iff.1 present).2

theorem isHeaderValue_of_isVisible {s : String} (visible : isVisible s = true) :
    Http.isHeaderValue s = true := by
  rw [isVisible, List.all_eq_true] at visible
  rw [Http.isHeaderValue, List.all_eq_true]
  intro c among
  have shown := visible c among
  simp only [Bool.or_eq_true, Bool.and_eq_true, decide_eq_true_eq] at shown ⊢
  exact shown.imp_right fun inside => ⟨inside.1, by omega⟩

/-- A key that a caller presents is trimmed, not blank, and can be sent on. -/
theorem credential?_facts {headers : Headers} {key : String} (given : credential? headers = some key) :
    Text.isBlank key = false ∧ Http.isHeaderValue key = true := by
  refine ⟨Text.isBlank_of_filled given, isHeaderValue_of_isVisible ?_⟩
  obtain ⟨trimmed, -⟩ := Text.filled_eq_some_iff.1 given
  obtain ⟨value, source, rfl⟩ := Option.map_eq_some_iff.1 trimmed
  apply isVisible_trim
  split at source
  · rename_i bearer presented
    obtain rfl := Option.some.inj source
    obtain ⟨line, present, held⟩ := Option.bind_eq_some_iff.1 presented
    exact isVisible_of_bearer? (isVisible_of_visible? present) held
  · exact isVisible_of_visible? source

/-- The key that a request is sent on with: the caller's own, or that of the service. -/
def keyFor (settings : Settings) (headers : Headers) : Option String :=
  match credential? headers with
  | some key => some key
  | none => settings.backend.apiKey.filter (· ≠ "")

/-- The one header that tells the backend who asks. -/
def authorization (settings : Settings) (headers : Headers) : Headers :=
  ((keyFor settings headers).map fun key => (settings.backend.authHeader, key)).toList

theorem serving_eq (settings : Settings) (headers : Headers) :
    (Client.ofSettings settings.backend).serving (credential? headers) =
      { Client.ofSettings settings.backend with apiKey := keyFor settings headers } := by
  unfold Client.serving keyFor
  cases own : credential? headers with
  | none => rfl
  | some key =>
    have filled : Backend.Cache.credential? (some key) = some key := by
      simp [Backend.Cache.credential?, Option.filter, (credential?_facts own).1]
    rw [filled]
    rfl

/-- Whether the settings name a header and a key that can be sent. -/
structure Presentable (settings : Settings) : Prop where
  name : Http.isHeaderName settings.backend.authHeader = true
  key : ∀ key ∈ settings.backend.apiKey, Http.isHeaderValue key = true

theorem Presentable.serving {settings : Settings} (h : Presentable settings) (headers : Headers) :
    ((Client.ofSettings settings.backend).serving (credential? headers)).Presentable := by
  rw [serving_eq]
  intro key held
  refine ⟨h.name, ?_⟩
  have source : keyFor settings headers = some key := held
  unfold keyFor at source
  split at source
  · rename_i own
    obtain rfl := Option.some.inj source
    exact (credential?_facts own).2
  · exact h.key key (Option.filter_eq_some_iff.1 source).1

/-! ### One request -/

/-- A request, when it arrives, and how the backend replies to what is asked on its behalf. -/
structure Visit where
  now : Time.Instant
  request : Incoming
  peer : Http.Peer

/-- The answer to a request, the server afterwards, and what was sent to the backend. -/
def visit (s : Server) (x : Visit) : (Outgoing × Server) × List Http.Request :=
  (s.answer x.now x.request).run (fun _ => x.peer) 0

/-- The answers to requests that come one after the other, each with what was sent for it. -/
def serve (s : Server) : List Visit → List (Outgoing × List Http.Request)
  | [] => []
  | x :: rest => ((s.visit x).1.1, (s.visit x).2) :: serve (s.visit x).1.2 rest

/-- What a server that has just been started answers and sends. -/
def alone (settings : Settings) (x : Visit) : Outgoing × List Http.Request :=
  (((ofSettings settings).visit x).1.1, ((ofSettings settings).visit x).2)

/-- Whether a server may have come from the settings: it pages as they say, and all of its clients
are those of their backend. -/
structure From (settings : Settings) (s : Server) : Prop where
  clients : s.clients.Bound (Client.ofSettings settings.backend)
  limits : s.limits = settings.pages

theorem from_ofSettings (settings : Settings) : (ofSettings settings).From settings where
  clients := Backend.Cache.bound_ofClient _
  limits := rfl

/-- Whether two dialogues answer and send the same, and the first leaves a server from the
settings. -/
def Agree (settings : Settings) (d e : Dialogue (Outgoing × Server)) : Prop :=
  ∀ (peer : Nat → Http.Peer) (sent : Nat),
    (d.run peer sent).1.1 = (e.run peer sent).1.1 ∧ (d.run peer sent).2 = (e.run peer sent).2 ∧
      (d.run peer sent).1.2.From settings

section Agreement

variable {settings : Settings} {s t : Server}

theorem agree_done (h : s.From settings) (answer : Outgoing) :
    Agree settings (.done (answer, s)) (.done (answer, t)) :=
  fun _ _ => ⟨rfl, rfl, h⟩

theorem agree_bind {α : Type} (h : s.From settings) (d : Dialogue α) (f : α → Outgoing) :
    Agree settings (d >>= fun a => .done (f a, s)) (d >>= fun a => .done (f a, t)) := by
  intro peer sent
  rw [Dialogue.run_bind_done, Dialogue.run_bind_done]
  exact ⟨rfl, rfl, h⟩

theorem agree_answerRead (h : s.From settings) (method : String) (resource : Dialogue Outgoing) :
    Agree settings (s.answerRead method resource) (t.answerRead method resource) := by
  unfold answerRead
  split
  · exact agree_bind h resource id
  · split
    · exact agree_bind h resource fun a => { a with body := none }
    · exact agree_done h _

theorem callTool_eq (s : Server) (now : Time.Instant) (headers : Headers) (c : ToolCall) :
    s.callTool now headers c =
      Tool.call (s.clients.resolve (credential? headers)).1 s.limits now c.tool c.params >>=
        fun outcome => .done (⟨200, some (framed outcome)⟩,
          { s with clients := (s.clients.resolve (credential? headers)).2 }) := rfl

theorem agree_callTool (hs : s.From settings) (ht : t.From settings) (now : Time.Instant)
    (headers : Headers) (c : ToolCall) :
    Agree settings (s.callTool now headers c) (t.callTool now headers c) := by
  -- both caches hand out the client of the caller, whatever was served before
  obtain ⟨client, kept⟩ := hs.clients.resolve (credential? headers)
  obtain ⟨same, -⟩ := ht.clients.resolve (credential? headers)
  have next : Server.From settings ⟨(s.clients.resolve (credential? headers)).2, settings.pages⟩ :=
    ⟨kept, rfl⟩
  rw [callTool_eq, callTool_eq, client, same, hs.limits, ht.limits]
  exact agree_bind next _ fun outcome => ⟨200, some (framed outcome)⟩

theorem agree_answer (hs : s.From settings) (ht : t.From settings) (now : Time.Instant)
    (r : Incoming) : Agree settings (s.answer now r) (t.answer now r) := by
  have health : s.answerHealth = t.answerHealth := by
    rw [answerHealth, answerHealth, hs.clients.default, ht.clients.default]
  unfold answer
  split
  · exact agree_done hs _
  · split
    · rw [health]
      exact agree_answerRead hs _ _
    · exact agree_answerRead hs _ _
    · exact agree_answerRead hs _ _
    · split
      · unfold answerCall
        cases readCall r with
        | error status => exact agree_done hs _
        | ok c => exact agree_callTool hs ht now r.headers c
      · exact agree_done hs _
    · exact agree_done hs _

/-- Whatever was served before, a request is answered as by a server that has just been started. -/
theorem visit_eq_alone (h : s.From settings) (x : Visit) :
    ((s.visit x).1.1, (s.visit x).2) = alone settings x ∧ (s.visit x).1.2.From settings := by
  obtain ⟨answer, sent, next⟩ :=
    agree_answer h (from_ofSettings settings) x.now x.request (fun _ => x.peer) 0
  exact ⟨Prod.ext answer sent, next⟩

theorem serve_eq_map (h : s.From settings) (visits : List Visit) :
    s.serve visits = visits.map (alone settings) := by
  induction visits generalizing s with
  | nil => rfl
  | cons x rest ih =>
    obtain ⟨here, next⟩ := visit_eq_alone h x
    rw [serve, here, ih next, List.map_cons]

end Agreement

/-! ### One call of a tool -/

/-- Whether the request calls a tool. -/
def Incoming.IsCall (r : Incoming) : Prop := r.method = "POST" ∧ route r.path = "/mcp"

/-- What a request comes to before the backend is asked: a plan, or an answer without it. -/
def plannedFor (settings : Settings) (now : Time.Instant) (r : Incoming) : Except Outgoing Tool.Plan :=
  match readCall r with
  | .error status => .error ⟨status, none⟩
  | .ok c =>
    (Tool.planned settings.pages now c.tool c.params).mapError fun f =>
      ⟨200, some (framed (.error f))⟩

theorem answer_of_isCall {r : Incoming} (call : r.IsCall) (s : Server) (now : Time.Instant) :
    s.answer now r = s.answerCall now r := by
  have notOptions : r.method ≠ "OPTIONS" := by
    rw [call.1]
    decide
  rw [answer, if_neg notOptions, call.2]
  exact if_pos call.1

theorem run_callTool (settings : Settings) (now : Time.Instant) (headers : Headers) (c : ToolCall)
    (peer : Nat → Http.Peer) (sent : Nat) :
    let run := (Tool.call ((Client.ofSettings settings.backend).serving (credential? headers))
      settings.pages now c.tool c.params).run peer sent
    ((((ofSettings settings).callTool now headers c).run peer sent).1.1,
      (((ofSettings settings).callTool now headers c).run peer sent).2) =
        (⟨200, some (framed run.1)⟩, run.2) := by
  obtain ⟨client, -⟩ := (from_ofSettings settings).clients.resolve (credential? headers)
  intro run
  rw [callTool_eq, client, Dialogue.run_bind_done]
  rfl

/-- Where header and key can be sent, a call that comes to a plan asks the backend once. -/
theorem alone_of_isCall {settings : Settings} (h : Presentable settings) {x : Visit}
    (call : x.request.IsCall) :
    alone settings x =
      match plannedFor settings x.now x.request with
      | .error answer => (answer, [])
      | .ok p =>
        let q := { (Client.ofSettings settings.backend).request p.inquiry with
          headers := authorization settings x.request.headers }
        (⟨200, some (framed ((Client.outcome (x.peer q)).map p.answer))⟩, [q]) := by
  rw [alone, visit, answer_of_isCall call, answerCall, plannedFor]
  cases readCall x.request with
  | error status => rfl
  | ok c =>
    have run := run_callTool settings x.now x.request.headers c (fun _ => x.peer) 0
    simp only at run ⊢
    rw [run, Tool.run_call (h.serving x.request.headers), serving_eq]
    cases Tool.planned settings.pages x.now c.tool c.params with
    | error f => rfl
    | ok p => rfl

theorem headers_of_alone {settings : Settings} {x : Visit} (call : x.request.IsCall)
    {q : Http.Request} (among : q ∈ (alone settings x).2) :
    q.headers = authorization settings x.request.headers := by
  rw [alone, visit, answer_of_isCall call, answerCall] at among
  cases read : readCall x.request with
  | error status => simp [read] at among
  | ok c =>
    have run := congrArg Prod.snd
      (run_callTool settings x.now x.request.headers c (fun _ => x.peer) 0)
    simp only [read] at among run
    rw [run] at among
    rw [Tool.headers_of_sent among, serving_eq]
    rfl

/-! ### The key and the answer -/

/-- Whether two requests hold the same call; who asks may differ. -/
structure Incoming.SameCall (r r' : Incoming) : Prop where
  method : r.method = r'.method
  path : r.path = r'.path
  body : r.body = r'.body
  contentType : visible? r.headers "content-type" = visible? r'.headers "content-type"

/-- The settings with another key of the service. -/
def keyed (settings : Settings) (key : Option String) : Settings :=
  { settings with backend := { settings.backend with apiKey := key } }

theorem Incoming.SameCall.isCall {r r' : Incoming} (same : r.SameCall r') (call : r.IsCall) :
    r'.IsCall :=
  ⟨same.method ▸ call.1, same.path ▸ call.2⟩

theorem Incoming.SameCall.plannedFor {r r' : Incoming} (same : r.SameCall r') (settings : Settings)
    (key : Option String) (now : Time.Instant) :
    plannedFor (keyed settings key) now r' = plannedFor settings now r := by
  have read : readCall r' = readCall r := by
    rw [readCall, readCall, same.contentType, same.body]
  rw [Server.plannedFor, Server.plannedFor, read]
  rfl

/-- Callers with different keys who call the same and get the same reply get the same answer. -/
theorem answer_of_sameCall {settings : Settings} (h : Presentable settings) {key : Option String}
    (h' : Presentable (keyed settings key)) {x x' : Visit} (call : x.request.IsCall)
    (same : x.request.SameCall x'.request) (clock : x.now = x'.now)
    (replies : ∀ q ∈ (alone settings x).2, ∀ q' ∈ (alone (keyed settings key) x').2,
      x.peer q = x'.peer q') :
    (alone settings x).1 = (alone (keyed settings key) x').1 := by
  rw [alone_of_isCall h call, alone_of_isCall h' (same.isCall call), ← clock,
    same.plannedFor] at *
  cases planned : plannedFor settings x.now x.request with
  | error answer => rfl
  | ok p =>
    simp only [planned, List.mem_singleton, forall_eq] at replies ⊢
    rw [replies]

/-- However many requests a server has answered, it answers the next one, and asks the backend for
it, as if it had just been started. A call of a tool shows the backend the caller's own key, without
one that of the service, and no other; what it asks is planned without a key, and callers who
differ in nothing but the key get the same answer to the same reply. -/
theorem callers_kept_apart (settings : Settings) :
    (∀ visits : List Visit, (ofSettings settings).serve visits = visits.map (alone settings)) ∧
      (∀ x : Visit, x.request.IsCall → ∀ q ∈ (alone settings x).2,
        q.headers = authorization settings x.request.headers) ∧
      (Presentable settings → ∀ x : Visit, x.request.IsCall →
        alone settings x =
          match plannedFor settings x.now x.request with
          | .error answer => (answer, [])
          | .ok p =>
            let q := { (Client.ofSettings settings.backend).request p.inquiry with
              headers := authorization settings x.request.headers }
            (⟨200, some (framed ((Client.outcome (x.peer q)).map p.answer))⟩, [q])) ∧
      ∀ key : Option String, Presentable settings → Presentable (keyed settings key) →
        ∀ x x' : Visit, x.request.IsCall → x.request.SameCall x'.request → x.now = x'.now →
          (∀ q ∈ (alone settings x).2, ∀ q' ∈ (alone (keyed settings key) x').2,
            x.peer q = x'.peer q') →
          (alone settings x).1 = (alone (keyed settings key) x').1 := by
  refine ⟨serve_eq_map (from_ofSettings settings), ?_, ?_, ?_⟩
  · intro x call q among
    exact headers_of_alone call among
  · intro h x call
    exact alone_of_isCall h call
  · intro key h h' x x' call same clock replies
    exact answer_of_sameCall h h' call same clock replies

/-- A service whose own key is empty. -/
def keyless : Settings where
  backend := ⟨"http://backend", some "", "KEY", 30⟩
  listen := .standard
  pages := .standard

/-- A call that lists the alerts, with a key or without one. -/
def alertsVisit (headers : Headers) : Visit where
  now := 0
  request :=
    { method := "POST"
      path := "/mcp"
      headers := ("Content-Type", "application/json") :: headers
      body := .ofJson (.obj [("tool", .str "list_alerts")]) }
  peer := fun q => if q.headers = [] then .ok ⟨401, .ofText "who?"⟩ else .ok ⟨200, .ofJson (.arr [])⟩

theorem alerts_kept_apart :
    let ann := alertsVisit [("Authorization", "Bearer ann")]
    let bob := alertsVisit [("x-api-key", " bob ")]
    let nobody := alertsVisit []
    ((ofSettings keyless).serve [ann, bob, nobody, ann]).map
        (fun a => (a.1.status, a.2.map fun q => q.headers)) =
      [(200, [[("KEY", "ann")]]), (200, [[("KEY", "bob")]]), (200, [[]]),
        (200, [[("KEY", "ann")]])] ∧
    (alone keyless ann).1 = (alone keyless bob).1 := by
  intro ann bob nobody
  obtain ⟨served, own, sent, key⟩ := callers_kept_apart keyless
  have h : Presentable keyless := ⟨by decide, by decide⟩
  refine ⟨?_, ?_⟩
  · rw [served]
    simp only [List.map_cons, List.map_nil]
    rw [sent h ann ⟨rfl, by decide⟩, sent h bob ⟨rfl, by decide⟩, sent h nobody ⟨rfl, by decide⟩]
    rfl
  · exact key (some "") h h ann bob ⟨rfl, by decide⟩ ⟨rfl, rfl, rfl, by decide⟩ rfl (by decide)

end Server

end TelemetryGateway
