import TelemetryGateway.Console.Session
import TelemetryGateway.Proofs.Backend.Sharing
import TelemetryGateway.Proofs.Outcome
import TelemetryGateway.Proofs.Server.Isolation
import TelemetryGateway.Proofs.Text.Spelling

set_option autoImplicit false

/-!
# Tools called from the command line

The command line writes a call into a request and reads the outcome out of the reply, the server
reads the call and writes the outcome. What the one writes the other reads, so a tool that is called
through a server ends as it does when it is carried out on the spot. The key travels in a header as it
is given, and the server takes white space off its ends.
-/

namespace TelemetryGateway

open Backend (Cache Client)
open Http (Content Dialogue Peer Reply)

namespace Backend.Cache

variable {α : Type}

/-- A cache passes over a blank credential by itself. -/
theorem credential?_filled (given : Option String) :
    credential? (Text.filled given) = credential? (given.map Text.trim) := by
  have blank (t : String) : (!decide (t = "") && !Text.isBlank t) = !Text.isBlank t := by
    by_cases empty : t = ""
    · subst empty
      rfl
    · simp [empty]
  simp [credential?, Text.filled, Option.filter_filter, blank]

theorem resolve_filled (cache : Cache α) (given : Option String) :
    cache.resolve (Text.filled given) = cache.resolve (given.map Text.trim) := by
  rw [resolve, resolve, credential?_filled]

theorem resolve_of_blank (cache : Cache α) {given : Option String}
    (blank : ∀ key ∈ given, Text.isBlank key = true) :
    (cache.resolve (given.map Text.trim)).1 = cache.default := by
  have anonymous : credential? (given.map Text.trim) = none := by
    rw [credential?_eq_none_iff]
    intro c trimmed
    obtain ⟨key, held, rfl⟩ := Option.map_eq_some_iff.1 trimmed
    rw [Text.trim_eq_empty_iff.2 (blank key held)]
    rfl
  rw [resolve, anonymous]

end Backend.Cache

namespace Server

/-! ### Headers that are looked up -/

theorem visible?_cons_of_other {field value name : String} (other : sameAscii field name = false)
    (rest : Headers) : visible? ((field, value) :: rest) name = visible? rest name := by
  simp [visible?, header?, other]

theorem visible?_cons_of_same {field value name : String} (same : sameAscii field name = true)
    (visible : isVisible value = true) (rest : Headers) :
    visible? ((field, value) :: rest) name = some value := by
  simp [visible?, header?, same, visible, Option.filter]

/-! ### The server as a peer -/

/-- An answer as it is replied; a body is written as JSON. -/
def Outgoing.reply (a : Outgoing) : Reply :=
  ⟨a.status, (a.body.map Content.ofJson).getD Content.none⟩

/-- A server that answers requests at an instant, before a backend. -/
def asPeer (s : Server) (now : Time.Instant) (backend : Peer) : Peer := fun r =>
  .ok (s.visit ⟨now, .ofRequest r, backend⟩).1.1.reply

theorem ToolCall.decode_encode (call : ToolCall) : decode call.encode = .ok call := rfl

end Server

namespace Console.ServerClient

open Server (Incoming ToolCall)

variable {c : ServerClient} {call : ToolCall}

theorem isCall_callRequest (c : ServerClient) (call : ToolCall) :
    (Incoming.ofRequest (c.callRequest call)).IsCall := by
  refine ⟨rfl, ?_⟩
  change Server.route "/mcp" = "/mcp"
  decide

/-- The header that says what the body is. -/
def jsonType : String × String := ("content-type", "application/json")

theorem headers_of_keyless (keyless : c.apiKey = none) :
    (Incoming.ofRequest (c.callRequest call)).headers = [jsonType] := by
  rw [Incoming.ofRequest, callRequest, keyless]
  rfl

theorem headers_of_keyed {key : String} (held : c.apiKey = some key) :
    (Incoming.ofRequest (c.callRequest call)).headers =
      [("X-API-Key", key), jsonType] := by
  rw [Incoming.ofRequest, callRequest, held]
  rfl

/-- Of the headers that the server looks up, the key stands in one alone. -/
theorem sameAscii_key :
    Server.sameAscii "X-API-Key" "x-api-key" = true ∧
      Server.sameAscii "X-API-Key" "authorization" = false ∧
      Server.sameAscii "X-API-Key" "content-type" = false := by
  decide

theorem readCall_callRequest (c : ServerClient) (call : ToolCall) :
    Server.readCall (.ofRequest (c.callRequest call)) = .ok call := by
  have alone : Server.visible? [jsonType] "content-type" = some "application/json" := rfl
  have json : Server.visible? (Incoming.ofRequest (c.callRequest call)).headers "content-type" =
      some "application/json" := by
    cases held : c.apiKey with
    | none => rw [headers_of_keyless held, alone]
    | some key =>
      obtain ⟨-, -, other⟩ := sameAscii_key
      rw [headers_of_keyed held, Server.visible?_cons_of_other other, alone]
  have isJson : Server.isJsonType "application/json" = true := by decide +kernel
  rw [Server.readCall, json, Option.any_some, isJson]
  exact congrArg (Except.mapError fun _ => 422) (ToolCall.decode_encode call)

/-- The server presents the key as it was given, but for white space at its ends. -/
theorem credential?_callRequest (visible : ∀ key ∈ c.apiKey, Server.isVisible key = true) :
    Server.credential? (Incoming.ofRequest (c.callRequest call)).headers = Text.filled c.apiKey := by
  cases held : c.apiKey with
  | none =>
    rw [headers_of_keyless held]
    rfl
  | some key =>
    obtain ⟨same, other, -⟩ := sameAscii_key
    have shown : Server.isVisible key = true := visible key held
    rw [headers_of_keyed held, Server.credential?, Server.visible?_cons_of_other other,
      Server.visible?_cons_of_same same shown]
    rfl

theorem isSendable_callRequest (call : ToolCall)
    (visible : ∀ key ∈ c.apiKey, Server.isVisible key = true) :
    (c.callRequest call).isSendable = true := by
  cases held : c.apiKey with
  | none => simp [Http.Request.isSendable, callRequest, held]
  | some key =>
    have name : Http.isHeaderName "X-API-Key" = true := by decide +kernel
    have value := Server.isHeaderValue_of_isVisible (visible key held)
    simp [Http.Request.isSendable, callRequest, held, name, value]

/-- What the server writes about an outcome is read as the outcome. -/
theorem unframed_framed (tool : String) (outcome : Except Fault Json) :
    unframed tool (Server.framed outcome) = outcome.mapError fun f => .refused tool f.message := by
  cases outcome with
  | ok v => exact if_pos rfl
  | error f =>
    have failed : (Server.framed (.error f)).get? "success" = some (.bool false) := rfl
    apply if_neg
    simp [failed]

/-- What a call comes to where it is carried out on the spot, with the client for the trimmed key. -/
def onTheSpot (s : Server) (now : Time.Instant) (backend : Peer) (key : Option String)
    (call : ToolCall) : Except Fault Json × List Http.Request :=
  (Tool.call (s.clients.resolve (key.map Text.trim)).1 s.limits now call.tool call.params).run
    (fun _ => backend) 0

theorem visit_callRequest (s : Server) (now : Time.Instant) (backend : Peer) (call : ToolCall)
    (visible : ∀ key ∈ c.apiKey, Server.isVisible key = true) :
    let executed := onTheSpot s now backend c.apiKey call
    let visited := s.visit ⟨now, .ofRequest (c.callRequest call), backend⟩
    visited.1.1 = ⟨200, some (Server.framed executed.1)⟩ ∧ visited.2 = executed.2 := by
  intro executed visited
  have own := s.clients.resolve_filled c.apiKey
  have run : visited =
      (s.callTool now (Incoming.ofRequest (c.callRequest call)).headers call).run (fun _ => backend) 0 := by
    simp only [visited, Server.visit]
    rw [Server.answer_of_isCall (isCall_callRequest c call), Server.answerCall, readCall_callRequest]
  rw [run, Server.callTool_eq, credential?_callRequest visible, own, Dialogue.run_bind_done]
  exact ⟨rfl, rfl⟩

theorem run_callTool (c : ServerClient) (call : ToolCall)
    (visible : ∀ key ∈ c.apiKey, Server.isVisible key = true) (peer : Nat → Peer) (sent : Nat) :
    (c.callTool call).run peer sent =
      (c.outcome call.tool (peer sent (c.callRequest call)), [c.callRequest call]) := by
  have sendable := isSendable_callRequest call visible
  change (Dialogue.request (c.callRequest call) >>= fun e => .done (c.outcome call.tool e)).run peer sent = _
  rw [Dialogue.run_bind_done, Dialogue.request, if_pos sendable]
  rfl

theorem outcome_asPeer (s : Server) (now : Time.Instant) (backend : Peer) (call : ToolCall)
    (visible : ∀ key ∈ c.apiKey, Server.isVisible key = true) :
    c.outcome call.tool (s.asPeer now backend (c.callRequest call)) =
      (onTheSpot s now backend c.apiKey call).1.mapError fun f => .refused call.tool f.message := by
  obtain ⟨answered, -⟩ := visit_callRequest s now backend call visible
  rw [Server.asPeer, answered, ← unframed_framed]
  rfl

/-- A tool that is called through a server ends as it does on the spot: with the same value, `null`
among them, or with a fault that names the tool and tells the fault of the tool. The call is one
request, on whose behalf the server asks the backend for what the tool asks on the spot. Without a
key, or with a blank one, that is done with the client that all callers share. -/
theorem callTool_as_on_the_spot (s : Server) (now : Time.Instant) (backend : Peer)
    (c : ServerClient) (call : ToolCall)
    (visible : ∀ key ∈ c.apiKey, Server.isVisible key = true) (sent : Nat) :
    let executed := onTheSpot s now backend c.apiKey call
    let called := (c.callTool call).run (fun _ => s.asPeer now backend) sent
    (∀ v, called.1 = .ok v ↔ executed.1 = .ok v) ∧
      (∀ f, executed.1 = .error f →
        ∃ e, called.1 = .error e ∧ e.message = call.tool ++ " failed: " ++ f.message) ∧
      ((∀ key ∈ c.apiKey, Text.isBlank key = true) →
        (s.clients.resolve (c.apiKey.map Text.trim)).1 = s.clients.default) ∧
      ∃ r, called.2 = [r] ∧ (s.visit ⟨now, .ofRequest r, backend⟩).2 = executed.2 := by
  intro executed called
  have run : called = _ := run_callTool c call visible (fun _ => s.asPeer now backend) sent
  rw [outcome_asPeer s now backend call visible] at run
  refine ⟨?value, ?fault, s.clients.resolve_of_blank, c.callRequest call, ?once, ?same⟩
  case value =>
    intro v
    rw [run, mapError_eq_ok]
  case fault =>
    intro f refused
    refine ⟨.refused call.tool f.message, ?_, rfl⟩
    have ended : (onTheSpot s now backend c.apiKey call).1 = .error f := refused
    rw [run, ended, mapError_error]
  case once => rw [run]
  case same => exact (visit_callRequest s now backend call visible).2

/-- A key with a space on either side, a tool that answers nothing and one that does not exist. -/
theorem alerts_called_through_server :
    let s : Server := ⟨.ofClient ⟨"http://backend", "KEY", none⟩, .standard⟩
    let c : ServerClient := ⟨"http://server", some " k-1 "⟩
    let backend : Peer := fun r =>
      if r.headers = [("KEY", "k-1")] then .ok ⟨200, .ofJson .null⟩ else .error "who?"
    let called (tool : String) :=
      ((c.callTool ⟨tool, .null⟩).run (fun _ => s.asPeer 0 backend) 0).1
    called "list_alerts" = .ok .null ∧
      ∃ e, called "mend" = .error e ∧
        e.message = "mend failed: Resource not found: Tool not found: mend" := by
  intro s c backend called
  have visible : ∀ key ∈ c.apiKey, Server.isVisible key = true := by decide
  obtain ⟨value, -⟩ := callTool_as_on_the_spot s 0 backend c ⟨"list_alerts", .null⟩ visible 0
  obtain ⟨-, fault, -⟩ := callTool_as_on_the_spot s 0 backend c ⟨"mend", .null⟩ visible 0
  have answered : (onTheSpot s 0 backend c.apiKey ⟨"list_alerts", .null⟩).1 = .ok .null := by
    decide +kernel
  exact ⟨(value .null).2 answered, fault (.unknownTool "mend") rfl⟩

end Console.ServerClient

end TelemetryGateway
