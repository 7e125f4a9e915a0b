import TelemetryGateway.Proofs.Query.Forwarding
import TelemetryGateway.Proofs.Tool.Sending

set_option autoImplicit false

/-!
# What of a query that is run is sent

A query comes among the arguments of a call, as a value or as a text of its own. What is sent is the
query as it was read and completed, so what of it reaches the backend is what becomes of its members.
-/

namespace TelemetryGateway.Tool

open Backend (Client Inquiry)

section Given

variable {params : Json}

theorem canonical_given (canonical : params.Canonical) : (Argument.given params).Canonical := by
  cases params with
  | null => rfl
  | _ => exact canonical

theorem canonical_decodeQuery {v q : Json} (canonical : v.Canonical) (read : decodeQuery v = .ok q) :
    q.Canonical := by
  refine Record.visit_keeps_of (P := Json.Canonical) ?_ Json.canonical_null
    (Record.canonical_given canonical) (Record.visit_given read)
  intro a key v b kept given set
  obtain rfl := Except.ok.inj set
  split
  · exact given
  · exact kept

/-- The query given among canonical arguments is canonical, also where it is given as text. -/
theorem canonical_givenQuery (canonical : params.Canonical) {given : Json}
    (read : (arguments decodeQuery params >>= givenQuery) = .ok given) : given.Canonical := by
  obtain ⟨value, decoded, rest⟩ := bind_eq_ok.1 read
  have valued := canonical_decodeQuery (canonical_given canonical) (mapError_eq_ok.1 decoded)
  unfold givenQuery at rest
  split at rest
  · exact absurd rest (by simp)
  · split at rest
    · rename_i parsed
      obtain rfl := Except.ok.inj rest
      exact Json.canonical_of_parse? parsed
    · exact absurd rest (by simp)
  · obtain rfl := Except.ok.inj rest
    exact valued

/-- What is planned for a query asks for it as it was read and completed. -/
theorem completed_of_planned {p : Plan} (planned : planQuery params = .ok p) :
    ∃ given q, (arguments decodeQuery params >>= givenQuery) = .ok given ∧
      Query.decode given = .ok q ∧ q.Finishable ∧ p.inquiry = .records q.completed := by
  obtain ⟨given, supplied, planned⟩ := bind_eq_ok.1 planned
  obtain ⟨q, read, planned⟩ := bind_eq_ok.1 planned
  obtain ⟨query, finished, planned⟩ := bind_eq_ok.1 planned
  obtain rfl := pure_eq_ok.1 planned
  obtain ⟨finishable, rfl⟩ := Query.finish_eq_ok_iff.1 (mapError_eq_ok.1 finished)
  exact ⟨given, q, supplied, mapError_eq_ok.1 read, finishable, rfl⟩

end Given

/-- Whatever query is run, given as a value or as text: what is sent carries each of its members as
the fate of the member says. So all that the caller supplied is kept exactly if the query is plain:
if it has no members with something in them that are unnamed by the model outside of legs, and no
part in another form than the one it is written in. -/
theorem sent_query_keeps_iff_plain (client : Client) (limits : PageLimits) (now : Time.Instant)
    (params : Json) (peer : Nat → Http.Peer) (sent : Nat) (canonical : params.Canonical) :
    ∀ r ∈ ((call client limits now runQuery.name params).run peer sent).2,
      ∃ given body, (arguments decodeQuery params >>= givenQuery) = .ok given ∧
        r.body = some body ∧ Query.fate.Carries given (some body) ∧
        (Query.fate.Keeps given (some body) ↔ Query.fate.isPlain given = true) := by
  intro r among
  obtain ⟨p, planned, rfl⟩ := planned_of_requested among
  rw [planned_name] at planned
  obtain ⟨given, q, supplied, read, finishable, asked⟩ := completed_of_planned planned
  have carried := Query.carries_of_decode_completed (canonical_givenQuery canonical supplied) read
    finishable.start_ne finishable.stop_ne
  refine ⟨given, q.completed.encode, supplied, ?_, carried, carried.keeps_iff⟩
  rw [asked]
  rfl

/-- A query with members that the model does not name, on a leg and beside the entries. -/
def labelledQuery : Json :=
  .obj [("compositeQuery", .obj [("queries", .arr [.obj [
      ("spec", .obj [("legend", .str "all"), ("signal", .str "logs")]),
      ("type", .str "builder_query")]])]),
    ("end", .int 2), ("noCache", .bool true), ("start", .int 1)]

theorem labelledQuery_not_kept :
    let client : Client := ⟨"http://backend", "KEY", none⟩
    let peer : Nat → Http.Peer := fun _ _ => .ok ⟨200, .ofJson .null⟩
    let params : Json := .obj [("query", labelledQuery)]
    params.Canonical ∧
      ∃ r ∈ ((call client .standard 0 runQuery.name params).run peer 0).2,
        ∃ body, r.body = some body ∧ ¬ Query.fate.Keeps labelledQuery (some body) := by
  intro client peer params
  have canonical : params.Canonical := rfl
  obtain ⟨answer, r, done⟩ : ∃ answer r,
      (call client .standard 0 runQuery.name params).run peer 0 = (answer, [r]) := ⟨_, _, rfl⟩
  have among : r ∈ ((call client .standard 0 runQuery.name params).run peer 0).2 := by
    rw [done]
    exact List.mem_singleton_self r
  obtain ⟨given, body, supplied, holds, -, kept⟩ :=
    sent_query_keeps_iff_plain client .standard 0 params peer 0 canonical r among
  obtain rfl : labelledQuery = given := Except.ok.inj supplied
  refine ⟨canonical, r, among, body, holds, fun keeps => ?_⟩
  exact absurd (kept.1 keeps) (by decide)

end TelemetryGateway.Tool
