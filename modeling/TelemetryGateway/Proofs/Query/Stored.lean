import TelemetryGateway.Page
import TelemetryGateway.Proofs.Query.Finishing
import TelemetryGateway.Proofs.Query.RoundTrip
import TelemetryGateway.Proofs.Summary.Compiling

set_option autoImplicit false

/-!
# Queries that can be stored

Finishing a query that can be written and read back gives another one. The queries that are built
from arguments are of this kind because every number in them was read from a 64-bit slot or checked.
-/

namespace TelemetryGateway

theorem Leg.Storable.completed {l : Leg} (h : l.Storable) (shape : Shape) :
    (l.completed shape).Storable := by
  refine ⟨h.signal, ?_, h.limit, h.offset, h.selected, h.groups, h.having, h.extra⟩
  have default : Text.FitsInt64 60 := by decide
  intro n among
  have step : l.finalStep shape = some n := among
  unfold finalStep at step
  split at step
  · split at step
    · rename_i given
      split at step
      · obtain rfl := Option.some.inj step
        exact h.step _ given
      · exact Option.some.inj step ▸ default
    · exact Option.some.inj step ▸ default
  · exact absurd step (by simp)

theorem Entry.Storable.completed {e : Entry} (h : e.Storable) (shape : Shape) :
    (e.completed shape).Storable := by
  cases e with
  | leg l => exact Leg.Storable.completed h shape
  | foreign kind body => exact h

namespace Query

theorem Storable.answeredAs {q : Query} (h : q.Storable) : q.answeredAs.Storable := by
  unfold Query.answeredAs
  split
  · exact ⟨rfl, by decide⟩
  · cases given : q.shape with
    | none => exact ⟨rfl, by decide⟩
    | some shape => exact h.shape shape given

theorem Storable.completed {q : Query} (h : q.Storable) : q.completed.Storable where
  start := h.start
  stop := h.stop
  shape := by
    intro s among
    obtain rfl := Option.some.inj among
    exact h.answeredAs
  entries := by
    intro e among
    obtain ⟨given, member, rfl⟩ := List.mem_map.1 among
    exact (h.entries given member).completed q.answeredAs

/-- A query as it is sent: it is read back as it was, and there is nothing left to finish. -/
structure Final (q : Query) : Prop where
  read : decode q.encode = .ok q
  finished : q.finish = .ok q

theorem final_of_finished {q r : Query} (h : q.Storable) (done : q.finished = .ok r) : r.Final := by
  obtain ⟨finishable, rfl⟩ := finish_eq_ok_iff.1 (mapError_eq_ok.1 done)
  exact ⟨decode_encode h.completed, finishable.finish_completed⟩

/-- What finishing has settled in a query that is final. -/
theorem Final.settled {q : Query} (h : q.Final) :
    q.start ≠ 0 ∧ q.stop ≠ 0 ∧ q.entries ≠ [] ∧ q.shape = some q.answeredAs ∧
      ∀ l ∈ q.legs, (∃ s, l.signal = some s ∧ s.isKnown = true) ∧ l.Fits q.answeredAs ∧
        l.step = l.finalStep q.answeredAs := by
  obtain ⟨finishable, same⟩ := finish_eq_ok_iff.1 h.finished
  refine ⟨finishable.start_ne, finishable.stop_ne, finishable.entries_ne, ?_, ?_⟩
  · rw [same, answeredAs_completed]
    rfl
  · intro l among
    have fits := finishable.legs_fit l among
    refine ⟨?_, fits, ?_⟩
    · rcases fits with metrics | ⟨logs | traces, -⟩ | ⟨logs | traces, -⟩
      · exact ⟨_, metrics, rfl⟩
      · exact ⟨_, logs, rfl⟩
      · exact ⟨_, traces, rfl⟩
      · exact ⟨_, logs, rfl⟩
      · exact ⟨_, traces, rfl⟩
    · rw [same, legs_completed] at among
      obtain ⟨given, -, rfl⟩ := List.mem_map.1 among
      rw [Leg.finalStep_completed]
      rfl

end Query

/-! ### Pages -/

namespace PageChoice

structure Storable (a : PageChoice) : Prop where
  offset : ∀ n ∈ a.offset, Text.FitsInt64 n
  limit : ∀ n ∈ a.limit, Text.FitsInt64 n

theorem storable_of_decode {v : Json} {a : PageChoice} (read : decode v = .ok a) : a.Storable := by
  refine Record.read_keeps (P := Storable) ?_ ⟨by simp [empty], by simp [empty]⟩ read
  intro a key v b h set
  simp only [record] at set
  split at set
  · obtain ⟨n, read, rfl⟩ := map_eq_ok.1 set
    exact ⟨Argument.integer_fits read, h.limit⟩
  · obtain ⟨n, read, rfl⟩ := map_eq_ok.1 set
    exact ⟨h.offset, Argument.integer_fits read⟩
  · obtain rfl := Except.ok.inj set
    exact h

theorem Storable.offset_fits {a : PageChoice} (h : a.Storable) :
    Text.FitsInt64 (a.offset.getD 0) := by
  cases given : a.offset with
  | none => decide
  | some n => exact h.offset n given

variable {a : PageChoice} {limits : PageLimits} {offset limit : Int}

theorem resolve_eq_ok_iff :
    a.resolve limits = .ok (offset, limit) ↔
      (a.offset.getD 0 = offset ∧ a.chosenLimit limits = limit) ∧ 0 ≤ offset ∧
        limit ≤ min (limits.maximum : Int) Text.maxInt64 := by
  simp only [resolve]
  split
  · next negative =>
    constructor
    · intro done
      cases done
    · intro settled
      omega
  · next forward =>
    split
    · next above =>
      constructor
      · intro done
        cases done
      · intro settled
        omega
    · next within =>
      simp only [Except.ok.injEq, Prod.mk.injEq]
      omega

/-- Offset and limit of a page can be sent as unsigned words. -/
theorem resolve_fits (h : a.Storable) (done : a.resolve limits = .ok (offset, limit)) :
    offset.natAbs ≤ Text.maxUInt64 ∧ limit.natAbs ≤ Text.maxUInt64 := by
  have positive : 0 ≤ a.chosenLimit limits := by
    unfold chosenLimit
    split
    · rename_i n kept
      have above : 0 < n := by simpa using (Option.filter_eq_some_iff.1 kept).2
      omega
    · split
      · omega
      · simp only [Text.maxInt64]
        omega
  obtain ⟨⟨rfl, rfl⟩, forward, bounded⟩ := resolve_eq_ok_iff.1 done
  have offsetFits := h.offset_fits
  simp only [Text.FitsInt64, Text.minInt64, Text.maxInt64, Text.maxUInt64] at *
  omega

end PageChoice

/-! ### Built queries -/

namespace Query

theorem storable_ofLegs {w : Window} {shape : Shape} {legs : List Leg} (window : w.Fits)
    (named : shape.Storable) (each : ∀ l ∈ legs, l.Storable) : (ofLegs w shape legs).Storable where
  start := window.start
  stop := window.stop
  shape := by
    intro s among
    obtain rfl := Option.some.inj among
    exact named
  entries := by
    intro e among
    obtain ⟨l, member, rfl⟩ := List.mem_map.1 among
    exact each l member

theorem storable_newestFirst {signal : Signal} {w : Window} {filter : Option String}
    {limit offset : Nat} (canonical : signal.Canonical) (window : w.Fits)
    (limitFits : limit ≤ Text.maxUInt64) (offsetFits : offset ≤ Text.maxUInt64) :
    (newestFirst signal w filter limit offset).Storable := by
  refine storable_ofLegs window ⟨rfl, by decide⟩ ?_
  rw [List.forall_mem_singleton]
  constructor <;> simp_all [Leg.named, Leg.empty, Option.mem_def]

theorem storable_oldestFirst {signal : Signal} {w : Window} {filter : Option String} {limit : Nat}
    (canonical : signal.Canonical) (window : w.Fits) (limitFits : limit ≤ Text.maxUInt64) :
    (oldestFirst signal w filter limit).Storable := by
  refine storable_ofLegs window ⟨rfl, by decide⟩ ?_
  rw [List.forall_mem_singleton]
  constructor <;> simp_all [Leg.named, Leg.empty]

theorem storable_named (names : List String) : ∀ f ∈ names.map FieldRef.named, f.Storable := by
  rw [List.forall_mem_map]
  intro name _
  exact ⟨by simp [FieldRef.named]⟩

theorem storable_ofMetric {w : Window} {choice : MetricChoice} (window : w.Fits)
    (step : ∀ n ∈ choice.step, Text.FitsInt64 n) : (ofMetric w choice).Storable := by
  have groups := storable_named choice.groups
  have metrics : Signal.metrics.Canonical := rfl
  refine storable_ofLegs window ⟨rfl, by decide⟩ ?_
  rw [List.forall_mem_singleton]
  constructor <;> simp_all [Leg.named, Leg.empty]

end Query

namespace Summary

theorem LimitIs.fits {given : Option String} {n : Nat} (asked : LimitIs given n) :
    n ≤ Text.maxUInt64 := by
  unfold LimitIs at asked
  split at asked
  · exact asked ▸ by decide
  · obtain ⟨m, spelled, rfl⟩ := asked
    have fits := Text.fits_of_int64? spelled
    split
    · simp only [Text.FitsInt64, Text.maxInt64, Text.maxUInt64] at *
      omega
    · decide

theorem storable_query {s : Summary} (canonical : s.signal.Canonical) (window : s.window.Fits)
    (limit : s.limit ≤ Text.maxUInt64) : s.query.Storable := by
  have groups := Query.storable_named s.groups
  refine Query.storable_ofLegs window ⟨rfl, by decide⟩ ?_
  rw [List.forall_mem_singleton]
  constructor <;> simp_all [Leg.named, Leg.empty]

theorem storable_of_compile {a : SummaryChoice} {signal : Signal} {preset : Option String}
    {now : Time.Instant} {s : Summary} (canonical : signal.Canonical)
    (clock : Text.FitsInt64 (now / 1000000)) (done : compile a signal preset now = .ok s) :
    s.query.Storable := by
  have asked := compile_eq_ok_iff.1 done
  exact storable_query (asked.signal_eq ▸ canonical) (WindowChoice.resolve_fits clock asked.window)
    asked.limit.fits

end Summary

end TelemetryGateway
