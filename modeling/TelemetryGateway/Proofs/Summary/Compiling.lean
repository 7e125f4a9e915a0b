import TelemetryGateway.Proofs.Filter.Arguments
import TelemetryGateway.Proofs.Outcome
import TelemetryGateway.Proofs.Time.Resolution
import TelemetryGateway.Summary

set_option autoImplicit false

/-!
# What compiling a summary accepts and what it yields

Five things can be wrong with the arguments of a summary: its verb, its target, its filter, its limit
and its window. Each of them is told here without the others. Compiling refuses the arguments for
the first one that is wrong, and where none is it yields the summary that the arguments ask for.
-/

namespace TelemetryGateway.Summary

variable {a : SummaryChoice} {signal : Signal} {preset : Option String} {now : Time.Instant}
  {s : Summary}

/-! ### Verbs -/

/-- Whether an argument spells a verb, in any letter case. -/
def SpellsVerb (given : Option String) (verb : String) : Prop :=
  verb ∈ verbs ∧ (Text.filled given).map Text.lowerAscii = some verb

def verbFault (given : Option String) : Option ArgumentFault :=
  match Text.filled given with
  | none => some (.noVerb verbs)
  | some word => if Text.lowerAscii word ∈ verbs then none else some (.verb word verbs)

theorem isPlain_verbs : ∀ verb ∈ verbs, verb.toList.all Text.isPlain = true := by decide

theorem lower_eq_verb_iff {word verb : String} (allowed : verb ∈ verbs) :
    Text.lower word = verb ↔ Text.lowerAscii word = verb :=
  Text.lower_eq_iff (isPlain_verbs verb allowed)

theorem lower_mem_verbs_iff {word : String} :
    Text.lower word ∈ verbs ↔ Text.lowerAscii word ∈ verbs := by
  constructor
  · intro allowed
    rwa [(lower_eq_verb_iff allowed).1 rfl]
  · intro allowed
    rwa [(lower_eq_verb_iff allowed).2 rfl]

theorem parseVerb_eq_ok_iff {given : Option String} {verb : String} :
    parseVerb given = .ok verb ↔ SpellsVerb given verb := by
  unfold parseVerb SpellsVerb
  cases Text.filled given with
  | none => simp
  | some word =>
    simp only [List.contains_iff_mem, ite_eq_ok, Option.map_some, Option.some.injEq]
    constructor
    · rintro ⟨allowed, rfl⟩
      exact ⟨allowed, (lower_eq_verb_iff allowed).1 rfl⟩
    · rintro ⟨allowed, spelled⟩
      have lowered := (lower_eq_verb_iff allowed).2 spelled
      exact ⟨lowered ▸ allowed, lowered⟩

theorem refusal?_parseVerb (given : Option String) : refusal? (parseVerb given) = verbFault given := by
  unfold parseVerb verbFault
  cases Text.filled given with
  | none => rfl
  | some word =>
    simp only [List.contains_iff_mem, lower_mem_verbs_iff]
    split
    · rfl
    · rfl

/-! ### Targets -/

/-- Whether an expression applies a verb to its target, or to nothing where the verb needs none. -/
inductive Applies (verb : String) : Option String → String → Prop where
  | target (name : String) : Applies verb (some name) (verb ++ "(" ++ name ++ ")")
  | alone : verb = "count" ∨ verb = "rate" → Applies verb none (verb ++ "()")

/-- A verb that needs a target has none. Without a verb nothing can be said about its target. -/
def targetFault (given target : Option String) : Option ArgumentFault :=
  match (Text.filled given).map Text.lowerAscii, Text.filled target with
  | some verb, none =>
    if verb = "count" ∨ verb = "rate" then none else some (.noTarget verb ["count", "rate"])
  | _, _ => none

theorem mem_targetless_iff {verb : String} : verb ∈ targetless ↔ verb = "count" ∨ verb = "rate" := by
  simp [targetless]

theorem expressionOf_eq_ok_iff {verb expression : String} {target : Option String} :
    expressionOf verb target = .ok expression ↔ Applies verb target expression := by
  unfold expressionOf
  cases target with
  | some name =>
    constructor
    · rintro ⟨⟩
      exact .target name
    · rintro ⟨⟩
      rfl
  | none =>
    simp only [List.contains_iff_mem, ite_eq_ok, mem_targetless_iff]
    constructor
    · rintro ⟨needless, rfl⟩
      exact .alone needless
    · rintro ⟨⟩
      exact ⟨by assumption, rfl⟩

theorem refusal?_expressionOf {given : Option String} {verb : String} (spelled : SpellsVerb given verb)
    (target : Option String) :
    refusal? (expressionOf verb (Text.filled target)) = targetFault given target := by
  unfold expressionOf targetFault
  rw [spelled.2]
  cases Text.filled target with
  | some name => rfl
  | none =>
    simp only [List.contains_iff_mem, mem_targetless_iff]
    split
    · rfl
    · rfl

theorem exists_applies_iff {verb : String} {target : Option String} :
    (∃ expression, Applies verb target expression) ↔
      target ≠ none ∨ verb = "count" ∨ verb = "rate" := by
  cases target with
  | some name => exact ⟨fun _ => .inl (by simp), fun _ => ⟨_, .target name⟩⟩
  | none =>
    constructor
    · rintro ⟨_, ⟨⟩⟩
      exact .inr (by assumption)
    · rintro (targeted | needless)
      · exact absurd rfl targeted
      · exact ⟨_, .alone needless⟩

/-- The values of the summary itself, greatest first, unless another order is given. -/
theorem parseOrder_of_blank {given : Option String} {expression : String}
    (blank : Text.filled given = none) : parseOrder given expression = ⟨expression, .desc⟩ := by
  rw [parseOrder, blank]

/-! ### Limits -/

/-- What a limit is asked to be: a positive number as given, and ten for any other or for none. -/
def LimitIs (given : Option String) (limit : Nat) : Prop :=
  match Text.filled given with
  | none => limit = 10
  | some text => ∃ n, Text.int64? text = some n ∧ limit = if 0 < n then n.toNat else 10

def limitFault (given : Option String) : Option ArgumentFault :=
  match Text.filled given with
  | none => none
  | some text => if (Text.int64? text).isSome then none else some (.groupLimit text)

theorem parseLimit_eq_ok_iff {given : Option String} {limit : Nat} :
    parseLimit given = .ok limit ↔ LimitIs given limit := by
  unfold parseLimit LimitIs
  cases Text.filled given with
  | none => simp [defaultLimit, eq_comm]
  | some text =>
    dsimp only
    cases Text.int64? text with
    | none => simp
    | some n => simp [defaultLimit, eq_comm]

theorem refusal?_parseLimit (given : Option String) :
    refusal? (parseLimit given) = limitFault given := by
  unfold parseLimit limitFault
  cases Text.filled given with
  | none => rfl
  | some text =>
    dsimp only
    cases Text.int64? text with
    | none => rfl
    | some n => rfl

theorem exists_limit_iff {given : Option String} :
    (∃ limit, LimitIs given limit) ↔
      ∀ text, Text.filled given = some text → ∃ n, Text.int64? text = some n := by
  unfold LimitIs
  cases Text.filled given with
  | none => simp
  | some text =>
    constructor
    · rintro ⟨_, n, read, -⟩ _ ⟨⟩
      exact ⟨n, read⟩
    · intro numbered
      obtain ⟨n, read⟩ := numbered text rfl
      exact ⟨_, n, read, rfl⟩

/-! ### Summaries -/

/-- What each check alone finds wrong with the arguments, in the order in which the checks are
made: verb, target, filter, limit and window. -/
def faults (a : SummaryChoice) (signal : Signal) (preset : Option String) (now : Time.Instant) :
    List (Option Fault) :=
  [(verbFault a.verb).map .argument, (targetFault a.verb a.target).map .argument,
    (refusal? (a.filter.build signal preset)).map .argument, (limitFault a.limit).map .argument,
    refusal? (a.window.resolve .milliseconds (Time.hours 1) now)]

/-- Whether a summary is what the arguments ask for. -/
structure Asked (a : SummaryChoice) (signal : Signal) (preset : Option String) (now : Time.Instant)
    (s : Summary) : Prop where
  signal_eq : s.signal = signal
  verb : SpellsVerb a.verb s.verb
  target_eq : s.target = Text.filled a.target
  expression : Applies s.verb s.target s.expression
  filter : ∃ f, a.filter.build signal preset = .ok f ∧ s.filter = f.expression?
  groups_eq : s.groups = parseGroups a.groups
  order_eq : s.order = parseOrder a.order s.expression
  unordered : Text.filled a.order = none → s.order = ⟨s.expression, .desc⟩
  limit : LimitIs a.limit s.limit
  window : a.window.resolve .milliseconds (Time.hours 1) now = .ok s.window

theorem refusal?_compile (a : SummaryChoice) (signal : Signal) (preset : Option String)
    (now : Time.Instant) :
    refusal? (compile a signal preset now) = (faults a signal preset now).findSome? id := by
  refine refusal?_bind ?verb fun verb spelled => ?_
  case verb => rw [refusal?_mapError, refusal?_parseVerb]
  refine refusal?_bind ?target fun expression applied => ?_
  case target =>
    have spelled := parseVerb_eq_ok_iff.1 (mapError_eq_ok.1 spelled)
    rw [refusal?_mapError, refusal?_expressionOf spelled]
  refine refusal?_bind (refusal?_mapError _ _) fun f built => ?_
  refine refusal?_bind ?limit fun limit limited => ?_
  case limit => rw [refusal?_mapError, refusal?_parseLimit]
  exact refusal?_bind rfl fun window resolved => rfl

theorem compile_eq_ok_iff : compile a signal preset now = .ok s ↔ Asked a signal preset now s := by
  constructor
  · intro done
    obtain ⟨verb, spelled, done⟩ := bind_eq_ok.1 done
    obtain ⟨expression, applied, done⟩ := bind_eq_ok.1 done
    obtain ⟨filter, built, done⟩ := bind_eq_ok.1 done
    obtain ⟨limit, limited, done⟩ := bind_eq_ok.1 done
    obtain ⟨window, resolved, done⟩ := bind_eq_ok.1 done
    obtain rfl := pure_eq_ok.1 done
    exact {
      signal_eq := rfl
      verb := parseVerb_eq_ok_iff.1 (mapError_eq_ok.1 spelled)
      target_eq := rfl
      expression := expressionOf_eq_ok_iff.1 (mapError_eq_ok.1 applied)
      filter := ⟨filter, mapError_eq_ok.1 built, rfl⟩
      groups_eq := rfl
      order_eq := rfl
      unordered := parseOrder_of_blank
      limit := parseLimit_eq_ok_iff.1 (mapError_eq_ok.1 limited)
      window := resolved }
  · rintro ⟨rfl, verb, target, expression, ⟨f, built, filter⟩, groups, order, -, limit, window⟩
    have spelled := parseVerb_eq_ok_iff.2 verb
    have applied := expressionOf_eq_ok_iff.2 expression
    have limited := parseLimit_eq_ok_iff.2 limit
    simp only [compile, spelled, ← target, applied, built, limited, defaultRange, window, mapError_ok,
      ok_bind, ← filter, ← groups, ← order]
    rfl

/-- Arguments are compiled exactly if they spell an allowed verb, give it a target unless it needs
none, ask for a filter that can be built, for no limit or for a number as a limit, and for a window
that can be resolved. The summary is then the one that they ask for, and otherwise the first of these
that is wrong is reported. -/
theorem compile_yields_asked_or_first_fault (a : SummaryChoice) (signal : Signal)
    (preset : Option String) (now : Time.Instant) :
    ((∃ s, compile a signal preset now = .ok s) ↔
      (∃ verb, SpellsVerb a.verb verb ∧
        (Text.filled a.target ≠ none ∨ verb = "count" ∨ verb = "rate")) ∧
      (∃ f, a.filter.build signal preset = .ok f) ∧
      (∀ text, Text.filled a.limit = some text → ∃ n, Text.int64? text = some n) ∧
      ∃ w, a.window.resolve .milliseconds (Time.hours 1) now = .ok w) ∧
    (∀ s, compile a signal preset now = .ok s ↔ Asked a signal preset now s) ∧
    ∀ f, compile a signal preset now = .error f ↔
      (faults a signal preset now).findSome? id = some f := by
  refine ⟨?_, fun s => compile_eq_ok_iff, fun f => ?_⟩
  · simp only [compile_eq_ok_iff]
    constructor
    · rintro ⟨s, asked⟩
      obtain ⟨f, built, -⟩ := asked.filter
      refine ⟨⟨s.verb, asked.verb, ?_⟩, ⟨f, built⟩, exists_limit_iff.1 ⟨s.limit, asked.limit⟩,
        s.window, asked.window⟩
      rw [← asked.target_eq]
      exact exists_applies_iff.1 ⟨s.expression, asked.expression⟩
    · rintro ⟨⟨verb, spelled, targeted⟩, ⟨f, built⟩, numbered, w, resolved⟩
      obtain ⟨expression, applied⟩ := exists_applies_iff.2 targeted
      obtain ⟨limit, limited⟩ := exists_limit_iff.2 numbered
      let s : Summary := ⟨signal, verb, Text.filled a.target, expression, f.expression?,
        parseGroups a.groups, parseOrder a.order expression, limit, w⟩
      exact ⟨s, rfl, spelled, rfl, applied, ⟨f, built, rfl⟩, rfl, rfl, parseOrder_of_blank, limited, resolved⟩
  · rw [← refusal?_compile, refusal?_eq_some_iff]

example : compile { SummaryChoice.empty with verb := some " Avg ", limit := some "ten" } .logs none 0 =
    .error (.argument (.noTarget "avg" targetless)) := rfl

end TelemetryGateway.Summary
