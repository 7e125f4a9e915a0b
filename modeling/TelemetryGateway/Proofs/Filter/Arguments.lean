import TelemetryGateway.Filter.Choice
import TelemetryGateway.Proofs.Filter.Term
import TelemetryGateway.Proofs.Outcome
import TelemetryGateway.Proofs.Text.Spelling

set_option autoImplicit false

/-!
# What the filter arguments ask for

The arguments of a search ask for a list of terms that can be written down without building a
filter. The expression that is sent is read back as exactly these terms, so no argument can end its
own literal, add a term or take one away.
-/

namespace TelemetryGateway

namespace Filter

/-- The member of a filter that asks for a term. -/
def Term.filter : Term → Filter
  | group s => ofText s
  | compare field op value => .compare field op value

/-- A term from an argument: an expression of the caller is trimmed and not blank. -/
def Term.Settled : Term → Prop
  | group s => Text.trim s = s ∧ Text.isBlank s = false
  | compare _ _ _ => True

theorem Term.Settled.isEmpty_filter {t : Term} (h : t.Settled) : t.filter.isEmpty = false := by
  cases t with
  | group s => simp [filter, ofText, isEmpty, h.1, h.2]
  | compare field op value => rfl

theorem Term.Settled.text_filter {t : Term} (h : t.Settled) :
    (if wrapsInAll t.filter then "(" ++ t.filter.text ++ ")" else t.filter.text) = t.written := by
  cases t with
  | group s => simp [filter, ofText, wrapsInAll, text, written, h.1]
  | compare field op value => rfl

/-- What is written for terms; an expression of the caller that stands alone has no parentheses. -/
def Term.conjunction? : List Term → Option String
  | [] => none
  | [group s] => some s
  | terms => some (String.intercalate " AND " (terms.map written))

theorem expression?_conjunction {terms : List Term} (settled : ∀ t ∈ terms, t.Settled) :
    (conjunction (terms.map Term.filter)).expression? = Term.conjunction? terms := by
  have kept : (terms.map Term.filter).filter (fun f => !f.isEmpty) = terms.map Term.filter := by
    rw [List.filter_eq_self]
    intro f among
    obtain ⟨t, member, rfl⟩ := List.mem_map.1 among
    simp [(settled t member).isEmpty_filter]
  rw [conjunction, kept, expression?, text, texts_eq_map, kept, isEmpty, areEmpty_eq_all]
  cases terms with
  | nil => rfl
  | cons t rest =>
    have first : t.Settled := settled t (by simp)
    have unempty : ((t :: rest).map Term.filter).all isEmpty = false := by
      simp [first.isEmpty_filter]
    rw [unempty, if_neg (by decide)]
    cases rest with
    | nil =>
      cases t with
      | group s => simp [join, Term.conjunction?, Term.filter, ofText, text, first.1]
      | compare field op value => simp [join, Term.conjunction?, Term.filter, Term.written]
    | cons u rest =>
      have each : ((t :: u :: rest).map Term.filter).map
          (fun f => if wrapsInAll f then "(" ++ f.text ++ ")" else f.text) =
            (t :: u :: rest).map Term.written := by
        rw [List.map_map]
        exact List.map_congr_left fun v among => (settled v among).text_filter
      simp only [Term.conjunction?, ← each]
      simp [join, Function.comp_def]

/-- How a filter is read: nothing is written for no terms, a single expression of the caller stands
as it is, and everything else is read back as the terms if each expression closes what it opens. -/
def ReadBackAs (f : Filter) : List Term → Prop
  | [] => f.expression? = none
  | [.group s] => f.expression? = some s
  | terms => (∀ s, .group s ∈ terms → Balanced s) →
      ∃ written, f.expression? = some written ∧ Term.read? written = some terms

theorem readBackAs_conjunction {terms : List Term} (settled : ∀ t ∈ terms, t.Settled)
    (fields : ∀ field op value, .compare field op value ∈ terms →
      IsWord field.toList ∧ field ≠ "AND") :
    (conjunction (terms.map Term.filter)).ReadBackAs terms := by
  have expression := expression?_conjunction settled
  have wellFormed (balanced : ∀ s, .group s ∈ terms → Balanced s) :
      ∀ t ∈ terms, t.WellFormed := by
    intro t among
    cases t with
    | group s => exact balanced s among
    | compare field op value => exact fields field op value among
  -- the cases of the text and of the reading are the same: none, one expression, all others
  unfold Term.conjunction? at expression
  unfold ReadBackAs
  split at expression
  · exact expression
  · exact expression
  · rename_i filled _
    intro balanced
    exact ⟨_, expression, Term.read?_intercalate filled (wellFormed balanced)⟩

end Filter

namespace FilterChoice

open TelemetryGateway.Filter (Term)

/-- The word for a truth value in any letter case. -/
def SpellsFlag (s : String) : Prop := Text.lowerAscii s = "true" ∨ Text.lowerAscii s = "false"

instance (s : String) : Decidable (SpellsFlag s) := inferInstanceAs (Decidable (_ ∨ _))

theorem lower_eq_true_iff {s : String} : Text.lower s = "true" ↔ Text.lowerAscii s = "true" :=
  Text.lower_eq_iff (by decide)

theorem lower_eq_false_iff {s : String} : Text.lower s = "false" ↔ Text.lowerAscii s = "false" :=
  Text.lower_eq_iff (by decide)

theorem flag_of_spellsFlag {name given : String} (spelled : SpellsFlag given) :
    flag name given = .ok (decide (Text.lowerAscii given = "true")) := by
  simp only [flag, lower_eq_true_iff, lower_eq_false_iff]
  rcases spelled with yes | no
  · simp [yes]
  · simp [no]

theorem flag_of_not_spellsFlag {name given : String} (other : ¬ SpellsFlag given) :
    flag name given = .error (.flag name given) := by
  simp only [flag, lower_eq_true_iff, lower_eq_false_iff]
  rw [if_neg fun h => other (.inl h), if_neg fun h => other (.inr h)]

def term (argument : Option String) (make : String → Term) : List Term :=
  ((Text.filled argument).map make).toList

/-- What is asked for under every signal. -/
def askedAlways (a : FilterChoice) (preset : Option String) : List Term :=
  term a.expression .group ++ term preset .group ++
    term a.service fun s => .compare "service.name" .equal (.text s)

/-- What is asked for under one signal alone. -/
def askedOf (a : FilterChoice) : Signal → List Term
  | .logs =>
    term a.severity (fun s => .compare "severity_text" .equal (.text (Text.upper s))) ++
      term a.body fun s => .compare "body" .contains (.text s)
  | .traces =>
    term a.operation (fun s => .compare "name" .equal (.text s)) ++
      term a.failed fun s => .compare "hasError" .equal (.flag (decide (Text.lowerAscii s = "true")))
  | _ => []

/-- What the arguments and the preset ask for, in the order in which it is written. -/
def asked (a : FilterChoice) (signal : Signal) (preset : Option String) : List Term :=
  a.askedAlways preset ++ a.askedOf signal

/-- The arguments without those of other signals. -/
def relevantTo (a : FilterChoice) (signal : Signal) : FilterChoice :=
  { a with
    severity := if signal = .logs then a.severity else none
    body := if signal = .logs then a.body else none
    operation := if signal = .traces then a.operation else none
    failed := if signal = .traces then a.failed else none }

theorem mem_term {argument : Option String} {make : String → Term} {t : Term} :
    t ∈ term argument make ↔ ∃ s, Text.filled argument = some s ∧ make s = t := by
  simp [term]

theorem settled_asked {a : FilterChoice} {signal : Signal} {preset : Option String} :
    ∀ t ∈ a.asked signal preset, t.Settled := by
  intro t among
  cases t with
  | compare field op value => trivial
  | group s =>
    have given : Text.filled a.expression = some s ∨ Text.filled preset = some s := by
      cases signal <;> simpa [asked, askedAlways, askedOf, mem_term] using among
    rcases given with h | h <;> exact ⟨Text.trim_of_filled h, Text.isBlank_of_filled h⟩

theorem fields_asked {a : FilterChoice} {signal : Signal} {preset : Option String} {field : String}
    {op : Comparison} {value : Operand} (among : .compare field op value ∈ a.asked signal preset) :
    Filter.IsWord field.toList ∧ field ≠ "AND" := by
  have all : ∀ name ∈ ["service.name", "severity_text", "body", "name", "hasError"],
      Filter.IsWord name.toList ∧ name ≠ "AND" := by decide
  apply all field
  cases signal <;> simp [asked, askedAlways, askedOf, mem_term] at among <;> simp only [List.mem_cons] <;> tauto

theorem map_filter_term (argument : Option String) (make : String → Term) :
    (term argument make).map Term.filter = member argument fun s => (make s).filter := by
  cases given : Text.filled argument <;> simp [member, term, given]

theorem shared_eq (a : FilterChoice) (preset : Option String) :
    a.shared preset = (a.askedAlways preset).map Term.filter := by
  simp only [askedAlways, List.map_append, map_filter_term]
  rfl

theorem ofLogs_eq (a : FilterChoice) : a.ofLogs = (a.askedOf .logs).map Term.filter := by
  simp only [askedOf, List.map_append, map_filter_term]
  rfl

theorem ofTraces_of_not_spellsFlag {a : FilterChoice} {given : String}
    (filled : Text.filled a.failed = some given) (other : ¬ SpellsFlag given) :
    a.ofTraces = .error (.flag "error" given) := by
  rw [ofTraces, filled]
  simp only [flag_of_not_spellsFlag other]
  rfl

theorem ofTraces_eq {a : FilterChoice}
    (spelled : ∀ given, Text.filled a.failed = some given → SpellsFlag given) :
    a.ofTraces = .ok ((a.askedOf .traces).map Term.filter) := by
  simp only [askedOf, List.map_append, map_filter_term]
  cases filled : Text.filled a.failed with
  | none =>
    simp only [ofTraces, filled, member, Option.map_none, Option.toList_none, List.append_nil]
    rfl
  | some given =>
    simp only [ofTraces, filled, flag_of_spellsFlag (spelled given filled), member]
    rfl

/-- Where no flag is refused, the filter is the conjunction of the terms. -/
theorem build_eq_ok {a : FilterChoice} {signal : Signal} (preset : Option String)
    (spelled : signal = .traces → ∀ given, Text.filled a.failed = some given → SpellsFlag given) :
    a.build signal preset = .ok (.conjunction ((a.asked signal preset).map Term.filter)) := by
  rw [asked, List.map_append, ← shared_eq]
  cases signal with
  | logs =>
    rw [← ofLogs_eq]
    rfl
  | traces =>
    rw [build]
    simp only [ofTraces_eq (spelled rfl)]
    rfl
  | metrics => rfl
  | other name => rfl

theorem build_eq_error {a : FilterChoice} (preset : Option String) {given : String}
    (filled : Text.filled a.failed = some given) (other : ¬ SpellsFlag given) :
    a.build .traces preset = .error (.flag "error" given) := by
  rw [build]
  simp only [ofTraces_of_not_spellsFlag filled other]
  rfl

/-- Only the flag of traces can be refused. -/
theorem build_eq_error_iff {a : FilterChoice} {signal : Signal} {preset : Option String}
    {fault : ArgumentFault} :
    a.build signal preset = .error fault ↔ signal = .traces ∧ ∃ given,
      Text.filled a.failed = some given ∧ ¬ SpellsFlag given ∧ fault = .flag "error" given := by
  constructor
  · intro refused
    by_cases spelled : signal = .traces → ∀ given, Text.filled a.failed = some given →
        SpellsFlag given
    · rw [build_eq_ok preset spelled] at refused
      exact absurd refused (by simp)
    · push Not at spelled
      obtain ⟨rfl, given, filled, other⟩ := spelled
      rw [build_eq_error preset filled other] at refused
      exact ⟨rfl, given, filled, other, (Except.error.inj refused).symm⟩
  · rintro ⟨rfl, given, filled, other, rfl⟩
    exact build_eq_error preset filled other

theorem build_relevantTo (a : FilterChoice) (signal : Signal) (preset : Option String) :
    (a.relevantTo signal).build signal preset = a.build signal preset := by
  cases signal <;> rfl

/-- Building fails only on a flag of traces that is no truth value, and arguments of other signals
have no influence. Whatever the arguments hold, what is written is read back as the terms asked for,
in order, with nothing added or lost. -/
theorem build_reads_back (a : FilterChoice) (signal : Signal) (preset : Option String) :
    (∀ fault, a.build signal preset = .error fault ↔ signal = .traces ∧ ∃ given,
      Text.filled a.failed = some given ∧ ¬ SpellsFlag given ∧ fault = .flag "error" given) ∧
    (a.relevantTo signal).build signal preset = a.build signal preset ∧
    ∀ f, a.build signal preset = .ok f → f.ReadBackAs (a.asked signal preset) := by
  refine ⟨fun fault => build_eq_error_iff, build_relevantTo a signal preset, ?_⟩
  intro f built
  have spelled : signal = .traces → ∀ given, Text.filled a.failed = some given →
      SpellsFlag given := by
    rintro rfl given filled
    by_contra other
    rw [build_eq_error preset filled other] at built
    exact absurd built (by simp)
  obtain rfl := Except.ok.inj ((build_eq_ok preset spelled).symm.trans built)
  exact Filter.readBackAs_conjunction settled_asked fun _ _ _ among => fields_asked among

/-- Arguments full of quotes, backslashes, parentheses and words of the language. -/
def hostile : FilterChoice :=
  { empty with
    expression := some "a = ')' OR (b = 2)"
    service := some " it's "
    body := some "\\' AND (x = 'y\\" }

theorem hostile_reads_back :
    ∃ f, hostile.build .logs none = .ok f ∧ ∃ written, f.expression? = some written ∧
      Term.read? written = some [.group "a = ')' OR (b = 2)",
        .compare "service.name" .equal (.text "it's"),
        .compare "body" .contains (.text "\\' AND (x = 'y\\")] := by
  have balanced : Filter.Balanced "a = ')' OR (b = 2)" := ⟨_, rfl, by decide⟩
  have asks : hostile.asked .logs none = [.group "a = ')' OR (b = 2)",
      .compare "service.name" .equal (.text "it's"),
      .compare "body" .contains (.text "\\' AND (x = 'y\\")] := by
    decide +kernel
  have built : hostile.build .logs none =
      .ok (.conjunction ((hostile.asked .logs none).map Term.filter)) :=
    build_eq_ok none (by simp)
  have reads := (build_reads_back hostile .logs none).2.2 _ built
  rw [asks] at reads
  refine ⟨_, built, ?_⟩
  rw [asks]
  apply reads
  intro s among
  obtain rfl : s = "a = ')' OR (b = 2)" := by simpa using among
  exact balanced

end FilterChoice

end TelemetryGateway
