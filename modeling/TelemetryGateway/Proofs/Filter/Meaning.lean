import Mathlib.Data.List.Forall2
import TelemetryGateway.Proofs.Filter.Reading

set_option autoImplicit false

/-!
# What a filter means and how its text is read

A filter holds for an assignment of truth values to its comparisons, where members with nothing to
write do not count. Its text is read as a formula that can be given along the tree: a single member
is read as it is, and of several members those that are wrapped are read as groups.
-/

namespace TelemetryGateway.Filter

/-- Induction over a filter and all of its members. -/
@[elab_as_elim]
theorem treeInduction {motive : Filter → Prop} (raw : ∀ s, motive (.raw s))
    (compare : ∀ field op value, motive (.compare field op value))
    (all : ∀ members, (∀ m ∈ members, motive m) → motive (.all members))
    (any : ∀ members, (∀ m ∈ members, motive m) → motive (.any members)) : ∀ f, motive f
  | .raw s => raw s
  | .compare field op value => compare field op value
  | .all members => all members fun m _ => treeInduction raw compare all any m
  | .any members => any members fun m _ => treeInduction raw compare all any m

/-- The members that something is written for. -/
def present (members : List Filter) : List Filter := members.filter fun f => !f.isEmpty

theorem mem_present {members : List Filter} {m : Filter} :
    m ∈ present members ↔ m ∈ members ∧ m.isEmpty = false := by
  simp [present]

theorem isEmpty_all (members : List Filter) :
    (all members).isEmpty = false ↔ present members ≠ [] := by
  simp [isEmpty, areEmpty_eq_all, present]

theorem isEmpty_any (members : List Filter) :
    (any members).isEmpty = false ↔ present members ≠ [] := by
  simp [isEmpty, areEmpty_eq_all, present]

/-- Filters whose expressions from the caller are formulas and whose fields are plain words. -/
inductive WellFormed : Filter → Prop
  | blank {s : String} : Text.isBlank s = true → WellFormed (.raw s)
  | raw {s : String} {F : Formula} : Formula.read? s = some F → WellFormed (.raw s)
  | compare {field : String} {op : Comparison} {value : Operand} : IsWord field.toList →
    field ≠ "AND" → field ≠ "OR" → WellFormed (.compare field op value)
  | all {members : List Filter} : (∀ m ∈ members, m.WellFormed) → WellFormed (.all members)
  | any {members : List Filter} : (∀ m ∈ members, m.WellFormed) → WellFormed (.any members)

/-- Something is written for a member that is present. -/
theorem WellFormed.of_present {members : List Filter} (each : ∀ m ∈ members, m.WellFormed) :
    ∀ m ∈ present members, m.WellFormed ∧ m.isEmpty = false := by
  intro m among
  obtain ⟨member, filled⟩ := mem_present.1 among
  exact ⟨each m member, filled⟩

mutual

/-- The truth value of a filter; an expression of the caller has the one it is read with. -/
def holds (σ : Assignment) : Filter → Bool
  | raw s => ((Formula.read? s).map (Formula.holds σ)).getD false
  | compare field op value => σ (comparisonOf field op value)
  | all members => eachHolds σ members
  | any members => someHolds σ members

def eachHolds (σ : Assignment) : List Filter → Bool
  | [] => true
  | f :: rest => (f.isEmpty || f.holds σ) && eachHolds σ rest

def someHolds (σ : Assignment) : List Filter → Bool
  | [] => false
  | f :: rest => (!f.isEmpty && f.holds σ) || someHolds σ rest

end

theorem holds_all (σ : Assignment) (members : List Filter) :
    (all members).holds σ = (present members).all fun m => m.holds σ := by
  rw [holds]
  induction members with
  | nil => rfl
  | cons f rest ih => by_cases h : f.isEmpty <;> simp_all [eachHolds, present]

theorem holds_any (σ : Assignment) (members : List Filter) :
    (any members).holds σ = (present members).any fun m => m.holds σ := by
  rw [holds]
  induction members with
  | nil => rfl
  | cons f rest ih => by_cases h : f.isEmpty <;> simp_all [someHolds, present]

mutual

/-- The comparisons of a filter, from left to right. -/
def comparisons : Filter → List (List Token)
  | raw s => ((Formula.read? s).map Formula.comparisons).getD []
  | compare field op value => [comparisonOf field op value]
  | all members => comparisonsIn members
  | any members => comparisonsIn members

def comparisonsIn : List Filter → List (List Token)
  | [] => []
  | f :: rest => if f.isEmpty then comparisonsIn rest else f.comparisons ++ comparisonsIn rest

end

theorem comparisonsIn_eq (members : List Filter) :
    comparisonsIn members = (present members).flatMap comparisons := by
  induction members with
  | nil => rfl
  | cons f rest ih => by_cases h : f.isEmpty <;> simp_all [comparisonsIn, present]

/-- Several members with a word between them; a single one stands alone. -/
def joined (op : Formula → Formula → Formula) : List (Bool × Formula) → Formula
  | [m] => m.2
  | ms => Formula.chain op (ms.map fun m => if m.1 then m.2.grouped else m.2)

mutual

/-- The formula as which the text of a filter is read. -/
def reading : Filter → Formula
  | raw s => (Formula.read? s).getD .empty
  | compare field op value => .single (.comparison (comparisonOf field op value))
  | all members => joined Formula.and (readings wrapsInAll members)
  | any members => joined Formula.or (readings wrapsInAny members)

/-- The readings of the members that are not empty, with whether they are wrapped. -/
def readings (wraps : Filter → Bool) : List Filter → List (Bool × Formula)
  | [] => []
  | f :: rest =>
    if f.isEmpty then readings wraps rest else (wraps f, f.reading) :: readings wraps rest

end

theorem readings_eq_map (wraps : Filter → Bool) (members : List Filter) :
    readings wraps members = (present members).map fun f => (wraps f, f.reading) := by
  induction members with
  | nil => rfl
  | cons f rest ih => by_cases h : f.isEmpty <;> simp_all [readings, present]

/-- The reading of one of several members. -/
def pieceReading (wraps : Filter → Bool) (f : Filter) : Formula :=
  if wraps f then f.reading.grouped else f.reading

theorem joined_none (op : Formula → Formula → Formula) {wraps : Filter → Bool}
    {members : List Filter} (nothing : present members = []) :
    joined op (readings wraps members) = .empty := by
  rw [readings_eq_map, nothing]
  rfl

theorem joined_single (op : Formula → Formula → Formula) {wraps : Filter → Bool}
    {members : List Filter} {m : Filter} (only : present members = [m]) :
    joined op (readings wraps members) = m.reading := by
  rw [readings_eq_map, only]
  rfl

theorem joined_several (op : Formula → Formula → Formula) {wraps : Filter → Bool}
    {members : List Filter} (several : (present members).length ≠ 1) :
    joined op (readings wraps members) =
      Formula.chain op ((present members).map (pieceReading wraps)) := by
  rw [readings_eq_map]
  match present members, several with
  | [], _ => rfl
  | m :: n :: rest, _ =>
    have piece : pieceReading wraps = fun f => if wraps f then f.reading.grouped else f.reading := rfl
    rw [piece]
    simp [joined, Function.comp_def]

/-! ### Reading what was written -/

theorem solid_append (ts us : List Token) : solid (ts ++ us) = solid ts ++ solid us :=
  List.filter_append ..

theorem solid_intercalate (w : List Char) (pieces : List (List Token)) :
    solid (List.intercalate (Token.separator w) pieces) =
      List.intercalate [.word w] (pieces.map solid) := by
  induction pieces with
  | nil => rfl
  | cons p pieces ih =>
    cases pieces with
    | nil => simp
    | cons q pieces =>
      have word : solid (Token.separator w) = [.word w] := rfl
      rw [List.intercalate_cons_cons, solid_append, solid_append, ih, word]
      simp [List.intercalate_cons_cons]

/-- A text that is read as a formula. -/
def Spells (s : String) (F : Formula) : Prop :=
  ∃ ts, Token.ofText? s = some ts ∧ Reads (solid ts) F

theorem Spells.read? {s : String} {F : Formula} (h : Spells s F) : Formula.read? s = some F := by
  obtain ⟨ts, scanned, reads⟩ := h
  obtain ⟨done, run, finished⟩ := reads.read?
  simp [Formula.read?, scanned, run, finished]

theorem spells_of_read? {s : String} {F : Formula} (h : Formula.read? s = some F) : Spells s F := by
  obtain ⟨ts, scanned, rest⟩ := Option.bind_eq_some_iff.1 h
  obtain ⟨done, run, finished⟩ := Option.bind_eq_some_iff.1 rest
  exact ⟨ts, scanned, reads_of_run run finished⟩

theorem Spells.grouped {s : String} {F : Formula} (h : Spells s F) :
    Spells ("(" ++ s ++ ")") F.grouped := by
  obtain ⟨ts, scanned, reads⟩ := h
  refine ⟨_, Token.ofText?_parenthesized scanned, ?_⟩
  have kept : solid (.opening :: ts ++ [.closing]) = .opening :: solid ts ++ [.closing] := by
    simp [solid]
  rw [kept]
  exact reads.grouped

theorem Spells.intercalate {w : List Char} (isWord : IsWord w) {op : Formula → Formula → Formula}
    (joins : ∀ {ts us F G}, Reads ts F → Reads us G → Reads (ts ++ .word w :: us) (op F G))
    {texts : List String} {Fs : List Formula} (spelled : List.Forall₂ Spells texts Fs)
    (filled : texts ≠ []) :
    Spells (String.intercalate (String.ofList (' ' :: w ++ [' '])) texts) (Formula.chain op Fs) := by
  have pieces : ∃ pieces, List.Forall₂ (fun s ts => Token.ofText? s = some ts) texts pieces ∧
      List.Forall₂ Reads (pieces.map solid) Fs := by
    clear filled
    induction spelled with
    | nil => exact ⟨[], .nil, .nil⟩
    | cons first later ih =>
      obtain ⟨ts, scanned, reads⟩ := first
      obtain ⟨pieces, scans, readings⟩ := ih
      exact ⟨ts :: pieces, .cons scanned scans, .cons reads readings⟩
  obtain ⟨pieces, scanned, reads⟩ := pieces
  refine ⟨_, Token.ofText?_intercalate isWord scanned, ?_⟩
  rw [solid_intercalate]
  apply Reads.intercalate joins reads
  rintro nothing
  obtain rfl : pieces = [] := by simpa using nothing
  cases scanned
  exact filled rfl

/-- Members that are read one by one are read together. -/
theorem spells_join {wraps : Filter → Bool} {members : List Filter} {w : List Char}
    (isWord : IsWord w) {op : Formula → Formula → Formula}
    (joins : ∀ {ts us F G}, Reads ts F → Reads us G → Reads (ts ++ .word w :: us) (op F G))
    (filled : present members ≠ []) (each : ∀ m ∈ present members, Spells m.text m.reading) :
    Spells (join (String.ofList (' ' :: w ++ [' '])) (texts wraps members))
      (joined op (readings wraps members)) := by
  rw [texts_eq_map, readings_eq_map]
  change Spells (join _ ((present members).map _)) _
  match present members, filled, each with
  | [m], _, each => exact each m (by simp)
  | m :: n :: rest, _, each =>
    have piece : ∀ f ∈ m :: n :: rest, Spells (if wraps f then "(" ++ f.text ++ ")" else f.text)
        (if wraps f then f.reading.grouped else f.reading) := by
      intro f among
      by_cases wrapped : wraps f = true
      · simpa [wrapped] using (each f among).grouped
      · simpa [wrapped] using each f among
    have all := Spells.intercalate isWord joins
      (List.forall₂_map_left_iff.2 (List.forall₂_map_right_iff.2 (List.forall₂_same.2 piece)))
      (by simp)
    simpa [join, joined, Function.comp_def] using all

/-- The text of a filter is read along the tree. -/
theorem spells_text {f : Filter} (wellFormed : f.WellFormed) (unempty : f.isEmpty = false) :
    Spells f.text f.reading := by
  induction f using treeInduction with
  | raw s =>
    cases wellFormed with
    | blank blank => simp [isEmpty, blank] at unempty
    | raw read =>
      rw [reading, read]
      exact spells_of_read? (Formula.read?_trim read)
  | compare field op value =>
    cases wellFormed with | compare isWord notAnd notOr =>
    refine ⟨_, ofText?_compare isWord op value, ?_⟩
    have kept : solid (comparisonTokens field op value) = comparisonOf field op value := by
      simp [solid, comparisonTokens, comparisonOf]
    rw [kept]
    exact reads_comparisonOf ⟨notAnd, notOr⟩ op value
  | all members ih =>
    cases wellFormed with | all each =>
    apply spells_join (w := "AND".toList) (by decide) Reads.and ((isEmpty_all members).1 unempty)
    intro m among
    obtain ⟨member, filled⟩ := mem_present.1 among
    exact ih m member (each m member) filled
  | any members ih =>
    cases wellFormed with | any each =>
    apply spells_join (w := "OR".toList) (by decide) Reads.or ((isEmpty_any members).1 unempty)
    intro m among
    obtain ⟨member, filled⟩ := mem_present.1 among
    exact ih m member (each m member) filled

end TelemetryGateway.Filter
