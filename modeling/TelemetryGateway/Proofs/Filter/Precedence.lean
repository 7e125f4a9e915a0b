import Mathlib.Data.List.Nodup
import TelemetryGateway.Proofs.Filter.Meaning

set_option autoImplicit false

/-!
# When the text of a filter means what the filter means

A member of a conjunction is put into parentheses by what kind of node it is, and a node with a
single member is written as that member. So a conjunction inside of a conjunction brings the word OR
of its only member to the top, where it binds less than the words AND around it. Where this does not
happen, text and tree have the same truth value under every assignment. Where it happens, and no
comparison occurs twice, they differ under some assignment.
-/

namespace TelemetryGateway.Filter

/-- Whether the text has a word OR outside of parentheses, which only a single member passes on. -/
inductive ShowsOr : Filter → Prop
  | raw {s : String} {F : Formula} : Formula.read? s = some F → F.earlier ≠ [] →
    ShowsOr (.raw s)
  | several {members : List Filter} : 2 ≤ (present members).length → ShowsOr (.any members)
  | onlyAny {members : List Filter} {m : Filter} : present members = [m] → m.ShowsOr →
    ShowsOr (.any members)
  | onlyAll {members : List Filter} {m : Filter} : present members = [m] → m.ShowsOr →
    ShowsOr (.all members)

/-- No conjunction of several members has one that is not wrapped and shows a word OR. -/
inductive Faithful : Filter → Prop
  | raw (s : String) : Faithful (.raw s)
  | compare (field : String) (op : Comparison) (value : Operand) : Faithful (.compare field op value)
  | all {members : List Filter} : (∀ m ∈ present members, m.Faithful) →
    (2 ≤ (present members).length →
      ∀ m ∈ present members, m.wrapsInAll = false → ¬ m.ShowsOr) → Faithful (.all members)
  | any {members : List Filter} : (∀ m ∈ present members, m.Faithful) → Faithful (.any members)

/-- A filter that is empty, has one member, or has several. -/
theorem present_cases (members : List Filter) :
    present members = [] ∨ (∃ m, present members = [m]) ∨ 2 ≤ (present members).length := by
  match present members with
  | [] => exact .inl rfl
  | [m] => exact .inr (.inl ⟨m, rfl⟩)
  | m :: n :: rest => exact .inr (.inr (by simp))

theorem exists_cons_cons {α : Type} {xs : List α} (two : 2 ≤ xs.length) :
    ∃ a b rest, xs = a :: b :: rest := by
  cases xs with
  | nil => exact absurd two (by simp)
  | cons a others =>
    cases others with
    | nil => exact absurd two (by simp)
    | cons b rest => exact ⟨a, b, rest, rfl⟩

theorem earlier_pieceReading {wraps : Filter → Bool} {f : Filter} :
    (pieceReading wraps f).earlier = [] ↔ wraps f = true ∨ f.reading.earlier = [] := by
  by_cases wrapped : wraps f = true <;> simp [pieceReading, wrapped]

@[simp] theorem holds_pieceReading (wraps : Filter → Bool) (f : Filter) (σ : Assignment) :
    (pieceReading wraps f).holds σ = f.reading.holds σ := by
  by_cases wrapped : wraps f = true <;> simp [pieceReading, wrapped]

@[simp] theorem comparisons_pieceReading (wraps : Filter → Bool) (f : Filter) :
    (pieceReading wraps f).comparisons = f.reading.comparisons := by
  by_cases wrapped : wraps f = true <;> simp [pieceReading, wrapped]

theorem earlier_of_showsOr {f : Filter} (shows : f.ShowsOr) : f.reading.earlier ≠ [] := by
  induction shows with
  | raw read several => simpa [reading, read] using several
  | @several members two =>
    obtain ⟨m, n, rest, split⟩ := exists_cons_cons two
    rw [reading, joined_several _ (by omega), split]
    simp [Formula.chain_cons_cons]
  | onlyAny only _ ih => rwa [reading, joined_single _ only]
  | onlyAll only _ ih => rwa [reading, joined_single _ only]

/-- Where every bare member that shows a word OR has been ruled out, no member brings one to the
top. -/
theorem earlier_of_apart {members : List Filter}
    (apart : ∀ m ∈ present members, m.wrapsInAll = false → ¬ m.ShowsOr)
    (shows : ∀ m ∈ present members, m.reading.earlier ≠ [] → m.ShowsOr) :
    ∀ m ∈ present members, (pieceReading wrapsInAll m).earlier = [] := by
  intro m among
  rw [earlier_pieceReading]
  by_cases wrapped : wrapsInAll m = true
  · exact .inl wrapped
  · right
    by_contra several
    exact apart m among (by simpa using wrapped) (shows m among several)

theorem showsOr_of_earlier {f : Filter} (faithful : f.Faithful) (several : f.reading.earlier ≠ []) :
    f.ShowsOr := by
  induction f using treeInduction with
  | raw s =>
    cases read : Formula.read? s with
    | none => simp [reading, read, Formula.empty] at several
    | some F => exact .raw read (by simpa [reading, read] using several)
  | compare field op value => exact absurd rfl several
  | all members ih =>
    cases faithful with | all each apart =>
    obtain nothing | ⟨m, only⟩ | two := present_cases members
    · exact absurd (congrArg Formula.earlier (joined_none _ nothing)) several
    · rw [reading, joined_single _ only] at several
      have among : m ∈ present members := by simp [only]
      exact .onlyAll only (ih m (mem_present.1 among).1 (each m among) several)
    · rw [reading, joined_several _ (by omega), Ne, Formula.earlier_chain_and] at several
      refine absurd ?_ several
      rw [List.forall_mem_map]
      apply earlier_of_apart (apart two)
      intro m among
      exact ih m (mem_present.1 among).1 (each m among)
  | any members ih =>
    cases faithful with | any each =>
    obtain nothing | ⟨m, only⟩ | two := present_cases members
    · exact absurd (congrArg Formula.earlier (joined_none _ nothing)) several
    · rw [reading, joined_single _ only] at several
      have among : m ∈ present members := by simp [only]
      exact .onlyAny only (ih m (mem_present.1 among).1 (each m among) several)
    · exact .several two

/-! ### Truth along the tree -/

theorem all_congr_mem {α : Type} {xs : List α} {p q : α → Bool} (same : ∀ x ∈ xs, p x = q x) :
    xs.all p = xs.all q := by
  rw [Bool.eq_iff_iff, List.all_eq_true, List.all_eq_true]
  exact forall₂_congr fun x among => by rw [same x among]

theorem any_congr_mem {α : Type} {xs : List α} {p q : α → Bool} (same : ∀ x ∈ xs, p x = q x) :
    xs.any p = xs.any q := by
  rw [Bool.eq_iff_iff, List.any_eq_true, List.any_eq_true]
  exact exists_congr fun x => and_congr_right fun among => by rw [same x among]

theorem holds_reading_any {members : List Filter} (filled : present members ≠ []) (σ : Assignment) :
    (any members).reading.holds σ = (present members).any fun m => m.reading.holds σ := by
  rw [reading]
  obtain nothing | ⟨m, only⟩ | two := present_cases members
  · exact absurd nothing filled
  · simp [joined_single _ only, only]
  · rw [joined_several _ (by omega), Formula.holds_chain_or (by simpa using filled)]
    simp [List.any_map, Function.comp_def]

/-- Where no member shows a word OR, a conjunction is read as one. -/
theorem holds_reading_all {members : List Filter}
    (flat : 2 ≤ (present members).length →
      ∀ m ∈ present members, (pieceReading wrapsInAll m).earlier = []) (σ : Assignment) :
    (all members).reading.holds σ = (present members).all fun m => m.reading.holds σ := by
  rw [reading]
  obtain nothing | ⟨m, only⟩ | two := present_cases members
  · rw [joined_none _ nothing, nothing]
    rfl
  · simp [joined_single _ only, only]
  · have pieces : ∀ F ∈ (present members).map (pieceReading wrapsInAll), F.earlier = [] := by
      simpa only [List.forall_mem_map] using flat two
    rw [joined_several _ (by omega), Formula.holds_chain_and pieces]
    simp [List.all_map, Function.comp_def]

/-- A faithful filter is read as what it means. -/
theorem Faithful.holds_reading {f : Filter} (faithful : f.Faithful) (wellFormed : f.WellFormed)
    (unempty : f.isEmpty = false) (σ : Assignment) : f.reading.holds σ = f.holds σ := by
  induction f using treeInduction with
  | raw s =>
    cases wellFormed with
    | blank blank => simp [isEmpty, blank] at unempty
    | raw read => simp [reading, holds, read]
  | compare field op value => simp [reading, holds, Factor.holds]
  | all members ih =>
    cases faithful with | all each apart =>
    cases wellFormed with | all formed =>
    have flat : 2 ≤ (present members).length →
        ∀ m ∈ present members, (pieceReading wrapsInAll m).earlier = [] := by
      intro two
      apply earlier_of_apart (apart two)
      intro m among
      exact showsOr_of_earlier (each m among)
    rw [holds_reading_all flat, holds_all]
    apply all_congr_mem
    intro m among
    obtain ⟨member, filled⟩ := mem_present.1 among
    exact ih m member (each m among) (formed m member) filled
  | any members ih =>
    cases faithful with | any each =>
    cases wellFormed with | any formed =>
    rw [holds_reading_any ((isEmpty_any members).1 unempty), holds_any]
    apply any_congr_mem
    intro m among
    obtain ⟨member, filled⟩ := mem_present.1 among
    exact ih m member (each m among) (formed m member) filled

/-! ### Telling text and tree apart -/

/-- The comparisons that decide a truth value, which is the one of all of them where they agree. -/
structure DecidedBy (cs : List (List Token)) (v : Assignment → Bool) : Prop where
  congr : ∀ σ τ : Assignment, (∀ c ∈ cs, σ c = τ c) → v σ = v τ
  agrees : ∀ b : Bool, v (fun _ => b) = b

/-- The assignment on some comparisons, and one truth value on all others. -/
def Assignment.on (σ : Assignment) (cs : List (List Token)) (b : Bool) : Assignment :=
  fun c => if c ∈ cs then σ c else b

theorem DecidedBy.on_own {cs : List (List Token)} {v : Assignment → Bool} (h : DecidedBy cs v)
    (σ : Assignment) (b : Bool) : v (σ.on cs b) = v σ := by
  apply h.congr
  intro c among
  simp [Assignment.on, among]

theorem DecidedBy.on_other {cs ds : List (List Token)} {v : Assignment → Bool} (h : DecidedBy ds v)
    (apart : cs.Disjoint ds) (σ : Assignment) (b : Bool) : v (σ.on cs b) = b := by
  refine (h.congr _ (fun _ => b) ?_).trans (h.agrees b)
  intro c among
  have outside : c ∉ cs := fun inside => apart inside among
  simp [Assignment.on, outside]

theorem all_eq_of_forall {α : Type} {xs : List α} (filled : xs ≠ []) {p : α → Bool} {b : Bool}
    (same : ∀ x ∈ xs, p x = b) : xs.all p = b := by
  obtain ⟨x, among⟩ := List.exists_mem_of_ne_nil xs filled
  cases b with
  | false => exact List.all_eq_false.2 ⟨x, among, by simp [same x among]⟩
  | true => exact List.all_eq_true.2 same

theorem any_eq_of_forall {α : Type} {xs : List α} (filled : xs ≠ []) {p : α → Bool} {b : Bool}
    (same : ∀ x ∈ xs, p x = b) : xs.any p = b := by
  obtain ⟨x, among⟩ := List.exists_mem_of_ne_nil xs filled
  cases b with
  | false => exact List.any_eq_false.2 fun y member => by simp [same y member]
  | true => exact List.any_eq_true.2 ⟨x, among, same x among⟩

theorem comparisons_reading (f : Filter) : f.reading.comparisons = f.comparisons := by
  have node (op : Formula → Formula → Formula) (wraps : Filter → Bool) {members : List Filter}
      (both : ∀ F G, (op F G).comparisons = F.comparisons ++ G.comparisons)
      (ih : ∀ m ∈ members, m.reading.comparisons = m.comparisons) :
      (joined op (readings wraps members)).comparisons = comparisonsIn members := by
    have each : ∀ m ∈ present members, m.reading.comparisons = m.comparisons := fun m among =>
      ih m (mem_present.1 among).1
    rw [comparisonsIn_eq]
    by_cases only : (present members).length = 1
    · obtain ⟨m, only⟩ := List.length_eq_one_iff.1 only
      rw [joined_single op only, only, each m (by simp [only])]
      simp
    · rw [joined_several op only, Formula.comparisons_chain both, List.flatMap_map]
      simp only [comparisons_pieceReading]
      rw [List.flatMap_congr each]
  induction f using treeInduction with
  | raw s => cases read : Formula.read? s <;> simp [reading, comparisons, read]; rfl
  | compare field op value => rfl
  | all members ih => exact node _ _ Formula.comparisons_and ih
  | any members ih => exact node _ _ Formula.comparisons_or ih

/-- The text of a filter is decided by the comparisons of the tree. -/
theorem decidedBy_reading {f : Filter} (wellFormed : f.WellFormed) (unempty : f.isEmpty = false) :
    DecidedBy f.comparisons fun σ => f.reading.holds σ where
  congr σ τ same := Formula.holds_congr (by rwa [comparisons_reading])
  agrees b := by
    obtain ⟨ts, -, reads⟩ := spells_text wellFormed unempty
    cases b with
    | false => exact reads.refuted
    | true => exact Formula.holds_true _

/-- What is put together from the truth values of members is decided by what decides these. -/
theorem decidedBy_members {members : List Filter} {combine : (Filter → Bool) → Bool}
    (own : ∀ {p q : Filter → Bool}, (∀ m ∈ members, p m = q m) → combine p = combine q)
    (agree : ∀ {p : Filter → Bool} {b : Bool}, (∀ m ∈ members, p m = b) → combine p = b)
    (each : ∀ m ∈ members, DecidedBy m.comparisons fun σ => m.holds σ) :
    DecidedBy (members.flatMap comparisons) fun σ => combine fun m => m.holds σ where
  congr σ τ same := by
    apply own
    intro m among
    apply (each m among).congr
    intro c inside
    exact same c (List.mem_flatMap_of_mem among inside)
  agrees b := by
    apply agree
    intro m among
    exact (each m among).agrees b

theorem decidedBy_holds {f : Filter} (wellFormed : f.WellFormed) (unempty : f.isEmpty = false) :
    DecidedBy f.comparisons fun σ => f.holds σ := by
  induction f using treeInduction with
  | raw s =>
    have faithful := Faithful.raw s
    have same (σ : Assignment) := faithful.holds_reading wellFormed unempty σ
    simp only [← same]
    exact decidedBy_reading wellFormed unempty
  | compare field op value =>
    have faithful := Faithful.compare field op value
    have same (σ : Assignment) := faithful.holds_reading wellFormed unempty σ
    simp only [← same]
    exact decidedBy_reading wellFormed unempty
  | all members ih =>
    cases wellFormed with | all formed =>
    have filled := (isEmpty_all members).1 unempty
    simp only [holds_all, comparisons, comparisonsIn_eq]
    apply decidedBy_members all_congr_mem (all_eq_of_forall filled)
    intro m among
    obtain ⟨member, unempty⟩ := mem_present.1 among
    exact ih m member (formed m member) unempty
  | any members ih =>
    cases wellFormed with | any formed =>
    have filled := (isEmpty_any members).1 unempty
    simp only [holds_any, comparisons, comparisonsIn_eq]
    apply decidedBy_members any_congr_mem (any_eq_of_forall filled)
    intro m among
    obtain ⟨member, unempty⟩ := mem_present.1 among
    exact ih m member (formed m member) unempty

section Members

variable {members : List Filter} {v : Filter → Assignment → Bool} {m : Filter}

/-- Off the comparisons of one member, the others take the value that is given there. -/
theorem split_on (decided : ∀ n ∈ members, DecidedBy n.comparisons (v n))
    (nodup : (members.flatMap comparisons).Nodup) (among : m ∈ members) (σ : Assignment) (b : Bool) :
    ∃ before after, members = before ++ m :: after ∧
      (∀ n ∈ before ++ after, v n (σ.on m.comparisons b) = b) ∧
      v m (σ.on m.comparisons b) = v m σ := by
  obtain ⟨before, after, rfl⟩ := List.append_of_mem among
  refine ⟨before, after, rfl, ?_, (decided m among).on_own σ b⟩
  rw [List.flatMap_append, List.flatMap_cons, List.nodup_append'] at nodup
  obtain ⟨-, rest, leftApart⟩ := nodup
  rw [List.nodup_append'] at rest
  obtain ⟨-, -, rightApart⟩ := rest
  intro n other
  rcases List.mem_append.1 other with left | right
  · apply (decided n (by simp [left])).on_other
    intro c own there
    exact leftApart (List.mem_flatMap_of_mem left there) (by simp [own])
  · apply (decided n (by simp [right])).on_other
    intro c own there
    exact rightApart own (List.mem_flatMap_of_mem right there)

theorem any_on (decided : ∀ n ∈ members, DecidedBy n.comparisons (v n))
    (nodup : (members.flatMap comparisons).Nodup) (among : m ∈ members) (σ : Assignment) :
    (members.any fun n => v n (σ.on m.comparisons false)) = v m σ := by
  obtain ⟨before, after, split, others, own⟩ := split_on decided nodup among σ false
  simp only [List.mem_append, or_imp, forall_and] at others
  rw [split, List.any_append, List.any_cons, own, List.any_eq_false.2 (by simpa using others.1),
    List.any_eq_false.2 (by simpa using others.2)]
  simp

theorem all_on (decided : ∀ n ∈ members, DecidedBy n.comparisons (v n))
    (nodup : (members.flatMap comparisons).Nodup) (among : m ∈ members) (σ : Assignment) :
    (members.all fun n => v n (σ.on m.comparisons true)) = v m σ := by
  obtain ⟨before, after, split, others, own⟩ := split_on decided nodup among σ true
  simp only [List.mem_append, or_imp, forall_and] at others
  rw [split, List.all_append, List.all_cons, own, List.all_eq_true.2 others.1,
    List.all_eq_true.2 others.2]
  simp

end Members

/-- The word OR of a member that is not wrapped takes the conjunction apart. -/
theorem differs_of_or {members : List Filter} (two : 2 ≤ (present members).length)
    (decided : ∀ n ∈ present members, DecidedBy n.comparisons fun σ => n.holds σ)
    (nodup : ((present members).flatMap comparisons).Nodup)
    (shows : ∃ m ∈ present members, (pieceReading wrapsInAll m).earlier ≠ []) :
    ∃ σ, (all members).reading.holds σ ≠ (all members).holds σ := by
  simp only [reading, joined_several _ (show (present members).length ≠ 1 by omega), holds_all]
  obtain ⟨m, n, rest, split⟩ := exists_cons_cons two
  rw [split] at decided nodup shows ⊢
  rw [List.flatMap_cons, List.nodup_append'] at nodup
  obtain ⟨-, -, apart⟩ := nodup
  have mDecided := decided m (by simp)
  simp only [List.map_cons, Formula.chain_cons_cons]
  rw [← List.map_cons]
  by_cases flat : (pieceReading wrapsInAll m).earlier = []
  · -- the word stands behind the first member: that one alone is false
    have later : (Formula.chain Formula.and
        ((n :: rest).map (pieceReading wrapsInAll))).earlier ≠ [] := by
      intro none
      obtain ⟨k, among, shown⟩ := shows
      rcases List.mem_cons.1 among with rfl | among
      · exact shown flat
      · rw [Formula.earlier_chain_and, List.forall_mem_map] at none
        exact shown (none k among)
    refine ⟨Assignment.on (fun _ => false) m.comparisons true, ?_⟩
    rw [Formula.holds_and_of_right _ later]
    · have first : m.holds (Assignment.on (fun _ => false) m.comparisons true) = false := by
        rw [mDecided.on_own, mDecided.agrees]
      simp [first]
    · intro c among
      rw [Formula.comparisons_chain Formula.comparisons_and, List.flatMap_map] at among
      simp only [comparisons_pieceReading, comparisons_reading] at among
      have outside : c ∉ m.comparisons := fun inside => apart inside among
      simp [Assignment.on, outside]
  · -- the word stands in the first member: that one alone is true
    refine ⟨Assignment.on (fun _ => true) m.comparisons false, ?_⟩
    rw [Formula.holds_and_of_left _ flat]
    · have second : n.holds (Assignment.on (fun _ => true) m.comparisons false) = false := by
        apply (decided n (by simp)).on_other
        intro c own there
        exact apart own (by simp [there])
      simp [second]
    · intro c among
      rw [comparisons_pieceReading, comparisons_reading] at among
      simp [Assignment.on, among]

/-- Where the comparisons are all different, an unfaithful filter is told apart from its text. -/
theorem differs_of_not_faithful {f : Filter} (wellFormed : f.WellFormed)
    (unempty : f.isEmpty = false) (nodup : f.comparisons.Nodup) (unfaithful : ¬ f.Faithful) :
    ∃ σ, f.reading.holds σ ≠ f.holds σ := by
  induction f using treeInduction with
  | raw s => exact absurd (.raw s) unfaithful
  | compare field op value => exact absurd (.compare field op value) unfaithful
  | all members ih =>
    cases wellFormed with | all formed =>
    rw [comparisons, comparisonsIn_eq] at nodup
    have sound := WellFormed.of_present formed
    by_cases shows : 2 ≤ (present members).length ∧
        ∃ m ∈ present members, (pieceReading wrapsInAll m).earlier ≠ []
    · exact differs_of_or shows.1 (fun m among => decidedBy_holds (sound m among).1 (sound m among).2)
        nodup shows.2
    · push Not at shows
      have wrong : ∃ m ∈ present members, ¬ m.Faithful := by
        by_contra right
        push Not at right
        apply unfaithful
        refine .all right ?_
        intro two m among bare shown
        have flat := shows two m among
        rw [earlier_pieceReading, bare] at flat
        exact earlier_of_showsOr shown (by simpa using flat)
      obtain ⟨m, among, wrong⟩ := wrong
      obtain ⟨σ, differs⟩ := ih m (mem_present.1 among).1 (sound m among).1 (sound m among).2
        ((List.nodup_flatMap.1 nodup).1 m among) wrong
      refine ⟨σ.on m.comparisons true, ?_⟩
      rw [holds_reading_all shows, holds_all,
        all_on (v := fun n σ => n.reading.holds σ)
          (fun n member => decidedBy_reading (sound n member).1 (sound n member).2) nodup among,
        all_on (v := fun n σ => n.holds σ)
          (fun n member => decidedBy_holds (sound n member).1 (sound n member).2) nodup among]
      exact differs
  | any members ih =>
    cases wellFormed with | any formed =>
    rw [comparisons, comparisonsIn_eq] at nodup
    have sound := WellFormed.of_present formed
    have wrong : ∃ m ∈ present members, ¬ m.Faithful := by
      by_contra right
      push Not at right
      exact unfaithful (.any right)
    obtain ⟨m, among, wrong⟩ := wrong
    obtain ⟨σ, differs⟩ := ih m (mem_present.1 among).1 (sound m among).1 (sound m among).2
      ((List.nodup_flatMap.1 nodup).1 m among) wrong
    refine ⟨σ.on m.comparisons false, ?_⟩
    rw [holds_reading_any ((isEmpty_any members).1 unempty), holds_any,
      any_on (v := fun n σ => n.reading.holds σ)
        (fun n member => decidedBy_reading (sound n member).1 (sound n member).2) nodup among,
      any_on (v := fun n σ => n.holds σ)
        (fun n member => decidedBy_holds (sound n member).1 (sound n member).2) nodup among]
    exact differs

/-- The text of a filter is always read as a formula. It has the truth value of the filter under
every assignment if no conjunction has a bare member that shows a word OR; and only then, unless a
comparison occurs twice. -/
theorem text_means_filter_iff {f : Filter} (wellFormed : f.WellFormed) {written : String}
    (some_text : f.expression? = some written) :
    ∃ F, Formula.read? written = some F ∧
      (f.Faithful → ∀ σ, F.holds σ = f.holds σ) ∧
      (f.comparisons.Nodup → (∀ σ, F.holds σ = f.holds σ) → f.Faithful) := by
  have unempty : f.isEmpty = false := by
    by_contra empty
    simp [expression?, empty] at some_text
  obtain rfl : f.text = written := by simpa [expression?, unempty] using some_text
  refine ⟨f.reading, (spells_text wellFormed unempty).read?, ?_, ?_⟩
  · intro faithful σ
    exact faithful.holds_reading wellFormed unempty σ
  · intro nodup same
    by_contra unfaithful
    obtain ⟨σ, differs⟩ := differs_of_not_faithful wellFormed unempty nodup unfaithful
    exact differs (same σ)

/-- A conjunction whose first member is a conjunction of nothing but a disjunction. -/
def nestedOr : Filter :=
  .all [.all [.any [.equals "a" (.int 1), .equals "b" (.int 2)]], .equals "c" (.int 3)]

/-- The parentheses of the disjunction are lost, and with them what the filter means. -/
theorem nestedOr_text_differs :
    nestedOr.expression? = some "a = 1 OR b = 2 AND c = 3" ∧
      ∃ F, Formula.read? "a = 1 OR b = 2 AND c = 3" = some F ∧
        ∃ σ, F.holds σ ≠ nestedOr.holds σ := by
  have written : nestedOr.expression? = some "a = 1 OR b = 2 AND c = 3" := by decide
  have wellFormed : nestedOr.WellFormed := by
    have word (name : String) (n : Int)
        (plain : IsWord name.toList ∧ name ≠ "AND" ∧ name ≠ "OR") :
        (equals name (.int n)).WellFormed := .compare plain.1 plain.2.1 plain.2.2
    have either : (any [.equals "a" (.int 1), .equals "b" (.int 2)]).WellFormed := by
      apply WellFormed.any
      simpa using ⟨word "a" 1 (by decide), word "b" 2 (by decide)⟩
    apply WellFormed.all
    simpa using ⟨.all (by simpa using either), word "c" 3 (by decide)⟩
  have unfaithful : ¬ nestedOr.Faithful := by
    intro faithful
    cases faithful with | all each apart =>
    exact apart (by decide) _ (List.mem_cons_self ..) rfl (.onlyAll rfl (.several (by decide)))
  have nodup : nestedOr.comparisons.Nodup := by decide
  obtain ⟨F, read, -, only⟩ := text_means_filter_iff wellFormed written
  refine ⟨written, F, read, ?_⟩
  by_contra same
  push Not at same
  exact unfaithful (only nodup same)

end TelemetryGateway.Filter
