import Mathlib.Logic.Relation
import TelemetryGateway.Proofs.Filter.Meaning
import TelemetryGateway.Proofs.Text.Spelling

set_option autoImplicit false

/-!
# Empty members leave no trace

A filter is empty exactly if its text is, although the one is found without the other. Members that
are empty may be taken out and put in at any depth, and the text stays as it is, with its words and
its parentheses. What remains when all of them are taken out tells which filters are turned into each
other in this way. A member that is not empty shows: without it the text is shorter.
-/

namespace TelemetryGateway.Filter

/-! ### Nodes of either kind -/

/-- The two ways to put members together. -/
inductive Node where
  | all
  | any

namespace Node

/-- The filter with these members. -/
def of : Node → List Filter → Filter
  | all => Filter.all
  | any => Filter.any

/-- What is written between two members. -/
def word : Node → String
  | all => " AND "
  | any => " OR "

/-- Whether a member goes into parentheses. -/
def wraps : Node → Filter → Bool
  | all => wrapsInAll
  | any => wrapsInAny

theorem text_of (node : Node) (members : List Filter) :
    (node.of members).text = join node.word (texts node.wraps members) := by
  cases node with
  | all => simp [of, word, wraps, text]
  | any => simp [of, word, wraps, text]

theorem isEmpty_of (node : Node) (members : List Filter) :
    (node.of members).isEmpty = members.all isEmpty := by
  cases node with
  | all => simp [of, isEmpty, areEmpty_eq_all]
  | any => simp [of, isEmpty, areEmpty_eq_all]

/-- Parentheses depend on the kind of a node and not on its members. -/
theorem wraps_of (kind node : Node) (members others : List Filter) :
    kind.wraps (node.of members) = kind.wraps (node.of others) := by
  cases kind with
  | all => cases node <;> rfl
  | any => cases node <;> rfl

end Node

/-- Induction over a filter and all of its members, with one case for nodes of either kind. -/
@[elab_as_elim]
theorem nodeInduction {motive : Filter → Prop} (raw : ∀ s, motive (.raw s))
    (compare : ∀ field op value, motive (.compare field op value))
    (node : ∀ (kind : Node) members, (∀ m ∈ members, motive m) → motive (kind.of members))
    (f : Filter) : motive f :=
  treeInduction raw compare (node .all) (node .any) f

theorem texts_append (wraps : Filter → Bool) (before after : List Filter) :
    texts wraps (before ++ after) = texts wraps before ++ texts wraps after := by
  simp [texts_eq_map]

theorem texts_cons_of_isEmpty {wraps : Filter → Bool} {m : Filter} (empty : m.isEmpty = true)
    (rest : List Filter) : texts wraps (m :: rest) = texts wraps rest := by
  rw [texts, if_pos empty]

theorem texts_cons_of_filled {wraps : Filter → Bool} {m : Filter} (filled : m.isEmpty = false)
    (rest : List Filter) : texts wraps (m :: rest) = (wraps m, m.text) :: texts wraps rest := by
  rw [texts, filled, if_neg Bool.false_ne_true]

/-! ### How long joined members are -/

section Join

variable {ms before after : List (Bool × String)} {m n : Bool × String}

/-- A member as it stands among others. -/
def piece (m : Bool × String) : String := if m.1 then "(" ++ m.2 ++ ")" else m.2

theorem length_le_piece (m : Bool × String) : m.2.length ≤ (piece m).length := by
  rw [piece]
  split
  · rw [String.length_append, String.length_append]
    omega
  · exact Nat.le_refl _

theorem length_piece_lt (wrapped : n.1 = m.1) (shorter : n.2.length < m.2.length) :
    (piece n).length < (piece m).length := by
  rw [piece, piece, wrapped]
  split
  · simpa only [String.length_append, Nat.add_lt_add_iff_left, Nat.add_lt_add_iff_right] using shorter
  · exact shorter

/-- The room of members in a text, each with a word behind it. -/
def room (word : String) : List (Bool × String) → Nat
  | [] => 0
  | m :: rest => (piece m).length + word.length + room word rest

theorem room_insert (word : String) (before after : List (Bool × String)) (m : Bool × String) :
    room word (before ++ m :: after) =
      room word (before ++ after) + ((piece m).length + word.length) := by
  induction before with
  | nil => rw [List.nil_append, List.nil_append, room, Nat.add_comm]
  | cons n before ih =>
    rw [List.cons_append, List.cons_append, room, room, ih]
    omega

theorem length_intercalate_pieces (word : String) (filled : ms ≠ []) :
    (String.intercalate word (ms.map piece)).length + word.length = room word ms := by
  induction ms with
  | nil => exact absurd rfl filled
  | cons m rest ih =>
    cases rest with
    | nil => simp [room]
    | cons n rest =>
      have later := ih (List.cons_ne_nil _ _)
      rw [List.map_cons] at later
      rw [List.map_cons, List.map_cons, String.intercalate_cons_cons, String.length_append,
        String.length_append, room]
      omega

/-- The last of several members has no word behind it. -/
theorem length_join_several (word : String) (several : 2 ≤ ms.length) :
    (join word ms).length + word.length = room word ms := by
  match ms, several with
  | m :: n :: rest, _ => exact length_intercalate_pieces word (List.cons_ne_nil _ _)

/-- A single member has no parentheses either. -/
theorem length_join_le (word : String) (filled : ms ≠ []) :
    (join word ms).length + word.length ≤ room word ms := by
  by_cases several : 2 ≤ ms.length
  · exact (length_join_several word several).le
  · obtain ⟨m, rfl⟩ : ∃ m, ms = [m] := by
      apply List.length_eq_one_iff.1
      have := List.length_pos_iff.2 filled
      omega
    have inside := length_le_piece m
    simpa [join, room] using inside

theorem length_insert_of_ne_nil (m : Bool × String) (others : before ++ after ≠ []) :
    2 ≤ (before ++ m :: after).length := by
  have some := List.length_pos_iff.2 others
  simp only [List.length_append, List.length_cons] at some ⊢
  omega

/-- Without a member that is not empty, the others take less room. -/
theorem length_join_without (word : String) (before after : List (Bool × String))
    (filled : m.2 ≠ "") :
    (join word (before ++ after)).length < (join word (before ++ m :: after)).length := by
  have positive : 0 < m.2.length := Nat.pos_of_ne_zero (mt String.length_eq_zero_iff.1 filled)
  by_cases others : before ++ after = []
  · obtain ⟨rfl, rfl⟩ := List.append_eq_nil_iff.1 others
    exact positive
  · have whole := length_join_several word (length_insert_of_ne_nil m others)
    have rest := length_join_le word others
    have inside := length_le_piece m
    rw [room_insert] at whole
    omega

/-- A shorter member in the place of a longer one makes the whole shorter. -/
theorem length_join_shorter (word : String) (wrapped : n.1 = m.1)
    (shorter : n.2.length < m.2.length) :
    (join word (before ++ n :: after)).length < (join word (before ++ m :: after)).length := by
  by_cases others : before ++ after = []
  · obtain ⟨rfl, rfl⟩ := List.append_eq_nil_iff.1 others
    exact shorter
  · have longer := length_join_several word (length_insert_of_ne_nil m others)
    have changed := length_join_several word (length_insert_of_ne_nil n others)
    have less := length_piece_lt wrapped shorter
    rw [room_insert] at longer changed
    omega

end Join

/-! ### Empty filters and empty texts -/

theorem compare_text_ne_empty (field : String) (op : Comparison) (value : Operand) :
    (compare field op value).text ≠ "" := by
  intro nothing
  have size := congrArg String.length nothing
  simp [text, String.length_append] at size

theorem text_eq_empty_iff {f : Filter} : f.text = "" ↔ f.isEmpty = true := by
  induction f using nodeInduction with
  | raw s =>
    rw [text, isEmpty]
    exact Text.trim_eq_empty_iff
  | compare field op value => simpa [isEmpty] using compare_text_ne_empty field op value
  | node kind members ih =>
    rw [kind.text_of, kind.isEmpty_of, List.all_eq_true]
    constructor
    · intro nothing m among
      by_contra filled
      obtain ⟨before, after, rfl⟩ := List.append_of_mem among
      have written : m.text ≠ "" := mt (ih m among).1 filled
      have shorter := length_join_without kind.word (texts kind.wraps before)
        (texts kind.wraps after) (m := (kind.wraps m, m.text)) written
      rw [texts_append, texts_cons_of_filled (by simpa using filled)] at nothing
      simp [nothing] at shorter
    · intro empty
      have none : present members = [] := by
        simpa [present, List.filter_eq_nil_iff] using empty
      rw [texts_eq_map]
      change join kind.word ((present members).map _) = ""
      rw [none]
      rfl

/-! ### Taking members out -/

/-- The second filter is the first one without a member that it has at some depth. -/
inductive Without (m : Filter) : Filter → Filter → Prop
  | here (kind : Node) (before after : List Filter) :
    Without m (kind.of (before ++ m :: after)) (kind.of (before ++ after))
  | within (kind : Node) (before after : List Filter) {f g : Filter} : Without m f g →
    Without m (kind.of (before ++ f :: after)) (kind.of (before ++ g :: after))

/-- Filters that are turned into each other by taking out and putting in empty members. -/
def Alike : Filter → Filter → Prop :=
  Relation.EqvGen fun f g => ∃ m, m.isEmpty = true ∧ Without m f g

namespace Without

variable {m f g : Filter}

theorem wraps_eq (without : Without m f g) (kind : Node) : kind.wraps g = kind.wraps f := by
  cases without with
  | here node => exact kind.wraps_of node _ _
  | within node => exact kind.wraps_of node _ _

theorem isEmpty_eq (without : Without m f g) (empty : m.isEmpty = true) : g.isEmpty = f.isEmpty := by
  induction without with
  | here kind before after => simp [Node.isEmpty_of, empty]
  | within kind before after _ ih => simp [Node.isEmpty_of, ih]

/-- Without an empty member, the same members are written in the same way. -/
theorem text_eq (without : Without m f g) (empty : m.isEmpty = true) : g.text = f.text := by
  induction without with
  | here kind before after =>
    rw [kind.text_of, kind.text_of, texts_append, texts_append, texts_cons_of_isEmpty empty]
  | @within kind before after f g inner ih =>
    have same := inner.isEmpty_eq empty
    -- a member that is empty may have lost one as well
    rw [kind.text_of, kind.text_of, texts_append, texts_append]
    cases state : f.isEmpty with
    | true =>
      rw [texts_cons_of_isEmpty state, texts_cons_of_isEmpty (same.trans state)]
    | false =>
      rw [texts_cons_of_filled state, texts_cons_of_filled (same.trans state), inner.wraps_eq, ih]

/-- Without another member, something is missing. -/
theorem text_shorter (without : Without m f g) (filled : m.isEmpty = false) :
    g.text.length < f.text.length := by
  induction without with
  | here kind before after =>
    have written : m.text ≠ "" := mt text_eq_empty_iff.1 (by simpa using filled)
    rw [kind.text_of, kind.text_of, texts_append, texts_append, texts_cons_of_filled filled]
    exact length_join_without kind.word _ _ written
  | @within kind before after f g inner ih =>
    have written : f.text ≠ "" := by
      intro nothing
      simp [nothing] at ih
    have unempty : f.isEmpty = false := by simpa using mt text_eq_empty_iff.2 written
    rw [kind.text_of, kind.text_of, texts_append, texts_append, texts_cons_of_filled unempty]
    cases state : g.isEmpty with
    | true =>
      -- the last member of this one is gone, and with it the word and parentheses further out
      rw [texts_cons_of_isEmpty state]
      exact length_join_without kind.word _ _ written
    | false =>
      rw [texts_cons_of_filled state]
      exact length_join_shorter kind.word (inner.wraps_eq kind) ih

end Without

namespace Alike

variable {f g h : Filter}

theorem refl (f : Filter) : Alike f f := Relation.EqvGen.refl f

theorem symm (alike : Alike f g) : Alike g f := Relation.EqvGen.symm f g alike

theorem trans (first : Alike f g) (second : Alike g h) : Alike f h :=
  Relation.EqvGen.trans f g h first second

theorem of_without {m : Filter} (empty : m.isEmpty = true) (without : Without m f g) : Alike f g :=
  Relation.EqvGen.rel f g ⟨m, empty, without⟩

/-- What stays the same without one empty member stays the same throughout. -/
theorem congr {α : Type} {value : Filter → α} (alike : Alike f g)
    (step : ∀ {m f g}, m.isEmpty = true → Without m f g → value g = value f) : value g = value f := by
  induction alike with
  | rel f g removed =>
    obtain ⟨m, empty, without⟩ := removed
    exact step empty without
  | refl f => rfl
  | symm f g _ ih => exact ih.symm
  | trans f g h _ _ first second => exact second.trans first

theorem text_eq (alike : Alike f g) : g.text = f.text :=
  alike.congr fun empty without => without.text_eq empty

theorem isEmpty_eq (alike : Alike f g) : g.isEmpty = f.isEmpty :=
  alike.congr fun empty without => without.isEmpty_eq empty

theorem expression?_eq (alike : Alike f g) : g.expression? = f.expression? := by
  rw [expression?, expression?, alike.text_eq, alike.isEmpty_eq]

theorem within (kind : Node) (before after : List Filter) (alike : Alike f g) :
    Alike (kind.of (before ++ f :: after)) (kind.of (before ++ g :: after)) := by
  induction alike with
  | rel f g removed =>
    obtain ⟨m, empty, without⟩ := removed
    exact .of_without empty (.within kind before after without)
  | refl f => exact .refl _
  | symm f g _ ih => exact ih.symm
  | trans f g h _ _ first second => exact first.trans second

/-- Members are replaced one after the other. The ones in front have been replaced already. -/
theorem map (kind : Node) {change : Filter → Filter} {members : List Filter}
    (each : ∀ m ∈ members, Alike m (change m)) (before : List Filter) :
    Alike (kind.of (before ++ members)) (kind.of (before ++ members.map change)) := by
  induction members generalizing before with
  | nil => exact .refl _
  | cons m rest ih =>
    rw [List.forall_mem_cons] at each
    have others := ih each.2 (before ++ [change m])
    simp only [List.append_assoc, List.singleton_append] at others
    exact (within kind before rest each.1).trans others

/-- The empty ones among the members are taken out one after the other. -/
theorem present (kind : Node) (before members : List Filter) :
    Alike (kind.of (before ++ members)) (kind.of (before ++ Filter.present members)) := by
  induction members generalizing before with
  | nil => exact .refl _
  | cons m rest ih =>
    cases state : m.isEmpty with
    | true =>
      have left : Filter.present (m :: rest) = Filter.present rest := by simp [Filter.present, state]
      rw [left]
      exact (of_without state (.here kind before rest)).trans (ih before)
    | false =>
      have kept : Filter.present (m :: rest) = m :: Filter.present rest := by
        simp [Filter.present, state]
      have others := ih (before ++ [m])
      simp only [List.append_assoc, List.singleton_append] at others
      rw [kept]
      exact others

end Alike

/-! ### Taking all of them out -/

mutual

/-- The filter put together from its leaves by the operations that leave empty members out. -/
def pruned : Filter → Filter
  | raw s => raw s
  | compare field op value => compare field op value
  | all members => conjunction (prunedEach members)
  | any members => disjunction (prunedEach members)

def prunedEach : List Filter → List Filter
  | [] => []
  | f :: rest => f.pruned :: prunedEach rest

end

theorem prunedEach_eq_map (members : List Filter) : prunedEach members = members.map pruned := by
  induction members with
  | nil => rfl
  | cons f rest ih => rw [prunedEach, ih, List.map_cons]

theorem pruned_of (kind : Node) (members : List Filter) :
    (kind.of members).pruned = kind.of (present (members.map pruned)) := by
  rw [← prunedEach_eq_map]
  cases kind with
  | all => rw [Node.of, pruned]; rfl
  | any => rw [Node.of, pruned]; rfl

theorem alike_pruned (f : Filter) : Alike f f.pruned := by
  induction f using nodeInduction with
  | raw s => exact .refl _
  | compare field op value => exact .refl _
  | node kind members ih =>
    rw [pruned_of]
    exact (Alike.map kind ih []).trans (Alike.present kind [] _)

theorem Without.pruned_eq {m f g : Filter} (without : Without m f g) (empty : m.isEmpty = true) :
    g.pruned = f.pruned := by
  induction without with
  | here kind before after =>
    have nothing : m.pruned.isEmpty = true := (alike_pruned m).isEmpty_eq.trans empty
    simp [pruned_of, present, nothing]
  | within kind before after _ ih => simp [pruned_of, ih]

/-- Filters are turned into each other exactly if the same is left of them. -/
theorem alike_iff {f g : Filter} : Alike f g ↔ f.pruned = g.pruned := by
  constructor
  · intro alike
    exact (alike.congr fun empty without => without.pruned_eq empty).symm
  · intro same
    have back := (alike_pruned g).symm
    rw [← same] at back
    exact (alike_pruned f).trans back

/-- A filter gives no expression exactly if it is empty, and this exactly if its text is. Filters that
are turned into each other by taking out and putting in empty members, at any depth, have the same
text and the same expression. So has what is put together from the leaves of a filter by the
operations that leave empty members out, at one node or at all of them. To take out a member leaves
the text as it is only if the member is empty. -/
theorem empty_members_leave_no_trace (f : Filter) :
    (f.isEmpty = true ↔ f.text = "") ∧
      (f.expression? = none ↔ f.text = "") ∧
      (∀ g, Alike f g → g.text = f.text ∧ g.expression? = f.expression?) ∧
      (∀ m g, Without m f g → (g.text = f.text ↔ m.isEmpty = true)) ∧
      f.pruned.text = f.text ∧
      ∀ members, (conjunction members).text = (all members).text ∧
        (disjunction members).text = (any members).text := by
  refine ⟨text_eq_empty_iff.symm, ?_, ?_, ?_, (alike_pruned f).text_eq, ?_⟩
  · rw [text_eq_empty_iff, expression?]
    cases f.isEmpty <;> simp
  · intro g alike
    exact ⟨alike.text_eq, alike.expression?_eq⟩
  · intro m g without
    constructor
    · intro same
      by_contra filled
      have shorter := without.text_shorter (by simpa using filled)
      rw [same] at shorter
      exact Nat.lt_irrefl _ shorter
    · exact without.text_eq
  · intro members
    exact ⟨(Alike.present .all [] members).text_eq, (Alike.present .any [] members).text_eq⟩

/-- A conjunction with empty members at several depths. -/
def scattered : Filter :=
  .all [.ofText "a = 1", .all [.raw " ", .any []], .any [.equals "b" (.int 2), .all [.raw "\t"]]]

/-- The conjunction without them. -/
def gathered : Filter := .all [.ofText "a = 1", .any [.equals "b" (.int 2)]]

/-- The disjunction keeps its parentheses, with its empty member and without. Where it is taken out
itself, those of the other member go as well. -/
theorem scattered_written_as_gathered :
    Alike scattered gathered ∧ gathered.text = scattered.text ∧
      scattered.expression? = some "(a = 1) AND (b = 2)" ∧
      Without (.any [.equals "b" (.int 2)]) gathered (.all [.ofText "a = 1"]) ∧
      (all [.ofText "a = 1"]).text = "a = 1" ∧ (all [.ofText "a = 1"]).text ≠ gathered.text := by
  have alike : Alike scattered gathered := alike_iff.2 rfl
  have removed : Without (.any [.equals "b" (.int 2)]) gathered (.all [.ofText "a = 1"]) :=
    .here .all [.ofText "a = 1"] []
  obtain ⟨-, -, same, -⟩ := empty_members_leave_no_trace scattered
  obtain ⟨-, -, -, changes, -⟩ := empty_members_leave_no_trace gathered
  refine ⟨alike, (same gathered alike).1, by decide, removed, by decide, ?_⟩
  intro unchanged
  exact absurd ((changes _ _ removed).1 unchanged) (by decide)

end TelemetryGateway.Filter
