import TelemetryGateway.Proofs.Filter.Formula
import TelemetryGateway.Proofs.Text.Spelling

set_option autoImplicit false

/-!
# Reading formulas

The word AND binds tighter than OR, parentheses group where a member may begin, and literals are
opaque. A comparison goes on until one of the two words or a closing parenthesis; parentheses that
open inside of it hold its arguments. Reading goes through the tokens once and keeps a stack of the
formulas around the one it is in.
-/

namespace TelemetryGateway.Filter

open Token (andWord orWord opening closing)

/-- How far the next member has been read. -/
inductive Pending where
  | due
  /-- Inside a comparison, with the parentheses that are open there. -/
  | comparison (tokens : List Token) (depth : Nat)
  | group (F : Formula)

/-- The member, where it is complete. -/
def Pending.factor? : Pending → Option Factor
  | comparison tokens 0 => some (.comparison tokens)
  | group F => some (.group F.earlier F.last)
  | _ => none

/-- The formulas around, innermost first, the formula so far, and the next member of it. -/
structure State where
  outer : List Formula
  level : Formula
  pending : Pending

namespace State

def initial : State := ⟨[], .empty, .due⟩

def begins : Token → Bool
  | .word cs => cs ≠ "AND".toList && cs ≠ "OR".toList
  | .literal _ => true
  | _ => false

/-- Reads what may follow a member. -/
def close (s : State) (x : Factor) (t : Token) : Option State :=
  let F := s.level.and (.single x)
  if t = andWord then some ⟨s.outer, F, .due⟩
  else if t = orWord then some ⟨s.outer, F.or .empty, .due⟩
  else if t = closing then
    match s.outer with
    | [] => none
    | around :: outer => some ⟨outer, around, .group F⟩
  else none

def step (s : State) (t : Token) : Option State :=
  match s.pending with
  | .due =>
    if t = opening then some ⟨s.level :: s.outer, .empty, .due⟩
    else if begins t then some { s with pending := .comparison [t] 0 }
    else none
  | .comparison tokens depth =>
    if depth = 0 ∧ (t = andWord ∨ t = orWord ∨ t = closing) then
      s.close (.comparison tokens) t
    else some { s with pending := .comparison (tokens ++ [t]) (t.depthAfter depth) }
  | .group F => s.close (.group F.earlier F.last) t

def run (s : State) (ts : List Token) : Option State := ts.foldlM step s

/-- What can follow a member: one of the two words, or the end of the group it stands in. -/
theorem close_cases {s s' : State} {x : Factor} {t : Token} (closed : s.close x t = some s') :
    (t = andWord ∧ s' = ⟨s.outer, s.level.and (.single x), .due⟩) ∨
    (t = orWord ∧ s' = ⟨s.outer, (s.level.and (.single x)).or .empty, .due⟩) ∨
    (t = closing ∧ ∃ around outer, s.outer = around :: outer ∧
      s' = ⟨outer, around, .group (s.level.and (.single x))⟩) := by
  unfold close at closed
  split at closed
  · rename_i word
    exact .inl ⟨word, (Option.some.inj closed).symm⟩
  · split at closed
    · rename_i word
      exact .inr (.inl ⟨word, (Option.some.inj closed).symm⟩)
    · split at closed
      · rename_i ends
        cases stack : s.outer with
        | nil => simp [stack] at closed
        | cons around outer =>
          simp only [stack] at closed
          exact .inr (.inr ⟨ends, around, outer, rfl, (Option.some.inj closed).symm⟩)
      · exact absurd closed (by simp)

def finish (s : State) : Option Formula :=
  match s.outer with
  | [] => s.pending.factor?.map fun x => s.level.and (.single x)
  | _ => none

@[simp] theorem run_nil (s : State) : s.run [] = some s := rfl

theorem run_cons (s : State) (t : Token) (ts : List Token) :
    s.run (t :: ts) = (s.step t).bind fun u => u.run ts := by
  simp [run, List.foldlM_cons]

theorem run_append (s : State) (ts us : List Token) :
    s.run (ts ++ us) = (s.run ts).bind fun u => u.run us := by
  simp [run, List.foldlM_append]

end State

/-- White space means nothing between tokens. -/
def solid (ts : List Token) : List Token := ts.filter fun t => !t.isBlank

/-- The formula that a text spells, if it spells one. -/
def Formula.read? (s : String) : Option Formula := do
  let ts ← Token.ofText? s
  let done ← State.initial.run (solid ts)
  done.finish

/-! ### Reading inside of another formula -/

/-- Tokens that are read as a formula wherever a member may begin. -/
def Reads (ts : List Token) (F : Formula) : Prop :=
  ∀ outer level, ∃ s x, State.run ⟨outer, level, .due⟩ ts = some s ∧ s.outer = outer ∧
    s.pending.factor? = some x ∧ s.level.and (.single x) = level.and F

/-- A complete member is left in the same way, whether it is a comparison or a group. -/
theorem step_of_factor? {s : State} {x : Factor} (complete : s.pending.factor? = some x) {t : Token}
    (follows : t = andWord ∨ t = orWord ∨ t = closing) : s.step t = s.close x t := by
  obtain ⟨outer, level, pending⟩ := s
  cases pending with
  | due => simp [Pending.factor?] at complete
  | comparison tokens depth =>
    cases depth with
    | zero =>
      obtain rfl : Factor.comparison tokens = x := Option.some.inj complete
      simp [State.step, follows]
    | succ depth => simp [Pending.factor?] at complete
  | group F =>
    obtain rfl : Factor.group F.earlier F.last = x := Option.some.inj complete
    rfl

theorem Reads.and {ts us : List Token} {F G : Formula} (hF : Reads ts F) (hG : Reads us G) :
    Reads (ts ++ andWord :: us) (F.and G) := by
  intro outer level
  obtain ⟨s, x, run, around, complete, joined⟩ := hF outer level
  obtain ⟨u, y, later, same, ends, whole⟩ := hG outer (level.and F)
  refine ⟨u, y, ?_, same, ends, by rw [whole, Formula.and_assoc]⟩
  rw [State.run_append, run, Option.bind_some, State.run_cons, step_of_factor? complete (.inl rfl),
    State.close, if_pos rfl, around, joined]
  exact later

theorem Reads.or {ts us : List Token} {F G : Formula} (hF : Reads ts F) (hG : Reads us G) :
    Reads (ts ++ orWord :: us) (F.or G) := by
  intro outer level
  obtain ⟨s, x, run, around, complete, joined⟩ := hF outer level
  obtain ⟨u, y, later, same, ends, whole⟩ := hG outer ((level.and F).or .empty)
  refine ⟨u, y, ?_, same, ends, by rw [whole, Formula.or_empty_and, Formula.and_or]⟩
  rw [State.run_append, run, Option.bind_some, State.run_cons,
    step_of_factor? complete (.inr (.inl rfl)), State.close, if_neg (by decide), if_pos rfl, around,
    joined]
  exact later

theorem Reads.grouped {ts : List Token} {F : Formula} (hF : Reads ts F) :
    Reads (opening :: ts ++ [closing]) F.grouped := by
  intro outer level
  obtain ⟨s, x, run, around, complete, joined⟩ := hF (level :: outer) .empty
  refine ⟨⟨outer, level, .group F⟩, _, ?_, rfl, rfl, rfl⟩
  have opened : State.step ⟨outer, level, .due⟩ opening = some ⟨level :: outer, .empty, .due⟩ := rfl
  rw [List.cons_append, State.run_cons, opened, Option.bind_some, State.run_append, run,
    Option.bind_some, State.run_cons, step_of_factor? complete (.inr (.inr rfl)), State.close,
    if_neg (by decide), if_neg (by decide), if_pos rfl, around, joined, Formula.empty_and]
  rfl

theorem Reads.intercalate {t : Token} {op : Formula → Formula → Formula}
    (joins : ∀ {ts us F G}, Reads ts F → Reads us G → Reads (ts ++ t :: us) (op F G))
    {pieces : List (List Token)} {Fs : List Formula} (reads : List.Forall₂ Reads pieces Fs)
    (filled : pieces ≠ []) : Reads (List.intercalate [t] pieces) (Formula.chain op Fs) := by
  induction reads with
  | nil => exact absurd rfl filled
  | @cons p F pieces Fs first later ih =>
    cases later with
    | nil => simpa [Formula.chain] using first
    | @cons q G pieces Fs second later =>
      rw [List.intercalate_cons_cons, List.append_assoc]
      exact joins first (ih (by simp))

/-- The word for an operator or an operand goes on with the comparison it stands in. -/
theorem step_comparison {outer : List Formula} {level : Formula} {tokens : List Token} {t : Token}
    (other : t ≠ andWord ∧ t ≠ orWord ∧ t ≠ closing) (flat : t.depthAfter 0 = 0) :
    State.step ⟨outer, level, .comparison tokens 0⟩ t =
      some ⟨outer, level, .comparison (tokens ++ [t]) 0⟩ := by
  simp [State.step, other, flat]

/-- The comparison that a field, an operator and a value make. -/
def comparisonOf (field : String) (op : Comparison) (value : Operand) : List Token :=
  [.word field.toList, .word op.text.toList, value.token]

theorem reads_comparisonOf {field : String} (other : field ≠ "AND" ∧ field ≠ "OR") (op : Comparison)
    (value : Operand) :
    Reads (comparisonOf field op value) (.single (.comparison (comparisonOf field op value))) := by
  intro outer level
  refine ⟨⟨outer, level, .comparison (comparisonOf field op value) 0⟩, _, ?_, rfl, rfl, rfl⟩
  have begun : State.step ⟨outer, level, .due⟩ (.word field.toList) =
      some ⟨outer, level, .comparison [.word field.toList] 0⟩ := by
    have word : State.begins (.word field.toList) = true := by
      simpa [State.begins, ← String.toList_inj] using other
    rw [State.step, if_neg (by simp), if_pos word]
  have operator : Token.word op.text.toList ≠ andWord ∧ Token.word op.text.toList ≠ orWord ∧
      Token.word op.text.toList ≠ closing := by
    cases op <;> decide
  have operand : value.token ≠ andWord ∧ value.token ≠ orWord ∧ value.token ≠ closing :=
    ⟨value.token_ne_word (by decide) (by decide), value.token_ne_word (by decide) (by decide),
      by cases value <;> simp [Operand.token]⟩
  rw [comparisonOf, State.run_cons, begun, Option.bind_some, State.run_cons,
    step_comparison operator rfl, Option.bind_some, State.run_cons,
    step_comparison operand (value.depthAfter_token 0)]
  rfl

/-! ### Reading by itself and inside of another formula -/

theorem Reads.read? {ts : List Token} {F : Formula} (h : Reads ts F) :
    ∃ s, State.initial.run ts = some s ∧ s.finish = some F := by
  obtain ⟨s, x, run, around, complete, whole⟩ := h [] .empty
  refine ⟨s, run, ?_⟩
  rw [State.finish, around, complete]
  simp [whole]

/-- The second state is the first one with formulas around it and a formula before its outermost
level. -/
inductive Within (outer : List Formula) (level : Formula) : State → State → Prop
  | outermost (F : Formula) (p : Pending) :
    Within outer level ⟨[], F, p⟩ ⟨outer, level.and F, p⟩
  | inner (levels : List Formula) (G F : Formula) (p : Pending) :
    Within outer level ⟨levels ++ [G], F, p⟩ ⟨levels ++ level.and G :: outer, F, p⟩

theorem Within.pending_eq {outer : List Formula} {level : Formula} {s u : State}
    (h : Within outer level s u) : u.pending = s.pending := by
  cases h <;> rfl

theorem Within.withPending {outer : List Formula} {level : Formula} {s u : State}
    (h : Within outer level s u) (p : Pending) :
    Within outer level { s with pending := p } { u with pending := p } := by
  cases h with
  | outermost F _ => exact .outermost F p
  | inner levels G F _ => exact .inner levels G F p

theorem Within.close {outer : List Formula} {level : Formula} {s u s' : State}
    (h : Within outer level s u) {x : Factor} {t : Token} (closed : s.close x t = some s') :
    ∃ u', u.close x t = some u' ∧ Within outer level s' u' := by
  obtain ⟨rfl, rfl⟩ | ⟨rfl, rfl⟩ | ⟨rfl, around, rest, top, rfl⟩ := State.close_cases closed
  · refine ⟨_, rfl, ?_⟩
    cases h with
    | outermost F p =>
      rw [Formula.and_assoc]
      exact .outermost _ _
    | inner levels G F p => exact .inner _ _ _ _
  · refine ⟨_, rfl, ?_⟩
    cases h with
    | outermost F p =>
      rw [Formula.and_assoc, ← Formula.and_or level]
      exact .outermost _ _
    | inner levels G F p => exact .inner _ _ _ _
  · cases h with
    | outermost F p => exact absurd top (by simp)
    | inner levels G F p =>
      -- the group may close the level that lies directly on the outermost one
      cases levels with
      | nil =>
        obtain ⟨rfl, rfl⟩ := List.cons.inj top
        exact ⟨_, rfl, .outermost _ _⟩
      | cons _ levels =>
        obtain ⟨rfl, rfl⟩ := List.cons.inj top
        exact ⟨_, rfl, .inner _ _ _ _⟩

theorem Within.step {outer : List Formula} {level : Formula} {s u s' : State}
    (h : Within outer level s u) {t : Token} (stepped : s.step t = some s') :
    ∃ u', u.step t = some u' ∧ Within outer level s' u' := by
  unfold State.step at stepped ⊢
  rw [h.pending_eq]
  cases pending : s.pending with
  | due =>
    simp only [pending] at stepped ⊢
    by_cases opens : t = opening
    · rw [if_pos opens] at stepped ⊢
      obtain rfl := Option.some.inj stepped
      refine ⟨_, rfl, ?_⟩
      cases h with
      | outermost F p => exact .inner [] _ _ _
      | inner levels G F p => exact .inner (F :: levels) _ _ _
    · rw [if_neg opens] at stepped ⊢
      by_cases starts : State.begins t = true
      · rw [if_pos starts] at stepped ⊢
        obtain rfl := Option.some.inj stepped
        exact ⟨_, rfl, h.withPending _⟩
      · rw [if_neg starts] at stepped
        exact absurd stepped (by simp)
  | comparison tokens depth =>
    simp only [pending] at stepped ⊢
    by_cases ends : depth = 0 ∧ (t = andWord ∨ t = orWord ∨ t = closing)
    · rw [if_pos ends] at stepped ⊢
      exact h.close stepped
    · rw [if_neg ends] at stepped ⊢
      obtain rfl := Option.some.inj stepped
      exact ⟨_, rfl, h.withPending _⟩
  | group F =>
    simp only [pending] at stepped ⊢
    exact h.close stepped

theorem Within.run {outer : List Formula} {level : Formula} {s u s' : State}
    (h : Within outer level s u) {ts : List Token} (ran : s.run ts = some s') :
    ∃ u', u.run ts = some u' ∧ Within outer level s' u' := by
  induction ts generalizing s u with
  | nil =>
    obtain rfl := Option.some.inj ran
    exact ⟨u, rfl, h⟩
  | cons t ts ih =>
    rw [State.run_cons] at ran
    obtain ⟨mid, stepped, later⟩ := Option.bind_eq_some_iff.1 ran
    obtain ⟨u', stepped', h'⟩ := h.step stepped
    obtain ⟨u'', ran', h''⟩ := ih h' later
    exact ⟨u'', by rw [State.run_cons, stepped', Option.bind_some, ran'], h''⟩

/-- What is read by itself is read the same way inside of another formula. -/
theorem reads_of_run {ts : List Token} {s : State} {F : Formula}
    (run : State.initial.run ts = some s) (finished : s.finish = some F) : Reads ts F := by
  intro outer level
  have start : Within outer level State.initial ⟨outer, level, .due⟩ := by
    have h : Within outer level State.initial _ := .outermost .empty .due
    rwa [Formula.and_empty] at h
  obtain ⟨u, ran, within⟩ := start.run run
  unfold State.finish at finished
  -- reading has come back to the outermost level, or it could not have finished
  cases within with
  | outermost G p =>
    obtain ⟨x, complete, rfl⟩ := Option.map_eq_some_iff.1 finished
    exact ⟨_, x, ran, rfl, complete, Formula.and_assoc _ _ _⟩
  | inner levels G H p =>
    cases levels <;> simp at finished

/-! ### White space around a text -/

theorem start_of_isBlankChar {b : Char} (blank : Text.isBlankChar b = true) :
    Token.start b = ([.blank b], .between) := by
  simp [Token.start, blank]

/-- White space at the end is not part of a literal, since a literal has been closed by then. -/
theorem scan_concat_blank {b : Char} (blank : Text.isBlankChar b = true) {m : Token.Mode}
    {cs : List Char} {ts : List Token} (h : Token.scan m (cs ++ [b]) = some ts) :
    ∃ us, Token.scan m cs = some us ∧ ts = us ++ [.blank b] := by
  induction cs generalizing m ts with
  | nil =>
    have started := start_of_isBlankChar blank
    have noWord : isWordChar b = false := by simp [isWordChar, blank]
    have noQuote : b ≠ '\\' ∧ b ≠ '\'' := by
      constructor <;> rintro rfl <;> exact absurd blank (by decide)
    cases m with
    | between =>
      refine ⟨[], rfl, ?_⟩
      simpa [Token.scan, Token.step, started, Token.finish, eq_comm] using h
    | word seen =>
      refine ⟨[.word seen], rfl, ?_⟩
      simpa [Token.scan, Token.step, started, noWord, Token.finish, eq_comm] using h
    | literal seen => simp [Token.scan, Token.step, noQuote, Token.finish] at h
    | escape seen => simp [Token.scan, Token.step, Token.finish] at h
  | cons c cs ih =>
    obtain ⟨later, scanned, rfl⟩ := Option.map_eq_some_iff.1 h
    obtain ⟨us, rest, rfl⟩ := ih scanned
    exact ⟨(Token.step m c).1 ++ us, by rw [Token.scan, rest]; rfl, by simp⟩

theorem scan_rdropWhile_blank {m : Token.Mode} {cs : List Char} {ts : List Token}
    (h : Token.scan m cs = some ts) :
    ∃ us, Token.scan m (cs.rdropWhile Text.isBlankChar) = some us ∧ solid us = solid ts := by
  induction cs using List.reverseRecOn generalizing ts with
  | nil => exact ⟨ts, h, rfl⟩
  | append_singleton cs b ih =>
    by_cases blank : Text.isBlankChar b = true
    · obtain ⟨us, rest, rfl⟩ := scan_concat_blank blank h
      obtain ⟨vs, trimmed, same⟩ := ih rest
      rw [List.rdropWhile_concat_pos _ _ _ blank]
      exact ⟨vs, trimmed, by simpa [solid] using same⟩
    · rw [List.rdropWhile_concat_neg _ _ _ blank]
      exact ⟨ts, h, rfl⟩

theorem scan_dropWhile_blank {cs : List Char} {ts : List Token}
    (h : Token.scan .between cs = some ts) :
    ∃ us, Token.scan .between (cs.dropWhile Text.isBlankChar) = some us ∧ solid us = solid ts := by
  induction cs generalizing ts with
  | nil => exact ⟨ts, h, rfl⟩
  | cons b cs ih =>
    by_cases blank : Text.isBlankChar b = true
    · have started := start_of_isBlankChar blank
      obtain ⟨later, scanned, rfl⟩ := Option.map_eq_some_iff.1 h
      simp only [Token.step, started] at scanned ⊢
      obtain ⟨us, trimmed, same⟩ := ih scanned
      rw [List.dropWhile_cons_of_pos blank]
      exact ⟨us, trimmed, by simpa [solid] using same⟩
    · rw [List.dropWhile_cons_of_neg blank]
      exact ⟨ts, h, rfl⟩

/-- White space around a text has no bearing on how it is read. -/
theorem Formula.read?_trim {s : String} {F : Formula} (h : Formula.read? s = some F) :
    Formula.read? (Text.trim s) = some F := by
  obtain ⟨ts, scanned, rest⟩ := Option.bind_eq_some_iff.1 h
  obtain ⟨us, front, same⟩ := scan_dropWhile_blank scanned
  obtain ⟨vs, trimmed, same'⟩ := scan_rdropWhile_blank front
  have whole : Token.ofText? (Text.trim s) = some vs := by
    rw [Token.ofText?, Text.toList_trim, Text.strip_eq_rdropWhile, trimmed]
  rw [Formula.read?, whole, Option.bind_eq_bind, Option.bind_some, same', same]
  exact rest

/-! ### What is read can fail to hold -/

/-- No conjunction that has been read is empty, so none holds where no comparison does. -/
structure State.Refutable (s : State) : Prop where
  outer : ∀ F ∈ s.outer, anyHold (fun _ => false) F.earlier = false
  level : anyHold (fun _ => false) s.level.earlier = false
  factor : ∀ x, s.pending.factor? = some x → x.holds (fun _ => false) = false

theorem State.Refutable.close {s s' : State} (h : s.Refutable) {x : Factor}
    (refuted : x.holds (fun _ => false) = false) {t : Token} (closed : s.close x t = some s') :
    s'.Refutable := by
  have level : anyHold (fun _ => false) (s.level.and (.single x)).earlier = false := h.level
  have last : allHold (fun _ => false) (s.level.and (.single x)).last = false := by
    simp [Formula.and, Formula.single, allHold, refuted]
  obtain ⟨-, rfl⟩ | ⟨-, rfl⟩ | ⟨-, around, rest, top, rfl⟩ := State.close_cases closed
  · exact ⟨h.outer, level, by simp [Pending.factor?]⟩
  · refine ⟨h.outer, ?_, by simp [Pending.factor?]⟩
    simpa [Formula.or, Formula.empty, anyHold] using ⟨level, last⟩
  · have outer := h.outer
    rw [top] at outer
    refine ⟨fun F among => outer F (by simp [among]), outer around (by simp), ?_⟩
    intro y complete
    obtain rfl := Option.some.inj complete
    rw [Factor.holds, level, last]
    rfl

theorem State.Refutable.step {s s' : State} (h : s.Refutable) {t : Token}
    (stepped : s.step t = some s') : s'.Refutable := by
  unfold State.step at stepped
  cases pending : s.pending with
  | due =>
    simp only [pending] at stepped
    split at stepped
    · obtain rfl := Option.some.inj stepped
      refine ⟨?_, rfl, by simp [Pending.factor?]⟩
      simpa using ⟨h.level, h.outer⟩
    · split at stepped
      · obtain rfl := Option.some.inj stepped
        refine ⟨h.outer, h.level, ?_⟩
        intro x complete
        obtain rfl := Option.some.inj complete
        rfl
      · exact absurd stepped (by simp)
  | comparison tokens depth =>
    simp only [pending] at stepped
    split at stepped
    · exact h.close rfl stepped
    · obtain rfl := Option.some.inj stepped
      refine ⟨h.outer, h.level, ?_⟩
      intro x complete
      cases deeper : t.depthAfter depth with
      | zero =>
        obtain rfl : Factor.comparison (tokens ++ [t]) = x := by
          simpa [deeper, Pending.factor?] using complete
        rfl
      | succ n => simp [deeper, Pending.factor?] at complete
  | group F =>
    simp only [pending] at stepped
    exact h.close (h.factor _ (by rw [pending]; rfl)) stepped

theorem State.Refutable.run {s s' : State} (h : s.Refutable) {ts : List Token}
    (ran : s.run ts = some s') : s'.Refutable := by
  induction ts generalizing s with
  | nil =>
    obtain rfl := Option.some.inj ran
    exact h
  | cons t ts ih =>
    rw [State.run_cons] at ran
    obtain ⟨mid, stepped, later⟩ := Option.bind_eq_some_iff.1 ran
    exact ih (h.step stepped) later

/-- A formula that has been read does not hold where none of its comparisons does. -/
theorem Reads.refuted {ts : List Token} {F : Formula} (h : Reads ts F) :
    F.holds (fun _ => false) = false := by
  obtain ⟨s, x, run, around, complete, whole⟩ := h [] .empty
  have start : State.Refutable ⟨[], .empty, .due⟩ := ⟨by simp, rfl, by simp [Pending.factor?]⟩
  have refutable := start.run run
  rw [Formula.empty_and] at whole
  have level : anyHold (fun _ => false) F.earlier = false := by
    rw [← whole]
    exact refutable.level
  have last : allHold (fun _ => false) F.last = false := by
    rw [← whole]
    simp [Formula.and, Formula.single, allHold, refutable.factor x complete]
  rw [Formula.holds, level, last]
  rfl

end TelemetryGateway.Filter
