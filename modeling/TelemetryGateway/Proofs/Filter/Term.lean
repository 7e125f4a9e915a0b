import Mathlib.Data.List.DropRight
import TelemetryGateway.Proofs.Filter.Token

set_option autoImplicit false

/-!
# Terms of a written conjunction

A text is read back as the terms between its words AND, where a word inside parentheses or inside a
literal does not count. A term is one parenthesized unit, whose text is kept as it is, or a
comparison, whose literal is decoded. Terms that were written with the word between them are read
back exactly, whatever their literals hold.
-/

namespace TelemetryGateway.Filter

inductive Term where
  | group (text : String)
  | compare (field : String) (op : Comparison) (value : Operand)
  deriving DecidableEq

namespace Token

/-- The runs of tokens between the words AND outside of all parentheses. -/
def conjuncts (depth : Nat) : List Token → List (List Token)
  | [] => [[]]
  | t :: rest =>
    if depth = 0 ∧ t = andWord then [] :: conjuncts 0 rest
    else (conjuncts (t.depthAfter depth) rest).modifyHead (t :: ·)

/-- Whether every parenthesis has its partner, given how many are open before. -/
def closes (depth : Nat) : List Token → Bool
  | [] => depth == 0
  | t :: rest => !(t == closing && depth == 0) && closes (t.depthAfter depth) rest

/-- The tokens inside of parentheses that stand around all of them. -/
def unwrapped? : List Token → Option (List Token)
  | opening :: rest =>
    if rest.getLast? = some closing ∧ closes 0 rest.dropLast then some rest.dropLast else none
  | _ => none

def trimmed (ts : List Token) : List Token := (ts.dropWhile isBlank).rdropWhile isBlank

/-- The operand that a token spells, a literal being decoded. -/
def operand? : Token → Option Operand
  | literal body => some (.text (String.ofList (unescape body)))
  | word cs =>
    if cs = "true".toList then some (.flag true)
    else if cs = "false".toList then some (.flag false)
    else (Text.signed? cs).map .int
  | _ => none

end Token

def operator? (cs : List Char) : Option Comparison :=
  [.equal, .notEqual, .greater, .greaterOrEqual, .less, .lessOrEqual, .contains].find? fun op =>
    op.text.toList = cs

/-- Whether the literals of a text are closed and its parentheses have their partners. -/
def Balanced (s : String) : Prop := ∃ ts, Token.ofText? s = some ts ∧ Token.closes 0 ts = true

namespace Term

open Token (closes conjuncts trimmed unwrapped? separator)

/-- Reads a run of tokens as a unit in parentheses or as a comparison. -/
def ofTokens? (ts : List Token) : Option Term :=
  match unwrapped? (trimmed ts) with
  | some inner => some (group (String.ofList (inner.flatMap Token.source)))
  | none =>
    match ts.filter fun t => !t.isBlank with
    | [.word field, .word op, value] => do
      return compare (String.ofList field) (← operator? op) (← value.operand?)
    | _ => none

/-- The terms of a text; blank text has none. -/
def read? (s : String) : Option (List Term) := do
  let ts ← Token.ofText? s
  if ts.all Token.isBlank then some [] else (conjuncts 0 ts).mapM ofTokens?

def written : Term → String
  | group s => "(" ++ s ++ ")"
  | compare field op value => (Filter.compare field op value).text

/-! ### Where a text is split -/

theorem modifyHead_nil_append {α : Type} (xs : List (List α)) :
    xs.modifyHead ([] ++ ·) = xs := by
  cases xs <;> rfl

/-- Tokens that no split goes through, whatever follows them. -/
def Whole (ts : List Token) : Prop :=
  ∀ rest, conjuncts 0 (ts ++ rest) = (conjuncts 0 rest).modifyHead (ts ++ ·)

theorem Whole.append {xs ys : List Token} (hx : Whole xs) (hy : Whole ys) : Whole (xs ++ ys) := by
  intro rest
  rw [List.append_assoc, hx, hy, List.modifyHead_modifyHead]
  simp [Function.comp_def]

/-- Tokens other than parentheses and the word itself are not split at. -/
theorem whole_of_plain {ts : List Token}
    (plain : ∀ t ∈ ts, t ≠ Token.andWord ∧ t.depthAfter 0 = 0) : Whole ts := by
  intro rest
  induction ts with
  | nil => exact (modifyHead_nil_append _).symm
  | cons t ts ih =>
    obtain ⟨other, flat⟩ := plain t (by simp)
    rw [List.cons_append, conjuncts, if_neg fun h => other h.2, flat,
      ih fun u among => plain u (by simp [among]), List.modifyHead_modifyHead]
    rfl

/-- Inside a parenthesis nothing is split, up to where the tokens close what they opened. -/
theorem conjuncts_of_closes {depth : Nat} {ts : List Token} (h : closes depth ts = true)
    (rest : List Token) :
    conjuncts (depth + 1) (ts ++ rest) = (conjuncts 1 rest).modifyHead (ts ++ ·) := by
  induction ts generalizing depth with
  | nil =>
    obtain rfl : depth = 0 := by simpa [closes] using h
    exact (modifyHead_nil_append _).symm
  | cons t ts ih =>
    obtain ⟨matched, later⟩ : (t = .closing → depth ≠ 0) ∧ closes (t.depthAfter depth) ts = true := by
      simpa [closes, not_and_or, imp_iff_not_or] using h
    have deeper : t.depthAfter (depth + 1) = t.depthAfter depth + 1 := by
      cases t with
      | closing =>
        have opened : depth ≠ 0 := matched rfl
        simp only [Token.depthAfter]
        omega
      | _ => rfl
    rw [List.cons_append, conjuncts, if_neg (by simp), deeper, ih later, List.modifyHead_modifyHead]
    rfl

theorem whole_parenthesized {ts : List Token} (h : closes 0 ts = true) :
    Whole (.opening :: ts ++ [.closing]) := by
  intro rest
  have closing : conjuncts 1 (Token.closing :: rest) = (conjuncts 0 rest).modifyHead (.closing :: ·) := by
    rw [conjuncts, if_neg (by simp)]
    rfl
  have other : Token.opening ≠ Token.andWord := by decide
  rw [List.cons_append, List.cons_append, conjuncts, if_neg fun h => other h.2]
  rw [List.append_assoc]
  change (conjuncts (0 + 1) (ts ++ (Token.closing :: rest))).modifyHead _ = _
  rw [conjuncts_of_closes h, closing, List.modifyHead_modifyHead, List.modifyHead_modifyHead]
  simp [Function.comp_def]

/-! ### Reading back what was written -/

/-- Tokens that are read as one term, also with white space around them. -/
structure Reads (ts : List Token) (t : Term) : Prop where
  whole : Whole ts
  read : ∀ before after : List Token, (∀ b ∈ before ++ after, b.isBlank = true) →
    ofTokens? (before ++ ts ++ after) = some t

theorem whole_blank {ts : List Token} (blank : ∀ t ∈ ts, t.isBlank = true) : Whole ts := by
  apply whole_of_plain
  intro t among
  have isBlank := blank t among
  cases t with
  | blank c => exact ⟨by simp [Token.andWord], rfl⟩
  | _ => simp [Token.isBlank] at isBlank

theorem conjuncts_of_whole {ts : List Token} (h : Whole ts) : conjuncts 0 ts = [ts] := by
  have alone := h []
  simpa [conjuncts] using alone

/-- Pieces with the word AND between them are split there, and each is read as its term. -/
theorem mapM_conjuncts {pieces : List (List Token)} {terms : List Term}
    (reads : List.Forall₂ Reads pieces terms) (filled : pieces ≠ []) {lead : List Token}
    (blank : ∀ b ∈ lead, b.isBlank = true) :
    (conjuncts 0 (lead ++ List.intercalate (separator "AND".toList) pieces)).mapM ofTokens? =
      some terms := by
  induction reads generalizing lead with
  | nil => exact absurd rfl filled
  | @cons p t pieces terms first later ih =>
    have front : Whole (lead ++ p) := (whole_blank blank).append first.whole
    cases pieces with
    | nil =>
      cases later
      have alone := first.read lead [] (by simpa using blank)
      rw [List.append_nil] at alone
      rw [List.intercalate_singleton, conjuncts_of_whole front]
      simp [alone]
    | cons q pieces =>
      have space : Whole [Token.blank ' '] := whole_blank (by simp [Token.isBlank])
      have followed (rest : List Token) :
          conjuncts 0 (lead ++ (p ++ (separator "AND".toList ++ rest))) =
            (lead ++ p ++ [Token.blank ' ']) :: conjuncts 0 ([Token.blank ' '] ++ rest) := by
        have word (rest : List Token) :
            conjuncts 0 (Token.word "AND".toList :: rest) = [] :: conjuncts 0 rest := by
          rw [conjuncts, if_pos ⟨rfl, rfl⟩]
        have reordered : lead ++ (p ++ (separator "AND".toList ++ rest)) =
            (lead ++ p ++ [Token.blank ' ']) ++
              Token.word "AND".toList :: ([Token.blank ' '] ++ rest) := by
          simp [separator]
        rw [reordered, (front.append space), word]
        simp
      have here := first.read lead [Token.blank ' '] (by simpa [or_imp, forall_and, Token.isBlank] using blank)
      have there : (conjuncts 0 ([Token.blank ' '] ++
          List.intercalate (separator "AND".toList) (q :: pieces))).mapM ofTokens? = some _ :=
        ih (by simp) (by simp [Token.isBlank])
      rw [List.intercalate_cons_cons, List.append_assoc, followed, List.mapM_cons, here, there]
      rfl

theorem trimmed_between {before after : List Token}
    (blank : ∀ b ∈ before ++ after, b.isBlank = true) {x y : Token} (hx : x.isBlank = false)
    (hy : y.isBlank = false) (ts : List Token) :
    trimmed (before ++ (x :: ts ++ [y]) ++ after) = x :: ts ++ [y] := by
  have front : (before ++ (x :: ts ++ [y]) ++ after).dropWhile Token.isBlank =
      x :: ts ++ [y] ++ after := by
    rw [List.append_assoc, List.dropWhile_append_of_pos fun b among => blank b (by simp [among])]
    simp [hx]
  rw [trimmed, front, List.rdropWhile, List.reverse_append,
    List.dropWhile_append_of_pos fun b among => blank b (by simp_all)]
  simp [hy]

theorem reads_group {s : String} {ts : List Token} (scanned : Token.ofText? s = some ts)
    (balanced : closes 0 ts = true) : Reads (.opening :: ts ++ [.closing]) (group s) where
  whole := whole_parenthesized balanced
  read := by
    intro before after blank
    have inner : unwrapped? (.opening :: ts ++ [.closing]) = some ts := by
      simp [unwrapped?, balanced]
    rw [ofTokens?, trimmed_between blank rfl rfl, inner]
    exact congrArg (some ∘ group) (Token.ofText?_source scanned)

theorem operand?_token (v : Operand) : v.token.operand? = some v := by
  cases v with
  | text s => simp [Operand.token, Token.operand?, Token.unescape_escape]
  | int n =>
    have other {w : List Char} (unsigned : Text.signed? w = none) : Text.integerChars n ≠ w :=
      Operand.integerChars_ne unsigned n
    rw [Operand.token, Token.operand?, if_neg (other (by decide)), if_neg (other (by decide)),
      Text.signed?_integerChars]
    rfl
  | flag b => cases b <;> decide

theorem operator?_text (op : Comparison) : operator? op.text.toList = some op := by
  cases op <;> decide

/-- A comparison is one term unless its field is the word between terms. -/
theorem reads_comparison {field : String} (other : field ≠ "AND") (op : Comparison)
    (value : Operand) : Reads (comparisonTokens field op value) (compare field op value) where
  whole := by
    have fieldOther : Token.word field.toList ≠ Token.andWord := by
      intro same
      exact other (String.toList_inj.1 (Token.word.inj same))
    have opOther : Token.word op.text.toList ≠ Token.andWord := by cases op <;> decide
    have valueOther : value.token ≠ Token.andWord :=
      value.token_ne_word (by decide) (by decide)
    apply whole_of_plain
    simp only [comparisonTokens, List.forall_mem_cons]
    exact ⟨⟨fieldOther, rfl⟩, ⟨by decide, rfl⟩, ⟨opOther, rfl⟩, ⟨by decide, rfl⟩,
      ⟨valueOther, value.depthAfter_token 0⟩, by simp⟩
  read := by
    intro before after blank
    have apart : trimmed (before ++ comparisonTokens field op value ++ after) =
        comparisonTokens field op value :=
      trimmed_between blank rfl value.isBlank_token
        [.blank ' ', .word op.text.toList, .blank ' ']
    have solid : (before ++ comparisonTokens field op value ++ after).filter (fun t => !t.isBlank) =
        [.word field.toList, .word op.text.toList, value.token] := by
      have gone : before.filter (fun t => !t.isBlank) = [] ∧ after.filter (fun t => !t.isBlank) = [] := by
        simp_all [List.filter_eq_nil_iff]
      simp [gone, comparisonTokens]
    rw [ofTokens?, apart, solid]
    simp [unwrapped?, comparisonTokens, operator?_text, operand?_token]

/-- What a list of written terms needs in order to be read back: groups that close what they open,
and fields that are words other than the one between terms. -/
def WellFormed : Term → Prop
  | group s => Balanced s
  | compare field _ _ => IsWord field.toList ∧ field ≠ "AND"

theorem WellFormed.reads {t : Term} (h : t.WellFormed) :
    ∃ ts, Token.ofText? t.written = some ts ∧ Reads ts t ∧ ∃ u ∈ ts, u.isBlank = false := by
  cases t with
  | group s =>
    obtain ⟨ts, scanned, balanced⟩ := h
    exact ⟨_, Token.ofText?_parenthesized scanned, reads_group scanned balanced,
      .opening, by simp, rfl⟩
  | compare field op value =>
    obtain ⟨isWord, other⟩ := h
    exact ⟨_, ofText?_compare isWord op value, reads_comparison other op value,
      .word field.toList, by simp [comparisonTokens], rfl⟩

/-- Terms written with the word AND between them are read back. -/
theorem read?_intercalate {terms : List Term} (filled : terms ≠ [])
    (wellFormed : ∀ t ∈ terms, t.WellFormed) :
    read? (String.intercalate " AND " (terms.map written)) = some terms := by
  have pieces : ∃ pieces, List.Forall₂ (fun s ts => Token.ofText? s = some ts)
      (terms.map written) pieces ∧ List.Forall₂ Reads pieces terms ∧
      ∀ ts ∈ pieces, ∃ u ∈ ts, u.isBlank = false := by
    clear filled
    induction terms with
    | nil => exact ⟨[], .nil, .nil, by simp⟩
    | cons t terms ih =>
      obtain ⟨ts, scanned, reads, solid⟩ := (wellFormed t (by simp)).reads
      obtain ⟨others, scans, readings, solids⟩ := ih fun u among => wellFormed u (by simp [among])
      exact ⟨ts :: others, .cons scanned scans, .cons reads readings, by simpa using ⟨solid, solids⟩⟩
  obtain ⟨pieces, scanned, reads, solid⟩ := pieces
  have some_piece : pieces ≠ [] := by
    rintro rfl
    cases reads
    exact filled rfl
  have whole := Token.ofText?_intercalate (w := "AND".toList) (by decide) scanned
  have notBlank : (List.intercalate (separator "AND".toList) pieces).all Token.isBlank = false := by
    cases pieces with
    | nil => exact absurd rfl some_piece
    | cons ts others =>
      obtain ⟨u, among, unblank⟩ := solid ts (by simp)
      have included : u ∈ List.intercalate (separator "AND".toList) (ts :: others) := by
        cases others <;> simp [List.intercalate_cons_cons, among]
      rw [List.all_eq_false]
      exact ⟨u, included, by simp [unblank]⟩
  have separated := mapM_conjuncts reads some_piece (List.forall_mem_nil _)
  have word : " AND " = String.ofList (' ' :: "AND".toList ++ [' ']) := by decide
  rw [List.nil_append] at separated
  rw [read?, word, whole, Option.bind_eq_bind, Option.bind_some, notBlank, if_neg (by decide),
    separated]

end Term

end TelemetryGateway.Filter
