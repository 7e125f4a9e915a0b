import Mathlib.Data.List.Basic
import TelemetryGateway.Filter.Basic
import TelemetryGateway.Proofs.Text.Spelling

set_option autoImplicit false

/-!
# Tokens of the filter language

A literal opens at a single quote, a backslash in it takes the next character as it is, and an
unescaped quote closes it. Outside of literals there are parentheses, white space, and words made
of everything else. Tokens keep what was written, so a text can be put together from them again.
-/

namespace TelemetryGateway

namespace Filter

open Text (isBlankChar)

inductive Token where
  | blank (c : Char)
  | opening
  | closing
  | word (cs : List Char)
  /-- What stands between the quotes, as written. -/
  | literal (body : List Char)
  deriving DecidableEq

/-- What a word is made of: neither white space nor a parenthesis nor a quote. -/
def isWordChar (c : Char) : Bool := !isBlankChar c && c != '(' && c != ')' && c != '\''

def IsWord (cs : List Char) : Prop := cs ≠ [] ∧ cs.all isWordChar = true

instance (cs : List Char) : Decidable (IsWord cs) := inferInstanceAs (Decidable (_ ∧ _))

namespace Token

def source : Token → List Char
  | blank c => [c]
  | opening => ['(']
  | closing => [')']
  | word cs => cs
  | literal body => '\'' :: body ++ ['\'']

def andWord : Token := word "AND".toList

def orWord : Token := word "OR".toList

def isBlank : Token → Bool
  | blank _ => true
  | _ => false

@[simp] theorem isBlank_blank (c : Char) : (blank c).isBlank = true := rfl

@[simp] theorem isBlank_word (cs : List Char) : (word cs).isBlank = false := rfl

@[simp] theorem isBlank_opening : opening.isBlank = false := rfl

@[simp] theorem isBlank_closing : closing.isBlank = false := rfl

/-- The parentheses that are open after the token, given those open before it. -/
def depthAfter (depth : Nat) : Token → Nat
  | opening => depth + 1
  | closing => depth - 1
  | _ => depth

/-- Whether reading is inside a word, inside a literal, behind a backslash there, or in between. -/
inductive Mode where
  | between
  | word (seen : List Char)
  | literal (seen : List Char)
  | escape (seen : List Char)
  deriving DecidableEq

/-- A character between tokens: what it completes and what it begins. -/
def start (c : Char) : List Token × Mode :=
  if isBlankChar c then ([blank c], .between)
  else if c = '(' then ([opening], .between)
  else if c = ')' then ([closing], .between)
  else if c = '\'' then ([], .literal [])
  else ([], .word [c])

/-- The tokens that a character completes, and where reading stands after it. -/
def step (m : Mode) (c : Char) : List Token × Mode :=
  match m with
  | .between => start c
  | .word seen =>
    if isWordChar c then ([], .word (seen ++ [c])) else (word seen :: (start c).1, (start c).2)
  | .literal seen =>
    if c = '\\' then ([], .escape seen)
    else if c = '\'' then ([literal seen], .between)
    else ([], .literal (seen ++ [c]))
  | .escape seen => ([], .literal (seen ++ ['\\', c]))

/-- A text may end inside a word but not inside a literal. -/
def finish : Mode → Option (List Token)
  | .between => some []
  | .word seen => some [word seen]
  | _ => none

def scan (m : Mode) : List Char → Option (List Token)
  | [] => finish m
  | c :: rest => (scan (step m c).2 rest).map ((step m c).1 ++ ·)

/-- The tokens of a text, unless a literal in it is left open. -/
def ofText? (s : String) : Option (List Token) := scan .between s.toList

/-- What has been read of the token that is not complete yet. -/
def Mode.pending : Mode → List Char
  | between => []
  | word seen => seen
  | literal seen => '\'' :: seen
  | escape seen => '\'' :: seen ++ ['\\']

theorem start_source (c : Char) : (start c).1.flatMap source ++ (start c).2.pending = [c] := by
  unfold start
  repeat' split
  all_goals simp_all [source, Mode.pending]

theorem step_source (m : Mode) (c : Char) :
    (step m c).1.flatMap source ++ (step m c).2.pending = m.pending ++ [c] := by
  cases m with
  | between => exact start_source c
  | word seen =>
    by_cases inside : isWordChar c
    · simp [step, inside, Mode.pending]
    · simp only [step, if_neg inside, List.flatMap_cons, List.append_assoc, start_source]
      rfl
  | literal seen =>
    by_cases escaped : c = '\\'
    · simp [step, escaped, Mode.pending]
    · by_cases closed : c = '\''
      · simp [step, closed, Mode.pending, source]
      · simp [step, escaped, closed, Mode.pending]
  | escape seen => simp [step, Mode.pending]

/-- Nothing of the text is lost in its tokens. -/
theorem scan_source {m : Mode} {cs : List Char} {ts : List Token} (h : scan m cs = some ts) :
    ts.flatMap source = m.pending ++ cs := by
  induction cs generalizing m ts with
  | nil =>
    cases m with
    | between => simp_all [scan, finish, Mode.pending]
    | word seen =>
      obtain rfl : [word seen] = ts := by simpa [scan, finish] using h
      simp [source, Mode.pending]
    | literal seen => simp [scan, finish] at h
    | escape seen => simp [scan, finish] at h
  | cons c rest ih =>
    obtain ⟨later, scanned, rfl⟩ := Option.map_eq_some_iff.1 h
    rw [List.flatMap_append, ih scanned, ← List.append_assoc, step_source]
    simp

theorem ofText?_source {s : String} {ts : List Token} (h : ofText? s = some ts) :
    String.ofList (ts.flatMap source) = s := by
  rw [scan_source h]
  simp [Mode.pending]

/-- Whatever was read before, a character that no word has starts a token of its own. -/
theorem scan_append {m : Mode} {cs : List Char} {ts : List Token} (h : scan m cs = some ts)
    {d : Char} (delimits : isWordChar d = false) (rest : List Char) :
    scan m (cs ++ d :: rest) = (scan .between (d :: rest)).map (ts ++ ·) := by
  induction cs generalizing m ts with
  | nil =>
    cases m with
    | between =>
      obtain rfl : [] = ts := by simpa [scan, finish] using h
      simp
    | word seen =>
      obtain rfl : [word seen] = ts := by simpa [scan, finish] using h
      simp [scan, step, delimits, Function.comp_def]
    | literal seen => simp [scan, finish] at h
    | escape seen => simp [scan, finish] at h
  | cons c cs ih =>
    obtain ⟨later, scanned, rfl⟩ := Option.map_eq_some_iff.1 h
    rw [List.cons_append, scan, ih scanned]
    simp [Function.comp_def]

theorem scan_word_append (seen : List Char) {cs : List Char} (inside : cs.all isWordChar = true)
    (rest : List Char) : scan (.word seen) (cs ++ rest) = scan (.word (seen ++ cs)) rest := by
  induction cs generalizing seen with
  | nil => simp
  | cons c cs ih =>
    obtain ⟨here, later⟩ : isWordChar c = true ∧ cs.all isWordChar = true := by simpa using inside
    rw [List.cons_append, scan]
    simp [step, here, ih _ later]

theorem start_of_isWordChar {c : Char} (inside : isWordChar c = true) :
    start c = ([], .word [c]) := by
  have parts : isBlankChar c = false ∧ c ≠ '(' ∧ c ≠ ')' ∧ c ≠ '\'' := by
    simpa [isWordChar, and_assoc] using inside
  simp [start, parts]

theorem scan_word {cs : List Char} (w : IsWord cs) : scan .between cs = some [word cs] := by
  obtain ⟨filled, inside⟩ := w
  cases cs with
  | nil => exact absurd rfl filled
  | cons c cs =>
    obtain ⟨here, later⟩ : isWordChar c = true ∧ cs.all isWordChar = true := by simpa using inside
    have rest := scan_word_append [c] later []
    rw [List.append_nil] at rest
    simp [scan, step, start_of_isWordChar here, rest, finish]

/-- A literal ends where it was closed, whatever text it holds. -/
theorem scan_literal_append (seen : List Char) (s rest : List Char) :
    scan (.literal seen) (Operand.escape s ++ '\'' :: rest) =
      (scan .between rest).map (literal (seen ++ Operand.escape s) :: ·) := by
  induction s generalizing seen with
  | nil => simp [Operand.escape, scan, step]
  | cons c s ih =>
    by_cases special : c = '\\' ∨ c = '\''
    · simp [Operand.escape, special, scan, step, ih, Function.comp_def]
    · have plain : c ≠ '\\' ∧ c ≠ '\'' := by simpa using special
      simp [Operand.escape, scan, step, plain, ih, Function.comp_def]

theorem scan_literal (s : List Char) :
    scan .between ('\'' :: Operand.escape s ++ ['\'']) = some [literal (Operand.escape s)] := by
  have opened : start '\'' = ([], .literal []) := by decide
  rw [List.cons_append, scan]
  simp [step, opened, scan_literal_append, scan, finish]

/-- The text that a literal stands for. -/
def unescape : List Char → List Char
  | '\\' :: c :: rest => c :: unescape rest
  | c :: rest => c :: unescape rest
  | [] => []

theorem unescape_escape (s : List Char) : unescape (Operand.escape s) = s := by
  induction s with
  | nil => rfl
  | cons c s ih =>
    by_cases special : c = '\\' ∨ c = '\''
    · simp [Operand.escape, special, unescape, ih]
    · have plain : c ≠ '\\' := fun h => special (.inl h)
      rw [Operand.escape, if_neg special, unescape, ih]
      exact fun _ _ same => absurd same plain

/-! ### Tokens of what is written -/

theorem scan_space (rest : List Char) :
    scan .between (' ' :: rest) = (scan .between rest).map (blank ' ' :: ·) := by
  have started : start ' ' = ([blank ' '], .between) := by decide
  simp [scan, step, started]

theorem scan_append_space {m : Mode} {cs : List Char} {ts : List Token} (h : scan m cs = some ts)
    (rest : List Char) :
    scan m (cs ++ ' ' :: rest) = (scan .between rest).map (ts ++ blank ' ' :: ·) := by
  rw [scan_append h (by decide), scan_space]
  simp [Function.comp_def]

/-- Parentheses around a text stand around its tokens. -/
theorem ofText?_parenthesized {s : String} {ts : List Token} (h : ofText? s = some ts) :
    ofText? ("(" ++ s ++ ")") = some (opening :: ts ++ [closing]) := by
  have opened : start '(' = ([opening], .between) := by decide
  have closed : start ')' = ([closing], .between) := by decide
  have inner := scan_append h (d := ')') (by decide) []
  have whole : ("(" ++ s ++ ")").toList = '(' :: (s.toList ++ [')']) := by simp
  rw [ofText?, whole, scan]
  simp [step, opened, closed, inner, scan, finish]

/-- The tokens between two members of a conjunction or disjunction. -/
def separator (w : List Char) : List Token := [blank ' ', word w, blank ' ']

theorem scan_append_separator {cs : List Char} {ts : List Token} (h : scan .between cs = some ts)
    {w : List Char} (isWord : IsWord w) (rest : List Char) :
    scan .between (cs ++ ' ' :: (w ++ ' ' :: rest)) =
      (scan .between rest).map (ts ++ separator w ++ ·) := by
  rw [scan_append_space h, scan_append_space (scan_word isWord)]
  simp [separator, Function.comp_def]

/-- Texts with a word between them have their tokens with the same word between them. -/
theorem ofText?_intercalate {w : List Char} (isWord : IsWord w) {texts : List String}
    {pieces : List (List Token)}
    (scanned : List.Forall₂ (fun s ts => ofText? s = some ts) texts pieces) :
    ofText? (String.intercalate (String.ofList (' ' :: w ++ [' '])) texts) =
      some (List.intercalate (separator w) pieces) := by
  induction scanned with
  | nil => rfl
  | @cons s ts texts pieces first later ih =>
    cases later with
    | nil => simpa using first
    | @cons s' ts' texts pieces second later =>
      rw [String.intercalate_cons_cons, List.intercalate_cons_cons]
      have whole (r : String) : (s ++ String.ofList (' ' :: w ++ [' ']) ++ r).toList =
          s.toList ++ ' ' :: (w ++ ' ' :: r.toList) := by simp
      rw [ofText?] at ih
      rw [ofText?, whole, scan_append_separator first isWord, ih]
      simp

end Token

theorem isWordChar_of_isDigit {c : Char} (digit : c.isDigit = true) : isWordChar c = true := by
  obtain ⟨low, high⟩ := Char.isDigit_iff_toNat.1 digit
  change 48 ≤ c.toNat at low
  change c.toNat ≤ 57 at high
  have solid : isBlankChar c = false := Text.isBlankChar_of_isDigit digit
  have other (d : Char) (outside : d.toNat < 48) : c ≠ d := by
    rintro rfl
    omega
  simp [isWordChar, solid, other '(' (by decide), other ')' (by decide), other '\'' (by decide)]

theorem isWord_integerChars (n : Int) : IsWord (Text.integerChars n) := by
  have digits (m : Nat) : (Nat.toDigits 10 m).all isWordChar = true := by
    rw [List.all_eq_true]
    intro c among
    exact isWordChar_of_isDigit (Nat.isDigit_of_mem_toDigits (by decide) (by decide) among)
  have minus : isWordChar '-' = true := by decide
  cases n with
  | ofNat m => exact ⟨Text.integerChars_ne_nil _, digits m⟩
  | negSucc m => exact ⟨Text.integerChars_ne_nil _, by simp [Text.integerChars, minus, digits]⟩

end Filter

namespace Operand

open TelemetryGateway.Filter (Token)

def token : Operand → Token
  | text s => .literal (escape s.toList)
  | int n => .word (Text.integerChars n)
  | flag b => .word (if b then "true" else "false").toList

theorem scan_written (v : Operand) : Token.scan .between v.written.toList = some [v.token] := by
  cases v with
  | text s =>
    have whole : (written (text s)).toList = '\'' :: escape s.toList ++ ['\''] := by simp [written]
    rw [whole, Token.scan_literal]
    rfl
  | int n =>
    have whole : (written (int n)).toList = Text.integerChars n := Text.toList_integerText n
    rw [whole, Token.scan_word (Filter.isWord_integerChars n)]
    rfl
  | flag b => cases b <;> decide

theorem integerChars_ne {w : List Char} (unsigned : Text.signed? w = none) (n : Int) :
    Text.integerChars n ≠ w := by
  intro same
  have spelled := Text.signed?_integerChars n
  rw [same, unsigned] at spelled
  exact absurd spelled (by simp)

/-- An operand is not mistaken for a word of the language. -/
theorem token_ne_word {w : List Char} (unsigned : Text.signed? w = none)
    (noFlag : w ≠ "true".toList ∧ w ≠ "false".toList) (v : Operand) : v.token ≠ .word w := by
  cases v with
  | text s => simp [token]
  | int n => simpa [token] using integerChars_ne unsigned n
  | flag b =>
    cases b with
    | false => simpa [token] using noFlag.2.symm
    | true => simpa [token] using noFlag.1.symm

@[simp] theorem isBlank_token (v : Operand) : v.token.isBlank = false := by
  cases v <;> rfl

@[simp] theorem depthAfter_token (depth : Nat) (v : Operand) : v.token.depthAfter depth = depth := by
  cases v <;> rfl

end Operand

theorem Comparison.isWord_text (op : Comparison) : Filter.IsWord op.text.toList := by
  cases op <;> decide

namespace Filter

def comparisonTokens (field : String) (op : Comparison) (value : Operand) : List Token :=
  [.word field.toList, .blank ' ', .word op.text.toList, .blank ' ', value.token]

theorem ofText?_compare {field : String} (isWord : IsWord field.toList) (op : Comparison)
    (value : Operand) :
    Token.ofText? (compare field op value).text = some (comparisonTokens field op value) := by
  have whole : (compare field op value).text.toList =
      field.toList ++ ' ' :: (op.text.toList ++ ' ' :: value.written.toList) := by
    simp [Filter.text]
  rw [Token.ofText?, whole, Token.scan_append_space (Token.scan_word isWord),
    Token.scan_append_space (Token.scan_word op.isWord_text), value.scan_written]
  rfl

end Filter

end TelemetryGateway
