import TelemetryGateway.Json.Numeral

set_option autoImplicit false

/-!
# Tokens of a JSON text

The text is read character by character. What stands between tokens is white space; a text token
is closed by its quote, a word by whatever cannot belong to it.
-/

namespace TelemetryGateway.Json

/-- A bracket, comma or colon; a quoted text; a number or a literal name. -/
inductive Token where
  | mark (c : Char)
  | text (s : String)
  | word (cs : List Char)
  deriving DecidableEq

namespace Token

/-- How far reading has come within a token. Characters already read are held last one first. -/
inductive Mode where
  | between
  | word (seen : List Char)
  | text (seen : List Char)
  | escape (seen : List Char)
  /-- Inside four hexadecimal digits; `high` is the first half of a pair. -/
  | unit (seen : List Char) (high : Option Nat) (value count : Nat)
  /-- A first half was read; the second must follow as another escape. -/
  | pair (seen : List Char) (high : Nat)
  | pairEscape (seen : List Char) (high : Nat)

/-- Tokens read so far, last one first. -/
structure Progress where
  mode : Mode
  tokens : List Token

def isSpace (c : Char) : Bool := c = ' ' || c = '\n' || c = '\t' || c = '\r'

def isMark (c : Char) : Bool :=
  c = '[' || c = ']' || c = '\x7b' || c = '\x7d' || c = ':' || c = ','

def hexValue? (c : Char) : Option Nat :=
  if '0' ≤ c ∧ c ≤ '9' then some (c.toNat - '0'.toNat)
  else if 'a' ≤ c ∧ c ≤ 'f' then some (c.toNat - 'a'.toNat + 10)
  else if 'A' ≤ c ∧ c ≤ 'F' then some (c.toNat - 'A'.toNat + 10)
  else none

/-- The character of a one-letter escape. -/
def escaped? : Char → Option Char
  | '"' => some '"'
  | '\\' => some '\\'
  | '/' => some '/'
  | 'b' => some '\x08'
  | 'f' => some '\x0c'
  | 'n' => some '\n'
  | 'r' => some '\r'
  | 't' => some '\t'
  | _ => none

/-- A 16-bit unit is a character, the first half of a pair, or the second half of one. -/
def unitMode? (seen : List Char) (high : Option Nat) (value : Nat) : Option Mode :=
  match high with
  | some h =>
    if 0xDC00 ≤ value ∧ value ≤ 0xDFFF then
      some (.text (Char.ofNat (0x10000 + (h - 0xD800) * 0x400 + (value - 0xDC00)) :: seen))
    else none
  | none =>
    if 0xD800 ≤ value ∧ value ≤ 0xDBFF then some (.pair seen value)
    else if 0xDC00 ≤ value ∧ value ≤ 0xDFFF then none
    else some (.text (Char.ofNat value :: seen))

/-- A character where no token is open. -/
def start (tokens : List Token) (c : Char) : Progress :=
  if isSpace c then ⟨.between, tokens⟩
  else if isMark c then ⟨.between, .mark c :: tokens⟩
  else if c = '"' then ⟨.text [], tokens⟩
  else ⟨.word [c], tokens⟩

def step (p : Progress) (c : Char) : Option Progress :=
  match p.mode with
  | .between => some (start p.tokens c)
  | .word seen =>
    if isSpace c || isMark c || c = '"' then some (start (.word seen.reverse :: p.tokens) c)
    else some ⟨.word (c :: seen), p.tokens⟩
  | .text seen =>
    if c = '"' then some ⟨.between, .text (String.ofList seen.reverse) :: p.tokens⟩
    else if c = '\\' then some ⟨.escape seen, p.tokens⟩
    else if c.toNat < 0x20 then none
    else some ⟨.text (c :: seen), p.tokens⟩
  | .escape seen =>
    if c = 'u' then some ⟨.unit seen none 0 0, p.tokens⟩
    else (escaped? c).map fun e => ⟨.text (e :: seen), p.tokens⟩
  | .unit seen high value count => do
    let value := 16 * value + (← hexValue? c)
    if count = 3 then
      return ⟨← unitMode? seen high value, p.tokens⟩
    else return ⟨.unit seen high value (count + 1), p.tokens⟩
  | .pair seen high => if c = '\\' then some ⟨.pairEscape seen high, p.tokens⟩ else none
  | .pairEscape seen high => if c = 'u' then some ⟨.unit seen (some high) 0 0, p.tokens⟩ else none

/-- The tokens of a text, unless one of them is malformed or left open. -/
def ofChars? (cs : List Char) : Option (List Token) := do
  let p ← cs.foldlM step ⟨.between, []⟩
  match p.mode with
  | .between => some p.tokens.reverse
  | .word seen => some (Token.word seen.reverse :: p.tokens).reverse
  | _ => none

end Token

end TelemetryGateway.Json
