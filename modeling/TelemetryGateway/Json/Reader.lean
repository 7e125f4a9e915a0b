import TelemetryGateway.Json.Token

set_option autoImplicit false

/-!
# Reading JSON texts

Tokens are taken one by one while the containers still open are kept on a stack. A text may nest
containers only to a limit. Of members with the same key the last one counts.
-/

namespace TelemetryGateway.Json

/-- A container still open. -/
inductive Frame where
  /-- Items read so far, last one first. -/
  | items (done : List Json)
  | members (done : Members)
  /-- A member whose value comes next. -/
  | member (done : Members) (key : String)

/-- What may come next. -/
inductive Awaited where
  | value
  | itemOrClose
  | keyOrClose
  | key
  | colon (key : String)
  | separator
  | nothing (result : Json)

structure Reading where
  frames : List Frame
  awaited : Awaited

namespace Reading

def start : Reading := ⟨[], .value⟩

/-- Puts a finished value into the innermost open container. -/
def deliver (v : Json) : List Frame → Option Reading
  | [] => some ⟨[], .nothing v⟩
  | .items done :: frames => some ⟨.items (v :: done) :: frames, .separator⟩
  | .member done key :: frames => some ⟨.members (done.insert key v) :: frames, .separator⟩
  | .members _ :: _ => none

/-- The value of a number or a literal name. -/
def scalar? (cs : List Char) : Option Json :=
  if cs = "null".toList then some .null
  else if cs = "true".toList then some (.bool true)
  else if cs = "false".toList then some (.bool false)
  else (Numeral.ofChars? cs).map .num

/-- A token where a value is due. -/
def value (limit : Nat) (frames : List Frame) : Token → Option Reading
  | .text s => deliver (.str s) frames
  | .word cs => scalar? cs >>= (deliver · frames)
  | .mark c =>
    if limit ≤ frames.length then none
    else if c = '[' then some ⟨.items [] :: frames, .itemOrClose⟩
    else if c = '\x7b' then some ⟨.members [] :: frames, .keyOrClose⟩
    else none

/-- Closes the innermost open container. -/
def close (c : Char) : List Frame → Option Reading
  | .items done :: frames => if c = ']' then deliver (.arr done.reverse) frames else none
  | .members done :: frames => if c = '\x7d' then deliver (.obj done) frames else none
  | _ => none

/-- A comma, or the end of the innermost open container. -/
def separator (c : Char) (frames : List Frame) : Option Reading :=
  if c = ',' then
    match frames with
    | .items _ :: _ => some ⟨frames, .value⟩
    | .members _ :: _ => some ⟨frames, .key⟩
    | _ => none
  else close c frames

def step (limit : Nat) (r : Reading) (token : Token) : Option Reading :=
  match r.awaited, token with
  | .value, _ => value limit r.frames token
  | .itemOrClose, .mark ']' => close ']' r.frames
  | .itemOrClose, _ => value limit r.frames token
  | .keyOrClose, .mark c => close c r.frames
  | .keyOrClose, .text s | .key, .text s => some ⟨r.frames, .colon s⟩
  | .colon key, .mark ':' =>
    match r.frames with
    | .members done :: frames => some ⟨.member done key :: frames, .value⟩
    | _ => none
  | .separator, .mark c => separator c r.frames
  | _, _ => none

end Reading

/-- Reads a text that nests at most `limit` containers. -/
def parseWithin? (limit : Nat) (s : String) : Option Json := do
  let tokens ← Token.ofChars? s.toList
  let r ← tokens.foldlM (Reading.step limit) Reading.start
  match r.awaited with
  | .nothing v => some v
  | _ => none

/-- The containers that a text from outside may nest. -/
def nestingLimit : Nat := 127

/-- Reads a text from outside. -/
def parse? (s : String) : Option Json := parseWithin? nestingLimit s

example : parse? " \x7b\"b\": [1, \"\\ud83d\\ude00\"], \"a\": null, \"b\": -2.5e0\x7d " =
    some (.obj [("a", .null), ("b", .num (.float ⟨true, 5629499534213120, -51⟩))]) := by
  decide +kernel
example : parse? "[1,]" = none ∧ parse? "\x7b\"a\":1,\x7d" = none ∧ parse? "[1] 2" = none := by
  decide +kernel

end TelemetryGateway.Json
