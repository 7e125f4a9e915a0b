import TelemetryGateway.Text.Integer

set_option autoImplicit false

/-!
# Options on a command line

Options stand before or between plain arguments. A long one has two hyphens and takes its value
after an equals sign or as the next argument; a short one has one hyphen and takes what follows its
letter or the next argument. Two hyphens alone end the options.
-/

namespace TelemetryGateway.Console

/-- Why a command line is not carried out. -/
inductive Refusal where
  | help
  | version
  | misuse
  deriving DecidableEq

/-- An option: its names, and the values it takes, if it takes any. -/
structure OptionForm where
  long : String
  short : Option Char
  takesValue : Bool
  /-- Whether it may be given more than once. -/
  repeats : Bool
  accepts : String → Bool

namespace OptionForm

def text (long : String) (short : Option Char) : OptionForm :=
  ⟨long, short, true, false, fun _ => true⟩

def flag (long : String) : OptionForm := ⟨long, none, false, false, fun _ => true⟩

/-- An option that takes an unsigned number of 32 bits. -/
def count (long : String) (short : Option Char) : OptionForm :=
  ⟨long, short, true, false, fun s => (Text.int64? s).any fun n => 0 ≤ n ∧ n < 4294967296⟩

end OptionForm

/-- What a level of commands understands. -/
structure Level where
  options : List OptionForm
  /-- How many plain arguments it takes. -/
  plain : Nat
  /-- The commands below it; the first plain argument must be one of them. -/
  commands : List String
  hasVersion : Bool

/-- What was given: values by the long name of their option, and plain arguments. -/
structure Given where
  values : List (String × String)
  plain : List String
  /-- A command and the arguments that follow it. -/
  command : Option (String × List String)

namespace Given

def empty : Given := ⟨[], [], none⟩

def value? (g : Given) (long : String) : Option String := g.values.lookup long

def values? (g : Given) (long : String) : List String :=
  (g.values.filter fun v => v.1 = long).map (·.2)

def isSet (g : Given) (long : String) : Bool := g.values.any fun v => v.1 = long

def number (g : Given) (long : String) (default : Nat) : Nat :=
  ((g.value? long >>= Text.int64?).map Int.toNat).getD default

end Given

namespace Level

def add (o : OptionForm) (value : String) (g : Given) : Except Refusal Given :=
  if g.isSet o.long ∧ !o.repeats then .error .misuse
  else if o.accepts value then .ok { g with values := g.values ++ [(o.long, value)] }
  else .error .misuse

def addPlain (l : Level) (arg : String) (g : Given) : Except Refusal Given :=
  if g.plain.length < l.plain then .ok { g with plain := g.plain ++ [arg] } else .error .misuse

/-- A long option and its value, if one follows an equals sign; the option is returned where its
value is still to come. -/
def long (l : Level) (body : List Char) (g : Given) : Except Refusal (Given × Option OptionForm) :=
  let name := String.ofList (body.takeWhile (· ≠ '='))
  let rest := body.drop name.length
  if name = "help" ∧ rest = [] then .error .help
  else if name = "version" ∧ rest = [] ∧ l.hasVersion then .error .version
  else
    match l.options.find? fun o => o.long = name with
    | none => .error .misuse
    | some o =>
      match o.takesValue, rest with
      | true, [] => .ok (g, some o)
      | true, _ :: value => (add o (String.ofList value) g).map (·, none)
      | false, [] => (add o "" g).map (·, none)
      | false, _ :: _ => .error .misuse

/-- A short option and its value, if one follows its letter. -/
def short (l : Level) (letter : Char) (rest : List Char) (g : Given) :
    Except Refusal (Given × Option OptionForm) :=
  if letter = 'h' then .error .help
  else if letter = 'V' ∧ l.hasVersion then .error .version
  else
    match l.options.find? fun o => o.short = some letter with
    | none => .error .misuse
    | some o =>
      match rest with
      | [] => .ok (g, some o)
      | '=' :: value => (add o (String.ofList value) g).map (·, none)
      | _ => (add o (String.ofList rest) g).map (·, none)

/-- Reads arguments one after the other; `pending` is an option whose value comes next. -/
def readFrom (l : Level) (pending : Option OptionForm) (g : Given) : List String → Except Refusal Given
  | [] => if pending.isSome then .error .misuse else .ok g
  | arg :: rest =>
    match arg.toList, pending with
    | '-' :: _ :: _, some _ => .error .misuse
    | ['-', '-'], none => rest.foldlM (fun g arg => l.addPlain arg g) g
    | '-' :: '-' :: body, none => do
      let (g, pending) ← l.long body g
      readFrom l pending g rest
    | '-' :: letter :: after, none => do
      let (g, pending) ← l.short letter after g
      readFrom l pending g rest
    | _, some o => do
      let g ← add o arg g
      readFrom l none g rest
    | _, none =>
      if l.commands = [] then do
        let g ← l.addPlain arg g
        readFrom l none g rest
      else if l.commands.contains arg then .ok { g with command := some (arg, rest) }
      else if arg = "help" then
        .error (if rest.head?.all ("help" :: l.commands).contains then .help else .misuse)
      else .error .misuse

def read (l : Level) (args : List String) : Except Refusal Given := l.readFrom none .empty args

end Level

end TelemetryGateway.Console
