import TelemetryGateway.Json.Printer
import TelemetryGateway.Json.Reader

set_option autoImplicit false

/-!
# Requests and replies

A peer answers every request with a reply, or cannot be reached. A dialogue is a computation that
asks a peer now and then; running it against a peer also gives the requests that were sent.
-/

namespace TelemetryGateway.Http

inductive Method where
  | get
  | post
  deriving DecidableEq, Inhabited

def Method.text : Method → String
  | get => "GET"
  | post => "POST"

structure Request where
  method : Method
  /-- The address of the peer, to which the path is appended as it is. -/
  base : String
  path : String
  /-- Pairs that follow the path as a query. -/
  params : List (String × String)
  headers : List (String × String)
  body : Option Json
  deriving DecidableEq

/-- Characters that may stand in the name of a header. -/
def isTokenChar (c : Char) : Bool :=
  c.isAlphanum || "!#$%&'*+-.^_`|~".toList.contains c

def isHeaderName (s : String) : Bool := s ≠ "" && s.toList.all isTokenChar

/-- A header's value holds no control characters but tabs. -/
def isHeaderValue (s : String) : Bool :=
  s.toList.all fun c => c = '\t' || (0x20 ≤ c.toNat && c.toNat ≠ 0x7F)

/-- Whether the request can be sent at all. -/
def Request.isSendable (r : Request) : Bool :=
  r.headers.all fun h => isHeaderName h.1 && isHeaderValue h.2

/-- A body as text, and its value where the text is JSON. -/
structure Content where
  text : String
  value : Option Json
  deriving DecidableEq

namespace Content

def none : Content := ⟨"", Option.none⟩

def ofText (text : String) : Content := ⟨text, Json.parse? text⟩

def ofJson (value : Json) : Content := ⟨value.compact, some value⟩

end Content

structure Reply where
  status : Nat
  body : Content
  deriving DecidableEq

def Reply.isSuccess (r : Reply) : Bool := 200 ≤ r.status && r.status < 300

/-- A reply, or why there is none. -/
abbrev Exchange := Except String Reply

abbrev Peer := Request → Exchange

/-- Why a request that cannot be sent fails. -/
def notSendable : String := Text.unstated

/-- A computation that asks a peer now and then. -/
inductive Dialogue (α : Type) where
  | done (result : α)
  | ask (request : Request) (next : Exchange → Dialogue α)

namespace Dialogue

variable {α β : Type}

def bind (d : Dialogue α) (f : α → Dialogue β) : Dialogue β :=
  match d with
  | done a => f a
  | ask request next => ask request fun e => (next e).bind f

instance : Monad Dialogue where
  pure := done
  bind := bind

/-- The result of asking once. A request that cannot be sent fails without the peer. -/
def request (r : Request) : Dialogue Exchange :=
  if r.isSendable then ask r done else done (.error notSendable)

/-- The result, and the requests in the order in which they were sent. The peer also learns how
many requests went before. -/
def run (peer : Nat → Peer) (sent : Nat) : Dialogue α → α × List Request
  | done a => (a, [])
  | ask r next =>
    let (a, rs) := (next (peer sent r)).run peer (sent + 1)
    (a, r :: rs)

@[simp] theorem run_done (peer : Nat → Peer) (sent : Nat) (a : α) :
    (done a).run peer sent = (a, []) := rfl

/-- The second part of a dialogue sees how many requests the first part sent. -/
theorem run_bind (peer : Nat → Peer) (sent : Nat) (d : Dialogue α) (f : α → Dialogue β) :
    (d.bind f).run peer sent =
      let first := d.run peer sent
      let second := (f first.1).run peer (sent + first.2.length)
      (second.1, first.2 ++ second.2) := by
  induction d generalizing sent with
  | done a => simp [bind]
  | ask r next ih => simp [bind, run, ih, Nat.add_assoc, Nat.add_comm 1]

end Dialogue

end TelemetryGateway.Http
