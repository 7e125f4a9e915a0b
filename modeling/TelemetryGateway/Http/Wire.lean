import TelemetryGateway.Http.Message

set_option autoImplicit false

/-!
# Requests and replies as JSON

The form in which requests are handed to a carrier, and in which it hands back replies.
-/

namespace TelemetryGateway.Http

def pairsJson (pairs : List (String × String)) : Json :=
  .arr (pairs.map fun p => .arr [.str p.1, .str p.2])

def Request.encode (r : Request) : Json :=
  .obj [("body", r.body.getD .null), ("headers", pairsJson r.headers),
    ("method", .str r.method.text), ("params", pairsJson r.params),
    ("url", .str (r.base ++ r.path))]

/-- A reply has a status and a text; anything else says that there is none. -/
def Exchange.decode (v : Json) : Exchange :=
  match v.get? "status", v.get? "text" with
  | some (.num (.int status)), some (.str text) => .ok ⟨status.toNat, .ofText text⟩
  | _, _ => .error ((v.get? "error" >>= Json.string?).getD "")

end TelemetryGateway.Http
