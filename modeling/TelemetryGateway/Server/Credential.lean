import TelemetryGateway.Text.Blank

set_option autoImplicit false

/-!
# Credentials of callers

A caller presents a key either in the header `Authorization`, after the word `Bearer`, or alone in
the header `X-API-Key`. Values that are not visible ASCII are passed over.
-/

namespace TelemetryGateway.Server

/-- Headers by name, in the order given. -/
abbrev Headers := List (String × String)

/-- Whether two texts are the same but for the case of ASCII letters. -/
def sameAscii (a b : String) : Bool := a.toList.map Char.toLower == b.toList.map Char.toLower

/-- The first value of a header. -/
def header? (headers : Headers) (name : String) : Option String :=
  (headers.find? fun h => sameAscii h.1 name).map (·.2)

/-- Whether a value consists of visible ASCII characters, spaces and tabs. -/
def isVisible (s : String) : Bool :=
  s.toList.all fun c => c = '\t' || (0x20 ≤ c.toNat && c.toNat < 0x7F)

/-- A header's value, if it is visible. -/
def visible? (headers : Headers) (name : String) : Option String :=
  (header? headers name).filter isVisible

def scheme : List Char := "bearer ".toList

/-- What follows the scheme, in any letter case, and its space. -/
def bearer? (value : String) : Option String :=
  if (value.toList.take scheme.length).map Char.toLower = scheme then
    some (String.ofList (value.toList.drop scheme.length))
  else none

/-- The key that a caller presents. A bearer value is taken even where it is blank. -/
def credential? (headers : Headers) : Option String :=
  Text.filled
    (match visible? headers "authorization" >>= bearer? with
      | some key => some key
      | none => visible? headers "x-api-key")

end TelemetryGateway.Server
