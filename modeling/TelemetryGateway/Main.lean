import TelemetryGateway.Console.Session
import TelemetryGateway.Http.Wire

set_option autoImplicit false

/-!
# The command line

The network is left to a carrier: every request is written to standard output as one line, and its
reply is read from standard input as one line.
-/

namespace TelemetryGateway.Console

open Http (Dialogue Exchange Request)

/-- Hands a request to the carrier and waits for the reply. -/
def exchange (r : Request) : IO Exchange := do
  let output ← IO.getStdout
  output.putStrLn r.encode.compact
  output.flush
  let line ← (← IO.getStdin).getLine
  return ((Json.parse? line).map Exchange.decode).getD (.error "")

/-- Carries out a dialogue over the carrier. -/
def converse {α : Type} : Dialogue α → IO α
  | .done a => pure a
  | .ask r next => do converse (next (← exchange r))

end TelemetryGateway.Console

open TelemetryGateway.Console in
/-- Runs one command and ends with its code. -/
def main (args : List String) : IO UInt32 := do
  let server ← IO.getEnv "LOOKOUT_SERVER_URL"
  let key ← IO.getEnv "LOOKOUT_API_KEY"
  let ending ← converse (run server key args)
  IO.print ending.output
  IO.eprint ending.errors
  return UInt32.ofNat ending.code
