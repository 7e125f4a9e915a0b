import TelemetryGateway.Backend.Client

set_option autoImplicit false

/-!
# One client per credential

All callers with one credential share a client. It is built when the credential is first used and
then kept. Callers without a credential share the default client. A call looks the credential up,
and only when it is not there enters a section of its own, in which it looks again before it builds.
-/

namespace TelemetryGateway.Backend

/-- The clients built so far, and how a client is built: from the number of clients built before
and the credential. -/
structure Cache (α : Type) where
  default : α
  build : Nat → String → α
  clients : List (String × α)
  built : Nat

namespace Cache

variable {α : Type}

def empty (default : α) (build : Nat → String → α) : Cache α := ⟨default, build, [], 0⟩

/-- Clients of a backend, which differ in the key alone. -/
def ofClient (default : Client) : Cache Client := empty default fun _ key => default.withKey key

/-- A credential that stands for a caller of its own. -/
def credential? (given : Option String) : Option String := given.filter fun c => !Text.isBlank c

def lookup (cache : Cache α) (credential : String) : Option α := cache.clients.lookup credential

theorem mem_of_lookup {cache : Cache α} {credential : String} {client : α}
    (found : cache.lookup credential = some client) : (credential, client) ∈ cache.clients := by
  obtain ⟨before, behind, whole, -⟩ := List.lookup_eq_some_iff.1 found
  rw [whole]
  simp

/-- Builds a client and keeps it. -/
def add (cache : Cache α) (credential : String) : α × Cache α :=
  let client := cache.build cache.built credential
  (client, { cache with
    clients := cache.clients ++ [(credential, client)]
    built := cache.built + 1 })

/-- Looks again, and builds a client where there is still none. -/
def ensure (cache : Cache α) (credential : String) : α × Cache α :=
  match cache.lookup credential with
  | some client => (client, cache)
  | none => cache.add credential

def resolve (cache : Cache α) (given : Option String) : α × Cache α :=
  match credential? given with
  | none => (cache.default, cache)
  | some credential =>
    match cache.lookup credential with
    | some client => (client, cache)
    | none => cache.ensure credential

@[simp] theorem resolve_none (cache : Cache α) : cache.resolve none = (cache.default, cache) := rfl

/-- For a caller alone the second look makes no difference. -/
theorem resolve_of_credential (cache : Cache α) {given : Option String} {credential : String}
    (h : credential? given = some credential) : cache.resolve given = cache.ensure credential := by
  simp only [resolve, h, ensure]
  split <;> simp_all

def size (cache : Cache α) : Nat := cache.clients.length

def isEmpty (cache : Cache α) : Bool := cache.size == 0

def shown (cache : Cache α) : String :=
  "ClientCache \x7b cached: " ++ Text.naturalText cache.size ++ ", .. \x7d"

end Cache

end TelemetryGateway.Backend
