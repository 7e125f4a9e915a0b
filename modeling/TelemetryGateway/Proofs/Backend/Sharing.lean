import Mathlib.Data.List.Dedup
import Mathlib.Logic.Function.Basic
import TelemetryGateway.Backend.Cache

set_option autoImplicit false

/-!
# Clients shared by calls that run side by side

A call takes its client in two atomic steps: a look, which many calls may take at a time, and where
the look found nothing a section of its own, in which it looks again, builds and keeps the client.
Between the two steps any other calls may take theirs. Calls are told apart by an index, and an
order of steps is a list of indices, so there may be any number of calls in any order.
-/

namespace TelemetryGateway.Backend

/-- A client as it is handed out. Two callers have the very same client where the numbers agree. -/
structure Held (β : Type) where
  number : Nat
  client : β
  deriving DecidableEq

/-- How far a call has come. -/
inductive Stage (α : Type) where
  | begun
  /-- The look found no client for the credential. -/
  | missed (credential : String)
  | resolved (client : α)

namespace Cache

variable {α β : Type}

/-- The default client has the number 0, the clients that are built are numbered from 1 on. -/
def numbered (default : β) (make : Nat → String → β) : Cache (Held β) :=
  empty ⟨0, default⟩ fun built credential => ⟨built + 1, make built credential⟩

/-- The first step of a call. -/
def look (cache : Cache α) (given : Option String) : Stage α :=
  match credential? given with
  | none => .resolved cache.default
  | some credential =>
    match cache.lookup credential with
    | some client => .resolved client
    | none => .missed credential

theorem credential?_eq_some_iff {given : Option String} {c : String} :
    credential? given = some c ↔ given = some c ∧ Text.isBlank c = false := by
  simp [credential?, Option.filter_eq_some_iff]

theorem credential?_eq_none_iff {given : Option String} :
    credential? given = none ↔ ∀ c, given = some c → Text.isBlank c = true := by
  simp [credential?, Option.filter_eq_none_iff]

theorem ensure_of_some {cache : Cache α} {c : String} {client : α}
    (found : cache.lookup c = some client) : cache.ensure c = (client, cache) := by
  rw [ensure, found]

theorem ensure_of_none {cache : Cache α} {c : String} (absent : cache.lookup c = none) :
    cache.ensure c = cache.add c := by
  rw [ensure, absent]

end Cache

/-- Calls of one cache that run side by side. -/
structure Calls (ι α : Type) where
  cache : Cache α
  stage : ι → Stage α
  /-- The credentials that clients were built from, in the order of building. -/
  built : List String

namespace Calls

open Cache (credential?)

variable {ι α β : Type}

def start (cache : Cache α) : Calls ι α := ⟨cache, fun _ => .begun, []⟩

variable {given : ι → Option String} {s : Calls ι α}

/-! ### What belongs together -/

/-- How the cache, the clients that were built and the calls belong together. -/
structure Sound (given : ι → Option String) (origin : Cache α) (s : Calls ι α) : Prop where
  default : s.cache.default = origin.default
  build : s.cache.build = origin.build
  clients : s.cache.clients = s.built.mapIdx fun n c => (c, origin.build n c)
  counted : s.cache.built = s.built.length
  distinct : s.built.Nodup
  asked : ∀ c ∈ s.built, ∃ i, credential? (given i) = some c
  missed : ∀ i c, s.stage i = .missed c → credential? (given i) = some c
  unbound : ∀ i client, s.stage i = .resolved client → credential? (given i) = none →
    client = origin.default
  bound : ∀ i client c, s.stage i = .resolved client → credential? (given i) = some c →
    s.cache.lookup c = some client

theorem sound_start (given : ι → Option String) (default : α) (build : Nat → String → α) :
    Sound given (.empty default build) (start (.empty default build)) := by
  constructor <;> simp [start, Cache.empty]

namespace Sound

variable {origin : Cache α}

theorem lookup_eq_none_iff (h : Sound given origin s) {c : String} :
    s.cache.lookup c = none ↔ c ∉ s.built := by
  rw [Cache.lookup, h.clients, List.lookup_eq_none_iff]
  constructor
  · intro absent among
    obtain ⟨n, inside, here⟩ := List.mem_iff_getElem.1 among
    have other := absent _ (List.mem_mapIdx.2 ⟨n, inside, rfl⟩)
    simp [here] at other
  · rintro absent ⟨d, client⟩ among
    obtain ⟨n, inside, same⟩ := List.mem_mapIdx.1 among
    obtain ⟨rfl, -⟩ := Prod.mk.inj same
    have other : c ≠ s.built[n] := fun same => absent (same ▸ List.getElem_mem inside)
    simpa using other

/-- A client that is kept was built from its credential, in the build that its place tells. -/
theorem built_of_lookup (h : Sound given origin s) {c : String} {client : α}
    (found : s.cache.lookup c = some client) :
    ∃ n, s.built[n]? = some c ∧ client = origin.build n c := by
  have among := Cache.mem_of_lookup found
  rw [h.clients] at among
  obtain ⟨n, inside, same⟩ := List.mem_mapIdx.1 among
  obtain ⟨rfl, rfl⟩ := Prod.mk.inj same
  exact ⟨n, List.getElem?_eq_getElem inside, rfl⟩

/-- What the look yields agrees with what is kept. -/
theorem look (h : Sound given origin s) (i : ι) :
    (∀ c, s.cache.look (given i) = .missed c → credential? (given i) = some c) ∧
    (∀ client, s.cache.look (given i) = .resolved client → credential? (given i) = none →
      client = origin.default) ∧
    (∀ client c, s.cache.look (given i) = .resolved client → credential? (given i) = some c →
      s.cache.lookup c = some client) := by
  cases own : credential? (given i) with
  | none => simp [Cache.look, own, h.default, eq_comm]
  | some c =>
    cases found : s.cache.lookup c with
    | none => simp [Cache.look, own, found]
    | some client => simp [Cache.look, own, found]

theorem lookup_add (h : Sound given origin s) {c : String} (absent : s.cache.lookup c = none) :
    (s.cache.add c).2.lookup c = some (origin.build s.built.length c) ∧
      ∀ d client, s.cache.lookup d = some client → (s.cache.add c).2.lookup d = some client := by
  simp only [Cache.lookup, Cache.add] at *
  constructor
  · simp [List.lookup_append, absent, h.build, h.counted]
  · intro d client found
    simp [List.lookup_append, found]

/-- A client is built where there is none for its credential, and nothing that is kept gives way. -/
theorem add (h : Sound given origin s) {c : String} (absent : s.cache.lookup c = none)
    (asked : ∃ i, credential? (given i) = some c) :
    Sound given origin { s with cache := (s.cache.add c).2, built := s.built ++ [c] } where
  default := h.default
  build := h.build
  clients := by
    rw [List.mapIdx_concat, ← h.clients, ← h.build, ← h.counted]
    rfl
  counted := by
    rw [List.length_append, ← h.counted]
    rfl
  distinct := by
    have fresh := h.lookup_eq_none_iff.1 absent
    simpa [List.nodup_append] using ⟨h.distinct, fun d among same => fresh (same ▸ among)⟩
  asked := by
    intro d among
    rcases List.mem_append.1 among with old | new
    · exact h.asked d old
    · exact List.mem_singleton.1 new ▸ asked
  missed := h.missed
  unbound := h.unbound
  bound := by
    intro i client d reached own
    exact (h.lookup_add absent).2 d client (h.bound i client d reached own)

end Sound

/-! ### Steps -/

variable [DecidableEq ι]

/-- Call `i` takes its next step. The count of clients tells whether one was built in it. -/
def step (given : ι → Option String) (s : Calls ι α) (i : ι) : Calls ι α :=
  match s.stage i with
  | .begun => { s with stage := Function.update s.stage i (s.cache.look (given i)) }
  | .missed credential =>
    let (client, cache) := s.cache.ensure credential
    { cache
      stage := Function.update s.stage i (.resolved client)
      built := if cache.built = s.cache.built then s.built else s.built ++ [credential] }
  | .resolved _ => s

def run (given : ι → Option String) (s : Calls ι α) (order : List ι) : Calls ι α :=
  order.foldl (step given) s

theorem run_append (order later : List ι) :
    run given s (order ++ later) = run given (run given s order) later :=
  List.foldl_append

/-- Everything that a step can do. -/
theorem step_cases (given : ι → Option String) (s : Calls ι α) (i : ι) :
    (s.stage i = .begun ∧
      step given s i =
        { s with stage := Function.update s.stage i (s.cache.look (given i)) }) ∨
    (∃ c client, s.stage i = .missed c ∧ s.cache.lookup c = some client ∧
      step given s i = { s with stage := Function.update s.stage i (.resolved client) }) ∨
    (∃ c, s.stage i = .missed c ∧ s.cache.lookup c = none ∧
      step given s i =
        { cache := (s.cache.add c).2
          stage := Function.update s.stage i (.resolved (s.cache.build s.cache.built c))
          built := s.built ++ [c] }) ∨
    (∃ client, s.stage i = .resolved client ∧ step given s i = s) := by
  cases reached : s.stage i with
  | begun => exact .inl ⟨rfl, by simp only [step, reached]⟩
  | missed c =>
    cases found : s.cache.lookup c with
    | some client =>
      refine .inr (.inl ⟨c, client, rfl, found, ?_⟩)
      simp only [step, reached, Cache.ensure_of_some found, if_true]
    | none =>
      have more : (s.cache.add c).2.built ≠ s.cache.built := Nat.succ_ne_self _
      refine .inr (.inr (.inl ⟨c, rfl, found, ?_⟩))
      simp only [step, reached, Cache.ensure_of_none found, if_neg more]
      rfl
  | resolved client => exact .inr (.inr (.inr ⟨client, rfl, by simp only [step, reached]⟩))

/-- For a call alone the two steps are what resolving does. -/
theorem run_alone {i : ι} (begun : s.stage i = .begun) :
    (run given s [i, i]).stage i = .resolved (s.cache.resolve (given i)).1 ∧
      (run given s [i, i]).cache = (s.cache.resolve (given i)).2 := by
  have first : step given s i =
      { s with stage := Function.update s.stage i (s.cache.look (given i)) } := by
    simp only [step, begun]
  simp only [run, List.foldl_cons, List.foldl_nil, first]
  cases own : credential? (given i) with
  | none => simp [step, Cache.look, Cache.resolve, own]
  | some c =>
    cases found : s.cache.lookup c with
    | some client => simp [step, Cache.look, Cache.resolve, own, found]
    | none => simp [step, Cache.look, Cache.resolve, own, found]

/-! ### What every step keeps -/

namespace Sound

variable {origin : Cache α}

/-- A call may come further while the cache stays as it is, if what it comes to agrees with what is
kept. -/
theorem advance (h : Sound given origin s) {i : ι} {stage : Stage α}
    (missed : ∀ c, stage = .missed c → credential? (given i) = some c)
    (unbound : ∀ client, stage = .resolved client → credential? (given i) = none →
      client = origin.default)
    (bound : ∀ client c, stage = .resolved client → credential? (given i) = some c →
      s.cache.lookup c = some client) :
    Sound given origin { s with stage := Function.update s.stage i stage } where
  default := h.default
  build := h.build
  clients := h.clients
  counted := h.counted
  distinct := h.distinct
  asked := h.asked
  missed := by
    intro j c reached
    by_cases same : j = i
    · subst same
      exact missed c (by simpa using reached)
    · exact h.missed j c (by simpa [same] using reached)
  unbound := by
    intro j client reached
    by_cases same : j = i
    · subst same
      exact unbound client (by simpa using reached)
    · exact h.unbound j client (by simpa [same] using reached)
  bound := by
    intro j client c reached
    by_cases same : j = i
    · subst same
      exact bound client c (by simpa using reached)
    · exact h.bound j client c (by simpa [same] using reached)

theorem step (h : Sound given origin s) (i : ι) : Sound given origin (step given s i) := by
  rcases step_cases given s i with
    ⟨-, next⟩ | ⟨c, client, reached, found, next⟩ | ⟨c, reached, absent, next⟩ | ⟨client, -, next⟩
  · obtain ⟨missed, unbound, bound⟩ := h.look i
    exact next ▸ h.advance missed unbound bound
  · have own := h.missed i c reached
    rw [next]
    refine h.advance (by simp) (by simp [own]) ?_
    rintro _ d ⟨⟩ same
    obtain rfl := Option.some.inj (own.symm.trans same)
    exact found
  · have own := h.missed i c reached
    rw [next, h.build, h.counted]
    refine (h.add absent ⟨i, own⟩).advance (by simp) (by simp [own]) ?_
    rintro _ d ⟨⟩ same
    obtain rfl := Option.some.inj (own.symm.trans same)
    exact (h.lookup_add absent).1
  · exact next.symm ▸ h

theorem run (h : Sound given origin s) (order : List ι) : Sound given origin (run given s order) := by
  induction order generalizing s with
  | nil => exact h
  | cons i rest ih => exact ih (h.step i)

end Sound

/-! ### What is kept stays, and calls come forward -/

theorem step_clients (given : ι → Option String) (s : Calls ι α) (i : ι) :
    s.cache.clients <+: (step given s i).cache.clients := by
  rcases step_cases given s i with ⟨-, next⟩ | ⟨_, _, -, -, next⟩ | ⟨c, -, -, next⟩ | ⟨_, -, next⟩
  · simp [next]
  · simp [next]
  · exact next ▸ List.prefix_append _ _
  · simp [next]

theorem run_clients (given : ι → Option String) (s : Calls ι α) (order : List ι) :
    s.cache.clients <+: (run given s order).cache.clients := by
  induction order generalizing s with
  | nil => exact List.prefix_rfl
  | cons i rest ih => exact (step_clients given s i).trans (ih _)

/-- Whatever is kept for a credential is kept for good. -/
theorem run_lookup {c : String} {client : α} (order : List ι)
    (found : s.cache.lookup c = some client) : (run given s order).cache.lookup c = some client := by
  obtain ⟨more, whole⟩ := run_clients given s order
  rw [Cache.lookup] at found ⊢
  rw [← whole, List.lookup_append, found]
  rfl

/-- The steps that a call has behind it. -/
def Stage.taken : Stage α → Nat
  | .begun => 0
  | .missed _ => 1
  | .resolved _ => 2

theorem taken_look (cache : Cache α) (given : Option String) :
    1 ≤ Stage.taken (cache.look given) := by
  unfold Cache.look
  split
  · simp [Stage.taken]
  · split <;> simp [Stage.taken]

theorem step_taken (given : ι → Option String) (s : Calls ι α) (i j : ι) :
    min 2 (Stage.taken (s.stage j) + if i = j then 1 else 0) ≤
      Stage.taken ((step given s i).stage j) := by
  by_cases same : i = j
  · subst same
    rcases step_cases given s i with
      ⟨reached, next⟩ | ⟨_, _, reached, -, next⟩ | ⟨_, reached, -, next⟩ | ⟨_, reached, next⟩
    · simpa [next, reached, Stage.taken] using taken_look s.cache (given i)
    · simp [next, reached, Stage.taken]
    · simp [next, reached, Stage.taken]
    · simp [next, reached, Stage.taken]
  · have other : j ≠ i := Ne.symm same
    have kept : (step given s i).stage j = s.stage j := by
      rcases step_cases given s i with
        ⟨-, next⟩ | ⟨_, _, -, -, next⟩ | ⟨_, -, -, next⟩ | ⟨_, -, next⟩ <;> simp [next, other]
    rw [kept, if_neg same]
    exact Nat.min_le_right _ _

theorem run_taken (given : ι → Option String) (s : Calls ι α) (order : List ι) (j : ι) :
    min 2 (Stage.taken (s.stage j) + order.count j) ≤
      Stage.taken ((run given s order).stage j) := by
  induction order generalizing s with
  | nil => exact Nat.min_le_right _ _
  | cons i rest ih =>
    have first := step_taken given s i j
    have later := ih (step given s i)
    change _ ≤ Stage.taken ((run given (step given s i) rest).stage j)
    rw [List.count_cons]
    simp only [beq_iff_eq]
    omega

/-- A call that has taken two steps has its client, whatever happened in between. -/
theorem run_resolves (given : ι → Option String) (s : Calls ι α) {order : List ι} {i : ι}
    (twice : 2 ≤ order.count i) : ∃ client, (run given s order).stage i = .resolved client := by
  have taken := run_taken given s order i
  cases reached : (run given s order).stage i with
  | resolved client => exact ⟨client, rfl⟩
  | begun | missed c =>
    simp only [reached, Stage.taken] at taken
    omega

/-! ### The contract of the cache -/

/-- What holds of the callers and of the cache at every moment. -/
structure Shares (given : ι → Option String) (default : β) (make : Nat → String → β)
    (s : Calls ι (Held β)) : Prop where
  /-- No credential is built from twice. -/
  builds_once : ∀ c, s.built.count c ≤ 1
  /-- Only credentials that a caller gave are built from, and blank ones never. -/
  builds_given : ∀ c ∈ s.built, Text.isBlank c = false ∧ ∃ i, given i = some c
  /-- A caller with a credential has the client that was built from just this text. -/
  own_client : ∀ i c h, given i = some c → Text.isBlank c = false → s.stage i = .resolved h →
    s.built.count c = 1 ∧ ∃ n, s.built[n]? = some c ∧ h = ⟨n + 1, make n c⟩
  same_client : ∀ i j h k, given i = given j → s.stage i = .resolved h → s.stage j = .resolved k →
    h = k
  other_client : ∀ i j c d h k, given i = some c → given j = some d → Text.isBlank c = false →
    Text.isBlank d = false → c ≠ d → s.stage i = .resolved h → s.stage j = .resolved k →
      h.number ≠ k.number
  default_client : ∀ i h, (∀ c, given i = some c → Text.isBlank c = true) →
    s.stage i = .resolved h → h = ⟨0, default⟩
  /-- The steps of a caller without a credential leave the cache alone. -/
  default_idle : ∀ i, (∀ c, given i = some c → Text.isBlank c = true) →
    (step given s i).cache = s.cache ∧ (step given s i).built = s.built
  counter : s.cache.built = s.built.length
  size : s.cache.size = s.built.dedup.length

theorem Sound.shares {default : β} {make : Nat → String → β} {s : Calls ι (Held β)}
    (h : Sound given (.numbered default make) s) : Shares given default make s where
  builds_once := List.nodup_iff_count_le_one.1 h.distinct
  builds_given := by
    intro c among
    obtain ⟨i, own⟩ := h.asked c among
    obtain ⟨gave, filled⟩ := Cache.credential?_eq_some_iff.1 own
    exact ⟨filled, i, gave⟩
  own_client := by
    intro i c client gave filled reached
    have own := Cache.credential?_eq_some_iff.2 ⟨gave, filled⟩
    obtain ⟨n, place, rfl⟩ := h.built_of_lookup (h.bound i client c reached own)
    exact ⟨List.count_eq_one_of_mem h.distinct (List.mem_of_getElem? place), n, place, rfl⟩
  same_client := by
    intro i j client other same reached reached'
    cases own : credential? (given i) with
    | none =>
      rw [h.unbound i client reached own, h.unbound j other reached' (same ▸ own)]
    | some c =>
      have found := h.bound i client c reached own
      have found' := h.bound j other c reached' (same ▸ own)
      exact Option.some.inj (found.symm.trans found')
  other_client := by
    intro i j c d client other gave gave' filled filled' different reached reached'
    have own := Cache.credential?_eq_some_iff.2 ⟨gave, filled⟩
    have own' := Cache.credential?_eq_some_iff.2 ⟨gave', filled'⟩
    obtain ⟨n, place, rfl⟩ := h.built_of_lookup (h.bound i client c reached own)
    obtain ⟨m, place', rfl⟩ := h.built_of_lookup (h.bound j other d reached' own')
    intro same
    obtain rfl : n = m := Nat.succ.inj same
    exact different (Option.some.inj (place.symm.trans place'))
  default_client := by
    intro i client blank reached
    exact h.unbound i client reached (Cache.credential?_eq_none_iff.2 blank)
  default_idle := by
    intro i blank
    have own := Cache.credential?_eq_none_iff.2 blank
    rcases step_cases given s i with
      ⟨-, next⟩ | ⟨_, _, -, -, next⟩ | ⟨c, reached, -, -⟩ | ⟨_, -, next⟩
    · simp [next]
    · simp [next]
    · simp [h.missed i c reached] at own
    · simp [next]
  counter := h.counted
  size := by
    rw [Cache.size, h.clients, List.length_mapIdx, List.Nodup.dedup h.distinct]

/-- The calls after some of them have taken steps in an order. At first there is no client but the
default one. -/
def after (given : ι → Option String) (default : β) (make : Nat → String → β) (order : List ι) :
    Calls ι (Held β) :=
  run given (start (.numbered default make)) order

/-- In whatever order any number of calls take their steps: a client is built at most once from a
credential and exactly once from one that some call has resolved, equal credentials have the very
same client, different ones different clients, and callers without a credential the default one.
What is kept stays as it is, its size counts the credentials built from, the two steps of a call
are together what resolving does, and a call that has taken both has a client. -/
theorem calls_share_clients (given : ι → Option String) (default : β) (make : Nat → String → β)
    (order : List ι) :
    Shares given default make (after given default make order) ∧
      (∀ later : List ι,
        (after given default make order).cache.clients <+:
          (after given default make (order ++ later)).cache.clients ∧
        ∀ c client, (after given default make order).cache.lookup c = some client →
          (after given default make (order ++ later)).cache.lookup c = some client) ∧
      (∀ i, (after given default make order).stage i = .begun →
        (after given default make (order ++ [i, i])).stage i =
            .resolved ((after given default make order).cache.resolve (given i)).1 ∧
          (after given default make (order ++ [i, i])).cache =
            ((after given default make order).cache.resolve (given i)).2) ∧
      ∀ i, 2 ≤ order.count i →
        ∃ client, (after given default make order).stage i = .resolved client := by
  have sound : Sound given (.numbered default make) (after given default make order) :=
    (sound_start given _ _).run order
  have goOn (later : List ι) : after given default make (order ++ later) =
      run given (after given default make order) later := run_append order later
  refine ⟨sound.shares, ?_, ?_, ?_⟩
  · intro later
    rw [goOn]
    exact ⟨run_clients given _ later, fun c client found => run_lookup later found⟩
  · intro i begun
    rw [goOn]
    exact run_alone begun
  · intro i twice
    exact run_resolves given _ twice

/-- Two calls miss before either builds: one builds, and the other finds what was built. -/
example :
    let s := after (fun _ : Fin 2 => some "key") "" (fun _ c => c) [0, 1, 1, 0]
    s.built = ["key"] ∧ s.cache.clients = [("key", ⟨1, "key"⟩)] := by
  decide

end Calls

end TelemetryGateway.Backend
