import TelemetryGateway.Json.Reader
import TelemetryGateway.Proofs.Json.Order

set_option autoImplicit false

/-!
# What texts are read as

Every value that a text is read as holds its members in key order. While a text is read, this is so
of the finished values and of the containers still open.
-/

namespace TelemetryGateway.Json

/-- Whether what a container holds so far is canonical. -/
def Frame.Canonical : Frame → Prop
  | .items done => ∀ v ∈ done, v.Canonical
  | .members done | .member done _ => (Json.obj done).Canonical

namespace Reading

/-- Whether the containers that are open hold canonical values, and so is the result. -/
structure Canonical (r : Reading) : Prop where
  frames : ∀ f ∈ r.frames, f.Canonical
  result : ∀ v, r.awaited = .nothing v → v.Canonical

theorem canonical_start : start.Canonical where
  frames := List.forall_mem_nil _
  result := by simp [start]

variable {v : Json} {frames : List Frame} {limit : Nat} {r next : Reading} {token : Token} {c : Char}

theorem canonical_insert {members : Members} (h : (Json.obj members).Canonical) (key : String)
    (value : v.Canonical) : (Json.obj (members.insert key v)).Canonical := by
  obtain ⟨ordered, values⟩ := canonical_obj.1 h
  refine canonical_obj.2 ⟨ordered.insert key v, fun m among => ?_⟩
  rcases Members.mem_insert among with rfl | old
  · exact value
  · exact values m old

theorem canonical_deliver (value : v.Canonical) (opened : ∀ f ∈ frames, f.Canonical)
    (delivered : deliver v frames = some next) : next.Canonical := by
  cases frames with
  | nil =>
    obtain rfl := Option.some.inj delivered
    exact ⟨List.forall_mem_nil _, by simpa using value⟩
  | cons f frames =>
    obtain ⟨first, others⟩ := List.forall_mem_cons.1 opened
    cases f with
    | items done =>
      obtain rfl := Option.some.inj delivered
      have more : (Frame.items (v :: done)).Canonical := List.forall_mem_cons.2 ⟨value, first⟩
      exact ⟨List.forall_mem_cons.2 ⟨more, others⟩, by simp⟩
    | member done key =>
      obtain rfl := Option.some.inj delivered
      have more : (Frame.members (done.insert key v)).Canonical := canonical_insert first key value
      exact ⟨List.forall_mem_cons.2 ⟨more, others⟩, by simp⟩
    | members done => exact absurd delivered (by simp [deliver])

theorem canonical_scalar {cs : List Char} (read : scalar? cs = some v) : v.Canonical := by
  unfold scalar? at read
  split at read
  · exact Option.some.inj read ▸ canonical_null
  · split at read
    · exact Option.some.inj read ▸ canonical_bool true
    · split at read
      · exact Option.some.inj read ▸ canonical_bool false
      · obtain ⟨n, -, rfl⟩ := Option.map_eq_some_iff.1 read
        rfl

theorem canonical_value (opened : ∀ f ∈ frames, f.Canonical)
    (read : value limit frames token = some next) : next.Canonical := by
  cases token with
  | text s => exact canonical_deliver (canonical_str s) opened read
  | word cs =>
    obtain ⟨v, scalar, delivered⟩ := Option.bind_eq_some_iff.1 read
    exact canonical_deliver (canonical_scalar scalar) opened delivered
  | mark c =>
    simp only [value] at read
    split at read
    · exact absurd read (by simp)
    · split at read
      · obtain rfl := Option.some.inj read
        have fresh : (Frame.items []).Canonical := List.forall_mem_nil _
        exact ⟨List.forall_mem_cons.2 ⟨fresh, opened⟩, by simp⟩
      · split at read
        · obtain rfl := Option.some.inj read
          have fresh : (Frame.members []).Canonical := rfl
          exact ⟨List.forall_mem_cons.2 ⟨fresh, opened⟩, by simp⟩
        · exact absurd read (by simp)

theorem canonical_close (opened : ∀ f ∈ frames, f.Canonical)
    (closed : close c frames = some next) : next.Canonical := by
  cases frames with
  | nil => exact absurd closed (by simp [close])
  | cons f frames =>
    obtain ⟨first, others⟩ := List.forall_mem_cons.1 opened
    cases f with
    | items done =>
      obtain ⟨-, delivered⟩ := Option.ite_none_right_eq_some.1 closed
      refine canonical_deliver (canonical_arr.2 ?_) others delivered
      exact fun v among => first v (List.mem_reverse.1 among)
    | members done =>
      obtain ⟨-, delivered⟩ := Option.ite_none_right_eq_some.1 closed
      exact canonical_deliver first others delivered
    | member done key => exact absurd closed (by simp [close])

theorem canonical_separator (opened : ∀ f ∈ frames, f.Canonical)
    (read : separator c frames = some next) : next.Canonical := by
  unfold separator at read
  split at read
  · split at read
    · obtain rfl := Option.some.inj read
      exact ⟨opened, by simp⟩
    · obtain rfl := Option.some.inj read
      exact ⟨opened, by simp⟩
    · exact absurd read (by simp)
  · exact canonical_close opened read

theorem Canonical.step (h : r.Canonical) (read : step limit r token = some next) :
    next.Canonical := by
  unfold Reading.step at read
  split at read
  · exact canonical_value h.frames read
  · exact canonical_close h.frames read
  · exact canonical_value h.frames read
  · exact canonical_close h.frames read
  · obtain rfl := Option.some.inj read
    exact ⟨h.frames, by simp⟩
  · obtain rfl := Option.some.inj read
    exact ⟨h.frames, by simp⟩
  · split at read
    · rename_i done frames held
      obtain rfl := Option.some.inj read
      obtain ⟨first, others⟩ := List.forall_mem_cons.1 (held ▸ h.frames)
      have same (key : String) : (Frame.member done key).Canonical := first
      exact ⟨List.forall_mem_cons.2 ⟨same _, others⟩, by simp⟩
    · exact absurd read (by simp)
  · exact canonical_separator h.frames read
  · exact absurd read (by simp)

theorem Canonical.run (h : r.Canonical) {tokens : List Token}
    (read : tokens.foldlM (Reading.step limit) r = some next) : next.Canonical := by
  induction tokens generalizing r with
  | nil =>
    obtain rfl := Option.some.inj read
    exact h
  | cons token rest ih =>
    rw [List.foldlM_cons] at read
    obtain ⟨between, here, later⟩ := Option.bind_eq_some_iff.1 read
    exact ih (h.step here) later

end Reading

theorem canonical_of_parse? {s : String} {v : Json} (read : parse? s = some v) : v.Canonical := by
  obtain ⟨tokens, -, rest⟩ := Option.bind_eq_some_iff.1 read
  obtain ⟨r, run, result⟩ := Option.bind_eq_some_iff.1 rest
  have canonical := Reading.canonical_start.run run
  split at result
  · rename_i w reached
    exact Option.some.inj result ▸ canonical.result w reached
  · exact absurd result (by simp)

end TelemetryGateway.Json
