set_option autoImplicit false

/-!
# Steps that may be refused

When a chain of steps succeeds, each step has succeeded. These rules take such a chain apart.
-/

namespace TelemetryGateway

universe u v w

variable {ε : Type u} {α β : Type v}

theorem bind_eq_ok {x : Except ε α} {f : α → Except ε β} {b : β} :
    (x >>= f) = .ok b ↔ ∃ a, x = .ok a ∧ f a = .ok b := by
  cases x with
  | error e => simp [bind, Except.bind]
  | ok a => simp [bind, Except.bind]

theorem bind_eq_error {x : Except ε α} {f : α → Except ε β} {e : ε} :
    (x >>= f) = .error e ↔ x = .error e ∨ ∃ a, x = .ok a ∧ f a = .error e := by
  cases x with
  | error e' => simp [bind, Except.bind]
  | ok a => simp [bind, Except.bind]

theorem map_eq_ok {x : Except ε α} {f : α → β} {b : β} :
    x.map f = .ok b ↔ ∃ a, x = .ok a ∧ f a = b := by
  cases x with
  | error e => simp [Except.map]
  | ok a => simp [Except.map]

@[simp] theorem mapError_error {ε' : Type w} (e : ε) (f : ε → ε') :
    (.error e : Except ε α).mapError f = .error (f e) := rfl

@[simp] theorem mapError_ok {ε' : Type w} (a : α) (f : ε → ε') :
    (.ok a : Except ε α).mapError f = .ok a := rfl

theorem mapError_eq_ok {ε' : Type w} {x : Except ε α} {f : ε → ε'} {a : α} :
    x.mapError f = .ok a ↔ x = .ok a := by
  cases x with
  | error e => simp
  | ok a => simp

theorem pure_eq_ok {a b : α} : (pure a : Except ε α) = .ok b ↔ a = b := by
  simp [pure, Except.pure]

/-- A value that is checked. -/
theorem ite_eq_ok {p : Prop} [Decidable p] {a b : α} {e : ε} :
    (if p then .ok a else .error e : Except ε α) = .ok b ↔ p ∧ a = b := by
  by_cases h : p
  · simp [h]
  · simp [h]

/-- What is refused at once yields nothing. -/
theorem throw_ne_ok {e : ε} {a : α} : (throw e : Except ε α) ≠ .ok a := by
  intro refused
  cases refused

@[simp] theorem ok_bind {a : α} {f : α → Except ε β} : ((.ok a : Except ε α) >>= f) = f a := rfl

/-! ### What steps yield -/

/-- Whether whatever a chain of steps yields is of a kind. -/
def Yields (P : α → Prop) (x : Except ε α) : Prop := ∀ a, x = .ok a → P a

theorem yields_pure {P : α → Prop} {a : α} (h : P a) : Yields P (pure a : Except ε α) := by
  rintro _ ⟨⟩
  exact h

theorem yields_error {P : α → Prop} {e : ε} : Yields P (.error e : Except ε α) := nofun

theorem Yields.bind {P : β → Prop} {x : Except ε α} {next : α → Except ε β}
    (each : ∀ a, Yields P (next a)) : Yields P (x >>= next) := by
  intro b done
  obtain ⟨a, -, rest⟩ := bind_eq_ok.1 done
  exact each a b rest

/-! ### What steps are refused for -/

/-- What a chain of steps is refused for, if it is. -/
def refusal? : Except ε α → Option ε
  | .error e => some e
  | .ok _ => none

theorem refusal?_eq_some_iff {x : Except ε α} {e : ε} : refusal? x = some e ↔ x = .error e := by
  cases x with
  | error e' => simp [refusal?]
  | ok a => simp [refusal?]

theorem refusal?_mapError {ε' : Type u} (x : Except ε α) (f : ε → ε') :
    refusal? (x.mapError f) = (refusal? x).map f := by
  cases x with
  | error e => rfl
  | ok a => rfl

/-- Where it is known what each step alone is refused for, a chain is refused for the first of it. -/
theorem refusal?_bind {x : Except ε α} {next : α → Except ε β} {fault : Option ε}
    {later : List (Option ε)} (first : refusal? x = fault)
    (others : ∀ a, x = .ok a → refusal? (next a) = later.findSome? id) :
    refusal? (x >>= next) = (fault :: later).findSome? id := by
  subst first
  cases x with
  | error e => rfl
  | ok a => exact others a rfl

end TelemetryGateway
