import TelemetryGateway.Proofs.Filter.Token

set_option autoImplicit false

/-!
# Formulas of the filter language

A formula is a disjunction of conjunctions, the last of which stands apart, so that there is always
one. Writing the word AND between two formulas joins the last conjunction of the first with the
first one of the second; writing OR between them puts one list behind the other.
-/

namespace TelemetryGateway.Filter

/-- What stands between the words AND and OR: a comparison or a formula in parentheses. -/
inductive Factor where
  | comparison (tokens : List Token)
  | group (earlier : List (List Factor)) (last : List Factor)

structure Formula where
  earlier : List (List Factor)
  last : List Factor

/-- A truth value for every comparison. -/
abbrev Assignment := List Token → Bool

mutual

def Factor.holds (σ : Assignment) : Factor → Bool
  | .comparison tokens => σ tokens
  | .group earlier last => anyHold σ earlier || allHold σ last

def allHold (σ : Assignment) : List Factor → Bool
  | [] => true
  | x :: rest => x.holds σ && allHold σ rest

def anyHold (σ : Assignment) : List (List Factor) → Bool
  | [] => false
  | d :: rest => allHold σ d || anyHold σ rest

end

mutual

def Factor.comparisons : Factor → List (List Token)
  | .comparison tokens => [tokens]
  | .group earlier last => comparisonsOfEach earlier ++ comparisonsOfAll last

def comparisonsOfAll : List Factor → List (List Token)
  | [] => []
  | x :: rest => x.comparisons ++ comparisonsOfAll rest

def comparisonsOfEach : List (List Factor) → List (List Token)
  | [] => []
  | d :: rest => comparisonsOfAll d ++ comparisonsOfEach rest

end

@[simp] theorem allHold_append (σ : Assignment) (xs ys : List Factor) :
    allHold σ (xs ++ ys) = (allHold σ xs && allHold σ ys) := by
  induction xs with
  | nil => simp [allHold]
  | cons x xs ih => simp [allHold, ih, Bool.and_assoc]

@[simp] theorem anyHold_append (σ : Assignment) (xs ys : List (List Factor)) :
    anyHold σ (xs ++ ys) = (anyHold σ xs || anyHold σ ys) := by
  induction xs with
  | nil => simp [anyHold]
  | cons x xs ih => simp [anyHold, ih, Bool.or_assoc]

@[simp] theorem comparisonsOfAll_append (xs ys : List Factor) :
    comparisonsOfAll (xs ++ ys) = comparisonsOfAll xs ++ comparisonsOfAll ys := by
  induction xs with
  | nil => simp [comparisonsOfAll]
  | cons x xs ih => simp [comparisonsOfAll, ih]

@[simp] theorem comparisonsOfEach_append (xs ys : List (List Factor)) :
    comparisonsOfEach (xs ++ ys) = comparisonsOfEach xs ++ comparisonsOfEach ys := by
  induction xs with
  | nil => simp [comparisonsOfEach]
  | cons x xs ih => simp [comparisonsOfEach, ih]

mutual

/-- A factor looks at nothing but its own comparisons. -/
theorem Factor.holds_congr {σ τ : Assignment} :
    (x : Factor) → (∀ c ∈ x.comparisons, σ c = τ c) → x.holds σ = x.holds τ
  | .comparison tokens, same => same tokens (by simp [Factor.comparisons])
  | .group earlier last, same => by
    simp only [Factor.comparisons, List.mem_append] at same
    rw [Factor.holds, Factor.holds, anyHold_congr earlier fun c among => same c (.inl among),
      allHold_congr last fun c among => same c (.inr among)]

theorem allHold_congr {σ τ : Assignment} :
    (xs : List Factor) → (∀ c ∈ comparisonsOfAll xs, σ c = τ c) → allHold σ xs = allHold τ xs
  | [], _ => rfl
  | x :: rest, same => by
    simp only [comparisonsOfAll, List.mem_append] at same
    rw [allHold, allHold, x.holds_congr fun c among => same c (.inl among),
      allHold_congr rest fun c among => same c (.inr among)]

theorem anyHold_congr {σ τ : Assignment} :
    (ds : List (List Factor)) → (∀ c ∈ comparisonsOfEach ds, σ c = τ c) →
      anyHold σ ds = anyHold τ ds
  | [], _ => rfl
  | d :: rest, same => by
    simp only [comparisonsOfEach, List.mem_append] at same
    rw [anyHold, anyHold, allHold_congr d fun c among => same c (.inl among),
      anyHold_congr rest fun c among => same c (.inr among)]

end

mutual

theorem Factor.holds_true : (x : Factor) → x.holds (fun _ => true) = true
  | .comparison _ => rfl
  | .group earlier last => by rw [Factor.holds, allHold_true last, Bool.or_true]

theorem allHold_true : (xs : List Factor) → allHold (fun _ => true) xs = true
  | [] => rfl
  | x :: rest => by rw [allHold, x.holds_true, allHold_true rest, Bool.and_self]

end

namespace Formula

def holds (σ : Assignment) (F : Formula) : Bool := anyHold σ F.earlier || allHold σ F.last

def comparisons (F : Formula) : List (List Token) :=
  comparisonsOfEach F.earlier ++ comparisonsOfAll F.last

theorem holds_congr {σ τ : Assignment} {F : Formula} (same : ∀ c ∈ F.comparisons, σ c = τ c) :
    F.holds σ = F.holds τ := by
  simp only [comparisons, List.mem_append] at same
  rw [holds, holds, anyHold_congr F.earlier fun c among => same c (.inl among),
    allHold_congr F.last fun c among => same c (.inr among)]

/-- A formula holds where all of its comparisons do. -/
theorem holds_true (F : Formula) : F.holds (fun _ => true) = true := by
  rw [holds, allHold_true, Bool.or_true]

/-- The formula in which nothing has been read yet. -/
def empty : Formula := ⟨[], []⟩

def single (x : Factor) : Formula := ⟨[], [x]⟩

def grouped (F : Formula) : Formula := single (.group F.earlier F.last)

/-- What is read with the word AND in between. -/
def and (F G : Formula) : Formula :=
  match G.earlier with
  | [] => ⟨F.earlier, F.last ++ G.last⟩
  | d :: rest => ⟨F.earlier ++ (F.last ++ d) :: rest, G.last⟩

/-- What is read with the word OR in between. -/
def or (F G : Formula) : Formula := ⟨F.earlier ++ F.last :: G.earlier, G.last⟩

/-- Formulas with the same word between all of them. -/
def chain (op : Formula → Formula → Formula) : List Formula → Formula
  | [] => empty
  | [F] => F
  | F :: rest => op F (chain op rest)

@[simp] theorem and_empty (F : Formula) : F.and empty = F := by
  simp [and, empty]

@[simp] theorem empty_and (F : Formula) : empty.and F = F := by
  obtain ⟨earlier, last⟩ := F
  cases earlier <;> simp [and, empty]

theorem and_assoc (F G H : Formula) : (F.and G).and H = F.and (G.and H) := by
  obtain ⟨earlier, last⟩ := H
  obtain ⟨before, middle⟩ := G
  cases earlier <;> cases before <;> simp [and]

theorem and_or (F G H : Formula) : F.and (G.or H) = (F.and G).or H := by
  obtain ⟨before, middle⟩ := G
  cases before <;> simp [and, or]

theorem or_empty_and (F G : Formula) : (F.or empty).and G = F.or G := by
  obtain ⟨earlier, last⟩ := G
  cases earlier <;> simp [and, or, empty]

@[simp] theorem holds_single (σ : Assignment) (x : Factor) : (single x).holds σ = x.holds σ := by
  simp [holds, single, anyHold, allHold]

@[simp] theorem holds_grouped (σ : Assignment) (F : Formula) : F.grouped.holds σ = F.holds σ := by
  rw [grouped, holds_single, Factor.holds, holds]

@[simp] theorem holds_or (σ : Assignment) (F G : Formula) :
    (F.or G).holds σ = (F.holds σ || G.holds σ) := by
  simp [holds, or, anyHold, Bool.or_assoc]

/-- Without a word OR at the top of either formula, the word AND means both. -/
theorem holds_and {F G : Formula} (σ : Assignment) (left : F.earlier = []) (right : G.earlier = []) :
    (F.and G).holds σ = (F.holds σ && G.holds σ) := by
  simp [and, right, holds, left, anyHold]

theorem earlier_and {F G : Formula} :
    (F.and G).earlier = [] ↔ F.earlier = [] ∧ G.earlier = [] := by
  obtain ⟨earlier, last⟩ := G
  cases earlier <;> simp [and]

@[simp] theorem earlier_or (F G : Formula) : (F.or G).earlier ≠ [] := by simp [or]

@[simp] theorem earlier_grouped (F : Formula) : F.grouped.earlier = [] := rfl

/-- With a word OR on the left, what comes first there is enough for the whole. -/
theorem holds_and_of_left {F : Formula} (G : Formula) {σ : Assignment} (several : F.earlier ≠ [])
    (holding : ∀ c ∈ F.comparisons, σ c = true) : (F.and G).holds σ = true := by
  obtain ⟨earlier, last⟩ := F
  cases earlier with
  | nil => exact absurd rfl several
  | cons d rest =>
    have first : allHold σ d = true := by
      rw [← allHold_true d]
      apply allHold_congr d
      intro c among
      exact holding c (by simp [comparisons, comparisonsOfEach, among])
    obtain ⟨before, middle⟩ := G
    cases before <;> simp [and, holds, anyHold, first]

/-- With a word OR on the right, what comes last there is enough for the whole. -/
theorem holds_and_of_right (F : Formula) {G : Formula} {σ : Assignment} (several : G.earlier ≠ [])
    (holding : ∀ c ∈ G.comparisons, σ c = true) : (F.and G).holds σ = true := by
  have last : allHold σ G.last = true := by
    rw [← allHold_true G.last]
    apply allHold_congr G.last
    intro c among
    exact holding c (by simp [comparisons, among])
  obtain ⟨before, middle⟩ := G
  cases before with
  | nil => exact absurd rfl several
  | cons d rest => simpa [and, holds] using .inr last

@[simp] theorem comparisons_and (F G : Formula) :
    (F.and G).comparisons = F.comparisons ++ G.comparisons := by
  obtain ⟨earlier, last⟩ := G
  cases earlier <;> simp [and, comparisons, comparisonsOfEach]

@[simp] theorem comparisons_or (F G : Formula) :
    (F.or G).comparisons = F.comparisons ++ G.comparisons := by
  simp [or, comparisons, comparisonsOfEach]

@[simp] theorem comparisons_grouped (F : Formula) : F.grouped.comparisons = F.comparisons := by
  simp [grouped, single, comparisons, comparisonsOfEach, comparisonsOfAll, Factor.comparisons]

/-! ### Several formulas with the same word between them -/

@[simp] theorem chain_singleton (op : Formula → Formula → Formula) (F : Formula) :
    chain op [F] = F := rfl

theorem chain_cons_cons (op : Formula → Formula → Formula) (F G : Formula) (rest : List Formula) :
    chain op (F :: G :: rest) = op F (chain op (G :: rest)) := rfl

theorem earlier_chain_and {Fs : List Formula} :
    (chain and Fs).earlier = [] ↔ ∀ F ∈ Fs, F.earlier = [] := by
  induction Fs with
  | nil => simp [chain, empty]
  | cons F rest ih =>
    cases rest with
    | nil => simp
    | cons G rest =>
      rw [chain_cons_cons, earlier_and, ih]
      simp only [List.forall_mem_cons]

theorem holds_chain_and {Fs : List Formula} (flat : ∀ F ∈ Fs, F.earlier = []) (σ : Assignment) :
    (chain and Fs).holds σ = Fs.all fun F => F.holds σ := by
  induction Fs with
  | nil => rfl
  | cons F rest ih =>
    obtain ⟨first, others⟩ := List.forall_mem_cons.1 flat
    cases rest with
    | nil => simp
    | cons G rest =>
      rw [chain_cons_cons, holds_and σ first (earlier_chain_and.2 others), ih others]
      rfl

theorem holds_chain_or {Fs : List Formula} (filled : Fs ≠ []) (σ : Assignment) :
    (chain or Fs).holds σ = Fs.any fun F => F.holds σ := by
  induction Fs with
  | nil => exact absurd rfl filled
  | cons F rest ih =>
    cases rest with
    | nil => simp
    | cons G rest =>
      rw [chain_cons_cons, holds_or, ih (by simp)]
      rfl

theorem comparisons_chain {op : Formula → Formula → Formula}
    (both : ∀ F G, (op F G).comparisons = F.comparisons ++ G.comparisons) (Fs : List Formula) :
    (chain op Fs).comparisons = Fs.flatMap comparisons := by
  induction Fs with
  | nil => rfl
  | cons F rest ih =>
    cases rest with
    | nil => simp
    | cons G rest =>
      rw [chain_cons_cons, both, ih]
      rfl

end Formula

end TelemetryGateway.Filter
