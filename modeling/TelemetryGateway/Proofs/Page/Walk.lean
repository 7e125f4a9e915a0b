import TelemetryGateway.Page

set_option autoImplicit false

/-!
# Walking through a list page by page

A caller asks for a page, then for the page at the offset that it names, and so on until a page
names none. The page's position depends on the offset only through where it starts within the list,
so the walk is followed by how many items remain from there on.
-/

namespace TelemetryGateway.Page

variable {α : Type} {items : List α} {offset limit : Int}

/-- Where the page at an offset starts: not before the list and not behind it. -/
def startOf (items : List α) (offset : Int) : Nat := min offset.toNat items.length

theorem startOf_le (items : List α) (offset : Int) : startOf items offset ≤ items.length :=
  Nat.min_le_right _ _

/-- An offset within the list is where its page starts. -/
theorem startOf_natCast {n : Nat} (inside : n ≤ items.length) : startOf items (n : Int) = n := by
  simp only [startOf, Int.toNat_natCast]
  exact Nat.min_eq_left inside

theorem drop_toNat (items : List α) (offset : Int) :
    items.drop offset.toNat = items.drop (startOf items offset) := by
  rcases Nat.le_total offset.toNat items.length with inside | behind
  · rw [startOf, Nat.min_eq_left inside]
  · rw [startOf, Nat.min_eq_right behind, List.drop_length, List.drop_eq_nil_iff.2 behind]

/-! ### One page -/

@[simp] theorem paginate_total : (paginate items offset limit).total = items.length := rfl

@[simp] theorem paginate_offset : (paginate items offset limit).offset = startOf items offset := rfl

theorem paginate_data :
    (paginate items offset limit).data = (items.drop (startOf items offset)).take limit.toNat := by
  change slice items offset limit = _
  rw [slice, drop_toNat]

/-- While a list is no longer than a word counts, no sum within it is cut off. -/
theorem addClamped_start (counted : items.length ≤ Text.maxUInt64) (offset limit : Int) :
    addClamped (startOf items offset) (paginate items offset limit).data.length =
      min (startOf items offset + limit.toNat) items.length := by
  have inside := startOf_le items offset
  rw [addClamped, paginate_data, List.length_take, List.length_drop]
  omega

theorem paginate_hasMore (counted : items.length ≤ Text.maxUInt64) (offset limit : Int) :
    (paginate items offset limit).hasMore =
      decide (startOf items offset + limit.toNat < items.length) := by
  have sum := addClamped_start counted offset limit
  change decide (addClamped (startOf items offset) (paginate items offset limit).data.length <
    items.length) = _
  rw [sum, decide_eq_decide]
  omega

/-- The next offset counts the limit and not the items of the page. Both are the same where there
is a next page, for then the page is full. -/
theorem paginate_next (counted : items.length ≤ Text.maxUInt64) (offset limit : Int) :
    (paginate items offset limit).next =
      if startOf items offset + limit.toNat < items.length then
        some (startOf items offset + limit.toNat)
      else none := by
  have more := paginate_hasMore counted offset limit
  change (if (paginate items offset limit).hasMore then
    some (addClamped (startOf items offset) limit.toNat) else none) = _
  rw [more]
  by_cases inside : startOf items offset + limit.toNat < items.length
  · have whole : addClamped (startOf items offset) limit.toNat =
        startOf items offset + limit.toNat := by
      rw [addClamped]
      omega
    simp [inside, whole]
  · simp [inside]

/-- What a page says about its place in the list. -/
structure Placed (items : List α) (p : Page α) : Prop where
  total : p.total = items.length
  offset : p.offset ≤ p.total
  hasMore : p.hasMore = true ↔ items.drop (p.offset + p.data.length) ≠ []
  next : p.next.isSome = p.hasMore
  forward : ∀ n ∈ p.next, p.offset < n ∧ n < p.total

theorem placed_paginate (positive : 1 ≤ limit) (counted : items.length ≤ Text.maxUInt64)
    (offset : Int) :
    (paginate items offset limit).Placed items where
  total := rfl
  offset := startOf_le items offset
  hasMore := by
    have inside := startOf_le items offset
    rw [paginate_hasMore counted, paginate_offset, paginate_data, List.length_take,
      List.length_drop, decide_eq_true_iff, ne_eq, List.drop_eq_nil_iff]
    omega
  next := by
    rw [paginate_next counted, paginate_hasMore counted]
    split <;> simp [*]
  forward := by
    intro n among
    rw [paginate_next counted] at among
    split at among
    · rename_i inside
      obtain rfl := Option.some.inj among
      rw [paginate_offset, paginate_total]
      omega
    · exact absurd among (by simp)

/-! ### The whole walk -/

/-- The pages that are met when each next offset is followed, up to a page without one. -/
inductive Walk (items : List α) (limit : Int) : Int → List (Page α) → Prop
  | last {offset : Int} : (paginate items offset limit).next = none →
      Walk items limit offset [paginate items offset limit]
  | more {offset : Int} {n : Nat} {pages : List (Page α)} :
      (paginate items offset limit).next = some n → Walk items limit n pages →
        Walk items limit offset (paginate items offset limit :: pages)

/-- There is at most one way to walk. -/
theorem Walk.unique {pages others : List (Page α)} (walk : Walk items limit offset pages)
    (other : Walk items limit offset others) : others = pages := by
  induction walk generalizing others with
  | last done =>
    cases other with
    | last _ => rfl
    | more next _ => simp [done] at next
  | more next _ ih =>
    cases other with
    | last done => simp [next] at done
    | more same rest =>
      obtain rfl := Option.some.inj (next.symm.trans same)
      rw [ih rest]

/-- Every page of a walk is a page of the list. -/
theorem Walk.paginated {pages : List (Page α)} (walk : Walk items limit offset pages) :
    ∀ p ∈ pages, ∃ place : Int, p = paginate items place limit := by
  induction walk with
  | @last offset _ =>
    rw [List.forall_mem_singleton]
    exact ⟨offset, rfl⟩
  | @more offset _ _ _ _ ih =>
    rw [List.forall_mem_cons]
    exact ⟨⟨offset, rfl⟩, ih⟩

/-- Full pages and a rest: a list of more items than one page holds needs one page more than what
is left of it behind the first. -/
theorem pages_needed (remaining size : Nat) (positive : 1 ≤ size) (more : size < remaining) :
    max 1 ((remaining + size - 1) / size) = max 1 ((remaining - size + size - 1) / size) + 1 := by
  have split : remaining + size - 1 = (remaining - size + size - 1) + size := by omega
  have rest : 1 ≤ (remaining - size + size - 1) / size :=
    (Nat.le_div_iff_mul_le positive).2 (by omega)
  rw [split, Nat.add_div_right _ positive]
  omega

/-- The induction is on the items that remain: each page but the last takes as many of them as the
limit says. -/
theorem exists_walk (positive : 1 ≤ limit) (counted : items.length ≤ Text.maxUInt64)
    (offset : Int) :
    ∃ pages, Walk items limit offset pages ∧
      pages.length =
        max 1 ((items.length - startOf items offset + limit.toNat - 1) / limit.toNat) ∧
      pages.flatMap Page.data = items.drop (startOf items offset) := by
  induction remaining : items.length - startOf items offset using Nat.strongRecOn
    generalizing offset with
  | _ remaining ih =>
    subst remaining
    have inside := startOf_le items offset
    have next := paginate_next counted offset limit
    by_cases more : startOf items offset + limit.toNat < items.length
    · have here : startOf items ((startOf items offset + limit.toNat : Nat) : Int) =
          startOf items offset + limit.toNat := startOf_natCast (Nat.le_of_lt more)
      obtain ⟨pages, walk, count, data⟩ := ih _ (by rw [here]; omega) _ rfl
      refine ⟨paginate items offset limit :: pages, .more (next.trans (if_pos more)) walk, ?_, ?_⟩
      · have needed := pages_needed (items.length - startOf items offset) limit.toNat (by omega)
          (by omega)
        rw [List.length_cons, count, here, needed, Nat.sub_add_eq]
      · rw [List.flatMap_cons, data, here, paginate_data, ← List.drop_drop, List.take_append_drop]
    · refine ⟨[paginate items offset limit], .last (next.trans (if_neg more)), ?_, ?_⟩
      · have few : (items.length - startOf items offset + limit.toNat - 1) / limit.toNat ≤ 1 :=
          Nat.lt_succ_iff.1 ((Nat.div_lt_iff_lt_mul (by omega)).2 (by omega))
        rw [List.length_singleton, Nat.max_eq_left few]
      · rw [List.flatMap_singleton, paginate_data, List.take_of_length_le]
        rw [List.length_drop]
        omega

/-- Following the next offsets from any offset ends, after as many pages as the remaining items
need and at least one. The pages hold these items in order, each once, and every page says rightly
whether items are left behind it and where the next page starts. -/
theorem walk_visits_each_once (items : List α) (offset limit : Int) (positive : 1 ≤ limit)
    (counted : items.length ≤ Text.maxUInt64) :
    ∃ pages, Walk items limit offset pages ∧
      (∀ others, Walk items limit offset others → others = pages) ∧
      pages.length = max 1
        ((items.length - min offset.toNat items.length + limit.toNat - 1) / limit.toNat) ∧
      pages.flatMap Page.data = items.drop (min offset.toNat items.length) ∧
      ∀ p ∈ pages, p.total = items.length ∧ p.offset ≤ p.total ∧
        (p.hasMore = true ↔ items.drop (p.offset + p.data.length) ≠ []) ∧
        (p.next.isSome = true ↔ p.hasMore = true) ∧
        ∀ n ∈ p.next, p.offset < n ∧ n < p.total := by
  obtain ⟨pages, walk, count, data⟩ := exists_walk positive counted offset
  refine ⟨pages, walk, fun others other => walk.unique other, count, data, ?_⟩
  intro p among
  obtain ⟨place, rfl⟩ := walk.paginated p among
  have placed := placed_paginate positive counted place
  exact ⟨placed.total, placed.offset, placed.hasMore, by rw [placed.next], placed.forward⟩

/-- Seven items in threes from before the list: three pages, the last one short. -/
theorem walk_seven_in_threes :
    1 ≤ (3 : Int) ∧ [0, 1, 2, 3, 4, 5, 6].length ≤ Text.maxUInt64 ∧
      ∃ pages, Walk [0, 1, 2, 3, 4, 5, 6] 3 (-2) pages ∧ pages.length = 3 ∧
        pages.flatMap Page.data = [0, 1, 2, 3, 4, 5, 6] := by
  obtain ⟨pages, walk, -, count, data, -⟩ :=
    walk_visits_each_once [0, 1, 2, 3, 4, 5, 6] (-2) 3 (by decide) (by decide)
  exact ⟨by decide, by decide, pages, walk, count, data⟩

end TelemetryGateway.Page
