import TelemetryGateway.Proofs.Page.Walk

set_option autoImplicit false

/-!
# Cutting out a page and placing it

A page is cut out and placed in one step, or cut out first and placed afterwards, by the length of the
whole list. The second way keeps an offset behind the list as it was asked for, where the first one
moves it back to the end. All else that a page says is the same, for behind the list there is nothing
more either way. The places between which the items are cut out lie within the list and in order,
whatever is asked for.
-/

namespace TelemetryGateway.Page

variable {α : Type} {items : List α} {offset limit : Int}

/-! ### Places in the list -/

/-- The items from one place up to another. Nothing can be cut out where the second one is in front of
the first or behind the list. -/
def cut? (items : List α) (first stop : Nat) : Option (List α) :=
  if first ≤ stop ∧ stop ≤ items.length then some (items.extract first stop) else none

/-- Where the page at an offset stops: as many items behind its start as the limit says, as far as a
word counts, and not behind the list. -/
def stopOf (items : List α) (offset limit : Int) : Nat :=
  min (addClamped (startOf items offset) limit.toNat) items.length

theorem stopOf_le (items : List α) (offset limit : Int) : stopOf items offset limit ≤ items.length :=
  Nat.min_le_right _ _

/-- While a list is no longer than a word counts, a sum that is cut off is behind the list. -/
theorem stopOf_eq (counted : items.length ≤ Text.maxUInt64) (offset limit : Int) :
    stopOf items offset limit = min (startOf items offset + limit.toNat) items.length := by
  rw [stopOf, addClamped]
  omega

theorem startOf_le_stopOf (counted : items.length ≤ Text.maxUInt64) (offset limit : Int) :
    startOf items offset ≤ stopOf items offset limit := by
  have inside := startOf_le items offset
  rw [stopOf_eq counted]
  omega

theorem cut?_eq_slice (counted : items.length ≤ Text.maxUInt64) (offset limit : Int) :
    cut? items (startOf items offset) (stopOf items offset limit) =
      some (slice items offset limit) := by
  have ordered := startOf_le_stopOf counted offset limit
  have size : stopOf items offset limit - startOf items offset =
      min limit.toNat (items.drop (startOf items offset)).length := by
    have inside := startOf_le items offset
    rw [stopOf_eq counted, List.length_drop]
    omega
  rw [cut?, if_pos ⟨ordered, stopOf_le items offset limit⟩, List.extract_eq_take_drop, size,
    ← List.take_eq_take_min, slice, drop_toNat]

/-- Taking items behind a place is looking up one position after the other. -/
theorem take_drop_eq_filterMap (items : List α) (first count : Nat) :
    (items.drop first).take count = (List.range' first count).filterMap fun i => items[i]? := by
  induction count generalizing first with
  | zero => simp
  | succ count ih =>
    rw [List.range'_succ, List.filterMap_cons, ← ih]
    cases held : items[first]? with
    | none =>
      have behind : items.length ≤ first := List.getElem?_eq_none_iff.1 held
      rw [List.drop_eq_nil_of_le behind, List.drop_eq_nil_of_le (by omega)]
      simp
    | some item =>
      obtain ⟨inside, rfl⟩ := List.getElem?_eq_some_iff.1 held
      rw [List.drop_eq_getElem_cons inside, List.take_succ_cons]

/-- A page holds what there is at the positions asked for, in order. -/
theorem slice_eq_filterMap (items : List α) (offset limit : Int) :
    slice items offset limit =
      (List.range' offset.toNat limit.toNat).filterMap fun i => items[i]? :=
  take_drop_eq_filterMap items offset.toNat limit.toNat

/-! ### One step and two -/

/-- An offset behind the list leaves no more items than the end of the list does. -/
theorem more_behind_iff (items : List α) (offset limit : Int) :
    addClamped (startOf items offset) (slice items offset limit).length < items.length ↔
      addClamped offset.toNat (slice items offset limit).length < items.length := by
  rw [length_slice, addClamped, addClamped, startOf]
  omega

/-- Where items are left, the offset is within the list, or sums from it are cut off as those from
the end of the list are. -/
theorem next_behind_eq
    (more : addClamped offset.toNat (slice items offset limit).length < items.length) :
    addClamped (startOf items offset) limit.toNat = addClamped offset.toNat limit.toNat := by
  rw [length_slice, addClamped] at more
  rw [addClamped, addClamped, startOf]
  omega

theorem paginate_eq_wrap (items : List α) (offset limit : Int) :
    paginate items offset limit =
      { wrap (slice items offset limit) items.length offset limit with
        offset := startOf items offset } := by
  have more := more_behind_iff items offset limit
  change of (slice items offset limit) items.length (startOf items offset) limit.toNat = _
  simp only [of, wrap, more, Page.mk.injEq, true_and]
  split
  · next left => rw [next_behind_eq (of_decide_eq_true left)]
  · rfl

/-- Both ways give the same page exactly if the offset is not behind the list. -/
theorem paginate_eq_wrap_iff (items : List α) (offset limit : Int) :
    paginate items offset limit = wrap (slice items offset limit) items.length offset limit ↔
      offset ≤ items.length := by
  constructor
  · intro same
    have placed : startOf items offset = offset.toNat := congrArg Page.offset same
    rw [startOf] at placed
    omega
  · intro inside
    have placed : startOf items offset = offset.toNat := Nat.min_eq_left (by omega)
    rw [paginate_eq_wrap, placed]
    rfl

/-- A page that is cut out and placed in one step is the same as one that is cut out first and placed
afterwards, but for its offset, which is not behind the list; so the two are equal exactly if the
offset asked for is not. The items stand between two places of the list, in order, and are those at
the positions asked for, as far as these exist. Negative offsets and limits count as zero. -/
theorem one_step_agrees_with_two (items : List α) (offset limit : Int)
    (counted : items.length ≤ Text.maxUInt64) :
    let once := paginate items offset limit
    let twice := wrap (slice items offset limit) items.length offset limit
    once = { twice with offset := min twice.offset items.length } ∧
      twice.offset = (max offset 0).toNat ∧
      (once = twice ↔ offset ≤ items.length) ∧
      cut? items (startOf items offset) (stopOf items offset limit) =
        some (slice items offset limit) ∧
      slice items offset limit =
        (List.range' (max offset 0).toNat (max limit 0).toNat).filterMap fun i => items[i]? := by
  have first : (max offset 0).toNat = offset.toNat := by omega
  have count : (max limit 0).toNat = limit.toNat := by omega
  rw [first, count]
  exact ⟨paginate_eq_wrap items offset limit, rfl, paginate_eq_wrap_iff items offset limit,
    cut?_eq_slice counted offset limit, slice_eq_filterMap items offset limit⟩

/-- Behind five items, with the greatest limit there is: nothing is left, and the offset tells which
way was taken. -/
theorem behind_five_agrees :
    [0, 1, 2, 3, 4].length ≤ Text.maxUInt64 ∧
      paginate [0, 1, 2, 3, 4] 99 Text.maxInt64 =
        { wrap (slice [0, 1, 2, 3, 4] 99 Text.maxInt64) 5 99 Text.maxInt64 with offset := 5 } ∧
      paginate [0, 1, 2, 3, 4] 99 Text.maxInt64 ≠
        wrap (slice [0, 1, 2, 3, 4] 99 Text.maxInt64) 5 99 Text.maxInt64 ∧
      cut? [0, 1, 2, 3, 4] 5 5 = some (slice [0, 1, 2, 3, 4] 99 Text.maxInt64) := by
  obtain ⟨same, -, equal, cut, -⟩ :=
    one_step_agrees_with_two [0, 1, 2, 3, 4] 99 Text.maxInt64 (by decide)
  exact ⟨by decide, same, mt equal.1 (by decide), cut⟩

end TelemetryGateway.Page
