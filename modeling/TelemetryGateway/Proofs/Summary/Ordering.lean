import TelemetryGateway.Proofs.Summary.Compiling

set_option autoImplicit false

/-!
# Which order a summary asks for

An order is an expression with a direction behind it. Whether there is a direction is told from the
end of the trimmed text alone: what stands before the last space is the expression, whatever spaces
and directions it holds itself.

The end can be looked for among the bytes of the text as well, as many bytes before its end as the
direction takes. ASCII letters take one byte in either case, so the place is the same one, and where
it would fall inside a character there is no direction.
-/

namespace TelemetryGateway.Summary

variable {r rest : String} {direction : Direction}

/-- Whether a text is a shorter one, a space and a direction in any letter case. -/
def EndsIn (r rest : String) (direction : Direction) : Prop :=
  ∃ word, r = rest ++ " " ++ word ∧ Text.lowerAscii word = direction.text

/-! ### Suffixes in any letter case -/

theorem beforeSuffix?_eq_some_iff {suffix cs rest : List Char} :
    beforeSuffix? suffix cs = some rest ↔
      ∃ tail, cs = rest ++ tail ∧ tail.map Char.toLower = suffix := by
  unfold beforeSuffix?
  rw [Option.ite_none_right_eq_some]
  constructor
  · rintro ⟨⟨-, spelled⟩, found⟩
    cases found
    exact ⟨_, (List.take_append_drop _ cs).symm, spelled⟩
  · rintro ⟨tail, rfl, rfl⟩
    simp

theorem beforeSuffix?_toList_eq_some_iff {suffix s front : String} :
    beforeSuffix? suffix.toList s.toList = some front.toList ↔
      ∃ back, s = front ++ back ∧ Text.lowerAscii back = suffix := by
  rw [beforeSuffix?_eq_some_iff]
  constructor
  · rintro ⟨tail, split, spelled⟩
    refine ⟨String.ofList tail, ?_, ?_⟩
    · rw [← String.toList_inj, split, String.toList_append, String.toList_ofList]
    · rw [← String.toList_inj, Text.toList_lowerAscii, String.toList_ofList, spelled]
  · rintro ⟨back, rfl, rfl⟩
    exact ⟨back.toList, String.toList_append, (Text.toList_lowerAscii back).symm⟩

theorem endsIn_iff_exists :
    EndsIn r rest direction ↔
      ∃ back, r = rest ++ back ∧ Text.lowerAscii back = " " ++ direction.text := by
  constructor
  · rintro ⟨word, rfl, spelled⟩
    refine ⟨" " ++ word, String.append_assoc, ?_⟩
    exact Text.lowerAscii_eq_append_iff.2 ⟨" ", word, rfl, Text.lowerAscii_eq_space_iff.2 rfl, spelled⟩
  · rintro ⟨back, rfl, spelled⟩
    rcases Text.lowerAscii_eq_append_iff.1 spelled with ⟨space, word, rfl, spaced, lettered⟩
    cases Text.lowerAscii_eq_space_iff.1 spaced
    exact ⟨word, String.append_assoc.symm, lettered⟩

theorem endsIn_iff :
    EndsIn r rest direction ↔
      beforeSuffix? (" " ++ direction.text).toList r.toList = some rest.toList :=
  endsIn_iff_exists.trans beforeSuffix?_toList_eq_some_iff.symm

theorem EndsIn.ne_empty (ends : EndsIn r rest direction) : r ≠ "" := by
  intro empty
  rcases ends with ⟨word, split, -⟩
  rw [empty, ← String.toList_inj] at split
  simp at split

/-- No text ends in both directions: the shorter one would be the end of the longer one. -/
theorem not_endsIn_asc_of_desc (ends : EndsIn r rest .desc) (rest' : String) :
    ¬ EndsIn r rest' .asc := by
  have suffix {direction : Direction} {rest : String} (ends : EndsIn r rest direction) :
      (" " ++ direction.text).toList <:+ r.toList.map Char.toLower := by
    rcases beforeSuffix?_eq_some_iff.1 (endsIn_iff.1 ends) with ⟨tail, split, spelled⟩
    rw [split, List.map_append, spelled]
    exact List.suffix_append _ _
  intro other
  have within := List.suffix_of_suffix_length_le (suffix other) (suffix ends) (by decide)
  exact absurd within (by decide)

/-! ### Expressions before a direction -/

/-- A direction in any letter case holds no white space. -/
theorem trimmed_word {word : String} (spelled : Text.lowerAscii word = direction.text) :
    Text.strip word.toList = word.toList ∧ word.toList ≠ [] := by
  cases direction with
  | asc => exact Text.trimmed_of_lowerAscii (by decide) (by decide) spelled
  | desc => exact Text.trimmed_of_lowerAscii (by decide) (by decide) spelled

/-- A trimmed text is more than a direction behind white space. -/
theorem EndsIn.trim_ne_empty (ends : EndsIn r rest direction) (trimmed : Text.trim r = r) :
    Text.trim rest ≠ "" := by
  intro blank
  rcases ends with ⟨word, rfl, spelled⟩
  have before : (rest ++ " ").toList.all Text.isBlankChar = true := by
    rw [String.toList_append, List.all_append, Bool.and_eq_true]
    exact ⟨Text.trim_eq_empty_iff.1 blank, by decide⟩
  have whole : (rest ++ " " ++ word).toList = (rest ++ " ").toList ++ (word.toList ++ []) := by
    rw [String.toList_append, List.append_nil]
  rw [← String.toList_inj, Text.toList_trim, whole] at trimmed
  have empty := (Text.padding_eq_nil trimmed before rfl).1
  simp at empty

/-! ### Orders -/

variable {given : Option String} {expression : String}

theorem filled_eq_trimmed (given : Option String) (filled : Text.trim (given.getD "") ≠ "") :
    Text.filled given = some (Text.trim (given.getD "")) := by
  cases given with
  | none => exact absurd rfl filled
  | some text => exact Text.filled_eq_some_iff.2 ⟨rfl, filled⟩

theorem filled_eq_none_of_blank (blank : Text.trim (given.getD "") = "") :
    Text.filled given = none := by
  cases given with
  | none => rfl
  | some text => simpa [Text.filled] using blank

theorem parseOrder_of_endsIn (ends : EndsIn (Text.trim (given.getD "")) rest direction) :
    parseOrder given expression = ⟨Text.trim rest, direction⟩ := by
  have filled := filled_eq_trimmed given ends.ne_empty
  have found := endsIn_iff.1 ends
  cases direction with
  | asc =>
    change beforeSuffix? " asc".toList _ = _ at found
    simp only [parseOrder, filled, found]
    rfl
  | desc =>
    have missing : beforeSuffix? " asc".toList (Text.trim (given.getD "")).toList = none := by
      apply Option.eq_none_iff_forall_ne_some.2
      intro other same
      apply not_endsIn_asc_of_desc ends (String.ofList other)
      rw [endsIn_iff, String.toList_ofList]
      exact same
    change beforeSuffix? " desc".toList _ = _ at found
    simp only [parseOrder, filled, missing, found]
    rfl

theorem parseOrder_of_bare (filled : Text.filled given = some r)
    (bare : ∀ rest direction, ¬ EndsIn r rest direction) :
    parseOrder given expression = ⟨r, .desc⟩ := by
  have missing (direction : Direction) :
      beforeSuffix? (" " ++ direction.text).toList r.toList = none := by
    apply Option.eq_none_iff_forall_ne_some.2
    intro other same
    apply bare (String.ofList other) direction
    rw [endsIn_iff, String.toList_ofList]
    exact same
  have asc : beforeSuffix? " asc".toList r.toList = none := missing .asc
  have desc : beforeSuffix? " desc".toList r.toList = none := missing .desc
  simp only [parseOrder, filled, asc, desc]

/-! ### Suffixes among bytes -/

/-- The parts of a text before and after so many bytes, unless a character stands across them. -/
def cutAt? (s : String) (bytes : Nat) : Option (String × String) :=
  if boundary : (⟨bytes⟩ : String.Pos.Raw).IsValid s then
    let place : s.Pos := ⟨⟨bytes⟩, boundary⟩
    some ((s.sliceTo place).copy, (s.sliceFrom place).copy)
  else none

/-- What stands before as many bytes at the end as a suffix has, where they spell it in any ASCII
letter case. -/
def beforeBytes? (suffix s : String) : Option String :=
  if suffix.utf8ByteSize ≤ s.utf8ByteSize then
    match cutAt? s (s.utf8ByteSize - suffix.utf8ByteSize) with
    | some (front, back) => if Text.lowerAscii back = suffix then some front else none
    | none => none
  else none

/-- The order with its direction looked for among the bytes of the text. -/
def orderByBytes (given : Option String) (expression : String) : SortKey :=
  let r := Text.trim (given.getD "")
  if r = "" then ⟨expression, .desc⟩
  else
    match beforeBytes? " asc" r with
    | some rest => ⟨Text.trim rest, .asc⟩
    | none =>
      match beforeBytes? " desc" r with
      | some rest => ⟨Text.trim rest, .desc⟩
      | none => ⟨r, .desc⟩

theorem cutAt?_eq_some_iff {s front back : String} {bytes : Nat} :
    cutAt? s bytes = some (front, back) ↔ s = front ++ back ∧ front.utf8ByteSize = bytes := by
  unfold cutAt?
  constructor
  · intro cut
    split at cut
    next boundary =>
      have parts := String.Pos.splits (⟨⟨bytes⟩, boundary⟩ : s.Pos)
      cases cut
      exact ⟨parts.eq_append, (congrArg String.Pos.Raw.byteIdx parts.offset_eq_rawEndPos).symm⟩
    next => exact absurd cut (by simp)
  · rintro ⟨rfl, rfl⟩
    have boundary : (⟨front.utf8ByteSize⟩ : String.Pos.Raw).IsValid (front ++ back) := by
      rw [String.Pos.Raw.isValid_iff_exists_append]
      exact ⟨front, back, rfl, rfl⟩
    rw [dif_pos boundary]
    have parts := String.Pos.splits (⟨⟨front.utf8ByteSize⟩, boundary⟩ : (front ++ back).Pos)
    have intended : String.Pos.Splits (⟨⟨front.utf8ByteSize⟩, boundary⟩ : (front ++ back).Pos)
      front back := ⟨rfl, rfl⟩
    rcases parts.eq intended with ⟨sameFront, sameBack⟩
    exact congrArg some (Prod.ext sameFront sameBack)

theorem utf8ByteSize_lowerAscii (s : String) :
    (Text.lowerAscii s).utf8ByteSize = s.utf8ByteSize := by
  have lowered (cs : List Char) :
      (String.ofList (cs.map Char.toLower)).utf8ByteSize = (String.ofList cs).utf8ByteSize := by
    induction cs with
    | nil => rfl
    | cons c cs ih =>
      have whole (d : Char) (ds : List Char) :
          (String.ofList (d :: ds)).utf8ByteSize = d.utf8Size + (String.ofList ds).utf8ByteSize := by
        rw [← String.utf8ByteSize_singleton, ← String.utf8ByteSize_append, ← String.ofList_cons]
      rw [List.map_cons, whole, whole, Text.utf8Size_toLower, ih]
  rw [Text.lowerAscii, lowered, String.ofList_toList]

theorem beforeBytes?_eq_some_iff {suffix s front : String} :
    beforeBytes? suffix s = some front ↔
      ∃ back, s = front ++ back ∧ Text.lowerAscii back = suffix := by
  unfold beforeBytes?
  constructor
  · intro found
    split at found
    next =>
      split at found
      next front' back cut =>
        split at found
        next spelled =>
          cases found
          exact ⟨back, (cutAt?_eq_some_iff.1 cut).1, spelled⟩
        next => exact absurd found (by simp)
      next => exact absurd found (by simp)
    next => exact absurd found (by simp)
  · rintro ⟨back, rfl, rfl⟩
    have size : (front ++ back).utf8ByteSize - (Text.lowerAscii back).utf8ByteSize =
        front.utf8ByteSize := by
      rw [utf8ByteSize_lowerAscii, String.utf8ByteSize_append, Nat.add_sub_cancel]
    have enough : (Text.lowerAscii back).utf8ByteSize ≤ (front ++ back).utf8ByteSize := by
      rw [utf8ByteSize_lowerAscii, String.utf8ByteSize_append]
      exact Nat.le_add_left _ _
    have cut : cutAt? (front ++ back) front.utf8ByteSize = some (front, back) :=
      cutAt?_eq_some_iff.2 ⟨rfl, rfl⟩
    rw [if_pos enough, size, cut]
    exact if_pos rfl

/-- A direction begins where a character does. -/
theorem EndsIn.boundary (ends : EndsIn r rest direction) :
    (⟨r.utf8ByteSize - (" " ++ direction.text).utf8ByteSize⟩ : String.Pos.Raw).IsValid r := by
  rcases endsIn_iff_exists.1 ends with ⟨back, rfl, spelled⟩
  rw [← spelled, utf8ByteSize_lowerAscii, String.utf8ByteSize_append, Nat.add_sub_cancel]
  exact String.Pos.Raw.isValid_iff_exists_append.2 ⟨rest, back, rfl, rfl⟩

theorem beforeBytes?_eq (suffix s : String) :
    beforeBytes? suffix s = (beforeSuffix? suffix.toList s.toList).map String.ofList := by
  apply Option.ext
  intro front
  rw [beforeBytes?_eq_some_iff, ← beforeSuffix?_toList_eq_some_iff, Option.map_eq_some_iff]
  constructor
  · intro found
    exact ⟨front.toList, found, String.ofList_toList⟩
  · rintro ⟨rest, found, rfl⟩
    rw [String.toList_ofList]
    exact found

theorem parseOrder_eq_orderByBytes (given : Option String) (expression : String) :
    parseOrder given expression = orderByBytes given expression := by
  unfold orderByBytes
  by_cases blank : Text.trim (given.getD "") = ""
  · rw [parseOrder_of_blank (filled_eq_none_of_blank blank), if_pos blank]
  · rw [if_neg blank, parseOrder, filled_eq_trimmed given blank]
    simp only [beforeBytes?_eq, Text.trim]
    cases beforeSuffix? " asc".toList (String.ofList (Text.strip (given.getD "").toList)).toList with
    | some rest => simp
    | none =>
      cases beforeSuffix? " desc".toList (String.ofList (Text.strip (given.getD "").toList)).toList with
      | some rest => simp
      | none => simp

/-! ### The order read -/

/-- What is trimmed and what is left over where white space is written about an order. -/
theorem ends_of_written {e word gap before after : String} (trimmed : Text.trim e = e)
    (filled : e ≠ "") (spelled : Text.lowerAscii word = direction.text)
    (blankGap : Text.isBlank gap = true) (blankBefore : Text.isBlank before = true)
    (blankAfter : Text.isBlank after = true) :
    EndsIn (Text.trim (before ++ e ++ (gap ++ " ") ++ word ++ after)) (e ++ gap) direction ∧
      Text.trim (e ++ gap) = e := by
  rcases trimmed_word spelled with ⟨wordTrimmed, wordSome⟩
  have eTrimmed : Text.strip e.toList = e.toList := by
    rw [← Text.toList_trim, trimmed]
  have eSome : e.toList ≠ [] := mt String.toList_eq_nil_iff.1 filled
  constructor
  · refine ⟨word, ?_, spelled⟩
    have around := Text.strip_padded (e.toList ++ (gap ++ " ").toList ++ word.toList) blankBefore
      blankAfter
    rw [Text.strip_enclosed _ eTrimmed eSome wordTrimmed wordSome] at around
    rw [← String.toList_inj, Text.toList_trim]
    simp only [String.toList_append, List.append_assoc] at around ⊢
    exact around
  · have behind : Text.strip ([] ++ (e.toList ++ gap.toList)) = Text.strip e.toList :=
      Text.strip_padded e.toList rfl blankGap
    rw [← String.toList_inj, Text.toList_trim, String.toList_append]
    exact behind.trans eTrimmed

/-- The order is that of the summary's own values where nothing is given; otherwise a space and a
direction at the end of the trimmed text set the direction and leave an expression, and any other
text is an expression whose greatest values come first. The bytes of the text tell the same, and
what is written as an expression and a direction is read back. -/
theorem order_told_by_end_of_text (expression : String) :
    (∀ given : Option String, ∀ r, r = Text.trim (given.getD "") →
      (r = "" → parseOrder given expression = ⟨expression, .desc⟩) ∧
      (∀ rest direction, EndsIn r rest direction →
        parseOrder given expression = ⟨Text.trim rest, direction⟩ ∧ Text.trim rest ≠ "" ∧
        (⟨r.utf8ByteSize - (" " ++ direction.text).utf8ByteSize⟩ : String.Pos.Raw).IsValid r) ∧
      (r ≠ "" → (∀ rest direction, ¬ EndsIn r rest direction) →
        parseOrder given expression = ⟨r, .desc⟩) ∧
      parseOrder given expression = orderByBytes given expression) ∧
    (∀ e word gap before after : String, ∀ direction : Direction,
      Text.trim e = e → e ≠ "" → Text.lowerAscii word = direction.text →
      Text.isBlank gap = true → Text.isBlank before = true → Text.isBlank after = true →
      parseOrder (some (before ++ e ++ (gap ++ " ") ++ word ++ after)) expression = ⟨e, direction⟩) := by
  constructor
  · rintro given r rfl
    refine ⟨?_, ?_, ?_, parseOrder_eq_orderByBytes given expression⟩
    · intro blank
      exact parseOrder_of_blank (filled_eq_none_of_blank blank)
    · intro rest direction ends
      exact ⟨parseOrder_of_endsIn ends, ends.trim_ne_empty (Text.trim_trim _), ends.boundary⟩
    · intro filled bare
      exact parseOrder_of_bare (filled_eq_trimmed given filled) bare
  · intro e word gap before after direction trimmed filled spelled blankGap blankBefore blankAfter
    rcases ends_of_written trimmed filled spelled blankGap blankBefore blankAfter with ⟨ends, left⟩
    calc parseOrder (some (before ++ e ++ (gap ++ " ") ++ word ++ after)) expression
        = ⟨Text.trim (e ++ gap), direction⟩ := parseOrder_of_endsIn ends
      _ = ⟨e, direction⟩ := by rw [left]

/-- The order of an expression that holds a direction itself, behind characters of several bytes. -/
theorem repeated_direction_read :
    Text.trim "größe desc" = "größe desc" ∧ Text.lowerAscii "DeSC" = Direction.desc.text ∧
      Text.isBlank "\u2003\t" = true ∧
      parseOrder (some "\u00a0größe desc\u2003\t DeSC\u3000") "count()" = ⟨"größe desc", .desc⟩ ∧
      parseOrder (some " größe ASC") "count()" = ⟨"größe", .asc⟩ ∧
      parseOrder (some "desc") "count()" = ⟨"desc", .desc⟩ ∧
      parseOrder (some "\u2003") "count()" = ⟨"count()", .desc⟩ := by
  rcases order_told_by_end_of_text "count()" with ⟨told, written⟩
  rcases told (some " größe ASC") "größe ASC" (by decide) with ⟨-, ended, -, -⟩
  rcases told (some "desc") "desc" (by decide) with ⟨-, -, bare, -⟩
  rcases told (some "\u2003") "" (by decide) with ⟨absent, -, -, -⟩
  have alone (rest : String) (direction : Direction) : ¬ EndsIn "desc" rest direction := by
    rintro ⟨word, split, -⟩
    have space : ' ' ∈ "desc".toList := by
      rw [split]
      simp
    exact absurd space (by decide)
  refine ⟨by decide, by decide, by decide, ?_, ?_, ?_, absent rfl⟩
  · exact written "größe desc" "DeSC" "\u2003\t" "\u00a0" "\u3000" .desc (by decide) (by decide)
      (by decide) (by decide) (by decide) (by decide)
  · exact (ended "größe" .asc ⟨"ASC", by decide, by decide⟩).1
  · exact bare (by decide) alone

end TelemetryGateway.Summary
