import TelemetryGateway.Proofs.Text.Spelling
import TelemetryGateway.Summary

set_option autoImplicit false

/-!
# Which names a list holds

Names to group by stand in one text, parted by commas. What stands between two commas is a name with
white space about it, or white space alone, which stands for nothing. Every text is such a list, and
the names that it holds are those that are read from it.
-/

namespace TelemetryGateway.Summary

/-- Whether a text can stand in a list as one name. -/
abbrev IsName (name : String) : Prop := Text.IsWord ',' name

/-- What a text between two commas stands for: a name with white space about it, or nothing. -/
inductive Holds : String → Option String → Prop where
  | nothing {text : String} : Text.isBlank text = true → Holds text none
  | name {before name after : String} : Text.isBlank before = true → IsName name →
      Text.isBlank after = true → Holds (before ++ name ++ after) (some name)

/-- Whether a text is a list of names: the texts between its commas hold them one by one. -/
def Lists (given : String) (names : List String) : Prop :=
  ∃ entries : List (String × Option String), (∀ e ∈ entries, Holds e.1 e.2) ∧
    given = String.intercalate "," (entries.map Prod.fst) ∧ names = entries.filterMap Prod.snd

/-! ### Texts between commas -/

theorem split_eq_splitOn (separator : Char) (cs : List Char) :
    split separator cs = cs.splitOn separator := by
  induction cs with
  | nil => rfl
  | cons c rest ih =>
    rw [split, ih, List.splitOn_cons_eq_if_modifyHead]
    by_cases same : c = separator
    · rw [if_pos same, if_pos (beq_iff_eq.2 same)]
    · rw [if_neg same, if_neg (mt beq_iff_eq.1 same)]
      cases pieces : rest.splitOn separator with
      | nil => exact absurd pieces (List.splitOn_ne_nil separator rest)
      | cons piece others => rfl

theorem notMem_of_mem_split {separator : Char} {cs piece : List Char}
    (among : piece ∈ split separator cs) : separator ∉ piece := by
  induction cs generalizing piece with
  | nil =>
    rw [split, List.mem_singleton] at among
    rw [among]
    exact List.not_mem_nil
  | cons c rest ih =>
    rw [split] at among
    split at among
    · rcases List.mem_cons.1 among with rfl | later
      · exact List.not_mem_nil
      · exact ih later
    · next other =>
      split at among
      · rw [List.mem_singleton.1 among, List.mem_singleton]
        exact Ne.symm other
      · next first others pieces =>
        rw [pieces] at ih
        rcases List.mem_cons.1 among with rfl | later
        · rw [List.mem_cons, not_or]
          exact ⟨Ne.symm other, ih List.mem_cons_self⟩
        · exact ih (List.mem_cons_of_mem first later)

theorem toList_joined (texts : List String) :
    (String.intercalate "," texts).toList = [','].intercalate (texts.map String.toList) := by
  have comma : ",".toList = [','] := by simp
  rw [String.toList_intercalate, comma]

/-- Texts without commas that are joined by commas are parted again. -/
theorem split_joined {texts : List String} (given : texts ≠ [])
    (undivided : ∀ text ∈ texts, ',' ∉ text.toList) :
    split ',' (String.intercalate "," texts).toList = texts.map String.toList := by
  rw [split_eq_splitOn, toList_joined]
  apply List.splitOn_intercalate
  · rw [List.forall_mem_map]
    exact undivided
  · exact mt List.map_eq_nil_iff.1 given

/-- The texts between the commas of a text, joined by commas, are the text. -/
theorem joined_split (s : String) :
    String.intercalate "," ((split ',' s.toList).map String.ofList) = s := by
  have pieces : ((split ',' s.toList).map String.ofList).map String.toList =
      s.toList.splitOn ',' := by
    rw [List.map_map, split_eq_splitOn]
    exact (List.map_congr_left fun _ _ => String.toList_ofList).trans (List.map_id _)
  rw [← String.toList_inj, toList_joined, pieces, List.intercalate_splitOn]

/-! ### Names between commas -/

namespace Holds

variable {text : String} {name : Option String}

theorem undivided (holds : Holds text name) : ',' ∉ text.toList := by
  cases holds with
  | nothing blank => exact Text.notMem_of_isBlank (by decide) blank
  | name blankBefore isName blankAfter =>
    exact isName.notMem_padded (by decide) blankBefore blankAfter

/-- What a text stands for is what is left of it once it is trimmed. -/
theorem filled_eq (holds : Holds text name) : Text.filled (some text) = name := by
  cases holds with
  | nothing blank =>
    rw [Text.filled, Option.map_some, Text.trim_eq_empty_iff.2 blank]
    rfl
  | @name before name after blankBefore isName blankAfter =>
    rw [Text.filled_eq_some_iff, Option.map_some, Text.trim_padded blankBefore name blankAfter,
      isName.trimmed]
    refine ⟨rfl, fun empty => ?_⟩
    have filled := isName.filled
    rw [empty] at filled
    exact absurd filled (by decide)

theorem isName {name : String} (holds : Holds text (some name)) : IsName name := by
  cases holds with
  | name _ isName _ => exact isName

end Holds

/-- A text without commas stands for something. -/
theorem holds_filled {text : String} (undivided : ',' ∉ text.toList) :
    Holds text (Text.filled (some text)) := by
  by_cases blank : Text.isBlank text = true
  · rw [Text.filled, Option.map_some, Text.trim_eq_empty_iff.2 blank]
    exact Holds.nothing blank
  · have named : Text.filled (some text) = some (Text.trim text) :=
      Text.filled_eq_some_iff.2 ⟨rfl, mt Text.trim_eq_empty_iff.1 blank⟩
    have isName : IsName (Text.trim text) := Text.isWord_trim (by simpa using blank) undivided
    rcases Text.exists_padded text with ⟨before, after, blankBefore, blankAfter, split⟩
    have holds := Holds.name blankBefore isName blankAfter
    rwa [← split, ← named] at holds

/-! ### Lists of names -/

theorem parseGroups_eq (given : Option String) :
    parseGroups given =
      ((split ',' (given.getD "").toList).map String.ofList).filterMap fun text =>
        Text.filled (some text) := by
  rw [parseGroups]
  induction split ',' (given.getD "").toList with
  | nil => rfl
  | cons piece rest ih =>
    have trimmed : Text.trim (String.ofList piece) = String.ofList (Text.strip piece) := by
      rw [Text.trim, String.toList_ofList]
    rw [List.map_cons, List.map_cons, List.filter_cons, List.filterMap_cons, ih, Text.filled,
      Option.map_some, trimmed]
    by_cases empty : String.ofList (Text.strip piece) = ""
    · simp [Option.filter_some, empty]
    · simp [Option.filter_some, empty]

/-- Every text is a list of the names that are read from it. -/
theorem lists_parseGroups (given : String) : Lists given (parseGroups (some given)) := by
  let texts := (split ',' given.toList).map String.ofList
  have undivided : ∀ text ∈ texts, ',' ∉ text.toList := by
    rw [List.forall_mem_map]
    intro piece among
    rw [String.toList_ofList]
    exact notMem_of_mem_split among
  refine ⟨texts.map fun text => (text, Text.filled (some text)), ?_, ?_, ?_⟩
  · rw [List.forall_mem_map]
    intro text among
    dsimp only
    exact holds_filled (undivided text among)
  · have kept : (texts.map fun text => (text, Text.filled (some text))).map Prod.fst = texts := by
      rw [List.map_map]
      exact List.map_id texts
    rw [kept, joined_split]
  · have held : (texts.map fun text => (text, Text.filled (some text))).filterMap Prod.snd =
        texts.filterMap fun text => Text.filled (some text) := by
      simp only [List.filterMap_map, Function.comp_def]
    exact (parseGroups_eq (some given)).trans held.symm

/-- What a text lists is read from it. -/
theorem Lists.parseGroups_eq {given : String} {names : List String} (lists : Lists given names) :
    parseGroups (some given) = names := by
  rcases lists with ⟨entries, holds, rfl, rfl⟩
  by_cases empty : entries = []
  · rw [empty]
    rfl
  · have undivided : ∀ text ∈ entries.map Prod.fst, ',' ∉ text.toList := by
      rw [List.forall_mem_map]
      intro e among
      exact (holds e among).undivided
    have parted := split_joined (mt List.map_eq_nil_iff.1 empty) undivided
    rw [Summary.parseGroups_eq, Option.getD_some, parted, List.map_map, List.map_map, List.filterMap_map]
    apply List.filterMap_congr
    intro e among
    simp only [Function.comp_apply, String.ofList_toList]
    exact (holds e among).filled_eq

/-- The names that are read from a text are those that it lists, in the order in which they stand in
it and as often as they do. -/
theorem parseGroups_eq_iff {given : String} {names : List String} :
    parseGroups (some given) = names ↔ Lists given names := by
  constructor
  · rintro rfl
    exact lists_parseGroups given
  · exact Lists.parseGroups_eq

/-- Whatever is read from a list is a name. -/
theorem isName_of_mem_parseGroups {given : Option String} {name : String}
    (among : name ∈ parseGroups given) : IsName name := by
  cases given with
  | none => exact absurd among List.not_mem_nil
  | some given =>
    rcases parseGroups_eq_iff.1 rfl with ⟨entries, holds, -, names⟩
    rw [names] at among
    rcases List.mem_filterMap.1 among with ⟨e, inside, named⟩
    exact Holds.isName (named ▸ holds e inside)

/-- Names that are joined by commas are listed. -/
theorem lists_intercalate {names : List String} (areNames : ∀ name ∈ names, IsName name) :
    Lists (String.intercalate "," names) names := by
  refine ⟨names.map fun name => (name, some name), ?_, ?_, ?_⟩
  · rw [List.forall_mem_map]
    intro name among
    have bare : Holds ("" ++ name ++ "") (some name) := .name rfl (areNames name among) rfl
    rwa [String.empty_append, String.append_empty] at bare
  · rw [List.map_map]
    exact congrArg _ (List.map_id _).symm
  · rw [List.filterMap_map]
    exact List.filterMap_some.symm

end TelemetryGateway.Summary
