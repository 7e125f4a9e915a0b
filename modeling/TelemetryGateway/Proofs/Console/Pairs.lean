import Mathlib.Data.List.Forall2
import TelemetryGateway.Console.Session
import TelemetryGateway.Proofs.Json.Order
import TelemetryGateway.Proofs.Outcome
import TelemetryGateway.Proofs.Text.Spelling

set_option autoImplicit false

/-!
# Arguments given as pairs

An argument is given on the command line as a key, an equals sign and a value. The first equals sign
parts them, so a value may hold more of them, and a value that is not JSON is a text. Every object of
arguments can be given like this, in any order; a pair that spells no member is refused, the first one
of all, and of pairs with the same key the last one counts.
-/

namespace TelemetryGateway.Console

/-- What a text stands for: the value that it is the JSON of, or itself where it is no JSON. -/
inductive StandsFor (text : String) : Json → Prop where
  | value {v : Json} : Json.parse? text = some v → StandsFor text v
  | verbatim : Json.parse? text = none → StandsFor text (.str text)

/-- Which member a pair spells. Its key stands before the first equals sign, with white space about
it, and everything behind that sign is its value. -/
inductive Spells : String → String × Json → Prop where
  | member {before key after text : String} {v : Json} :
      Text.isBlank before = true → Text.IsWord '=' key → Text.isBlank after = true →
      StandsFor text v → Spells (before ++ key ++ after ++ "=" ++ text) (key, v)

/-- What a pair is refused for. -/
inductive Refused : String → SessionFault → Prop where
  | noPair {pair : String} : '=' ∉ pair.toList → Refused pair (.noPair pair)
  | noKey {key text : String} : Text.isBlank key = true →
      Refused (key ++ "=" ++ text) (.noKey (key ++ "=" ++ text))

theorem standsFor_iff {text : String} {v : Json} : StandsFor text v ↔ looseValue text = v := by
  rw [looseValue]
  constructor
  · intro stands
    cases stands with
    | value parsed => rw [parsed, Option.getD_some]
    | verbatim unparsed => rw [unparsed, Option.getD_none]
  · rintro rfl
    cases parsed : Json.parse? text with
    | none => exact .verbatim parsed
    | some v => exact .value parsed

/-! ### Texts parted at the first equals sign -/

theorem takeWhile_undivided {cs : List Char} (undivided : '=' ∉ cs) (rest : List Char) :
    (cs ++ rest).takeWhile (· ≠ '=') = cs ++ rest.takeWhile (· ≠ '=') := by
  apply List.takeWhile_append_of_pos
  intro c among
  apply decide_eq_true
  rintro rfl
  exact undivided among

theorem splitPair?_undivided {pair : String} (undivided : '=' ∉ pair.toList) :
    splitPair? pair = none := by
  have whole := takeWhile_undivided undivided []
  rw [List.append_nil, List.takeWhile_nil, List.append_nil] at whole
  rw [splitPair?, whole, List.drop_length]

theorem splitPair?_joined {key : String} (undivided : '=' ∉ key.toList) (text : String) :
    splitPair? (key ++ "=" ++ text) = some (key, text) := by
  have parted : (key ++ "=" ++ text).toList = key.toList ++ '=' :: text.toList := by simp
  have front : (key.toList ++ '=' :: text.toList).takeWhile (· ≠ '=') = key.toList := by
    rw [takeWhile_undivided undivided, List.takeWhile_cons_of_neg (by simp), List.append_nil]
  rw [splitPair?, parted, front, List.drop_left]
  simp only [String.ofList_toList]

theorem exists_joined {pair : String} (divided : '=' ∈ pair.toList) :
    ∃ key text, '=' ∉ key.toList ∧ pair = key ++ "=" ++ text := by
  rcases List.eq_append_cons_of_mem divided with ⟨front, back, whole, undivided⟩
  refine ⟨String.ofList front, String.ofList back, ?_, ?_⟩
  · rw [String.toList_ofList]
    exact undivided
  · rw [← String.toList_inj, whole]
    simp

/-! ### One pair -/

theorem addPair_of_spells {pair : String} {m : String × Json} (spells : Spells pair m)
    (members : Members) : addPair members pair = .ok (members.insert m.1 m.2) := by
  cases spells with
  | @member before key after text v blankBefore isWord blankAfter stands =>
    have undivided := isWord.notMem_padded (by decide) blankBefore blankAfter
    have left : Text.trim (before ++ key ++ after) = key :=
      (Text.trim_padded blankBefore key blankAfter).trans isWord.trimmed
    have filled : Text.isBlank (before ++ key ++ after) = false := by
      rw [← Text.isBlank_trim, left, isWord.filled]
    rw [addPair, splitPair?_joined undivided]
    simp only [filled, left, standsFor_iff.1 stands, Bool.false_eq_true, if_false]

theorem addPair_of_refused {pair : String} {f : SessionFault} (refused : Refused pair f)
    (members : Members) : addPair members pair = .error f := by
  cases refused with
  | noPair undivided => rw [addPair, splitPair?_undivided undivided]
  | noKey blank =>
    rw [addPair, splitPair?_joined (Text.notMem_of_isBlank (by decide) blank)]
    simp only [blank, if_true]

/-- Every pair spells a member or is refused. -/
theorem spells_or_refused (pair : String) :
    (∃ m, Spells pair m) ∨ ∃ f, Refused pair f := by
  by_cases divided : '=' ∈ pair.toList
  · rcases exists_joined divided with ⟨key, text, undivided, rfl⟩
    by_cases blank : Text.isBlank key = true
    · exact .inr ⟨_, .noKey blank⟩
    · rcases Text.exists_padded key with ⟨before, after, blankBefore, blankAfter, whole⟩
      have isWord : Text.IsWord '=' (Text.trim key) := Text.isWord_trim (by simpa using blank) undivided
      have stands : StandsFor text (looseValue text) := standsFor_iff.2 rfl
      have spells := Spells.member blankBefore isWord blankAfter stands
      rw [← whole] at spells
      exact .inl ⟨_, spells⟩
  · exact .inr ⟨_, .noPair divided⟩

theorem addPair_eq_ok_iff {members result : Members} {pair : String} :
    addPair members pair = .ok result ↔
      ∃ m, Spells pair m ∧ result = members.insert m.1 m.2 := by
  constructor
  · intro added
    rcases spells_or_refused pair with ⟨m, spells⟩ | ⟨f, refused⟩
    · rw [addPair_of_spells spells] at added
      cases added
      exact ⟨m, spells, rfl⟩
    · rw [addPair_of_refused refused] at added
      cases added
  · rintro ⟨m, spells, rfl⟩
    exact addPair_of_spells spells members

theorem addPair_eq_error_iff {members : Members} {pair : String} {f : SessionFault} :
    addPair members pair = .error f ↔ Refused pair f := by
  constructor
  · intro rejected
    rcases spells_or_refused pair with ⟨m, spells⟩ | ⟨f, refused⟩
    · rw [addPair_of_spells spells] at rejected
      cases rejected
    · rw [addPair_of_refused refused] at rejected
      cases rejected
      exact refused
  · intro refused
    exact addPair_of_refused refused members

/-- No pair does both. -/
theorem Spells.not_refused {pair : String} {m : String × Json} (spells : Spells pair m)
    (f : SessionFault) : ¬ Refused pair f := by
  intro refused
  have added := addPair_of_spells spells []
  rw [addPair_of_refused refused] at added
  cases added

/-! ### Pairs one after the other -/

theorem foldlM_addPair_eq_ok_iff {pairs : List String} {members result : Members} :
    pairs.foldlM addPair members = .ok result ↔
      ∃ spelled : Members, List.Forall₂ Spells pairs spelled ∧
        result = spelled.foldl (fun members m => members.insert m.1 m.2) members := by
  induction pairs generalizing members with
  | nil =>
    rw [List.foldlM_nil, pure_eq_ok]
    constructor
    · rintro rfl
      exact ⟨[], .nil, rfl⟩
    · rintro ⟨spelled, each, rfl⟩
      cases each
      rfl
  | cons pair rest ih =>
    rw [List.foldlM_cons, bind_eq_ok]
    constructor
    · rintro ⟨next, added, run⟩
      rcases addPair_eq_ok_iff.1 added with ⟨m, spells, rfl⟩
      rcases ih.1 run with ⟨spelled, each, rfl⟩
      exact ⟨m :: spelled, .cons spells each, rfl⟩
    · rintro ⟨spelled, each, rfl⟩
      cases each with
      | cons spells later => exact ⟨_, addPair_of_spells spells members, ih.2 ⟨_, later, rfl⟩⟩

theorem exists_spelled {pairs : List String} {spelled : Members}
    (each : List.Forall₂ Spells pairs spelled) {pair : String} (among : pair ∈ pairs) :
    ∃ m, Spells pair m := by
  induction each with
  | nil => exact absurd among List.not_mem_nil
  | cons spells later ih =>
    rcases List.mem_cons.1 among with rfl | inside
    · exact ⟨_, spells⟩
    · exact ih inside

/-- A run stops at the first pair that is refused. -/
theorem foldlM_addPair_eq_error_iff {pairs : List String} {members : Members} {f : SessionFault} :
    pairs.foldlM addPair members = .error f ↔
      ∃ before pair after, pairs = before ++ pair :: after ∧
        (∀ p ∈ before, ∃ m, Spells p m) ∧ Refused pair f := by
  induction pairs generalizing members with
  | nil =>
    rw [List.foldlM_nil]
    constructor
    · intro failed
      cases failed
    · rintro ⟨before, pair, after, whole, -⟩
      exact absurd whole.symm (List.append_ne_nil_of_right_ne_nil before (List.cons_ne_nil pair after))
  | cons pair rest ih =>
    rw [List.foldlM_cons, bind_eq_error, addPair_eq_error_iff]
    constructor
    · rintro (refused | ⟨next, added, failed⟩)
      · exact ⟨[], pair, rest, rfl, nofun, refused⟩
      · rcases addPair_eq_ok_iff.1 added with ⟨m, spells, -⟩
        rcases ih.1 failed with ⟨before, bad, after, rfl, spelled, refused⟩
        exact ⟨pair :: before, bad, after, rfl, List.forall_mem_cons.2 ⟨⟨m, spells⟩, spelled⟩, refused⟩
    · rintro ⟨before, bad, after, whole, spelled, refused⟩
      cases before with
      | nil =>
        cases whole
        exact .inl refused
      | cons first others =>
        cases whole
        rcases List.forall_mem_cons.1 spelled with ⟨⟨m, spells⟩, later⟩
        exact .inr ⟨_, addPair_of_spells spells members, ih.2 ⟨others, bad, after, rfl, later, refused⟩⟩

/-! ### Objects of arguments -/

/-- A member as it is given on the command line, with its value as compact JSON. -/
def givenAs (m : String × Json) : String := m.1 ++ "=" ++ m.2.compact

theorem spells_givenAs {m : String × Json} (isWord : Text.IsWord '=' m.1)
    (reads : Json.parse? m.2.compact = some m.2) : Spells (givenAs m) m := by
  have empty : Text.isBlank "" = true := by decide
  have bare := Spells.member empty isWord empty (.value reads)
  rwa [String.empty_append, String.append_empty] at bare

theorem readPairs_givenAs {members given : Members} (ordered : members.InOrder)
    (words : ∀ m ∈ members, Text.IsWord '=' m.1)
    (read : ∀ m ∈ members, Json.parse? m.2.compact = some m.2) (perm : given.Perm members) :
    readPairs (given.map givenAs) = .ok members := by
  have spelled : List.Forall₂ Spells (given.map givenAs) given := by
    rw [List.forall₂_map_left_iff, List.forall₂_same]
    intro m among
    have inside := perm.mem_iff.1 among
    exact spells_givenAs (words m inside) (read m inside)
  exact foldlM_addPair_eq_ok_iff.2 ⟨given, spelled, (ordered.ofPairs_eq_of_perm perm).symm⟩

theorem exists_refused_iff {pairs : List String} :
    (∃ f, readPairs pairs = .error f) ↔ ∃ pair ∈ pairs, ∃ f, Refused pair f := by
  constructor
  · rintro ⟨f, failed⟩
    rcases foldlM_addPair_eq_error_iff.1 failed with ⟨before, pair, after, rfl, -, refused⟩
    exact ⟨pair, List.mem_append_right _ List.mem_cons_self, f, refused⟩
  · rintro ⟨pair, among, f, refused⟩
    cases read : readPairs pairs with
    | error g => exact ⟨g, rfl⟩
    | ok members =>
      rcases foldlM_addPair_eq_ok_iff.1 read with ⟨spelled, each, -⟩
      rcases exists_spelled each among with ⟨m, spells⟩
      exact absurd refused (spells.not_refused f)

/-- Every object with undivided, trimmed and filled keys is read from its members, given in any order
with their values as compact JSON, and a tool is called with it. Pairs are refused exactly if one of
them has no equals sign or a blank key, for the first that has. Otherwise they make up the object of
the members that they spell, put in from left to right, so of those with the same key the last one
counts. -/
theorem every_object_given_as_pairs :
    (∀ members given : Members, members.InOrder → (∀ m ∈ members, Text.IsWord '=' m.1) →
      (∀ m ∈ members, Json.parse? m.2.compact = some m.2) → given.Perm members →
        readPairs (given.map givenAs) = .ok members ∧
        ∀ form tool, toolCall form (.call tool (given.map givenAs)) =
          some (.ok ⟨tool, .obj members⟩, jsonLines form)) ∧
    (∀ pairs, (∃ f, readPairs pairs = .error f) ↔ ∃ pair ∈ pairs, ∃ f, Refused pair f) ∧
    (∀ pairs f, readPairs pairs = .error f ↔
      ∃ before pair after, pairs = before ++ pair :: after ∧
        (∀ p ∈ before, ∀ g, ¬ Refused p g) ∧ Refused pair f) ∧
    (∀ pairs members, readPairs pairs = .ok members ↔
      ∃ spelled : Members, List.Forall₂ Spells pairs spelled ∧ members = .ofPairs spelled) ∧
    ∀ spelled : Members, (Members.ofPairs spelled).InOrder ∧
      ∀ key, (Members.ofPairs spelled).lookup key = spelled.reverse.lookup key := by
  refine ⟨?given, fun pairs => exists_refused_iff, ?first, fun pairs members =>
    foldlM_addPair_eq_ok_iff, ?last⟩
  case given =>
    intro members given ordered words read perm
    have whole := readPairs_givenAs ordered words read perm
    refine ⟨whole, fun form tool => ?_⟩
    rw [toolCall, whole]
    rfl
  case first =>
    intro pairs f
    rw [readPairs, foldlM_addPair_eq_error_iff]
    have spelled_iff (p : String) : (∃ m, Spells p m) ↔ ∀ g, ¬ Refused p g := by
      constructor
      · rintro ⟨m, spells⟩
        exact spells.not_refused
      · intro accepted
        rcases spells_or_refused p with spelled | ⟨g, refused⟩
        · exact spelled
        · exact absurd refused (accepted g)
    simp only [spelled_iff]
  case last =>
    intro spelled
    exact ⟨Members.inOrder_ofPairs spelled, Members.lookup_ofPairs_reverse spelled⟩

/-- Values with equals signs and quotes, and a text that would be a number without its quotes. -/
theorem quoted_arguments_given :
    let filter : String × Json := ("filter", .str "a = 'b'")
    let limit : String × Json := ("limit", .str "20")
    let tags : String × Json := ("tags", .arr [.str "x=\"y\"", .null])
    let members : Members := [filter, limit, tags]
    let given : Members := [tags, limit, filter]
    members.InOrder ∧ (∀ m ∈ members, Text.IsWord '=' m.1) ∧
      (∀ m ∈ members, Json.parse? m.2.compact = some m.2) ∧ given.Perm members ∧
      given.map givenAs = ["tags=[\"x=\\\"y\\\"\",null]", "limit=\"20\"", "filter=\"a = 'b'\""] ∧
      readPairs (given.map givenAs) = .ok members ∧
      toolCall .json (.call "search_logs" (given.map givenAs)) =
        some (.ok ⟨"search_logs", .obj members⟩, jsonLines .json) := by
  intro filter limit tags members given
  have ordered : members.InOrder := by
    rw [Members.InOrder]
    decide +kernel
  have words : ∀ m ∈ members, Text.IsWord '=' m.1 := by
    intro m among
    constructor
    · revert m
      decide +kernel
    · revert m
      decide +kernel
    · revert m
      decide +kernel
  have read : ∀ m ∈ members, Json.parse? m.2.compact = some m.2 := by decide +kernel
  have perm : given.Perm members := by decide +kernel
  rcases every_object_given_as_pairs.1 members given ordered words read perm with ⟨whole, called⟩
  exact ⟨ordered, words, read, perm, by decide +kernel, whole, called .json "search_logs"⟩

end TelemetryGateway.Console
