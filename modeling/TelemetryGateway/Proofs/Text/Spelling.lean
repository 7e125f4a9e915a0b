import Mathlib.Data.List.DropRight
import TelemetryGateway.Text.Blank
import TelemetryGateway.Text.Case
import TelemetryGateway.Text.Integer

set_option autoImplicit false

/-!
# Trimmed text and words in any letter case

Trimming twice is trimming once: what is trimmed off a text stands around the rest, and a word or a
written integer has nothing to trim but white space that is put around it. No character beyond ASCII
turns into ASCII letters alone, but for one that turns into a `k`, so for words without that letter
the full lower case accepts what the ASCII one accepts.
-/

namespace TelemetryGateway.Text

theorem strip_eq_rdropWhile (cs : List Char) :
    strip cs = (cs.dropWhile isBlankChar).rdropWhile isBlankChar := rfl

theorem strip_strip (cs : List Char) : strip (strip cs) = strip cs := by
  have front : (strip cs).dropWhile isBlankChar = strip cs := by
    rw [List.dropWhile_eq_self_iff]
    intro filled
    obtain ⟨rest, split⟩ := List.rdropWhile_prefix isBlankChar (cs.dropWhile isBlankChar)
    rw [← strip_eq_rdropWhile] at split
    have nonempty : cs.dropWhile isBlankChar ≠ [] := by
      rw [← split]
      exact fun h => by simp_all
    have same : (strip cs)[0] = (cs.dropWhile isBlankChar).head nonempty := by
      simp [← split, List.head_append_of_ne_nil (List.ne_nil_of_length_pos filled),
        List.head_eq_getElem]
    rw [same, List.head_dropWhile_not isBlankChar nonempty]
    exact Bool.false_ne_true
  rw [strip_eq_rdropWhile (strip cs), front, strip_eq_rdropWhile, List.rdropWhile_idempotent]

@[simp] theorem trim_trim (s : String) : trim (trim s) = trim s := by
  simp [trim, strip_strip]

theorem trim_eq_empty_iff {s : String} : trim s = "" ↔ isBlank s = true := by
  rw [← String.toList_inj, toList_trim]
  exact strip_eq_nil

theorem filled_eq_some_iff {s : Option String} {t : String} :
    filled s = some t ↔ s.map trim = some t ∧ t ≠ "" := by
  simp [filled, Option.filter_eq_some_iff]

theorem trim_of_filled {s : Option String} {t : String} (h : filled s = some t) : trim t = t := by
  obtain ⟨given, -⟩ := filled_eq_some_iff.1 h
  obtain ⟨u, -, rfl⟩ := Option.map_eq_some_iff.1 given
  exact trim_trim u

theorem isBlank_of_filled {s : Option String} {t : String} (h : filled s = some t) :
    isBlank t = false := by
  obtain ⟨-, nonempty⟩ := filled_eq_some_iff.1 h
  rw [← trim_of_filled h, Ne, trim_eq_empty_iff] at nonempty
  simpa using nonempty

theorem strip_eq_self {cs : List Char} (filled : ∀ c ∈ cs, isBlankChar c = false) :
    strip cs = cs := by
  have all : cs.all (fun c => !isBlankChar c) = true := by simpa using filled
  have front : cs.dropWhile isBlankChar = cs := by
    rw [List.dropWhile_eq_self_iff]
    intro nonempty
    simp [filled]
  rw [strip_eq_rdropWhile, front, List.rdropWhile_eq_self_iff]
  intro nonempty
  simp [filled]

/-- White space around a text makes no difference to what is left of it. -/
theorem strip_padded {before after : List Char} (cs : List Char)
    (blankBefore : before.all isBlankChar = true) (blankAfter : after.all isBlankChar = true) :
    strip (before ++ (cs ++ after)) = strip cs := by
  have behind (ds : List Char) :
      (ds ++ after).rdropWhile isBlankChar = ds.rdropWhile isBlankChar := by
    have blank : ∀ c ∈ after.reverse, isBlankChar c = true := by simpa using blankAfter
    rw [List.rdropWhile, List.reverse_append, List.dropWhile_append_of_pos blank]
    rfl
  rw [strip_eq_rdropWhile, strip_eq_rdropWhile,
    List.dropWhile_append_of_pos (List.all_eq_true.1 blankBefore)]
  by_cases blank : cs.all isBlankChar = true
  · rw [List.dropWhile_append_of_pos (List.all_eq_true.1 blank), dropWhile_eq_nil.2 blank,
      dropWhile_eq_nil.2 blankAfter]
  · have some : cs.dropWhile isBlankChar ≠ [] := fun empty => blank (dropWhile_eq_nil.1 empty)
    rw [List.dropWhile_append, if_neg (by simpa using some)]
    exact behind _

theorem length_strip_le (cs : List Char) : (strip cs).length ≤ cs.length :=
  Nat.le_trans (List.rdropWhile_prefix _ _).length_le (List.dropWhile_suffix _).length_le

/-- A trimmed text has no white space around any part of it. -/
theorem padding_eq_nil {before cs after : List Char}
    (trimmed : strip (before ++ (cs ++ after)) = before ++ (cs ++ after))
    (blankBefore : before.all isBlankChar = true) (blankAfter : after.all isBlankChar = true) :
    before = [] ∧ after = [] := by
  rw [strip_padded cs blankBefore blankAfter] at trimmed
  have lengths := congrArg List.length trimmed
  have shorter := length_strip_le cs
  rw [List.length_append, List.length_append] at lengths
  rw [← List.length_eq_zero_iff, ← List.length_eq_zero_iff]
  omega

/-- What is dropped at the ends of a text still stands around the rest in it. -/
theorem exists_padding (p : Char → Bool) (cs : List Char) :
    ∃ before after, cs = before ++ ((cs.dropWhile p).rdropWhile p ++ after) ∧
      before.all p = true ∧ after.all p = true := by
  refine ⟨cs.takeWhile p, (cs.dropWhile p).rtakeWhile p, ?_, List.all_takeWhile, ?_⟩
  · rw [List.rdropWhile_append_rtakeWhile, List.takeWhile_append_dropWhile]
  · rw [List.all_eq_true]
    intro c among
    exact List.mem_rtakeWhile_imp among

/-! ### Words with white space around them -/

/-- Whether a text can stand as one word where a separator parts words. -/
structure IsWord (separator : Char) (word : String) : Prop where
  filled : isBlank word = false
  trimmed : trim word = word
  undivided : separator ∉ word.toList

theorem notMem_of_isBlank {c : Char} (solid : isBlankChar c = false) {s : String}
    (blank : isBlank s = true) : c ∉ s.toList := by
  intro among
  have white := List.all_eq_true.1 blank c among
  exact Bool.false_ne_true (solid.symm.trans white)

theorem trim_padded {before after : String} (blankBefore : isBlank before = true) (s : String)
    (blankAfter : isBlank after = true) : trim (before ++ s ++ after) = trim s := by
  rw [← String.toList_inj, toList_trim, toList_trim, String.toList_append, String.toList_append,
    List.append_assoc]
  exact strip_padded s.toList blankBefore blankAfter

theorem isBlank_trim (s : String) : isBlank (trim s) = isBlank s := by
  rw [Bool.eq_iff_iff, ← trim_eq_empty_iff, trim_trim, trim_eq_empty_iff]

/-- What is trimmed off a text stands around the rest in it. -/
theorem exists_padded (s : String) :
    ∃ before after, isBlank before = true ∧ isBlank after = true ∧ s = before ++ trim s ++ after := by
  rcases exists_padding isBlankChar s.toList with ⟨before, after, split, blankBefore, blankAfter⟩
  refine ⟨String.ofList before, String.ofList after, ?_, ?_, ?_⟩
  · rw [isBlank, String.toList_ofList]
    exact blankBefore
  · rw [isBlank, String.toList_ofList]
    exact blankAfter
  · rw [← String.toList_inj, split]
    simp only [String.toList_append, String.toList_ofList, toList_trim, strip_eq_rdropWhile,
      List.append_assoc]

/-- What is left of a filled text without a separator is a word. -/
theorem isWord_trim {separator : Char} {s : String} (filled : isBlank s = false)
    (undivided : separator ∉ s.toList) : IsWord separator (trim s) := by
  constructor
  · rw [isBlank_trim, filled]
  · exact trim_trim s
  · intro inside
    apply undivided
    rcases exists_padded s with ⟨before, after, -, -, split⟩
    rw [split, String.toList_append, String.toList_append]
    exact List.mem_append_left _ (List.mem_append_right _ inside)

/-- A word with white space around it is undivided too. -/
theorem IsWord.notMem_padded {separator : Char} {before word after : String}
    (isWord : IsWord separator word) (solid : isBlankChar separator = false)
    (blankBefore : isBlank before = true) (blankAfter : isBlank after = true) :
    separator ∉ (before ++ word ++ after).toList := by
  rw [String.toList_append, String.toList_append, List.mem_append, List.mem_append]
  rintro ((front | inside) | behind)
  · exact notMem_of_isBlank solid blankBefore front
  · exact isWord.undivided inside
  · exact notMem_of_isBlank solid blankAfter behind

/-! ### Texts between trimmed ones -/

theorem dropWhile_of_trimmed {cs : List Char} (trimmed : strip cs = cs) :
    cs.dropWhile isBlankChar = cs := by
  apply (List.dropWhile_suffix isBlankChar).eq_of_length_le
  calc cs.length = (strip cs).length := congrArg List.length trimmed.symm
    _ ≤ (cs.dropWhile isBlankChar).length := (List.rdropWhile_prefix _ _).length_le

theorem rdropWhile_of_trimmed {cs : List Char} (trimmed : strip cs = cs) :
    cs.rdropWhile isBlankChar = cs := by
  have stripped := strip_eq_rdropWhile cs
  rwa [trimmed, dropWhile_of_trimmed trimmed, eq_comm] at stripped

/-- Nothing is trimmed from a text that begins and ends with a trimmed one. -/
theorem strip_enclosed {front back : List Char} (middle : List Char)
    (frontTrimmed : strip front = front) (frontSome : front ≠ [])
    (backTrimmed : strip back = back) (backSome : back ≠ []) :
    strip (front ++ middle ++ back) = front ++ middle ++ back := by
  have before : (front ++ middle ++ back).dropWhile isBlankChar = front ++ middle ++ back := by
    rw [List.append_assoc, List.dropWhile_append, dropWhile_of_trimmed frontTrimmed,
      if_neg (by simpa using frontSome)]
  have last : back.reverse.dropWhile isBlankChar = back.reverse := by
    rw [← List.reverse_inj, List.reverse_reverse]
    exact rdropWhile_of_trimmed backTrimmed
  rw [strip_eq_rdropWhile, before, List.rdropWhile, List.reverse_append, List.dropWhile_append, last,
    if_neg (by simpa using backSome), ← List.reverse_append, List.reverse_reverse]

/-! ### Written integers -/

theorem isBlankChar_of_isDigit {c : Char} (digit : c.isDigit = true) : isBlankChar c = false := by
  obtain ⟨low, high⟩ := Char.isDigit_iff_toNat.1 digit
  change 48 ≤ c.toNat at low
  change c.toNat ≤ 57 at high
  simp only [isBlankChar, inRanges, blankRanges, List.any_cons, List.any_nil, Bool.or_false,
    Bool.or_eq_false_iff, Bool.and_eq_false_iff, decide_eq_false_iff_not]
  omega

theorem isBlankChar_integerChars (n : Int) : ∀ c ∈ integerChars n, isBlankChar c = false := by
  have digits (m : Nat) : ∀ c ∈ Nat.toDigits 10 m, isBlankChar c = false := fun c among =>
    isBlankChar_of_isDigit (Nat.isDigit_of_mem_toDigits (by decide) (by decide) among)
  cases n with
  | ofNat m => exact digits m
  | negSucc m => exact List.forall_mem_cons.2 ⟨by decide, digits (m + 1)⟩

theorem integerChars_ne_nil (n : Int) : integerChars n ≠ [] := by
  cases n with
  | ofNat m => exact Nat.toDigits_ne_nil
  | negSucc m => exact List.cons_ne_nil _ _

theorem toList_integerText (n : Int) : (integerText n).toList = integerChars n := by
  simp [integerText]

theorem trim_integerText (n : Int) : trim (integerText n) = integerText n := by
  rw [← String.toList_inj, toList_trim, toList_integerText,
    strip_eq_self (isBlankChar_integerChars n)]

theorem isBlank_integerText (n : Int) : isBlank (integerText n) = false := by
  obtain ⟨c, among⟩ := List.exists_mem_of_ne_nil _ (integerChars_ne_nil n)
  rw [isBlank, toList_integerText, List.all_eq_false]
  exact ⟨c, among, by simp [isBlankChar_integerChars n c among]⟩

theorem integerText_ne_empty (n : Int) : integerText n ≠ "" := by
  rw [← trim_integerText, Ne, trim_eq_empty_iff, isBlank_integerText]
  exact Bool.false_ne_true

theorem filled_integerText (n : Int) : filled (some (integerText n)) = some (integerText n) :=
  filled_eq_some_iff.2 ⟨congrArg some (trim_integerText n), integerText_ne_empty n⟩

/-! ### Lower case of ASCII letters -/

/-- Only capital letters change, and each turns into the letter 32 places on. -/
theorem toLower_cases (c : Char) :
    c.toLower = c ∨ 65 ≤ c.toNat ∧ c.toNat ≤ 90 ∧ c.toLower.toNat = c.toNat + 32 := by
  unfold Char.toLower
  split
  next capital =>
    right
    rcases capital with ⟨low, high⟩
    change 65 ≤ c.toNat at low
    change c.toNat ≤ 90 at high
    refine ⟨low, high, ?_⟩
    change (c.val + 32).toNat = c.toNat + 32
    rw [UInt32.toNat_add]
    change (c.toNat + 32) % 2 ^ 32 = c.toNat + 32
    omega
  next => exact .inl rfl

theorem isBlankChar_of_isLetter {c : Char} (low : 65 ≤ c.toNat) (high : c.toNat ≤ 122) :
    isBlankChar c = false := by
  simp only [isBlankChar, inRanges, blankRanges, List.any_cons, List.any_nil, Bool.or_false,
    Bool.or_eq_false_iff, Bool.and_eq_false_iff, decide_eq_false_iff_not]
  omega

theorem isBlankChar_toLower (c : Char) : isBlankChar c.toLower = isBlankChar c := by
  rcases toLower_cases c with same | ⟨low, high, moved⟩
  · rw [same]
  · rw [isBlankChar_of_isLetter low (by omega), isBlankChar_of_isLetter (by omega) (by omega)]

theorem toLower_eq_space_iff {c : Char} : c.toLower = ' ' ↔ c = ' ' := by
  rcases toLower_cases c with same | ⟨low, high, moved⟩
  · rw [same]
  · constructor
    · intro space
      rw [space] at moved
      change 32 = c.toNat + 32 at moved
      omega
    · intro space
      rw [space] at low
      exact absurd low (by decide)

theorem utf8Size_toLower (c : Char) : c.toLower.utf8Size = c.utf8Size := by
  rcases toLower_cases c with same | ⟨low, high, moved⟩
  · rw [same]
  · have one (d : Char) (ascii : d.toNat ≤ 127) : d.utf8Size = 1 := by
      rw [Char.utf8Size_eq_one_iff, UInt32.le_iff_toNat_le]
      exact ascii
    rw [one c (by omega), one c.toLower (by omega)]

@[simp] theorem toList_lowerAscii (s : String) : (lowerAscii s).toList = s.toList.map Char.toLower := by
  rw [lowerAscii, String.toList_ofList]

/-- Letter case does not shift where a text is split. -/
theorem lowerAscii_eq_append_iff {s a b : String} :
    lowerAscii s = a ++ b ↔ ∃ u v, s = u ++ v ∧ lowerAscii u = a ∧ lowerAscii v = b := by
  constructor
  · intro lowered
    rw [← String.toList_inj, toList_lowerAscii, String.toList_append] at lowered
    rcases List.map_eq_append_iff.1 lowered with ⟨us, vs, split, front, back⟩
    refine ⟨String.ofList us, String.ofList vs, ?_, ?_, ?_⟩
    · rw [← String.ofList_append, ← split, String.ofList_toList]
    · rw [lowerAscii, String.toList_ofList, front, String.ofList_toList]
    · rw [lowerAscii, String.toList_ofList, back, String.ofList_toList]
  · rintro ⟨u, v, rfl, rfl, rfl⟩
    rw [lowerAscii, String.toList_append, List.map_append, String.ofList_append]
    rfl

/-- Only a space turns into a space. -/
theorem lowerAscii_eq_space_iff {s : String} : lowerAscii s = " " ↔ s = " " := by
  rw [← String.toList_inj, ← String.toList_inj, toList_lowerAscii]
  change s.toList.map Char.toLower = [' '] ↔ s.toList = [' ']
  rw [List.map_eq_singleton_iff]
  constructor
  · rintro ⟨c, alone, space⟩
    rw [alone, toLower_eq_space_iff.1 space]
  · intro alone
    exact ⟨' ', alone, toLower_eq_space_iff.2 rfl⟩

/-- A word without white space has none in any letter case, and is as long. -/
theorem trimmed_of_lowerAscii {word w : String} (solid : w.toList.all (!isBlankChar ·) = true)
    (some : w ≠ "") (spelled : lowerAscii word = w) :
    strip word.toList = word.toList ∧ word.toList ≠ [] := by
  have lowered : word.toList.map Char.toLower = w.toList := by
    rw [← spelled, toList_lowerAscii]
  constructor
  · apply strip_eq_self
    intro c among
    have inside : c.toLower ∈ w.toList := by
      rw [← lowered]
      exact List.mem_map_of_mem among
    rw [← isBlankChar_toLower]
    simpa using List.all_eq_true.1 solid _ inside
  · intro empty
    rw [empty, List.map_nil, eq_comm, String.toList_eq_nil_iff] at lowered
    exact some lowered

/-! ### Words in any letter case -/

/-- Whether a character is printed, is ASCII and is no lower case of a character beyond ASCII, as
`k` is one of the sign for kelvin. -/
def isPlain (c : Char) : Bool := 0x20 ≤ c.toNat && isAscii c && c ≠ 'k'

theorem isPlain_of_beyond {c : Char} (beyond : isAscii c = false) : isPlain c = false := by
  simp [isPlain, beyond]

theorem isPlain_ofNat {n : Nat} (beyond : 0x80 ≤ n) : isPlain (Char.ofNat n) = false := by
  by_cases valid : n.isValidChar
  · have same : (Char.ofNat n).toNat = n := by
      rw [Char.ofNat, dif_pos valid]
      rfl
    exact isPlain_of_beyond (by simp [isAscii, same, beyond])
  · rw [Char.ofNat, dif_neg valid]
    decide

/-- A run leads to characters beyond ASCII, or it is one character that turns into another. -/
theorem lowerRuns_image : ∀ r ∈ lowerRuns,
    0x80 ≤ r.image ∨ r.first = r.last ∧ isPlain (Char.ofNat r.image) = false := by
  decide +kernel

/-- No character beyond ASCII turns into plain ones alone. -/
theorem exists_mem_lowerChar {c : Char} (beyond : isAscii c = false) :
    ∃ d ∈ lowerChar c, isPlain d = false := by
  rw [lowerChar, if_neg (by simp [beyond]), mapByTables]
  cases special : lowerSpecial.lookup c.toNat with
  | some cs =>
    obtain rfl : ['\u0069', '\u0307'] = cs := by
      simp only [lowerSpecial, List.lookup_cons, List.lookup_nil] at special
      split at special
      · exact Option.some.inj special
      · exact absurd special (by simp)
    exact ⟨'\u0307', by simp, by decide⟩
  | none =>
    refine ⟨_, List.mem_singleton_self _, ?_⟩
    cases mapped : CaseRun.image? lowerRuns c.toNat with
    | none => exact isPlain_of_beyond beyond
    | some n =>
      obtain ⟨r, found, rfl⟩ := Option.map_eq_some_iff.1 mapped
      have inside : r.first ≤ c.toNat ∧ c.toNat ≤ r.last := by
        have holds := List.find?_some found
        simp only [Bool.and_eq_true, decide_eq_true_eq] at holds
        exact holds.1
      change isPlain (Char.ofNat (r.image + (c.toNat - r.first))) = false
      obtain high | ⟨single, other⟩ := lowerRuns_image r (List.mem_of_find?_eq_some found)
      · exact isPlain_ofNat (by omega)
      · have alone : c.toNat - r.first = 0 := by omega
        rwa [alone, Nat.add_zero]

theorem toLower_of_beyond {c : Char} (beyond : isAscii c = false) : c.toLower = c := by
  have high : 0x80 ≤ c.toNat := by simpa [isAscii] using beyond
  refine dif_neg ?_
  rintro ⟨-, low⟩
  change c.toNat ≤ 90 at low
  omega

/-- The full lower case yields plain characters only where the ASCII one does. -/
theorem lowerAfter_eq_iff {before cs w : List Char} (plain : ∀ d ∈ w, isPlain d = true) :
    lowerAfter before cs = w ↔ cs.map Char.toLower = w := by
  induction cs generalizing before w with
  | nil => rfl
  | cons c cs ih =>
    by_cases ascii : isAscii c = true
    · have other : c ≠ 'Σ' := by
        rintro rfl
        exact absurd ascii (by decide)
      rw [lowerAfter, if_neg other, lowerChar_ascii ascii]
      cases w with
      | nil => simp
      | cons d w =>
        have later : ∀ e ∈ w, isPlain e = true := fun e among => plain e (List.mem_cons_of_mem d among)
        simp [ih later]
    · -- both sides hold a character that is not plain, so neither is the word
      have beyond : isAscii c = false := by simpa using ascii
      have left : ∃ d ∈ lowerAfter before (c :: cs), isPlain d = false := by
        rw [lowerAfter]
        split
        · split
          · exact ⟨'ς', by simp, by decide⟩
          · exact ⟨'σ', by simp, by decide⟩
        · obtain ⟨d, among, other⟩ := exists_mem_lowerChar beyond
          exact ⟨d, List.mem_append_left _ among, other⟩
      have right : ∃ d ∈ (c :: cs).map Char.toLower, isPlain d = false :=
        ⟨c, by simp [toLower_of_beyond beyond], isPlain_of_beyond beyond⟩
      have apart (ds : List Char) (mixed : ∃ d ∈ ds, isPlain d = false) : ds ≠ w := by
        rintro rfl
        obtain ⟨d, among, other⟩ := mixed
        rw [plain d among] at other
        exact absurd other (by decide)
      simp only [apart _ left, apart _ right]

/-- A plain word is spelled with ASCII letters. -/
theorem lower_eq_iff {s w : String} (plain : w.toList.all isPlain = true) :
    lower s = w ↔ lowerAscii s = w := by
  rw [← String.toList_inj, ← String.toList_inj]
  simpa [lower, lowerAscii] using lowerAfter_eq_iff (List.all_eq_true.1 plain)

end TelemetryGateway.Text
