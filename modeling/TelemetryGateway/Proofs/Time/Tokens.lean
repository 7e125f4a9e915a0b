import TelemetryGateway.Proofs.Outcome
import TelemetryGateway.Proofs.Text.Spelling
import TelemetryGateway.Time.Window

set_option autoImplicit false

/-!
# Numbers and ranges of any size

What a text says is told first without bounds: the integer that digits behind a sign spell, and how
long a range lasts. A range of digits and one of the letters `m`, `h` and `d` lasts as long as the
digits say, however many there are, and every other one as the written duration that it is. A range is
read where it lasts longer than nothing and no longer than a word counts milliseconds. The short cut by
the letter and the written duration come to the same wherever both apply.
-/

namespace TelemetryGateway

/-! ### Integers -/

namespace Text

/-- One or more ASCII digits. -/
structure Digits (ds : List Char) : Prop where
  filled : ds ≠ []
  all : ∀ d ∈ ds, d.isDigit = true

/-- The integer that a text spells: digits, behind one sign at most. -/
inductive SpellsInteger : List Char → Int → Prop
  | bare {ds : List Char} : Digits ds → SpellsInteger ds (Nat.ofDigitChars 10 ds 0)
  | plus {ds : List Char} : Digits ds → SpellsInteger ('+' :: ds) (Nat.ofDigitChars 10 ds 0)
  | minus {ds : List Char} : Digits ds → SpellsInteger ('-' :: ds) (-(Nat.ofDigitChars 10 ds 0 : Int))

theorem natural?_eq_some_iff {ds : List Char} {n : Nat} :
    natural? ds = some n ↔ Digits ds ∧ Nat.ofDigitChars 10 ds 0 = n := by
  rw [natural?, Option.ite_none_right_eq_some, List.all_eq_true, Option.some_inj]
  constructor
  · rintro ⟨⟨filled, all⟩, value⟩
    exact ⟨⟨filled, all⟩, value⟩
  · rintro ⟨⟨filled, all⟩, value⟩
    exact ⟨⟨filled, all⟩, value⟩

theorem natural?_of_digits {ds : List Char} (digits : Digits ds) :
    natural? ds = some (Nat.ofDigitChars 10 ds 0) :=
  natural?_eq_some_iff.2 ⟨digits, rfl⟩

theorem signed?_eq_some_iff {cs : List Char} {n : Int} :
    signed? cs = some n ↔ SpellsInteger cs n := by
  constructor
  · intro read
    unfold signed? at read
    split at read
    · obtain ⟨m, lifted, rfl⟩ := Option.map_eq_some_iff.1 read
      obtain ⟨k, number, same⟩ := Option.bind_eq_some_iff.1 lifted
      obtain ⟨digits, rfl⟩ := natural?_eq_some_iff.1 number
      obtain rfl := Option.some.inj same
      exact .minus digits
    · obtain ⟨m, number, rfl⟩ := Option.map_eq_some_iff.1 read
      obtain ⟨digits, rfl⟩ := natural?_eq_some_iff.1 number
      exact .plus digits
    · obtain ⟨m, number, rfl⟩ := Option.map_eq_some_iff.1 read
      obtain ⟨digits, rfl⟩ := natural?_eq_some_iff.1 number
      exact .bare digits
  · intro spelled
    cases spelled with
    | bare digits =>
      cases cs with
      | nil => exact absurd rfl digits.filled
      | cons d ds =>
        rw [signed?_digits (digits.all d List.mem_cons_self), natural?_of_digits digits]
        rfl
    | plus digits => exact congrArg (Option.map Int.ofNat) (natural?_of_digits digits)
    | minus digits =>
      rw [signed?, natural?_of_digits digits]
      rfl

theorem SpellsInteger.unique {cs : List Char} {m n : Int} (spelled : SpellsInteger cs m)
    (other : SpellsInteger cs n) : m = n :=
  Option.some.inj ((signed?_eq_some_iff.2 spelled).symm.trans (signed?_eq_some_iff.2 other))

theorem int64?_eq_some_iff {s : String} {n : Int} :
    int64? s = some n ↔ SpellsInteger s.toList n ∧ FitsInt64 n := by
  simp [int64?, Option.filter_eq_some_iff, signed?_eq_some_iff]

end Text

namespace Time

/-- The range of a number of nanoseconds, refused under the name of its token where it is zero or too
large, or where there is no number. -/
def limited (token : String) : Option Nat → Except ArgumentFault Span
  | some nanos => if 0 < nanos ∧ nanos ≤ maxRange then .ok nanos else .error (.range token)
  | none => .error (.range token)

/-- The range that a token spells as a written duration, whatever its form. -/
def writtenRange (token : String) : Except ArgumentFault Span :=
  limited (Text.trim token) (duration? (Text.trim token))

theorem range_eq_limited (token : String) :
    range token = limited (Text.trim token) (rangeNanos? (Text.trim token)) := by
  rw [range]
  cases rangeNanos? (Text.trim token) with
  | none => rfl
  | some nanos => rfl

theorem limited_of_large {token : String} {n : Nat} (large : maxRange < n) :
    limited token (some n) = .error (.range token) :=
  if_neg fun within => Nat.not_le.2 large within.2

/-! ### A number and its letter -/

namespace Term

theorem le_ofDigitChars (ds : List Char) (n : Nat) : n ≤ Nat.ofDigitChars 10 ds n := by
  induction ds generalizing n with
  | nil => exact Nat.le_refl n
  | cons d ds ih =>
    rw [Nat.ofDigitChars_cons]
    have grown := ih (10 * n + (d.toNat - '0'.toNat))
    omega

/-- A number goes on by its digits. Numbers only grow, so they have left the word at the end where
they leave it on the way. -/
theorem run_digits {ds : List Char} (digits : ∀ d ∈ ds, d.isDigit = true) {n : Nat}
    (word : n < wordLimit) (terms : List Term) :
    ds.foldlM step ⟨.whole n, terms⟩ =
      if Nat.ofDigitChars 10 ds n < wordLimit then some ⟨.whole (Nat.ofDigitChars 10 ds n), terms⟩
      else none := by
  induction ds generalizing n with
  | nil => simp [word]
  | cons d ds ih =>
    have digit : d.isDigit = true := digits d (by simp)
    have others : ∀ c ∈ ds, c.isDigit = true := fun c among => digits c (by simp [among])
    have next : step ⟨.whole n, terms⟩ d =
        (push? n d).map fun n => ⟨.whole n, terms⟩ := by
      simp [step, digit]
    rw [List.foldlM_cons, next, Nat.ofDigitChars_cons]
    by_cases fits : 10 * n + digitValue d < wordLimit
    · rw [push?, if_pos fits]
      exact ih others fits
    · have left : ¬ Nat.ofDigitChars 10 ds (10 * n + (d.toNat - '0'.toNat)) < wordLimit := by
        have grown := le_ofDigitChars ds (10 * n + digitValue d)
        intro inside
        exact fits (Nat.lt_of_le_of_lt grown inside)
      rw [push?, if_neg fits, if_neg left]
      rfl

theorem run_number {ds : List Char} (number : Text.Digits ds) :
    ds.foldlM step ⟨.between, []⟩ =
      if Nat.ofDigitChars 10 ds 0 < wordLimit then some ⟨.whole (Nat.ofDigitChars 10 ds 0), []⟩
      else none := by
  rcases number with ⟨filled, digits⟩
  cases ds with
  | nil => exact absurd rfl filled
  | cons d ds =>
    have digit : d.isDigit = true := digits d (by simp)
    have others : ∀ c ∈ ds, c.isDigit = true := fun c among => digits c (by simp [among])
    have small : digitValue d < wordLimit := by
      have high := (Char.isDigit_iff_toNat.1 digit).2
      change d.toNat ≤ 57 at high
      unfold digitValue wordLimit
      omega
    have first : step ⟨.between, []⟩ d = some ⟨.whole (digitValue d), []⟩ := by
      simp [step, digit]
    rw [List.foldlM_cons, first, Nat.ofDigitChars_cons, Nat.mul_zero, Nat.zero_add]
    exact run_digits others small []

end Term

/-- The letters of a short range, with their measures and how many seconds these have. -/
inductive Letter : Char → Measure → Nat → Prop
  | minute : Letter 'm' .minute 60
  | hour : Letter 'h' .hour 3600
  | day : Letter 'd' .day 86400

namespace Letter

variable {c : Char} {measure : Measure} {seconds : Nat} {ds : List Char} {token : String}

theorem positive (letter : Letter c measure seconds) : 0 < seconds := by
  cases letter <;> decide

theorem count_eq (letter : Letter c measure seconds) :
    measure.count = (seconds, Measure.nanosecondsPerSecond) := by
  cases letter <;> rfl

theorem letterSize?_eq (letter : Letter c measure seconds) :
    letterSize? c = some (seconds * Measure.nanosecondsPerSecond) := by
  cases letter <;> rfl

theorem close?_eq (letter : Letter c measure seconds) (n : Nat) :
    Term.close? n none [c] = some ⟨n, none, measure⟩ := by
  cases letter <;> simp [Term.close?, Measure.ofName?, Measure.names]

theorem step_eq (letter : Letter c measure seconds) (n : Nat) :
    Term.step ⟨.whole n, []⟩ c = some ⟨.unit n none [c], []⟩ := by
  cases letter <;> rfl

theorem ofChars?_eq (letter : Letter c measure seconds) (number : Text.Digits ds) :
    Term.ofChars? (ds ++ [c]) =
      if Nat.ofDigitChars 10 ds 0 < wordLimit then some [⟨Nat.ofDigitChars 10 ds 0, none, measure⟩]
      else none := by
  rw [Term.ofChars?, List.foldlM_append, Term.run_number number]
  by_cases word : Nat.ofDigitChars 10 ds 0 < wordLimit
  · rw [if_pos word, if_pos word]
    simp [letter.step_eq, Term.finish, letter.close?_eq]
  · rw [if_neg word, if_neg word]
    rfl

theorem sum_eq (letter : Letter c measure seconds) (n : Nat) :
    Term.sum [⟨n, none, measure⟩] =
      if n * seconds < wordLimit then some (n * seconds * Measure.nanosecondsPerSecond) else none := by
  have added : Term.addTo 0 ⟨n, none, measure⟩ = addWithin 0 (n * seconds) 0 := by
    simp [Term.addTo, letter.count_eq, addCounted, Measure.nanosecondsPerSecond]
  rw [Term.sum, List.foldlM_cons, added]
  by_cases word : n * seconds < wordLimit
  · rw [addWithin, if_pos ⟨word, by decide, by decide⟩, if_pos word, Nat.zero_add, Nat.add_zero]
    rfl
  · rw [addWithin, if_neg fun fits => word fits.1, if_neg word]
    rfl

section Spelled

variable (letter : Letter c measure seconds) (spelled : token.toList = ds ++ [c])
  (number : Text.Digits ds)

include letter spelled number

/-- The general reading of a number and its letter. That the number is a word follows from its
seconds being one. -/
theorem duration?_eq :
    duration? token =
      if Nat.ofDigitChars 10 ds 0 * seconds < wordLimit then
        some (Nat.ofDigitChars 10 ds 0 * seconds * Measure.nanosecondsPerSecond)
      else none := by
  rw [duration?, spelled, letter.ofChars?_eq number]
  by_cases word : Nat.ofDigitChars 10 ds 0 < wordLimit
  · rw [if_pos word]
    exact letter.sum_eq _
  · have large : ¬ Nat.ofDigitChars 10 ds 0 * seconds < wordLimit := by
      have grown := Nat.le_mul_of_pos_right (Nat.ofDigitChars 10 ds 0) letter.positive
      omega
    rw [if_neg word, if_neg large]
    rfl

/-- The short cut, and where the number is no signed word what it leaves to the general reading. -/
theorem rangeNanos?_eq :
    rangeNanos? token =
      if (Nat.ofDigitChars 10 ds 0 : Int) ≤ Text.maxInt64 then
        some (Nat.ofDigitChars 10 ds 0 * seconds * Measure.nanosecondsPerSecond)
      else duration? token := by
  have amount := Text.natural?_of_digits number
  have cut : letterRange? token.toList =
      if (Nat.ofDigitChars 10 ds 0 : Int) ≤ Text.maxInt64 then
        some (Nat.ofDigitChars 10 ds 0, seconds * Measure.nanosecondsPerSecond)
      else none := by
    simp only [letterRange?, spelled, List.getLast?_concat, List.dropLast_concat, amount,
      Option.bind_eq_bind, Option.bind_some, letter.letterSize?_eq]
  rw [rangeNanos?, cut]
  split
  · next amount size read =>
    split at read
    · next fits =>
      rw [if_pos fits, Nat.mul_assoc]
      cases read
      rfl
    · cases read
  · next read =>
    split at read
    · cases read
    · next beyond => rw [if_neg beyond]

/-- The range that both readings come to: the number times what its letter stands for. -/
theorem limited_duration?_eq :
    limited token (duration? token) =
      limited token (some (Nat.ofDigitChars 10 ds 0 * seconds * Measure.nanosecondsPerSecond)) := by
  rw [letter.duration?_eq spelled number]
  by_cases word : Nat.ofDigitChars 10 ds 0 * seconds < wordLimit
  · rw [if_pos word]
  · have large : maxRange < Nat.ofDigitChars 10 ds 0 * seconds * Measure.nanosecondsPerSecond := by
      simp only [wordLimit, maxRange, Measure.nanosecondsPerSecond] at word ⊢
      omega
    rw [if_neg word, limited_of_large large]
    rfl

theorem limited_rangeNanos?_eq :
    limited token (rangeNanos? token) = limited token (duration? token) := by
  rw [letter.rangeNanos?_eq spelled number]
  split
  · exact (letter.limited_duration?_eq spelled number).symm
  · rfl

end Spelled

end Letter

/-! ### How long a range lasts -/

/-- How many nanoseconds a range lasts: a number of minutes, hours or days, or a written duration. -/
inductive Lasts (token : String) : Nat → Prop
  | short {ds : List Char} {letter : Char} {measure : Measure} {seconds : Nat} :
      token.toList = ds ++ [letter] → Text.Digits ds → Letter letter measure seconds →
      Lasts token (Nat.ofDigitChars 10 ds 0 * seconds * Measure.nanosecondsPerSecond)
  | written {nanos : Nat} : duration? token = some nanos → Lasts token nanos

theorem exists_letter {c : Char} {size : Nat} (sized : letterSize? c = some size) :
    ∃ measure seconds, Letter c measure seconds := by
  unfold letterSize? at sized
  split at sized
  · next same => exact same ▸ ⟨_, _, .minute⟩
  split at sized
  · next same => exact same ▸ ⟨_, _, .hour⟩
  split at sized
  · next same => exact same ▸ ⟨_, _, .day⟩
  · cases sized

/-- What the short cut takes is a number and a letter. -/
theorem exists_spelling {token : List Char} {found : Nat × Nat} (cut : letterRange? token = some found) :
    ∃ ds letter measure seconds, token = ds ++ [letter] ∧ Text.Digits ds ∧
      Letter letter measure seconds := by
  simp only [letterRange?, Option.bind_eq_bind, Option.bind_eq_some_iff] at cut
  obtain ⟨size, ⟨letter, last, sized⟩, amount, read, -⟩ := cut
  obtain ⟨measure, seconds, stands⟩ := exists_letter sized
  obtain ⟨digits, -⟩ := Text.natural?_eq_some_iff.1 read
  obtain ⟨ds, rfl⟩ := List.getLast?_eq_some_iff.1 last
  rw [List.dropLast_concat] at digits
  exact ⟨ds, letter, measure, seconds, rfl, digits, stands⟩

theorem limited_rangeNanos?_eq (token : String) :
    limited token (rangeNanos? token) = limited token (duration? token) := by
  cases cut : letterRange? token.toList with
  | none => rw [rangeNanos?, cut]
  | some found =>
    obtain ⟨ds, letter, measure, seconds, spelled, number, stands⟩ := exists_spelling cut
    exact stands.limited_rangeNanos?_eq spelled number

/-- The short cut changes no range and no refusal. -/
theorem range_eq_writtenRange (token : String) : range token = writtenRange token := by
  rw [range_eq_limited, writtenRange, limited_rangeNanos?_eq]

theorem Lasts.limited_eq {token : String} {nanos : Nat} (lasts : Lasts token nanos) :
    limited token (duration? token) = limited token (some nanos) := by
  cases lasts with
  | short spelled number stands => exact stands.limited_duration?_eq spelled number
  | written read => rw [read]

/-- A number and its letter last as long as they say, also where they are a written duration. -/
theorem Letter.eq_of_lasts {c : Char} {measure : Measure} {seconds : Nat} {ds : List Char}
    {token : String} {nanos : Nat} (letter : Letter c measure seconds)
    (spelled : token.toList = ds ++ [c]) (number : Text.Digits ds) (lasts : Lasts token nanos) :
    nanos = Nat.ofDigitChars 10 ds 0 * seconds * Measure.nanosecondsPerSecond := by
  cases lasts with
  | short again _ other =>
    obtain ⟨rfl, same⟩ := List.append_inj' (again.symm.trans spelled) rfl
    obtain rfl := List.singleton_inj.1 same
    cases letter <;> cases other <;> rfl
  | written read =>
    rw [letter.duration?_eq spelled number] at read
    obtain ⟨-, same⟩ := Option.ite_none_right_eq_some.1 read
    exact (Option.some.inj same).symm

theorem Lasts.unique {token : String} {m n : Nat} (lasts : Lasts token m) (other : Lasts token n) :
    m = n := by
  cases lasts with
  | short spelled number stands => exact (stands.eq_of_lasts spelled number other).symm
  | written read =>
    cases other with
    | short spelled number stands => exact stands.eq_of_lasts spelled number (.written read)
    | written again => exact Option.some.inj (read.symm.trans again)

theorem limited_eq_ok_iff {token : String} {nanos : Nat} {n : Int} :
    limited token (some nanos) = .ok n ↔ (0 < nanos ∧ nanos ≤ maxRange) ∧ (nanos : Int) = n := by
  rw [limited, ite_eq_ok]

/-- A range is read as the time that it lasts, if there is such a time and it is neither zero nor too
long. -/
theorem range_eq_ok_iff {token : String} {n : Int} :
    range token = .ok n ↔
      ∃ nanos : Nat, Lasts (Text.trim token) nanos ∧ 0 < nanos ∧ nanos ≤ maxRange ∧ (nanos : Int) = n := by
  rw [range_eq_writtenRange, writtenRange]
  constructor
  · intro read
    cases written : duration? (Text.trim token) with
    | none =>
      rw [written] at read
      cases read
    | some nanos =>
      rw [written] at read
      obtain ⟨⟨positive, longest⟩, rfl⟩ := limited_eq_ok_iff.1 read
      exact ⟨nanos, .written written, positive, longest, rfl⟩
  · rintro ⟨nanos, lasts, positive, longest, rfl⟩
    rw [lasts.limited_eq]
    exact limited_eq_ok_iff.2 ⟨⟨positive, longest⟩, rfl⟩

theorem range_bounds {token : String} {nanos : Int} (read : range token = .ok nanos) :
    0 < nanos ∧ nanos ≤ maxRange := by
  obtain ⟨nanos, -, positive, longest, rfl⟩ := range_eq_ok_iff.1 read
  exact ⟨Int.natCast_pos.2 positive, Int.ofNat_le.2 longest⟩

/-- Every other range is refused under its name. -/
theorem range_eq_error {token : String}
    (unread : ∀ nanos, Lasts (Text.trim token) nanos → nanos = 0 ∨ maxRange < nanos) :
    range token = .error (.range (Text.trim token)) := by
  rw [range_eq_writtenRange, writtenRange]
  cases written : duration? (Text.trim token) with
  | none => rfl
  | some nanos =>
    refine if_neg ?_
    rintro ⟨positive, longest⟩
    have beyond := unread nanos (.written written)
    omega

end Time

end TelemetryGateway
