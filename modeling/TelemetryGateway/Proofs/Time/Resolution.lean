import TelemetryGateway.Proofs.Time.Tokens

set_option autoImplicit false

/-!
# Windows over integers of any size

What a choice of a window asks for is told over integers without bounds: the window that ends now
and is as long as its range lasts, or the one between the integers that its bounds spell. Resolving the
choice yields this window where all that is read and computed on the way is a signed 64-bit word, and
refuses an argument everywhere else.
-/

namespace TelemetryGateway

open Time (TimeUnit Span Instant)

/-- Bounds within 64 bits. -/
structure Window.Fits (w : Window) : Prop where
  start : Text.FitsInt64 w.start
  stop : Text.FitsInt64 w.stop

/-! ### Spans in whole units -/

namespace Time

theorem TimeUnit.instant_eq_ok {u : TimeUnit} {t : Instant} (fits : Text.FitsInt64 (t / u.size)) :
    u.instant t = .ok (t / u.size) := if_pos (.inr fits)

/-- The longest span has as many milliseconds as a word counts, so only nanoseconds can be too
many. -/
theorem TimeUnit.span_eq_ok_iff {u : TimeUnit} {s n : Int} (forward : 0 ≤ s)
    (bounded : s ≤ maxRange) : u.span s = .ok n ↔ n = s / u.size ∧ Text.FitsInt64 n := by
  have counted : u = .milliseconds → Text.FitsInt64 (s / u.size) := by
    rintro rfl
    simp only [Text.FitsInt64, Text.minInt64, Text.maxInt64, size, maxRange] at *
    omega
  unfold span
  dsimp only
  rw [ite_eq_ok]
  constructor
  · rintro ⟨either, rfl⟩
    exact ⟨rfl, either.elim counted id⟩
  · rintro ⟨rfl, fits⟩
    exact ⟨.inr fits, rfl⟩

end Time

namespace WindowChoice

variable {a : WindowChoice} {u : TimeUnit} {default now : Int} {w : Window}

/-! ### Bounds -/

theorem bound_eq_ok_iff {name given : String} {n : Int} (trimmed : Text.trim given = given) :
    bound name u given = .ok n ↔ Text.SpellsInteger given.toList n ∧ Text.FitsInt64 n := by
  rw [← Text.int64?_eq_some_iff, bound, trimmed]
  cases Text.int64? given with
  | none => simp
  | some m => simp

theorem before_eq_ok_iff {stop units n : Int} :
    before stop units = .ok n ↔ n = stop - units ∧ Text.FitsInt64 n := by
  rw [before, ite_eq_ok]
  constructor
  · rintro ⟨fits, rfl⟩
    exact ⟨rfl, fits⟩
  · rintro ⟨rfl, fits⟩
    exact ⟨fits, rfl⟩

/-- The end of a window without a range. -/
def givenStop (a : WindowChoice) (u : TimeUnit) (now : Int) : Except ArgumentFault Int :=
  match Text.filled a.stop with
  | some given => bound "end" u given
  | none => .ok now

/-- The start of a window without a range, once its end is known. -/
def givenStart (a : WindowChoice) (u : TimeUnit) (default : Span) (stop : Int) :
    Except ArgumentFault Int :=
  match Text.filled a.start with
  | some given => bound "start" u given
  | none => u.span default >>= before stop

theorem resolveFrom_of_range {token : String} (ranged : Text.filled a.range = some token) :
    a.resolveFrom u default now = (do
      let units ← Time.range token >>= u.span
      let start ← before now units
      return ⟨start, now⟩) := by
  rw [resolveFrom, ranged]

theorem resolveFrom_of_bounds (unranged : Text.filled a.range = none) :
    a.resolveFrom u default now = (do
      let stop ← a.givenStop u now
      let start ← a.givenStart u default stop
      if start ≤ stop then return ⟨start, stop⟩ else throw (.startAfterEnd start stop)) := by
  unfold resolveFrom givenStop givenStart
  rw [unranged]
  cases Text.filled a.stop with
  | none => cases Text.filled a.start <;> rfl
  | some given => cases Text.filled a.start <;> rfl

/-! ### What is asked for -/

/-- What a bound is asked to be: the integer that is spelled, or where nothing is given another. -/
inductive BoundIs (bound : Option String) (fallback : Int) : Int → Prop
  | given {text : String} {n : Int} : Text.filled bound = some text →
      Text.SpellsInteger text.toList n → BoundIs bound fallback n
  | absent : Text.filled bound = none → BoundIs bound fallback fallback

theorem boundIs_iff_of_filled {bound : Option String} {text : String} {fallback n : Int}
    (filled : Text.filled bound = some text) :
    BoundIs bound fallback n ↔ Text.SpellsInteger text.toList n := by
  constructor
  · intro boundIs
    cases boundIs with
    | given found spelled =>
      obtain rfl := Option.some.inj (filled.symm.trans found)
      exact spelled
    | absent absent => exact absurd (filled.symm.trans absent) (Option.some_ne_none text)
  · exact .given filled

theorem boundIs_iff_of_absent {bound : Option String} {fallback n : Int}
    (absent : Text.filled bound = none) : BoundIs bound fallback n ↔ n = fallback := by
  constructor
  · intro boundIs
    cases boundIs with
    | @given text _ found _ => exact absurd (found.symm.trans absent) (Option.some_ne_none text)
    | absent _ => rfl
  · rintro rfl
    exact .absent absent

/-- The window that is asked for, given the present in its unit. -/
inductive Asks (a : WindowChoice) (u : TimeUnit) (default : Span) (now : Int) : Window → Prop
  | ranged {token : String} {nanos : Nat} : Text.filled a.range = some token →
      Time.Lasts token nanos → 0 < nanos → Asks a u default now ⟨now - nanos / u.size, now⟩
  | bounded {start stop : Int} : Text.filled a.range = none → BoundIs a.stop now stop →
      BoundIs a.start (stop - default / u.size) start →
      (Text.filled a.start ≠ none → start ≤ stop) → Asks a u default now ⟨start, stop⟩

/-- Whether the start is found by looking back from the end. -/
def LooksBack (a : WindowChoice) : Prop := Text.filled a.range ≠ none ∨ Text.filled a.start = none

/-- Whether all that is computed on the way to a window is a word of 64 bits, and a range lasts no more
milliseconds than such a word counts. -/
structure Representable (a : WindowChoice) (w : Window) : Prop where
  bounds : w.Fits
  length : a.LooksBack → Text.FitsInt64 (w.stop - w.start)
  range : ∀ token nanos, Text.filled a.range = some token → Time.Lasts token nanos →
    nanos ≤ Time.maxRange

/-- A look back over a span that is not negative does not start behind its end. -/
theorem BoundIs.le_of_absent {given : Option String} {stop start : Int} (absent : Text.filled given = none)
    (forward : 0 ≤ default) (startIs : BoundIs given (stop - default / u.size) start) : start ≤ stop := by
  obtain rfl := (boundIs_iff_of_absent absent).1 startIs
  exact Int.sub_le_self stop (Int.ediv_nonneg forward (Int.le_of_lt u.size_pos))

theorem Asks.start_le_stop (forward : 0 ≤ default) (asked : a.Asks u default now w) :
    w.start ≤ w.stop := by
  cases asked with
  | @ranged token nanos =>
    have units : 0 ≤ (nanos : Int) / u.size :=
      Int.ediv_nonneg (Int.natCast_nonneg nanos) (Int.le_of_lt u.size_pos)
    exact Int.sub_le_self now units
  | bounded _ _ startIs inOrder =>
    by_cases absent : Text.filled a.start = none
    · exact startIs.le_of_absent absent forward
    · exact inOrder absent

theorem givenStop_eq_ok_iff {n : Int} (clock : Text.FitsInt64 now) :
    a.givenStop u now = .ok n ↔ BoundIs a.stop now n ∧ Text.FitsInt64 n := by
  unfold givenStop
  cases filled : Text.filled a.stop with
  | some given =>
    rw [boundIs_iff_of_filled filled]
    exact bound_eq_ok_iff (Text.trim_of_filled filled)
  | none =>
    rw [boundIs_iff_of_absent filled]
    constructor
    · intro same
      obtain rfl := Except.ok.inj same
      exact ⟨rfl, clock⟩
    · rintro ⟨rfl, -⟩
      rfl

theorem givenStart_eq_ok_iff {stop n : Int} (forward : 0 ≤ default) (longest : default ≤ Time.maxRange) :
    a.givenStart u default stop = .ok n ↔
      BoundIs a.start (stop - default / u.size) n ∧ Text.FitsInt64 n ∧
        (Text.filled a.start = none → Text.FitsInt64 (stop - n)) := by
  unfold givenStart
  cases filled : Text.filled a.start with
  | some given =>
    rw [boundIs_iff_of_filled filled]
    dsimp only
    rw [bound_eq_ok_iff (Text.trim_of_filled filled)]
    simp
  | none =>
    rw [boundIs_iff_of_absent filled]
    dsimp only
    rw [bind_eq_ok]
    simp only [Time.TimeUnit.span_eq_ok_iff forward longest, before_eq_ok_iff]
    constructor
    · rintro ⟨units, ⟨rfl, fits⟩, rfl, inside⟩
      exact ⟨rfl, inside, fun _ => by rwa [Int.sub_sub_self]⟩
    · rintro ⟨rfl, inside, fits⟩
      exact ⟨_, ⟨rfl, by simpa [Int.sub_sub_self] using fits⟩, rfl, inside⟩

/-- A range alone settles the window. -/
theorem resolveFrom_eq_ok_iff_of_range {token : String} (ranged : Text.filled a.range = some token)
    (clock : Text.FitsInt64 now) :
    a.resolveFrom u default now = .ok w ↔ a.Asks u default now w ∧ a.Representable w := by
  rw [resolveFrom_of_range ranged]
  simp only [bind_eq_ok, pure_eq_ok, before_eq_ok_iff, Time.range_eq_ok_iff, Text.trim_of_filled ranged]
  constructor
  · rintro ⟨units, ⟨_, ⟨nanos, lasts, positive, longest, rfl⟩, counted⟩, _, ⟨rfl, fits⟩, rfl⟩
    obtain ⟨rfl, inside⟩ :=
      (Time.TimeUnit.span_eq_ok_iff (Int.natCast_nonneg nanos) (Int.ofNat_le.2 longest)).1 counted
    refine ⟨.ranged ranged lasts positive, ⟨fits, clock⟩, fun _ => ?_, ?_⟩
    · rwa [Int.sub_sub_self]
    · intro other time found again
      obtain rfl := Option.some.inj (ranged.symm.trans found)
      rwa [again.unique lasts]
  · rintro ⟨asked, represented⟩
    cases asked with
    | bounded unranged => exact absurd (ranged.symm.trans unranged) (by simp)
    | @ranged other nanos found lasts positive =>
      obtain rfl := Option.some.inj (ranged.symm.trans found)
      have longest := represented.range token nanos ranged lasts
      have inside := represented.length (.inl (by simp [ranged]))
      rw [Int.sub_sub_self] at inside
      have counted := (Time.TimeUnit.span_eq_ok_iff (Int.natCast_nonneg nanos)
        (Int.ofNat_le.2 longest)).2 ⟨rfl, inside⟩
      exact ⟨_, ⟨nanos, ⟨nanos, lasts, positive, longest, rfl⟩, counted⟩, _,
        ⟨rfl, represented.bounds.start⟩, rfl⟩

/-- Without a range each bound is the one that is given, or it follows from the other. -/
theorem resolveFrom_eq_ok_iff_of_bounds (unranged : Text.filled a.range = none)
    (clock : Text.FitsInt64 now) (forward : 0 ≤ default) (longest : default ≤ Time.maxRange) :
    a.resolveFrom u default now = .ok w ↔ a.Asks u default now w ∧ a.Representable w := by
  rw [resolveFrom_of_bounds unranged]
  simp only [bind_eq_ok, givenStop_eq_ok_iff clock, givenStart_eq_ok_iff forward longest]
  constructor
  · rintro ⟨stop, ⟨stopIs, stopFits⟩, start, ⟨startIs, startFits, fits⟩, ordered⟩
    split at ordered
    · rename_i inOrder
      obtain rfl := pure_eq_ok.1 ordered
      refine ⟨.bounded unranged stopIs startIs fun _ => inOrder, ⟨startFits, stopFits⟩, ?_, ?_⟩
      · rintro (ranged | absent)
        · exact absurd unranged ranged
        · exact fits absent
      · intro token nanos ranged
        exact absurd (ranged.symm.trans unranged) (by simp)
    · exact absurd ordered throw_ne_ok
  · rintro ⟨asked, represented⟩
    have inOrder := asked.start_le_stop forward
    cases asked with
    | ranged found => exact absurd (found.symm.trans unranged) (by simp)
    | @bounded start stop _ stopIs startIs _ =>
      refine ⟨stop, ⟨stopIs, represented.bounds.stop⟩, start, ⟨startIs, represented.bounds.start, ?_⟩, ?_⟩
      · exact fun absent => represented.length (.inr absent)
      · rw [if_pos inOrder]
        rfl

theorem givenStart_fits {stop n : Int} (done : a.givenStart u default stop = .ok n) :
    Text.FitsInt64 n := by
  unfold givenStart at done
  cases filled : Text.filled a.start with
  | some given =>
    rw [filled] at done
    exact ((bound_eq_ok_iff (Text.trim_of_filled filled)).1 done).2
  | none =>
    rw [filled] at done
    obtain ⟨units, -, back⟩ := bind_eq_ok.1 done
    exact (before_eq_ok_iff.1 back).2

theorem resolveFrom_fits (clock : Text.FitsInt64 now) (done : a.resolveFrom u default now = .ok w) :
    w.Fits := by
  cases ranged : Text.filled a.range with
  | some token =>
    rw [resolveFrom_of_range ranged] at done
    obtain ⟨units, -, rest⟩ := bind_eq_ok.1 done
    obtain ⟨start, started, result⟩ := bind_eq_ok.1 rest
    obtain rfl := pure_eq_ok.1 result
    exact ⟨(before_eq_ok_iff.1 started).2, clock⟩
  | none =>
    rw [resolveFrom_of_bounds ranged] at done
    obtain ⟨stop, stopped, rest⟩ := bind_eq_ok.1 done
    obtain ⟨start, started, ordered⟩ := bind_eq_ok.1 rest
    split at ordered
    · obtain rfl := pure_eq_ok.1 ordered
      exact ⟨givenStart_fits started, ((givenStop_eq_ok_iff clock).1 stopped).2⟩
    · exact absurd ordered throw_ne_ok

theorem resolve_eq_resolveFrom {now : Instant} (clock : Text.FitsInt64 (now / u.size)) :
    a.resolve u default now = (a.resolveFrom u default (now / u.size)).mapError .argument := by
  rw [resolve, Time.TimeUnit.instant_eq_ok clock]
  rfl

/-- The bounds of a window in milliseconds are words of 64 bits where the clock is one. -/
theorem resolve_fits {now : Instant} (clock : Text.FitsInt64 (now / 1000000))
    (done : a.resolve .milliseconds default now = .ok w) : w.Fits := by
  have present : Text.FitsInt64 (now / TimeUnit.milliseconds.size) := clock
  rw [resolve_eq_resolveFrom present] at done
  exact resolveFrom_fits present (mapError_eq_ok.1 done)

theorem resolveFrom_eq_ok_iff (clock : Text.FitsInt64 now) (forward : 0 ≤ default)
    (longest : default ≤ Time.maxRange) :
    a.resolveFrom u default now = .ok w ↔ a.Asks u default now w ∧ a.Representable w := by
  cases ranged : Text.filled a.range with
  | some token => exact resolveFrom_eq_ok_iff_of_range ranged clock
  | none => exact resolveFrom_eq_ok_iff_of_bounds ranged clock forward longest

/-- A choice yields the window that it asks for over integers of any size, if all that is read and
computed on the way is a word of 64 bits, and any other choice is refused for an argument. A range that
says no time, or a time that is zero or too long, is refused under its name. A window never ends before
it starts, and where there is a range the bounds do not count, whatever they spell. -/
theorem resolve_over_integers (a : WindowChoice) (u : TimeUnit) (default : Span) (now : Instant)
    (clock : Text.FitsInt64 (now / u.size)) (forward : 0 ≤ default)
    (longest : default ≤ Time.maxRange) :
    (∀ w, a.resolve u default now = .ok w ↔
        a.Asks u default (now / u.size) w ∧ a.Representable w) ∧
      (∀ w, a.resolve u default now = .ok w → w.start ≤ w.stop) ∧
      (∀ f, a.resolve u default now = .error f → ∃ cause, f = .argument cause) ∧
      (∀ token, Text.filled a.range = some token →
        (∀ nanos, Time.Lasts token nanos → nanos = 0 ∨ Time.maxRange < nanos) →
        a.resolve u default now = .error (.argument (.range token))) ∧
      (Text.filled a.range ≠ none → ∀ start stop,
        ({ a with start, stop } : WindowChoice).resolve u default now = a.resolve u default now) := by
  have resolved (w : Window) : a.resolve u default now = .ok w ↔
      a.Asks u default (now / u.size) w ∧ a.Representable w := by
    rw [resolve_eq_resolveFrom clock, mapError_eq_ok]
    exact resolveFrom_eq_ok_iff clock forward longest
  refine ⟨resolved, ?ordered, ?refused, ?unread, ?ranged⟩
  case ordered =>
    intro w done
    exact ((resolved w).1 done).1.start_le_stop forward
  case refused =>
    intro f refused
    rw [resolve_eq_resolveFrom clock] at refused
    cases outcome : a.resolveFrom u default (now / u.size) with
    | ok w => simp [outcome] at refused
    | error cause =>
      rw [outcome, mapError_error] at refused
      exact ⟨cause, (Except.error.inj refused).symm⟩
  case unread =>
    intro token found unread
    have trimmed := Text.trim_of_filled found
    rw [← trimmed] at unread
    rw [resolve_eq_resolveFrom clock, resolveFrom_of_range found, Time.range_eq_error unread, trimmed]
    rfl
  case ranged =>
    intro ranged start stop
    obtain ⟨token, found⟩ := Option.ne_none_iff_exists'.1 ranged
    have same : Text.filled ({ a with start, stop } : WindowChoice).range = some token := found
    rw [resolve_eq_resolveFrom clock, resolve_eq_resolveFrom clock, resolveFrom_of_range found,
      resolveFrom_of_range same]

/-- At the last nanosecond that a word counts: a range between bounds that are no numbers, a word that
is no range, a range of more days than any word counts, two bounds, and a bound from which there is no
looking back. -/
theorem windows_at_last_nanosecond :
    let now : Instant := 9223372036854775807
    let default := Time.hours 6
    let window (a : WindowChoice) := a.resolve .nanoseconds default now
    (Text.FitsInt64 (now / TimeUnit.nanoseconds.size) ∧ 0 ≤ default ∧ default ≤ Time.maxRange) ∧
      window ⟨some " 1h ", some "soon", some "9223372036854775808"⟩ =
        .ok ⟨9223368436854775807, 9223372036854775807⟩ ∧
      window ⟨some "banana", none, none⟩ = .error (.argument (.range "banana")) ∧
      window ⟨some "99999999999999999999d", some "1", some "2"⟩ =
        .error (.argument (.range "99999999999999999999d")) ∧
      window ⟨none, some "-05", some "+7"⟩ = .ok ⟨-5, 7⟩ ∧
      ∀ w, window ⟨none, none, some "-9223372036854775808"⟩ ≠ .ok w := by
  intro now default window
  have clock : Text.FitsInt64 (now / TimeUnit.nanoseconds.size) := by decide
  have forward : 0 ≤ default := by decide
  have longest : default ≤ Time.maxRange := by decide
  have resolved (a : WindowChoice) :=
    resolve_over_integers a .nanoseconds default now clock forward longest
  refine ⟨⟨clock, forward, longest⟩, ?hour, ?word, ?days, ?bounds, ?early⟩
  case hour =>
    have token : Text.filled (some " 1h ") = some "1h" := by decide +kernel
    have lasts : Time.Lasts "1h" 3600000000000 := .written (by decide +kernel)
    refine ((resolved _).1 _).2 ⟨.ranged token lasts (by decide), ⟨by decide, by decide⟩,
      fun _ => by decide, ?_⟩
    intro other nanos found again
    obtain rfl := Option.some.inj (token.symm.trans found)
    rw [again.unique lasts]
    decide
  case word =>
    obtain ⟨-, -, -, unread, -⟩ := resolved ⟨some "banana", none, none⟩
    refine unread "banana" (by decide +kernel) ?_
    intro nanos lasts
    cases lasts with
    | short spelled _ stands =>
      have last := congrArg List.getLast? spelled
      rw [List.getLast?_concat] at last
      cases stands <;> exact absurd last (by decide)
    | written read =>
      have unwritten : Time.duration? "banana" = none := by decide +kernel
      exact absurd (unwritten.symm.trans read) (Option.some_ne_none nanos).symm
  case days =>
    obtain ⟨-, -, -, unread, -⟩ := resolved ⟨some "99999999999999999999d", some "1", some "2"⟩
    refine unread "99999999999999999999d" (by decide +kernel) ?_
    intro nanos lasts
    have number : Text.Digits "99999999999999999999".toList :=
      ⟨by decide, List.all_eq_true.1 (by decide +kernel)⟩
    rw [Time.Letter.day.eq_of_lasts (by decide) number lasts]
    exact .inr (by decide +kernel)
  case bounds =>
    have seven : Text.filled (some "+7") = some "+7" := by decide +kernel
    have less : Text.filled (some "-05") = some "-05" := by decide +kernel
    have stop : BoundIs (some "+7") now 7 :=
      .given seven (Text.signed?_eq_some_iff.1 (by decide +kernel))
    have start : BoundIs (some "-05") (7 - default / TimeUnit.nanoseconds.size) (-5) :=
      .given less (Text.signed?_eq_some_iff.1 (by decide +kernel))
    exact ((resolved _).1 _).2 ⟨.bounded rfl stop start fun _ => by decide, ⟨by decide, by decide⟩,
      fun _ => by decide, nofun⟩
  case early =>
    intro w done
    obtain ⟨asked, represented⟩ := ((resolved _).1 w).1 done
    cases asked with
    | ranged found => cases found
    | bounded _ stopIs startIs _ =>
      have filled : Text.filled (some "-9223372036854775808") = some "-9223372036854775808" := by
        decide +kernel
      have read : Text.signed? "-9223372036854775808".toList = some (-9223372036854775808) := by
        decide +kernel
      have spelled := (boundIs_iff_of_filled filled).1 stopIs
      obtain rfl := (Text.signed?_eq_some_iff.1 read).unique spelled
      obtain rfl := (boundIs_iff_of_absent rfl).1 startIs
      exact absurd represented.bounds.start (by decide)

end WindowChoice

end TelemetryGateway
