import TelemetryGateway.Proofs.Query.Building
import TelemetryGateway.Proofs.Query.Stored
import TelemetryGateway.Proofs.Query.Written
import TelemetryGateway.Proofs.Text.Spelling
import TelemetryGateway.Proofs.Tool.Sending

set_option autoImplicit false

/-!
# The same search at another offset

The offset of a search stands among its arguments as a number or as text, or it is left out. Only
the page reads it: with another offset the same records are asked for, from another place on. The
body of the request and the answer of the call both tell from which.
-/

namespace TelemetryGateway

theorem Text.fitsInt64_of_le {n m : Nat} (within : n ≤ m) (fits : FitsInt64 m) : FitsInt64 n := by
  simp only [FitsInt64, minInt64, maxInt64] at *
  omega

/-- A text that spells a whole number once it is trimmed reads as the number. -/
theorem Argument.integer_of_trim {s : String} {n : Int} (fits : Text.FitsInt64 n)
    (spelled : Text.trim s = Text.integerText n) : integer (.str s) = integer (.int n) := by
  have filled : Text.isBlank s = false := by
    rw [← Bool.not_eq_true, ← Text.trim_eq_empty_iff, spelled]
    exact Text.integerText_ne_empty n
  rw [integer_int fits, integer, filled, spelled, Text.int64?_integerText fits]
  rfl

theorem Argument.integerOrZero_text {n : Int} (fits : Text.FitsInt64 n) :
    integerOrZero (.str (Text.integerText n)) = .ok n := by
  rw [integerOrZero, integer_of_trim fits (Text.trim_integerText n), integer_int fits]
  rfl

/-- Members with an offset among them, where one is written. -/
def Members.withOffset (given : Members) : Option Json → Members
  | none => given
  | some v => given.insert "offset" v

/-! ### Arguments -/

namespace PageChoice

variable {given : Members}

/-- The same page from another place on. -/
def startingAt (a : PageChoice) (offset : Option Int) : PageChoice := { a with offset }

theorem set_startingAt (a : PageChoice) {key : String} (other : key ≠ "offset") (v : Json)
    (offset : Option Int) :
    record.set (a.startingAt offset) key v = (record.set a key v).map (·.startingAt offset) := by
  simp only [record]
  split
  · exact absurd rfl other
  · cases Argument.integer v with
    | error e => rfl
    | ok n => rfl
  · rfl

theorem decode_insert_offset (free : ∀ m ∈ given, m.1 ≠ "offset") {v : Json} {offset : Option Int}
    (read : Argument.integer v = .ok offset) :
    decode (.obj (given.insert "offset" v)) = (decode (.obj given)).map (·.startingAt offset) := by
  have put (a : PageChoice) : record.set a "offset" v = .ok (a.startingAt offset) :=
    map_eq_ok.2 ⟨offset, read, rfl⟩
  exact Record.visit_insert put free (fun a m among => set_startingAt a (free m among) m.2 offset) _

theorem offset_of_decode (free : ∀ m ∈ given, m.1 ≠ "offset") {a : PageChoice}
    (read : decode (.obj given) = .ok a) : a.offset = none := by
  have passed : decode (.obj given) = (decode (.obj given)).map (·.startingAt none) :=
    Record.visit_map_of (fun a m among => set_startingAt a (free m among) m.2 none) empty
  rw [read] at passed
  have same : a = a.startingAt none := Except.ok.inj passed
  rw [same]
  rfl

/-- An offset that is left out is the same as one that is written as zero. -/
theorem decode_withOffset (free : ∀ m ∈ given, m.1 ≠ "offset") {a : PageChoice}
    (read : decode (.obj given) = .ok a) {v : Option Json} {n : Int}
    (written : Argument.integerOrZero (v.getD .null) = .ok n) :
    ∃ offset, offset.getD 0 = n ∧
      decode (.obj (given.withOffset v)) = .ok (a.startingAt offset) := by
  obtain ⟨offset, spelled, rfl⟩ := map_eq_ok.1 written
  refine ⟨offset, rfl, ?_⟩
  cases v with
  | none =>
    obtain rfl : none = offset := Except.ok.inj spelled
    rw [Members.withOffset, read, startingAt, ← offset_of_decode free read]
  | some v =>
    have given : Argument.integer v = .ok offset := spelled
    rw [Members.withOffset, decode_insert_offset free given, read]
    rfl

theorem resolve_startingAt {a : PageChoice} {limits : PageLimits} {limit : Int}
    (chosen : a.chosenLimit limits = limit) (bounded : limit ≤ limits.maximum)
    (fits : limit ≤ Text.maxInt64) {offset : Option Int} (forward : 0 ≤ offset.getD 0) :
    (a.startingAt offset).resolve limits = .ok (offset.getD 0, limit) := by
  exact resolve_eq_ok_iff.2 ⟨⟨rfl, chosen⟩, forward, Int.le_min.2 ⟨bounded, fits⟩⟩

end PageChoice

/-- A record that knows no offset is read the same with one. -/
theorem Record.read_withOffset {α : Type} {r : Record α} {given : Members}
    (unknown : ∀ a v, r.set a "offset" v = .ok a) (free : ∀ m ∈ given, m.1 ≠ "offset") (start : α)
    (v : Option Json) : r.read start (.obj (given.withOffset v)) = r.read start (.obj given) := by
  cases v with
  | none => rfl
  | some v => exact visit_insert_unknown (fun a => unknown a v) free start

theorem FilterChoice.decode_withOffset {given : Members} (free : ∀ m ∈ given, m.1 ≠ "offset")
    (v : Option Json) : decode (.obj (given.withOffset v)) = decode (.obj given) :=
  Record.read_withOffset (fun _ _ => rfl) free empty v

theorem WindowChoice.decode_withOffset {given : Members} (free : ∀ m ∈ given, m.1 ≠ "offset")
    (v : Option Json) : decode (.obj (given.withOffset v)) = decode (.obj given) :=
  Record.read_withOffset (fun _ _ => rfl) free empty v

namespace Tool

/-- An object may have any members where it is only shared by parts. -/
theorem shared_obj (title : String) (members : Members) : shared title (.obj members) = .ok () := by
  induction members with
  | nil => rfl
  | cons m rest ih => exact ih

theorem SearchChoice.decode_withOffset {given : Members} (free : ∀ m ∈ given, m.1 ≠ "offset")
    {a : SearchChoice} (read : decode (.obj given) = .ok a) {v : Option Json} {n : Int}
    (written : Argument.integerOrZero (v.getD .null) = .ok n) :
    ∃ offset, offset.getD 0 = n ∧
      decode (.obj (given.withOffset v)) = .ok { a with page := a.page.startingAt offset } := by
  obtain ⟨-, -, read⟩ := bind_eq_ok.1 read
  obtain ⟨filter, filtered, read⟩ := bind_eq_ok.1 read
  obtain ⟨window, bounded, read⟩ := bind_eq_ok.1 read
  obtain ⟨page, paged, read⟩ := bind_eq_ok.1 read
  obtain rfl := pure_eq_ok.1 read
  obtain ⟨offset, same, moved⟩ := PageChoice.decode_withOffset free paged written
  refine ⟨offset, same, ?_⟩
  simp only [decode, shared_obj, ok_bind, FilterChoice.decode_withOffset free v, filtered,
    WindowChoice.decode_withOffset free v, bounded, moved]
  rfl

end Tool

/-! ### Plans -/

namespace Tool

/-- The signal that a tool searches, if it does. -/
def searched? : Tool → Option Signal
  | searchLogs => some .logs
  | searchTraces => some .traces
  | _ => none

section Planned

variable {t : Tool} {signal : Signal} {limits : PageLimits} {now : Time.Instant}

theorem planned_of_searched (searches : t.searched? = some signal) (params : Json) :
    planned limits now t.name params = planSearch signal limits now params := by
  rw [planned_name]
  cases t with
  | searchLogs =>
    obtain rfl := Option.some.inj searches
    rfl
  | searchTraces =>
    obtain rfl := Option.some.inj searches
    rfl
  | _ => simp [searched?] at searches

theorem hasRecords_of_searched (searches : t.searched? = some signal) : signal.HasRecords := by
  cases t with
  | searchLogs => exact .inl (Option.some.inj searches).symm
  | searchTraces => exact .inr (Option.some.inj searches).symm
  | _ => simp [searched?] at searches

/-- What is planned for a search that is read, resolved and built without a refusal. -/
theorem planSearch_eq_ok (records : signal.HasRecords) {params : Json} {a : SearchChoice}
    (read : arguments SearchChoice.decode params = .ok a) {offset limit : Nat}
    (paged : a.page.resolve limits = .ok (offset, limit)) {w : Window}
    (resolved : a.window.resolve .milliseconds (Time.hours 1) now = .ok w) (start : w.start ≠ 0)
    (stop : w.stop ≠ 0) {f : Filter} (built : a.filter.build signal none = .ok f) :
    planSearch signal limits now params =
      .ok ⟨.records (.newestFirst signal w f.expression? limit offset),
        searchAnswer w offset limit⟩ := by
  have page : resolvePage a.page limits = .ok ((offset : Int), (limit : Int)) :=
    mapError_eq_ok.2 paged
  have filter : filterOf a.filter signal = .ok f.expression? := by
    rw [filterOf, built]
    rfl
  have finished := (Query.finished_newestFirst records w f.expression? limit offset).trans
    (Window.accept_eq_ok_iff.2 ⟨⟨start, stop⟩, rfl⟩)
  simp only [planSearch, read, ok_bind, page, resolved, filter, Int.natAbs_natCast, finished]
  rfl

end Planned

/-! ### Answers -/

theorem addWrapping_eq {a b : Int} (fits : Text.FitsInt64 (a + b)) : addWrapping a b = a + b := by
  obtain ⟨low, high⟩ := fits
  simp only [Text.minInt64, Text.maxInt64] at low high
  rw [addWrapping, Int.bmod_eq_of_le (by omega) (by omega)]

section Answer

variable (w : Window) (offset limit : Int) (answer : Json)

/-- Only where the next page starts depends on whether there is one. -/
theorem get?_searchAnswer {key : String} (other : key ≠ "nextOffset") :
    (searchAnswer w offset limit answer).get? key =
      (Json.obj [("hasMore", .bool (limit ≤ (rowsOf answer).length)), ("limit", .int limit),
        ("offset", .int offset), ("result", answer), ("returned", .nat (rowsOf answer).length),
        ("window", w.encode)]).get? key := by
  simp only [searchAnswer, Json.get?_obj]
  split
  · simp only [List.cons_append, List.nil_append, Members.lookup_cons, if_neg other]
  · rfl

theorem get?_searchAnswer_nextOffset (full : limit ≤ (rowsOf answer).length) :
    (searchAnswer w offset limit answer).get? "nextOffset" = some (.int (addWrapping offset limit)) := by
  simp only [searchAnswer, full, decide_true, if_true]
  rfl

theorem field_searchAnswer_result : (searchAnswer w offset limit answer).field "result" = answer := by
  rw [Json.field, get?_searchAnswer w offset limit answer (by decide)]
  rfl

end Answer

end Tool

end TelemetryGateway
