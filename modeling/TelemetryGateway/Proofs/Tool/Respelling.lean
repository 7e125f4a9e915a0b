import TelemetryGateway.Proofs.Tool.Searching

set_option autoImplicit false

/-!
# Arguments spelled in another way

A scalar argument may come as a text or as the number or the truth value that the text spells. Every
slot reads both alike, and a call sees its arguments through its slots only, so a call whose
arguments are respelled sends the same requests and ends in the same way. Which values are alike
depends on the tool: one name is a slot for text in one tool and for a whole number in another.
-/

namespace TelemetryGateway

/-! ### Values that slots read alike -/

namespace Argument

theorem text_int (n : Int) : text (.str (Text.integerText n)) = text (.int n) := by
  rw [text, Text.isBlank_integerText]
  rfl

theorem text_bool (b : Bool) : text (.str (if b then "true" else "false")) = text (.bool b) := by
  cases b with
  | true => rfl
  | false => rfl

end Argument

namespace Tool

open Backend (Client)

/-- The slots of a tool that hold whole numbers; all other slots hold text. -/
def wholeSlots : Tool → List String
  | listServices | searchLogs | searchTraces | listAlerts | listDashboards => ["offset", "limit"]
  | queryMetrics => ["stepInterval"]
  | _ => []

/-- Whether a tool reads two values of an argument alike. -/
structure ReadsAlike (t : Tool) (key : String) (v w : Json) : Prop where
  whole : key ∈ t.wholeSlots → Argument.integer v = Argument.integer w
  text : key ∉ t.wholeSlots → Argument.text v = Argument.text w

/-- Whether a value of an argument is the other one or, spelled out as text, a whole number of 64
bits or a truth value. Where the slot holds a whole number the text may have white space around it. -/
inductive Respelled (t : Tool) (key : String) : Json → Json → Prop where
  | same (v : Json) : Respelled t key v v
  | integer {n : Int} (fits : Text.FitsInt64 n) :
      Respelled t key (.int n) (.str (Text.integerText n))
  | padded {n : Int} (fits : Text.FitsInt64 n) (slot : key ∈ t.wholeSlots) {before after : String}
      (blankBefore : Text.isBlank before = true) (blankAfter : Text.isBlank after = true) :
      Respelled t key (.int n) (.str (before ++ Text.integerText n ++ after))
  | flag (slot : key ∉ t.wholeSlots) (b : Bool) :
      Respelled t key (.bool b) (.str (if b then "true" else "false"))

theorem Respelled.readsAlike {t : Tool} {key : String} {v w : Json} (h : Respelled t key v w) :
    t.ReadsAlike key v w := by
  cases h with
  | same => exact ⟨fun _ => rfl, fun _ => rfl⟩
  | integer fits =>
    have whole := Argument.integer_of_trim fits (Text.trim_integerText _)
    exact ⟨fun _ => whole.symm, fun _ => (Argument.text_int _).symm⟩
  | padded fits slot blankBefore blankAfter =>
    have whole := Argument.integer_of_trim fits
      ((Text.trim_padded blankBefore _ blankAfter).trans (Text.trim_integerText _))
    exact ⟨fun _ => whole.symm, absurd slot⟩
  | flag slot b => exact ⟨fun whole => absurd whole slot, fun _ => (Argument.text_bool b).symm⟩

/-- Whether the arguments of a call are the others with some of them respelled. -/
def Respells (t : Tool) (given respelled : Members) : Prop :=
  List.Forall₂ (fun m m' => m.1 = m'.1 ∧ Respelled t m.1 m.2 m'.2) given respelled

/-- A record is read alike from respelled arguments where it reads each of them alike. -/
theorem Respells.visit_eq {α : Type} {t : Tool} {given respelled : Members}
    (h : t.Respells given respelled) {r : Record α}
    (alike : ∀ key v w, t.ReadsAlike key v w → ∀ a, r.set a key v = r.set a key w) (start : α) :
    r.visit start given = r.visit start respelled := by
  induction h generalizing start with
  | nil => rfl
  | @cons m m' rest rest' pair others ih =>
    obtain ⟨key, value⟩ := pair
    rw [Record.visit_cons, Record.visit_cons, ← key, alike m.1 m.2 m'.2 value.readsAlike start]
    cases r.set start m.1 m'.2 with
    | error e => rfl
    | ok next => exact ih next

/-! ### Parts of arguments -/

section Parts

variable {t : Tool} {given respelled : Members}

theorem Respells.filter_eq (h : t.Respells given respelled)
    (apart : ∀ key ∈ FilterChoice.record.fields, key ∉ t.wholeSlots) :
    FilterChoice.decode (.obj given) = FilterChoice.decode (.obj respelled) := by
  refine h.visit_eq (fun key v w alike a => ?_) _
  simp only [FilterChoice.record]
  split
  case h_7 => rfl
  all_goals rw [alike.text (apart _ (by decide))]

theorem Respells.window_eq (h : t.Respells given respelled)
    (apart : ∀ key ∈ WindowChoice.record.fields, key ∉ t.wholeSlots) :
    WindowChoice.decode (.obj given) = WindowChoice.decode (.obj respelled) := by
  refine h.visit_eq (fun key v w alike a => ?_) _
  simp only [WindowChoice.record]
  split
  case h_4 => rfl
  all_goals rw [alike.text (apart _ (by decide))]

theorem Respells.page_eq (h : t.Respells given respelled)
    (whole : ∀ key ∈ PageChoice.record.fields, key ∈ t.wholeSlots) :
    PageChoice.decode (.obj given) = PageChoice.decode (.obj respelled) := by
  refine h.visit_eq (fun key v w alike a => ?_) _
  simp only [PageChoice.record]
  split
  case h_3 => rfl
  all_goals rw [alike.whole (whole _ (by decide))]

theorem Respells.textRecord_eq (h : t.Respells given respelled) {field : String}
    (apart : field ∉ t.wholeSlots) (title : String) (start : Option String) :
    (textRecord title field).visit start given = (textRecord title field).visit start respelled := by
  refine h.visit_eq (fun key v w alike a => ?_) start
  simp only [textRecord]
  split
  · rename_i same
    rw [alike.text (same ▸ apart)]
  · rfl

theorem Respells.summary_eq (h : t.Respells given respelled) (texts : t.wholeSlots = []) :
    SummaryChoice.decode (.obj given) = SummaryChoice.decode (.obj respelled) := by
  have apart (key : String) : key ∉ t.wholeSlots := texts ▸ List.not_mem_nil
  have own : SummaryChoice.record.visit .empty given = SummaryChoice.record.visit .empty respelled := by
    refine h.visit_eq (fun key v w alike a => ?_) _
    simp only [SummaryChoice.record]
    split
    case h_6 => rfl
    all_goals rw [alike.text (apart _)]
  simp only [SummaryChoice.decode, Record.readObject_obj, own, h.filter_eq fun key _ => apart key,
    h.window_eq fun key _ => apart key]

theorem Respells.listing_eq (h : t.Respells given respelled)
    (whole : ∀ key ∈ PageChoice.record.fields, key ∈ t.wholeSlots) :
    ListingChoice.decode (.obj given) = ListingChoice.decode (.obj respelled) := by
  simp only [ListingChoice.decode, shared_obj, h.page_eq whole]

theorem Respells.search_eq (h : t.Respells given respelled)
    (whole : t.wholeSlots = PageChoice.record.fields) :
    SearchChoice.decode (.obj given) = SearchChoice.decode (.obj respelled) := by
  have page : ∀ key ∈ PageChoice.record.fields, key ∈ t.wholeSlots := fun key among => whole ▸ among
  have filter : ∀ key ∈ FilterChoice.record.fields, key ∉ t.wholeSlots := by
    rw [whole]
    decide
  have window : ∀ key ∈ WindowChoice.record.fields, key ∉ t.wholeSlots := by
    rw [whole]
    decide
  simp only [SearchChoice.decode, shared_obj, h.filter_eq filter, h.window_eq window, h.page_eq page]

end Parts

/-! ### Arguments of single tools -/

section Arguments

variable {given respelled : Members}

theorem Respells.services_eq (h : listServices.Respells given respelled) :
    ServicesChoice.decode (.obj given) = ServicesChoice.decode (.obj respelled) := by
  simp only [ServicesChoice.decode, shared_obj, h.window_eq (by decide), h.page_eq (by decide)]

theorem Respells.trace_eq (h : traceDetails.Respells given respelled) :
    TraceChoice.decode (.obj given) = TraceChoice.decode (.obj respelled) := by
  have own : (textRecord "TraceDetailsParams" "traceId").visit none given =
      (textRecord "TraceDetailsParams" "traceId").visit none respelled :=
    h.textRecord_eq (by decide) _ _
  simp only [TraceChoice.decode, Record.readObject_obj, own, h.window_eq (by decide)]

theorem Respells.metrics_eq (h : queryMetrics.Respells given respelled) :
    MetricsChoice.decode (.obj given) = MetricsChoice.decode (.obj respelled) := by
  have own (start : MetricsChoice) :
      MetricsChoice.record.visit start given = MetricsChoice.record.visit start respelled := by
    refine h.visit_eq (fun key v w alike a => ?_) start
    simp only [MetricsChoice.record]
    split
    case h_5 => rw [alike.whole (by decide)]
    case h_6 => rfl
    all_goals rw [alike.text (by decide)]
  simp only [MetricsChoice.decode, Record.readObject_obj, own, h.filter_eq (by decide),
    h.window_eq (by decide)]

theorem Respells.ruleId_eq (h : getAlert.Respells given respelled) :
    decodeRuleId (.obj given) = decodeRuleId (.obj respelled) :=
  h.textRecord_eq (by decide) _ _

theorem Respells.uuid_eq (h : getDashboard.Respells given respelled) :
    decodeUuid (.obj given) = decodeUuid (.obj respelled) :=
  h.textRecord_eq (by decide) _ _

theorem Respells.fieldKeys_eq (h : listFieldKeys.Respells given respelled) :
    FieldKeysChoice.decode (.obj given) = FieldKeysChoice.decode (.obj respelled) := by
  refine h.visit_eq (fun key v w alike a => ?_) _
  simp only [FieldKeysChoice.record]
  split
  case h_3 => rfl
  all_goals rw [alike.text List.not_mem_nil]

theorem Respells.fieldValues_eq (h : listFieldValues.Respells given respelled) :
    FieldValuesChoice.decode (.obj given) = FieldValuesChoice.decode (.obj respelled) := by
  refine h.visit_eq (fun key v w alike a => ?_) _
  simp only [FieldValuesChoice.record]
  split
  case h_4 => rfl
  all_goals rw [alike.text List.not_mem_nil]

end Arguments

/-! ### Calls -/

section Calls

variable {t : Tool} {given respelled : Members}

/-- Arguments that are an object are read as they are given. -/
theorem arguments_obj_congr {α : Type} {decode : Json.Decoder α}
    (same : decode (.obj given) = decode (.obj respelled)) :
    arguments decode (.obj given) = arguments decode (.obj respelled) :=
  congrArg (fun read : Except Mismatch α => read.mapError fun m => Fault.argument (.mismatch m)) same

/-- Respelled arguments lead to the same plan. -/
theorem Respells.plan_eq (other : t ≠ runQuery) (h : t.Respells given respelled)
    (limits : PageLimits) (now : Time.Instant) :
    t.plan limits now (.obj given) = t.plan limits now (.obj respelled) := by
  cases t with
  | listServices =>
    simp only [plan, planServices, arguments_obj_congr h.services_eq]
  | searchLogs =>
    simp only [plan, planSearch, arguments_obj_congr (h.search_eq rfl)]
  | searchTraces =>
    simp only [plan, planSearch, arguments_obj_congr (h.search_eq rfl)]
  | traceDetails =>
    simp only [plan, planTrace, arguments_obj_congr h.trace_eq]
  | summarizeLogs =>
    simp only [plan, planSummary, arguments_obj_congr (h.summary_eq rfl)]
  | summarizeTraces =>
    simp only [plan, planSummary, arguments_obj_congr (h.summary_eq rfl)]
  | queryMetrics =>
    simp only [plan, planMetrics, arguments_obj_congr h.metrics_eq]
  | runQuery => exact absurd rfl other
  | listAlerts =>
    simp only [plan, planListing, arguments_obj_congr (h.listing_eq fun _ among => among)]
  | getAlert =>
    simp only [plan, planAlert, arguments_obj_congr h.ruleId_eq]
  | listDashboards =>
    simp only [plan, planListing, arguments_obj_congr (h.listing_eq fun _ among => among)]
  | getDashboard =>
    simp only [plan, planDashboard, arguments_obj_congr h.uuid_eq]
  | listFieldKeys =>
    simp only [plan, planFieldKeys, arguments_obj_congr h.fieldKeys_eq]
  | listFieldValues =>
    simp only [plan, planFieldValues, arguments_obj_congr h.fieldValues_eq]

/-- Whichever arguments of a tool are respelled, and however the backend replies: the same requests
are sent, and the call ends in the same answer or fault. -/
theorem respelled_call_same (other : t ≠ runQuery) (h : t.Respells given respelled)
    (client : Client) (limits : PageLimits) (now : Time.Instant) (peer : Nat → Http.Peer)
    (sent : Nat) :
    (call client limits now t.name (.obj respelled)).run peer sent =
      (call client limits now t.name (.obj given)).run peer sent := by
  rw [call, call, ofName?_name]
  simp only [h.plan_eq other limits now]

/-- A page of the spans of a service that failed. -/
def failedSpans : Members :=
  [("error", .bool true), ("limit", .int 2), ("offset", .int 4), ("service", .int 7)]

/-- The same page with all arguments as text. -/
def failedSpansAsText : Members :=
  [("error", .str "true"), ("limit", .str " 2\t"), ("offset", .str "4"), ("service", .str "7")]

theorem failedSpans_respelled : searchTraces.Respells failedSpans failedSpansAsText := by
  have blank : Text.isBlank " " = true ∧ Text.isBlank "\t" = true := by decide
  refine .cons ⟨rfl, .flag (by decide) true⟩ (.cons ⟨rfl, ?_⟩ (.cons ⟨rfl, ?_⟩ (.cons ⟨rfl, ?_⟩ .nil)))
  · exact .padded (n := 2) (by decide) (by decide) blank.1 blank.2
  · exact .integer (by decide)
  · exact .integer (by decide)

theorem failedSpans_call_same :
    let client : Client := ⟨"http://backend", "KEY", none⟩
    let peer : Nat → Http.Peer := fun _ _ => .ok ⟨200, .ofJson .null⟩
    let given := (call client .standard 7200000000000 searchTraces.name (.obj failedSpans)).run peer 0
    let respelled :=
      (call client .standard 7200000000000 searchTraces.name (.obj failedSpansAsText)).run peer 0
    searchTraces.Respells failedSpans failedSpansAsText ∧ given.2.length = 1 ∧ respelled = given := by
  intro client peer given respelled
  exact ⟨failedSpans_respelled, rfl,
    respelled_call_same (by decide) failedSpans_respelled client .standard 7200000000000 peer 0⟩

end Calls

end Tool

end TelemetryGateway
