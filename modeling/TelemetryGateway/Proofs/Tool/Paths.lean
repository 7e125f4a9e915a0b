import TelemetryGateway.Proofs.Tool.Sending

set_option autoImplicit false

/-!
# Paths of requests

The key of a caller goes wherever the path of a request leads, so a path should lead nowhere but to
what the called tool is about. Two tools put an identifier into a path. One reads it as the
identifier of a dashboard first, and nothing of the caller's text is left in it. The other puts it
in as it is, and there the identifier decides where the path leads.
-/

namespace TelemetryGateway

namespace Http

/-- Whether a text is one segment of a path: nothing in it ends the segment or the path, and it leads
neither to where it stands nor to the place above. -/
structure IsSegment (s : String) : Prop where
  filled : s ≠ ""
  closed : ∀ c ∈ s.toList, c ≠ '/' ∧ c ≠ '?' ∧ c ≠ '#'
  notHere : s ≠ "."
  notAbove : s ≠ ".."

end Http

namespace Backend

open Http (IsSegment)

/-! ### Identifiers in paths -/

namespace Uuid

/-- Characters of a written identifier. -/
def isTextChar (c : Char) : Bool := isHexDigit c || c = '-'

theorem ne_of_isTextChar {c : Char} (h : isTextChar c = true) : c ≠ '/' ∧ c ≠ '?' ∧ c ≠ '#' := by
  refine ⟨?_, ?_, ?_⟩
  all_goals
    rintro rfl
    exact absurd h (by decide)

theorem ascii_of_isHexDigit {c : Char} (h : isHexDigit c = true) : c.toNat < 128 := by
  simp only [isHexDigit, Char.isDigit, Bool.or_eq_true, Bool.and_eq_true, decide_eq_true_eq,
    Char.le_def, UInt32.le_iff_toNat_le] at h
  change c.val.toNat < 128
  rcases h with (⟨-, high⟩ | ⟨-, high⟩) | ⟨-, high⟩
  · exact Nat.lt_of_le_of_lt high (by decide)
  · exact Nat.lt_of_le_of_lt high (by decide)
  · exact Nat.lt_of_le_of_lt high (by decide)

theorem isHexDigit_toLower {c : Char} (h : isHexDigit c = true) : isHexDigit c.toLower = true := by
  have all : ∀ n < 128, isHexDigit (Char.ofNat n) = true →
      isHexDigit (Char.ofNat n).toLower = true := by
    decide
  have ascii := ascii_of_isHexDigit h
  rw [← Char.ofNat_toNat c] at h ⊢
  exact all c.toNat ascii h

theorem isHexDigit_of_ofDigits? {ds : List Char} {u : Uuid} (read : ofDigits? ds = some u) :
    ∀ c ∈ u.digits, isHexDigit c = true := by
  obtain ⟨⟨-, hex⟩, same⟩ := Option.ite_none_right_eq_some.1 read
  obtain rfl := Option.some.inj same
  intro c among
  obtain ⟨d, given, rfl⟩ := List.mem_map.1 among
  exact isHexDigit_toLower (List.all_eq_true.1 hex d given)

theorem isHexDigit_of_ofGroups? {cs : List Char} {u : Uuid} (read : ofGroups? cs = some u) :
    ∀ c ∈ u.digits, isHexDigit c = true :=
  isHexDigit_of_ofDigits? (Option.ite_none_right_eq_some.1 read).2

theorem isHexDigit_of_ofText? {s : String} {u : Uuid} (read : ofText? s = some u) :
    ∀ c ∈ u.digits, isHexDigit c = true := by
  unfold ofText? at read
  split at read
  · exact isHexDigit_of_ofGroups? (Option.ite_none_right_eq_some.1 read).2
  · split at read
    · exact isHexDigit_of_ofGroups? read
    · split at read
      · exact isHexDigit_of_ofDigits? read
      · exact isHexDigit_of_ofGroups? read

theorem isTextChar_of_mem_hyphenated {ds : List Char} (hex : ∀ c ∈ ds, isHexDigit c = true) :
    ∀ c ∈ hyphenated ds, isTextChar c = true := by
  have group (n k : Nat) : ∀ c ∈ (ds.drop n).take k, isTextChar c = true := by
    intro c among
    simp [isTextChar, hex c (List.mem_of_mem_drop (List.mem_of_mem_take among))]
  have hyphen : isTextChar '-' = true := by decide
  refine List.forall_mem_append.2 ⟨group 0 8, List.forall_mem_cons.2 ⟨hyphen, ?_⟩⟩
  refine List.forall_mem_append.2 ⟨group 8 4, List.forall_mem_cons.2 ⟨hyphen, ?_⟩⟩
  refine List.forall_mem_append.2 ⟨group 12 4, List.forall_mem_cons.2 ⟨hyphen, ?_⟩⟩
  exact List.forall_mem_append.2 ⟨group 16 4, List.forall_mem_cons.2 ⟨hyphen, group 20 12⟩⟩

/-- What is written for an identifier that was read is one segment, whatever it was read from. -/
theorem isSegment_text {s : String} {u : Uuid} (read : ofText? s = some u) : IsSegment u.text := by
  have chars := isTextChar_of_mem_hyphenated (isHexDigit_of_ofText? read)
  have spelled : u.text.toList = hyphenated u.digits := by simp [text]
  have hyphen : '-' ∈ u.text.toList := by
    rw [spelled]
    exact List.mem_append_right _ List.mem_cons_self
  constructor
  case closed =>
    intro c among
    exact ne_of_isTextChar (chars c (spelled ▸ among))
  all_goals
    intro same
    rw [same] at hyphen
    exact absurd hyphen (by decide)

end Uuid

/-! ### Where paths lead -/

namespace Inquiry

/-- The paths that hold nothing of the caller's. -/
def fixedPaths : List String :=
  [queryPath, "/api/v1/services", "/api/v1/alerts", "/api/v1/dashboards", "/api/v1/fields/keys",
    "/api/v1/fields/values"]

/-- Whether tools ask for it and its path is a fixed one. -/
def isFixed : Inquiry → Bool
  | health | alertRule _ | dashboard _ => false
  | _ => true

theorem path_mem_of_isFixed {i : Inquiry} (fixed : i.isFixed = true) : i.path ∈ fixedPaths := by
  cases i with
  | health | alertRule | dashboard => exact absurd fixed Bool.false_ne_true
  | records => exact (by decide : queryPath ∈ fixedPaths)
  | services => exact (by decide : "/api/v1/services" ∈ fixedPaths)
  | alerts => exact (by decide : "/api/v1/alerts" ∈ fixedPaths)
  | dashboards => exact (by decide : "/api/v1/dashboards" ∈ fixedPaths)
  | fieldKeys => exact (by decide : "/api/v1/fields/keys" ∈ fixedPaths)
  | fieldValues => exact (by decide : "/api/v1/fields/values" ∈ fixedPaths)

def rulesPath : String := "/api/v1/rules/"

def dashboardsPath : String := "/api/v1/dashboards/"

/-- Whether a path is a fixed one, or leads to one alert rule or to one dashboard. -/
def Confined (path : String) : Prop :=
  path ∈ fixedPaths ∨
    ∃ segment, IsSegment segment ∧ (path = rulesPath ++ segment ∨ path = dashboardsPath ++ segment)

theorem rulesPath_append_notMem (s : String) : rulesPath ++ s ∉ fixedPaths := by
  have apart : ∀ path ∈ fixedPaths, path.toList.take 14 ≠ rulesPath.toList := by decide
  intro among
  refine apart _ among ?_
  rw [String.toList_append]
  exact List.take_left' (by decide)

theorem rulesPath_append_ne (s t : String) : rulesPath ++ s ≠ dashboardsPath ++ t := by
  intro same
  have chars : rulesPath.toList ++ s.toList = dashboardsPath.toList ++ t.toList := by
    rw [← String.toList_append, same, String.toList_append]
  have heads := congrArg (List.take 9) chars
  rw [List.take_append_of_le_length (by decide), List.take_append_of_le_length (by decide)] at heads
  exact absurd heads (by decide)

/-- The path to a rule leads where it should exactly if the identifier is one segment. -/
theorem confined_rulesPath_iff (id : String) : Confined (rulesPath ++ id) ↔ IsSegment id := by
  constructor
  · rintro (among | ⟨segment, holds, same | same⟩)
    · exact absurd among (rulesPath_append_notMem id)
    · have chars := congrArg String.toList same
      rw [String.toList_append, String.toList_append, List.append_cancel_left_eq,
        String.toList_inj] at chars
      exact chars ▸ holds
    · exact absurd same (rulesPath_append_ne id segment)
  · intro holds
    exact .inr ⟨id, holds, .inl rfl⟩

end Inquiry

end Backend

namespace Tool

open Backend (Client Inquiry Uuid)
open Backend.Inquiry (Confined rulesPath)

/-! ### Plans -/

/-- Whether the inquiry of a plan leads where it should. -/
def Plan.Confined (p : Plan) : Prop := Inquiry.Confined p.inquiry.path

section Plans

variable (limits : PageLimits) (now : Time.Instant) (params : Json)

theorem Plan.confined_of_isFixed {p : Plan} (fixed : p.inquiry.isFixed = true) : p.Confined :=
  .inl (Inquiry.path_mem_of_isFixed fixed)

theorem confined_planServices : Yields Plan.Confined (planServices limits now params) := by
  refine Yields.bind fun a => Yields.bind fun page => Yields.bind fun window => ?_
  exact yields_pure (Plan.confined_of_isFixed rfl)

theorem confined_planSearch (signal : Signal) :
    Yields Plan.Confined (planSearch signal limits now params) := by
  refine Yields.bind fun a => Yields.bind fun page => Yields.bind fun window => ?_
  refine Yields.bind fun filter => Yields.bind fun query => ?_
  exact yields_pure (Plan.confined_of_isFixed rfl)

theorem confined_planTrace : Yields Plan.Confined (planTrace limits now params) := by
  refine Yields.bind fun a => Yields.bind fun given => ?_
  dsimp only
  split
  · exact yields_error
  · refine Yields.bind fun window => Yields.bind fun query => ?_
    exact yields_pure (Plan.confined_of_isFixed rfl)

theorem confined_planSummary (signal : Signal) :
    Yields Plan.Confined (planSummary signal now params) := by
  refine Yields.bind fun a => Yields.bind fun summary => Yields.bind fun query => ?_
  exact yields_pure (Plan.confined_of_isFixed rfl)

theorem confined_planMetrics : Yields Plan.Confined (planMetrics now params) := by
  refine Yields.bind fun a => Yields.bind fun metric => Yields.bind fun step => ?_
  refine Yields.bind fun window => Yields.bind fun filter => Yields.bind fun query => ?_
  exact yields_pure (Plan.confined_of_isFixed rfl)

theorem confined_planQuery : Yields Plan.Confined (planQuery params) := by
  refine Yields.bind fun given => Yields.bind fun query => Yields.bind fun finished => ?_
  exact yields_pure (Plan.confined_of_isFixed rfl)

theorem confined_planListing {inquiry : Inquiry} (fixed : inquiry.isFixed = true) :
    Yields Plan.Confined (planListing inquiry limits params) := by
  refine Yields.bind fun a => Yields.bind fun page => ?_
  exact yields_pure (Plan.confined_of_isFixed fixed)

/-- A dashboard is asked for by an identifier that was read. -/
theorem confined_planDashboard : Yields Plan.Confined (planDashboard params) := by
  refine Yields.bind fun given => Yields.bind fun text => ?_
  split
  · rename_i uuid read
    exact yields_pure (.inr ⟨uuid.text, Uuid.isSegment_text read, .inr rfl⟩)
  · exact yields_error

theorem confined_planFieldKeys : Yields Plan.Confined (planFieldKeys params) := by
  refine Yields.bind fun a => Yields.bind fun signal => ?_
  exact yields_pure (Plan.confined_of_isFixed rfl)

theorem confined_planFieldValues : Yields Plan.Confined (planFieldValues params) := by
  refine Yields.bind fun a => Yields.bind fun signal => Yields.bind fun name => ?_
  exact yields_pure (Plan.confined_of_isFixed rfl)

/-- Whatever is planned leads where it should, but for alert rules. -/
theorem confined_plan {t : Tool} (other : t ≠ getAlert) :
    Yields Plan.Confined (t.plan limits now params) := by
  cases t with
  | listServices => exact confined_planServices limits now params
  | searchLogs => exact confined_planSearch limits now params .logs
  | searchTraces => exact confined_planSearch limits now params .traces
  | traceDetails => exact confined_planTrace limits now params
  | summarizeLogs => exact confined_planSummary now params .logs
  | summarizeTraces => exact confined_planSummary now params .traces
  | queryMetrics => exact confined_planMetrics now params
  | runQuery => exact confined_planQuery params
  | listAlerts => exact confined_planListing limits params rfl
  | getAlert => exact absurd rfl other
  | listDashboards => exact confined_planListing limits params rfl
  | getDashboard => exact confined_planDashboard params
  | listFieldKeys => exact confined_planFieldKeys params
  | listFieldValues => exact confined_planFieldValues params

theorem confined_planned {name : String} (other : name ≠ getAlert.name) :
    Yields Plan.Confined (planned limits now name params) := by
  unfold planned
  split
  · exact yields_error
  · rename_i t found
    refine confined_plan limits now params ?_
    rintro rfl
    exact other (name_of_ofName? found).symm

/-- An alert rule is asked for by whatever identifier is given, but for white space around it. -/
theorem planAlert_iff (path : String) :
    (∃ p, planAlert params = .ok p ∧ p.inquiry.path = path) ↔
      ∃ id, decodeRuleId (Argument.given params) = .ok (some id) ∧
        path = rulesPath ++ Text.trim id := by
  constructor
  · rintro ⟨p, planned, rfl⟩
    obtain ⟨given, read, planned⟩ := bind_eq_ok.1 planned
    obtain ⟨id, needed, planned⟩ := bind_eq_ok.1 planned
    obtain rfl := pure_eq_ok.1 planned
    cases given with
    | none => exact absurd needed (by simp [need])
    | some text =>
      obtain rfl : text = id := Except.ok.inj needed
      exact ⟨text, mapError_eq_ok.1 read, rfl⟩
  · rintro ⟨id, read, rfl⟩
    have given : arguments decodeRuleId params = .ok (some id) := mapError_eq_ok.2 read
    refine ⟨⟨.alertRule (Text.trim id), fun answer => answer⟩, ?_, rfl⟩
    rw [planAlert, given]
    rfl

end Plans

/-! ### Calls -/

/-- Whatever is called with whatever arguments: what is handed over to be sent leads where it should,
unless an alert rule is asked for. Then any identifier that is given becomes part of the path, and
the path leads where it should exactly if the identifier is one segment. -/
theorem paths_confined_but_to_rules (client : Client) (limits : PageLimits) (now : Time.Instant)
    (name : String) (params : Json) (peer : Nat → Http.Peer) (sent : Nat) :
    let handed := (callThrough client.handOver limits now name params).run (Http.carrier peer) sent
    ((call client limits now name params).run peer sent).2 =
        handed.2.filter Http.Request.isSendable ∧
      (name ≠ getAlert.name → ∀ r ∈ handed.2, Confined r.path) ∧
      (name = getAlert.name → ∀ path, (∃ r ∈ handed.2, r.path = path) ↔
        ∃ id, decodeRuleId (Argument.given params) = .ok (some id) ∧
          path = rulesPath ++ Text.trim id) ∧
      ∀ id, Confined (rulesPath ++ id) ↔ Http.IsSegment id := by
  intro handed
  have passed := run_call_eq_handed client limits now name params peer sent
  refine ⟨congrArg Prod.snd passed, ?_, ?_, Inquiry.confined_rulesPath_iff⟩
  · intro other r among
    obtain ⟨p, found, rfl⟩ := mem_handed_iff.1 among
    exact confined_planned limits now params other p found
  · rintro rfl path
    rw [← planAlert_iff]
    constructor
    · rintro ⟨r, among, rfl⟩
      obtain ⟨p, found, rfl⟩ := mem_handed_iff.1 among
      exact ⟨p, (planned_name getAlert limits now params).symm.trans found, rfl⟩
    · rintro ⟨p, found, rfl⟩
      have planned := (planned_name getAlert limits now params).trans found
      exact ⟨client.request p.inquiry, mem_handed_iff.2 ⟨p, planned, rfl⟩, rfl⟩

/-- An identifier that leads from the alert rules to the list of dashboards. -/
theorem alert_reaches_dashboards :
    let client : Client := ⟨"http://backend", "KEY", some "secret"⟩
    let params : Json := .obj [("ruleId", .str "../dashboards")]
    let peer : Nat → Http.Peer := fun _ _ => .ok ⟨200, .ofJson .null⟩
    ∃ r ∈ ((callThrough client.handOver .standard 0 getAlert.name params).run (Http.carrier peer) 0).2,
      r.path = "/api/v1/rules/../dashboards" ∧ ¬ Confined r.path := by
  intro client params peer
  obtain ⟨-, -, rules, confined⟩ :=
    paths_confined_but_to_rules client .standard 0 getAlert.name params peer 0
  obtain ⟨r, among, path⟩ := (rules rfl "/api/v1/rules/../dashboards").2 ⟨"../dashboards", rfl, rfl⟩
  refine ⟨r, among, path, ?_⟩
  rw [path]
  intro leads
  have segment := (confined "../dashboards").1 leads
  exact (segment.closed '/' (by decide)).1 rfl

end Tool

end TelemetryGateway
