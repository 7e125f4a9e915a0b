import TelemetryGateway.Proofs.Page.Walk
import TelemetryGateway.Proofs.Tool.NextPage

set_option autoImplicit false

/-!
# Whether the next page lies ahead

A limit that is not positive gives way to the default, and the default is held against the maximum
only. So a page without a positive limit is empty where the default is zero, and as long as anything
is left it names its own place as the next one. With every other default a page that promises more
is followed by one further on.
-/

namespace TelemetryGateway

namespace PageChoice

variable {a : PageChoice} {limits : PageLimits} {offset limit : Int}

/-- Whether a positive limit is asked for, or the default is one. A default beyond the words that an
argument is read into gives way to the maximum. -/
def Advances (a : PageChoice) (limits : PageLimits) : Prop :=
  (∃ n ∈ a.limit, 0 < n) ∨
    1 ≤ limits.default ∧ ((limits.default : Int) ≤ Text.maxInt64 ∨ 1 ≤ limits.maximum)

theorem chosenLimit_pos_iff (a : PageChoice) (limits : PageLimits) :
    1 ≤ a.chosenLimit limits ↔ a.Advances limits := by
  unfold chosenLimit Advances
  cases kept : a.limit.filter fun n => 0 < n with
  | some n =>
    rcases Option.filter_eq_some_iff.1 kept with ⟨given, positive⟩
    have ahead : 0 < n := of_decide_eq_true positive
    exact iff_of_true ahead (.inl ⟨n, given, ahead⟩)
  | none =>
    have unasked : ¬ ∃ n ∈ a.limit, 0 < n := by
      rintro ⟨n, given, positive⟩
      exact Option.filter_eq_none_iff.1 kept n given (decide_eq_true positive)
    rw [or_iff_right unasked]
    dsimp only
    split
    next word => omega
    next beyond =>
      simp only [Text.maxInt64] at beyond ⊢
      omega

theorem chosenLimit_nonneg (a : PageChoice) (limits : PageLimits) : 0 ≤ a.chosenLimit limits := by
  unfold chosenLimit
  split
  next n kept => exact Int.le_of_lt (of_decide_eq_true (Option.filter_eq_some_iff.1 kept).2)
  next =>
    split
    next => exact Int.natCast_nonneg _
    next =>
      simp only [Text.maxInt64]
      omega

/-- A page that is settled lies within the list and the maximum, but need not hold anything. -/
theorem resolve_within (paged : a.resolve limits = .ok (offset, limit)) :
    0 ≤ offset ∧ 0 ≤ limit ∧ limit ≤ limits.maximum := by
  rcases resolve_eq_ok_iff.1 paged with ⟨⟨-, rfl⟩, forward, bounded⟩
  exact ⟨forward, a.chosenLimit_nonneg limits, Int.le_trans bounded (Int.min_le_left _ _)⟩

theorem resolve_pos_iff (paged : a.resolve limits = .ok (offset, limit)) :
    1 ≤ limit ↔ a.Advances limits := by
  rcases resolve_eq_ok_iff.1 paged with ⟨⟨-, rfl⟩, -, -⟩
  exact a.chosenLimit_pos_iff limits

end PageChoice

namespace Page

theorem get?_encode_hasMore (p : Page Json) : p.encode.get? "hasMore" = some (.bool p.hasMore) := rfl

theorem get?_encode_offset (p : Page Json) : p.encode.get? "offset" = some (.nat p.offset) := by
  cases next : p.next with
  | none => simp [encode, next, Json.get?_obj, Members.lookup_cons]
  | some n => simp [encode, next, Json.get?_obj, Members.lookup_cons]

theorem get?_encode_next {p : Page Json} {n : Nat} (next : p.next = some n) :
    p.encode.get? "nextOffset" = some (.nat n) := by
  simp [encode, next, Json.get?_obj, Members.lookup_cons]

end Page

namespace Tool

open Backend (Client)

/-- What an answer says about the place of its page and of the next one. -/
structure Points (answer : Json) (place next : Int) : Prop where
  offset : answer.get? "offset" = some (.int place)
  next : answer.get? "nextOffset" = some (.int next)

/-- Which page is asked for by the arguments of a tool that answers in pages. -/
inductive AsksPage (params : Json) : Tool → PageChoice → Prop where
  | services {a : ServicesChoice} : arguments ServicesChoice.decode params = .ok a →
      AsksPage params listServices a.page
  | alerts {a : ListingChoice} : arguments ListingChoice.decode params = .ok a →
      AsksPage params listAlerts a.page
  | dashboards {a : ListingChoice} : arguments ListingChoice.decode params = .ok a →
      AsksPage params listDashboards a.page
  | search {t : Tool} {signal : Signal} {a : SearchChoice} : t.searched? = some signal →
      arguments SearchChoice.decode params = .ok a → AsksPage params t a.page

/-- Whether an answer is a page. A listing hands on what is no list as it is. -/
def IsPage (t : Tool) (answer : Json) : Prop :=
  t.searched? ≠ none ∨ Page.listed? answer ≠ none

section Answers

variable {offset limit : Int}

theorem exists_paginate_of_pageOf {reply : Json} (page : Page.listed? (pageOf offset limit reply) ≠ none) :
    ∃ items, pageOf offset limit reply = (Page.paginate items offset limit).encode := by
  unfold pageOf at page ⊢
  cases listed : Page.listed? reply with
  | none =>
    simp only [listed] at page
    exact absurd rfl page
  | some items => exact ⟨items, rfl⟩

/-- A page of a list points ahead exactly if it may hold anything. -/
theorem points_of_paginate {items : List Json} (forward : 0 ≤ offset) (nonneg : 0 ≤ limit)
    (fits : Text.FitsInt64 (offset + limit))
    (more : (Page.paginate items offset limit).encode.get? "hasMore" = some (.bool true)) :
    ∃ place next, Points (Page.paginate items offset limit).encode place next ∧ 0 ≤ place ∧
      place ≤ next ∧ (place < next ↔ 1 ≤ limit) := by
  have promised : (Page.paginate items offset limit).hasMore = true := by
    rw [Page.get?_encode_hasMore] at more
    simpa using more
  have named : (Page.paginate items offset limit).next =
      some (addClamped (Page.startOf items offset) limit.toNat) := by
    change (if (Page.paginate items offset limit).hasMore then _ else none) = _
    rw [promised]
    rfl
  have sum : addClamped (Page.startOf items offset) limit.toNat =
      Page.startOf items offset + limit.toNat := by
    rcases fits with ⟨-, high⟩
    simp only [Text.maxInt64] at high
    simp only [addClamped, Page.startOf, Text.maxUInt64]
    omega
  refine ⟨_, _, ⟨Page.get?_encode_offset _, Page.get?_encode_next named⟩, Int.natCast_nonneg _, ?_, ?_⟩
  · rw [Page.paginate_offset, sum]
    omega
  · rw [Page.paginate_offset, sum]
    omega

theorem points_of_searchAnswer {w : Window} {reply : Json} (forward : 0 ≤ offset)
    (nonneg : 0 ≤ limit) (fits : Text.FitsInt64 (offset + limit))
    (more : (searchAnswer w offset limit reply).get? "hasMore" = some (.bool true)) :
    ∃ place next, Points (searchAnswer w offset limit reply) place next ∧ 0 ≤ place ∧
      place ≤ next ∧ (place < next ↔ 1 ≤ limit) := by
  have placed : (searchAnswer w offset limit reply).get? "offset" = some (.int offset) := by
    rw [get?_searchAnswer w offset limit reply (by decide)]
    rfl
  refine ⟨offset, _, ⟨placed, nextOffset_of_hasMore more⟩, forward, ?_, ?_⟩
  · rw [addWrapping_eq fits]
    omega
  · rw [addWrapping_eq fits]
    omega

end Answers

section Planned

variable {limits : PageLimits} {now : Time.Instant} {params : Json} {p : Plan} {offset limit : Int}

theorem answer_of_planServices (planned : planServices limits now params = .ok p)
    {a : ServicesChoice} (read : arguments ServicesChoice.decode params = .ok a)
    (paged : a.page.resolve limits = .ok (offset, limit)) : p.answer = pageOf offset limit := by
  have page : resolvePage a.page limits = .ok (offset, limit) := mapError_eq_ok.2 paged
  rw [planServices, read, ok_bind, page, ok_bind] at planned
  rcases bind_eq_ok.1 planned with ⟨w, -, planned⟩
  rcases pure_eq_ok.1 planned
  rfl

theorem answer_of_planListing {inquiry : Backend.Inquiry}
    (planned : planListing inquiry limits params = .ok p) {a : ListingChoice}
    (read : arguments ListingChoice.decode params = .ok a)
    (paged : a.page.resolve limits = .ok (offset, limit)) : p.answer = pageOf offset limit := by
  have page : resolvePage a.page limits = .ok (offset, limit) := mapError_eq_ok.2 paged
  rw [planListing, read, ok_bind, page, ok_bind] at planned
  rcases pure_eq_ok.1 planned
  rfl

/-- Every tool that answers in pages answers from the page that its arguments settle. -/
theorem answer_of_asksPage {t : Tool} {a : PageChoice} (asks : AsksPage params t a)
    (planned : planned limits now t.name params = .ok p)
    (paged : a.resolve limits = .ok (offset, limit)) :
    t.searched? = none ∧ p.answer = pageOf offset limit ∨
      ∃ w, p.answer = searchAnswer w offset limit := by
  cases asks with
  | services read =>
    rw [planned_name] at planned
    exact .inl ⟨rfl, answer_of_planServices planned read paged⟩
  | alerts read =>
    rw [planned_name] at planned
    exact .inl ⟨rfl, answer_of_planListing planned read paged⟩
  | dashboards read =>
    rw [planned_name] at planned
    exact .inl ⟨rfl, answer_of_planListing planned read paged⟩
  | search searches read =>
    rw [planned_of_searched searches] at planned
    exact .inr (answer_of_planSearch planned read paged)

end Planned

/-- A page that is settled has a place in the list and a limit up to the maximum, and the limit is
positive exactly if one is asked for or the default is. Of a tool that answers in pages, a page that
promises more names a next one, which can be asked for with the same limit. It is never before the
page itself, and it is behind it exactly if the limit is positive: with a default of zero the same
page is named again and again. -/
theorem page_followed_ahead_iff (a : PageChoice) (limits : PageLimits) (offset limit : Int)
    (paged : a.resolve limits = .ok (offset, limit)) :
    (0 ≤ offset ∧ 0 ≤ limit ∧ limit ≤ limits.maximum) ∧
      (1 ≤ limit ↔ (∃ n ∈ a.limit, 0 < n) ∨
        1 ≤ limits.default ∧ ((limits.default : Int) ≤ Text.maxInt64 ∨ 1 ≤ limits.maximum)) ∧
      ∀ (t : Tool) (client : Client) (now : Time.Instant) (params : Json) (peer : Nat → Http.Peer)
        (sent : Nat) (answer : Json), AsksPage params t a →
        ((call client limits now t.name params).run peer sent).1 = .ok answer →
        t.IsPage answer → answer.get? "hasMore" = some (.bool true) →
        Text.FitsInt64 (offset + limit) →
        ∃ place next, Points answer place next ∧ place ≤ next ∧ (place < next ↔ 1 ≤ limit) ∧
          (a.startingAt (some next)).resolve limits = .ok (next, limit) := by
  have within := PageChoice.resolve_within paged
  refine ⟨within, PageChoice.resolve_pos_iff paged, ?_⟩
  rcases within with ⟨forward, nonneg, -⟩
  intro t client now params peer sent answer asks answered page more fits
  have points : ∃ place next, Points answer place next ∧ 0 ≤ place ∧ place ≤ next ∧
      (place < next ↔ 1 ≤ limit) := by
    rcases planned_of_answered answered with ⟨p, reply, planned, -, rfl⟩
    rcases answer_of_asksPage asks planned paged with ⟨listing, answers⟩ | ⟨w, answers⟩
    · rw [answers] at page more ⊢
      rcases page with searches | listed
      · exact absurd listing searches
      · rcases exists_paginate_of_pageOf listed with ⟨items, whole⟩
        rw [whole] at more ⊢
        exact points_of_paginate forward nonneg fits more
    · rw [answers] at more ⊢
      exact points_of_searchAnswer forward nonneg fits more
  rcases points with ⟨place, next, points, inside, behind, ahead⟩
  exact ⟨place, next, points, behind, ahead, PageChoice.resolve_next paged (by omega)⟩

/-- A backend with two alerts. -/
def twoAlerts : Nat → Http.Peer := fun _ _ =>
  .ok ⟨200, .ofJson (.obj [("data", .arr [.str "disk full", .str "high load"])])⟩

/-- With a default of zero the first page of the alerts is followed by itself. -/
theorem alerts_followed_by_same_page :
    let client : Client := ⟨"http://backend", "KEY", none⟩
    let limits : PageLimits := ⟨0, 500⟩
    let ended := (call client limits 1714564800000000000 listAlerts.name (.obj [])).run twoAlerts 0
    PageChoice.empty.resolve limits = .ok (0, 0) ∧ AsksPage (.obj []) listAlerts .empty ∧
      ∃ answer, ended.1 = .ok answer ∧ listAlerts.IsPage answer ∧
        answer.get? "hasMore" = some (.bool true) ∧ ∃ place, Points answer place place := by
  intro client limits ended
  have paged : PageChoice.empty.resolve limits = .ok (0, 0) := rfl
  have asks : AsksPage (.obj []) listAlerts .empty := .alerts (a := ⟨.empty⟩) rfl
  rcases (⟨_, rfl, rfl, rfl⟩ : ∃ answer, ended.1 = .ok answer ∧
      Page.listed? answer = some [] ∧ answer.get? "hasMore" = some (.bool true))
    with ⟨answer, answered, listed, more⟩
  have page : listAlerts.IsPage answer := by
    right
    rw [listed]
    exact Option.some_ne_none _
  rcases page_followed_ahead_iff .empty limits 0 0 paged with ⟨-, -, followed⟩
  rcases followed listAlerts client _ (.obj []) twoAlerts 0 answer asks answered page more (by decide)
    with ⟨place, next, points, behind, ahead, -⟩
  have stays : next = place := by omega
  rw [stays] at points
  exact ⟨paged, asks, answer, answered, page, more, place, points⟩

end Tool

end TelemetryGateway
