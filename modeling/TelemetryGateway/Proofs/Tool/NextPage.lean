import TelemetryGateway.Proofs.Tool.Searching
import TelemetryGateway.Proofs.Tool.SentQueries

set_option autoImplicit false

/-!
# Where the next page of a search starts

An offset has no bound but that of the word that it is read into, so the sum of offset and limit may
leave this word. Where it stays inside, the next page starts right behind the one that was asked for.
Where it leaves, the answer points before the first record, and no page can start there.
-/

namespace TelemetryGateway

namespace PageChoice

variable {a : PageChoice} {limits : PageLimits} {offset limit : Int}

/-- A limit is positive where the default is. -/
theorem chosenLimit_pos (a : PageChoice) (positive : 1 ≤ limits.default)
    (within : limits.default ≤ limits.maximum) : 0 < a.chosenLimit limits := by
  unfold chosenLimit
  split
  · next n kept => simpa using (Option.filter_eq_some_iff.1 kept).2
  · split
    · omega
    · simp only [Text.maxInt64]
      omega

/-- What is known of a page that is settled: both words are in range. -/
theorem resolve_bounds (stored : a.Storable) (positive : 1 ≤ limits.default)
    (within : limits.default ≤ limits.maximum) (paged : a.resolve limits = .ok (offset, limit)) :
    (0 ≤ offset ∧ offset ≤ Text.maxInt64) ∧ 0 < limit ∧ limit ≤ Text.maxInt64 := by
  rcases resolve_eq_ok_iff.1 paged with ⟨⟨rfl, rfl⟩, forward, bounded⟩
  exact ⟨⟨forward, stored.offset_fits.2⟩, a.chosenLimit_pos positive within,
    Int.le_trans bounded (Int.min_le_right _ _)⟩

/-- From another place on the same limit holds. -/
theorem resolve_next (paged : a.resolve limits = .ok (offset, limit)) {next : Int}
    (forward : 0 ≤ next) : (a.startingAt (some next)).resolve limits = .ok (next, limit) := by
  rcases resolve_eq_ok_iff.1 paged with ⟨⟨-, chosen⟩, -, bounded⟩
  exact resolve_eq_ok_iff.2 ⟨⟨rfl, chosen⟩, forward, bounded⟩

theorem resolve_negative (a : PageChoice) (limits : PageLimits) {next : Int} (negative : next < 0) :
    (a.startingAt (some next)).resolve limits = .error (.negativeOffset next) :=
  if_pos negative

end PageChoice

namespace Tool

open Backend (Client)

/-- A sum of two words that lies above the greatest word starts over below zero. -/
theorem addWrapping_of_above {a b : Int} (first : a ≤ Text.maxInt64) (second : b ≤ Text.maxInt64)
    (above : Text.maxInt64 < a + b) : addWrapping a b = a + b - 18446744073709551616 := by
  simp only [Text.maxInt64] at first second above
  rw [addWrapping, Int.bmod_def]
  omega

section Search

variable {signal : Signal} {limits : PageLimits} {now : Time.Instant} {params : Json}

/-- What a planned search makes of any reply. -/
theorem answer_of_planSearch {p : Plan} (planned : planSearch signal limits now params = .ok p)
    {a : SearchChoice} (read : arguments SearchChoice.decode params = .ok a) {offset limit : Int}
    (paged : a.page.resolve limits = .ok (offset, limit)) :
    ∃ w, p.answer = searchAnswer w offset limit := by
  have page : resolvePage a.page limits = .ok (offset, limit) := mapError_eq_ok.2 paged
  rw [planSearch, read, ok_bind, page, ok_bind] at planned
  rcases bind_eq_ok.1 planned with ⟨w, -, planned⟩
  rcases bind_eq_ok.1 planned with ⟨filter, -, planned⟩
  rcases bind_eq_ok.1 planned with ⟨query, -, planned⟩
  rcases pure_eq_ok.1 planned
  exact ⟨w, rfl⟩

/-- An answer that promises more names a next offset. -/
theorem nextOffset_of_hasMore {w : Window} {offset limit : Int} {reply : Json}
    (more : (searchAnswer w offset limit reply).get? "hasMore" = some (.bool true)) :
    (searchAnswer w offset limit reply).get? "nextOffset" =
      some (.int (addWrapping offset limit)) := by
  apply get?_searchAnswer_nextOffset
  rw [get?_searchAnswer w offset limit reply (by decide)] at more
  simpa [Json.get?_obj] using more

end Search

/-- Whatever a search is asked and however the backend replies: where the answer promises more, it
names a next offset, and this is the sum of offset and limit exactly if the sum is a word of 64 bits.
Such an offset lies ahead and is accepted with the same limit. Any other one is negative and refused,
so that the search cannot be followed. -/
theorem next_offset_exact_iff {t : Tool} {signal : Signal} (searches : t.searched? = some signal)
    (client : Client) (limits : PageLimits) (positive : 1 ≤ limits.default)
    (within : limits.default ≤ limits.maximum) (now : Time.Instant) (params : Json)
    (a : SearchChoice) (read : arguments SearchChoice.decode params = .ok a) (offset limit : Int)
    (paged : a.page.resolve limits = .ok (offset, limit)) (peer : Nat → Http.Peer) (sent : Nat)
    (answer : Json)
    (answered : ((call client limits now t.name params).run peer sent).1 = .ok answer)
    (more : answer.get? "hasMore" = some (.bool true)) :
    ∃ next, answer.get? "nextOffset" = some (.int next) ∧
      (next = offset + limit ↔ Text.FitsInt64 (offset + limit)) ∧
      (Text.FitsInt64 (offset + limit) → offset < next ∧
        (a.page.startingAt (some next)).resolve limits = .ok (next, limit)) ∧
      (¬ Text.FitsInt64 (offset + limit) → next < 0 ∧
        (a.page.startingAt (some next)).resolve limits = .error (.negativeOffset next)) := by
  rcases planned_of_answered answered with ⟨p, reply, planned, -, rfl⟩
  rw [planned_of_searched searches] at planned
  rcases answer_of_planSearch planned read paged with ⟨w, answers⟩
  rw [answers] at more ⊢
  have stored := searchChoice_page (mapError_eq_ok.1 read)
  rcases PageChoice.resolve_bounds stored positive within paged with
    ⟨⟨forward, offsetWord⟩, ahead, limitWord⟩
  refine ⟨addWrapping offset limit, nextOffset_of_hasMore more, ?_⟩
  by_cases word : Text.FitsInt64 (offset + limit)
  · have sum : addWrapping offset limit = offset + limit := addWrapping_eq word
    rw [sum]
    refine ⟨by simp [word], fun _ => ⟨by omega, ?_⟩, fun beyond => absurd word beyond⟩
    exact PageChoice.resolve_next paged (by omega)
  · have above : Text.maxInt64 < offset + limit := by
      simp only [Text.FitsInt64, Text.minInt64, Text.maxInt64] at word ⊢
      omega
    have wrapped := addWrapping_of_above offsetWord limitWord above
    have negative : addWrapping offset limit < 0 := by
      simp only [Text.maxInt64] at offsetWord limitWord
      omega
    refine ⟨?_, fun fits => absurd fits word, fun _ => ⟨negative, ?_⟩⟩
    · simp only [word, iff_false]
      omega
    · exact a.page.resolve_negative limits negative

/-- A search for one record at the last offset that a word counts. -/
def lastOffset : Json := .obj [("limit", .int 1), ("offset", .int 9223372036854775807)]

/-- A backend that has a record at every offset. -/
def endless : Nat → Http.Peer := fun _ _ =>
  .ok ⟨200, .ofJson (.obj [("data", .obj [("data", .obj
    [("results", .arr [.obj [("rows", .arr [.str "late"])]])])])])⟩

theorem lastOffset_not_followed :
    let client : Client := ⟨"http://backend", "KEY", none⟩
    let ended := (call client .standard 1714564800000000000 searchLogs.name lastOffset).run endless 0
    ∃ a answer, 1 ≤ PageLimits.standard.default ∧
      PageLimits.standard.default ≤ PageLimits.standard.maximum ∧
      arguments SearchChoice.decode lastOffset = .ok a ∧
      a.page.resolve .standard = .ok (9223372036854775807, 1) ∧ ended.1 = .ok answer ∧
      answer.get? "hasMore" = some (.bool true) ∧
      ∃ next, answer.get? "nextOffset" = some (.int next) ∧ next < 0 ∧
        (a.page.startingAt (some next)).resolve .standard = .error (.negativeOffset next) := by
  intro client ended
  have positive : 1 ≤ PageLimits.standard.default := by decide
  have within : PageLimits.standard.default ≤ PageLimits.standard.maximum := by decide
  obtain ⟨a, read, paged⟩ : ∃ a, arguments SearchChoice.decode lastOffset = .ok a ∧
      a.page.resolve .standard = .ok (9223372036854775807, 1) := ⟨_, rfl, rfl⟩
  obtain ⟨answer, answered, more⟩ : ∃ answer, ended.1 = .ok answer ∧
      answer.get? "hasMore" = some (.bool true) := ⟨_, rfl, rfl⟩
  rcases next_offset_exact_iff (t := searchLogs) rfl client .standard positive within _ lastOffset a
    read _ _ paged endless 0 answer answered more with ⟨next, named, -, -, left⟩
  rcases left (by decide) with ⟨negative, refused⟩
  exact ⟨a, answer, positive, within, read, paged, answered, more, next, named, negative, refused⟩

end Tool

end TelemetryGateway
