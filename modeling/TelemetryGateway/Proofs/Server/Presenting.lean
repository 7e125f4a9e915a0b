import TelemetryGateway.Proofs.Server.Isolation

set_option autoImplicit false

/-!
# Which key a caller presents

A caller presents the key of its bearer value, or where that holds none the key of the other header. The
server takes the bearer value wherever there is one and looks only then whether anything is left of it.
So a bearer value that holds no key hides the other key, and the caller is served like one that presents
none, with the service's own key. Nothing else is ever overlooked.
-/

namespace TelemetryGateway.Server

open Backend (Client)

/-- Whether a value is a bearer value, with some text behind its scheme, which is in any letter case, and
a space. -/
def Bears (value rest : String) : Prop :=
  ∃ word, value = word ++ " " ++ rest ∧ Text.lowerAscii word = "bearer"

theorem bearer?_eq_some_iff {value rest : String} : bearer? value = some rest ↔ Bears value rest := by
  have scheme_eq : scheme = ("bearer" ++ " ").toList := rfl
  unfold bearer? Bears
  rw [Option.ite_none_right_eq_some, scheme_eq]
  constructor
  · rintro ⟨spelled, kept⟩
    cases kept
    have front : Text.lowerAscii (String.ofList (value.toList.take ("bearer" ++ " ").toList.length)) =
        "bearer" ++ " " := by
      rw [← String.toList_inj, Text.toList_lowerAscii, String.toList_ofList, spelled]
    rcases Text.lowerAscii_eq_append_iff.1 front with ⟨word, space, split, lettered, spaced⟩
    cases Text.lowerAscii_eq_space_iff.1 spaced
    refine ⟨word, ?_, lettered⟩
    rw [← split, ← String.ofList_append, List.take_append_drop, String.ofList_toList]
  · rintro ⟨word, rfl, spelled⟩
    have front : Text.lowerAscii (word ++ " ") = "bearer" ++ " " :=
      Text.lowerAscii_eq_append_iff.2 ⟨word, " ", rfl, spelled, Text.lowerAscii_eq_space_iff.2 rfl⟩
    have lowered : (word ++ " ").toList.map Char.toLower = ("bearer" ++ " ").toList := by
      rw [← Text.toList_lowerAscii, front]
    have size : ("bearer" ++ " ").toList.length = (word ++ " ").toList.length := by
      rw [← lowered, List.length_map]
    have whole : (word ++ " " ++ rest).toList = (word ++ " ").toList ++ rest.toList :=
      String.toList_append
    rw [size, whole, List.take_left, List.drop_left, String.ofList_toList]
    exact ⟨lowered, rfl⟩

section Presented

variable {headers : Headers} {authorization own : Option String} {rest key : String}

/-- The key that two headers present: a bearer key, or where no bearer value holds one the other key. -/
inductive Presents (authorization own : Option String) : String → Prop
  | bearer {value rest key : String} : value ∈ authorization → Bears value rest →
      Text.filled (some rest) = some key → Presents authorization own key
  | other {key : String} : (∀ value ∈ authorization, ∀ rest, Bears value rest → Text.isBlank rest = true) →
      Text.filled own = some key → Presents authorization own key

/-- Whether a bearer value holds no key and stands before one that the other header holds. -/
structure Hides (authorization own : Option String) : Prop where
  blank : ∃ value ∈ authorization, ∃ rest, Bears value rest ∧ Text.isBlank rest = true
  filled : ∃ key, Text.filled own = some key

/-- What is behind the scheme, of a header that is absent or no bearer value nothing. -/
theorem bind_bearer?_eq_some_iff :
    authorization.bind bearer? = some rest ↔ ∃ value ∈ authorization, Bears value rest := by
  simp only [Option.bind_eq_some_iff, bearer?_eq_some_iff, Option.mem_def]

theorem filled_eq_none_iff {s : String} : Text.filled (some s) = none ↔ Text.isBlank s = true := by
  simp [Text.filled, Text.trim_eq_empty_iff]

/-! ### A header with a bearer value and one without -/

section Held

variable (held : authorization.bind bearer? = some rest)

include held

theorem eq_of_bears {value text : String} (given : value ∈ authorization) (bears : Bears value text) :
    text = rest := by
  have same := bind_bearer?_eq_some_iff.2 ⟨value, given, bears⟩
  exact Option.some.inj (same.symm.trans held)

theorem presents_iff_of_bearer :
    Presents authorization own key ↔
      Text.filled (some rest) = some key ∨ Text.isBlank rest = true ∧ Text.filled own = some key := by
  rcases bind_bearer?_eq_some_iff.1 held with ⟨value, given, bears⟩
  constructor
  · intro presented
    cases presented with
    | bearer among other filled =>
      obtain rfl := eq_of_bears held among other
      exact .inl filled
    | other blank filled => exact .inr ⟨blank value given rest bears, filled⟩
  · rintro (filled | ⟨blank, filled⟩)
    · exact .bearer given bears filled
    · refine .other ?_ filled
      intro other among text bearsOther
      obtain rfl := eq_of_bears held among bearsOther
      exact blank

theorem hides_iff_of_bearer :
    Hides authorization own ↔ Text.isBlank rest = true ∧ ∃ key, Text.filled own = some key := by
  constructor
  · rintro ⟨⟨value, given, text, bears, blank⟩, filled⟩
    obtain rfl := eq_of_bears held given bears
    exact ⟨blank, filled⟩
  · rintro ⟨blank, filled⟩
    rcases bind_bearer?_eq_some_iff.1 held with ⟨value, given, bears⟩
    exact ⟨⟨value, given, rest, bears, blank⟩, filled⟩

end Held

section Unheld

variable (unheld : authorization.bind bearer? = none)

include unheld

theorem not_bears {value : String} (given : value ∈ authorization) : ¬ Bears value rest := by
  intro bears
  have held := bind_bearer?_eq_some_iff.2 ⟨value, given, bears⟩
  exact absurd (held.symm.trans unheld) (Option.some_ne_none rest)

theorem presents_iff_of_none : Presents authorization own key ↔ Text.filled own = some key := by
  constructor
  · intro presented
    cases presented with
    | bearer given bears => exact absurd bears (not_bears unheld given)
    | other _ filled => exact filled
  · intro filled
    refine .other ?_ filled
    intro value given rest bears
    exact absurd bears (not_bears unheld given)

theorem not_hides_of_none : ¬ Hides authorization own := by
  rintro ⟨⟨value, given, rest, bears, -⟩, -⟩
  exact not_bears unheld given bears

end Unheld

/-! ### The key that is taken -/

theorem visible?_eq {name : String} {value : Option String} (first : header? headers name = value)
    (visible : ∀ s ∈ value, isVisible s = true) : visible? headers name = value := by
  rw [visible?, first]
  cases value with
  | none => rfl
  | some s => rw [Option.filter_some, visible s rfl, if_pos rfl]

section Taken

variable (first : header? headers "authorization" = authorization)
  (second : header? headers "x-api-key" = own)
  (visible : ∀ value, value ∈ authorization ∨ value ∈ own → isVisible value = true)

include first visible

/-- A bearer value is taken, also where nothing is left of it. -/
theorem credential?_of_bearer (held : authorization.bind bearer? = some rest) :
    credential? headers = Text.filled (some rest) := by
  rw [credential?, visible?_eq first fun s given => visible s (.inl given), Option.bind_eq_bind, held]

include second

theorem credential?_of_none (unheld : authorization.bind bearer? = none) :
    credential? headers = Text.filled own := by
  rw [credential?, visible?_eq first fun s given => visible s (.inl given),
    visible?_eq second fun s given => visible s (.inr given), Option.bind_eq_bind, unheld]

/-- The key that is presented is taken where it is not hidden. -/
theorem credential?_eq_some_iff :
    credential? headers = some key ↔
      Presents authorization own key ∧ ¬ Hides authorization own := by
  cases held : authorization.bind bearer? with
  | none =>
    rw [credential?_of_none first second visible held, presents_iff_of_none held]
    exact (and_iff_left (not_hides_of_none held)).symm
  | some rest =>
    rw [credential?_of_bearer first visible held, presents_iff_of_bearer held,
      hides_iff_of_bearer held, ← filled_eq_none_iff]
    constructor
    · intro filled
      have some : Text.filled (some rest) ≠ none := filled ▸ Option.some_ne_none key
      exact ⟨.inl filled, fun hidden => some hidden.1⟩
    · rintro ⟨filled | ⟨blank, other⟩, shown⟩
      · exact filled
      · exact absurd ⟨blank, key, other⟩ shown

end Taken

/-- Where a key is hidden it is the one that is presented. -/
theorem Hides.exists_presented (hides : Hides authorization own) :
    ∃ key, Presents authorization own key := by
  rcases hides with ⟨⟨value, given, rest, bears, blank⟩, key, filled⟩
  have held := bind_bearer?_eq_some_iff.2 ⟨value, given, bears⟩
  exact ⟨key, (presents_iff_of_bearer held).2 (.inr ⟨blank, filled⟩)⟩

theorem client_of_credential {settings : Settings} {s : Server} (start : s.From settings)
    (presented : credential? headers = some key) :
    (s.clients.resolve (credential? headers)).1 =
      (Client.ofSettings settings.backend).withKey key := by
  rw [(start.clients.resolve _).1, serving_eq, keyFor, presented]
  rfl

theorem client_of_no_credential {settings : Settings} {s : Server} (start : s.From settings)
    (absent : credential? headers = none) :
    (s.clients.resolve (credential? headers)).1 = Client.ofSettings settings.backend := by
  rw [absent, Backend.Cache.resolve_none, start.clients.default]

/-- Of two headers that are visible the server takes the key that they present, unless a bearer value
that holds no key stands before a key in the other header. There, and only there, a presented key is
ignored. A caller is served with the key that is taken, and one whose key is ignored like one that
presents none, with the client of the service itself. -/
theorem presented_key_ignored_iff (headers : Headers) (authorization own : Option String)
    (first : header? headers "authorization" = authorization)
    (second : header? headers "x-api-key" = own)
    (visible : ∀ value, value ∈ authorization ∨ value ∈ own → isVisible value = true) :
    (∀ key, credential? headers = some key ↔
        Presents authorization own key ∧ ¬ Hides authorization own) ∧
      ((∃ key, Presents authorization own key ∧ credential? headers ≠ some key) ↔
        Hides authorization own) ∧
      ∀ (settings : Settings) (s : Server), s.From settings →
        (∀ key, credential? headers = some key → (s.clients.resolve (credential? headers)).1 =
          (Client.ofSettings settings.backend).withKey key) ∧
        (Hides authorization own ∨ (∀ key, ¬ Presents authorization own key) →
          (s.clients.resolve (credential? headers)).1 = Client.ofSettings settings.backend) := by
  have taken (key : String) : credential? headers = some key ↔
      Presents authorization own key ∧ ¬ Hides authorization own :=
    credential?_eq_some_iff first second visible
  refine ⟨taken, ?ignored, ?served⟩
  case ignored =>
    constructor
    · rintro ⟨key, presented, ignored⟩
      by_contra shown
      exact ignored ((taken key).2 ⟨presented, shown⟩)
    · intro hides
      rcases hides.exists_presented with ⟨key, presented⟩
      exact ⟨key, presented, fun taking => ((taken key).1 taking).2 hides⟩
  case served =>
    intro settings s start
    refine ⟨fun key => client_of_credential start, ?_⟩
    intro unserved
    refine client_of_no_credential start (Option.eq_none_iff_forall_ne_some.2 ?_)
    intro key taking
    rcases (taken key).1 taking with ⟨presented, shown⟩
    exact unserved.elim shown fun none => none key presented

end Presented

/-- Two headers, the other one with a key. -/
def withOther (value : String) : Headers := [("Authorization", value), ("X-API-Key", " k-2\t")]

theorem header?_withOther (value : String) :
    header? (withOther value) "authorization" = some value ∧
      header? (withOther value) "x-api-key" = some " k-2\t" := by
  simp [withOther, header?, sameAscii]

/-- A bearer key is taken before the other key, and the other key where the scheme is another one. A
bearer value that ends with its scheme hides the other key, and the caller is served with the key of the
service. -/
theorem blank_bearer_hides_other_key :
    (∀ text ∈ ["bEARER \t k 1 ", "Basic k", "Bearer "], ∀ value,
        value ∈ some text ∨ value ∈ some " k-2\t" → isVisible value = true) ∧
      credential? (withOther "bEARER \t k 1 ") = some "k 1" ∧
      credential? (withOther "Basic k") = some "k-2" ∧
      Presents (some "Bearer ") (some " k-2\t") "k-2" ∧
      credential? (withOther "Bearer ") ≠ some "k-2" ∧
      ((ofSettings (keyed keyless (some "SERVICE"))).clients.resolve
        (credential? (withOther "Bearer "))).1.apiKey = some "SERVICE" := by
  have visible : ∀ text ∈ ["bEARER \t k 1 ", "Basic k", "Bearer "], ∀ value,
      value ∈ some text ∨ value ∈ some " k-2\t" → isVisible value = true := by
    intro text among value given
    have other : isVisible " k-2\t" = true := by decide
    have each : ∀ text ∈ ["bEARER \t k 1 ", "Basic k", "Bearer "], isVisible text = true := by decide
    rcases given with given | given
    · exact Option.some.inj given ▸ each text among
    · exact Option.some.inj given ▸ other
  have decided (text : String) (among : text ∈ ["bEARER \t k 1 ", "Basic k", "Bearer "]) :=
    presented_key_ignored_iff (withOther text) _ _ (header?_withOther text).1 (header?_withOther text).2
      (visible text among)
  have other : Text.filled (some " k-2\t") = some "k-2" := by decide +kernel
  have bare : Bears "Bearer " "" := ⟨"Bearer", by decide, by decide⟩
  have hides : Hides (some "Bearer ") (some " k-2\t") :=
    ⟨⟨_, rfl, _, bare, by decide⟩, "k-2", other⟩
  have held : (some "Bearer ").bind bearer? = some "" := bind_bearer?_eq_some_iff.2 ⟨_, rfl, bare⟩
  refine ⟨visible, ?key, ?scheme, ?presented, ?ignored, ?served⟩
  case key =>
    have held : (some "bEARER \t k 1 ").bind bearer? = some "\t k 1 " := by decide +kernel
    have filled : Text.filled (some "\t k 1 ") = some "k 1" := by decide +kernel
    refine ((decided _ (by decide)).1 "k 1").2 ⟨(presents_iff_of_bearer held).2 (.inl filled), ?_⟩
    rw [hides_iff_of_bearer held]
    exact fun hidden => absurd hidden.1 (by decide)
  case scheme =>
    have unheld : (some "Basic k").bind bearer? = none := by decide +kernel
    exact ((decided _ (by decide)).1 "k-2").2
      ⟨(presents_iff_of_none unheld).2 other, not_hides_of_none unheld⟩
  case presented => exact (presents_iff_of_bearer held).2 (.inr ⟨by decide, other⟩)
  case ignored => exact fun taken => (((decided _ (by decide)).1 "k-2").1 taken).2 hides
  case served =>
    rw [((decided "Bearer " (by decide)).2.2 _ _ (from_ofSettings _)).2 (.inl hides)]
    rfl

end TelemetryGateway.Server
