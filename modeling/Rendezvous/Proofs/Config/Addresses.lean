import Rendezvous.Config
import Rendezvous.Proofs.Text.Trimming
import Rendezvous.Proofs.Url.WebAddress

/-! The base URLs that settings give, and which of them are taken for one agent's. -/

namespace Rendezvous

namespace Url

/-- Two URLs of one place. Slashes at the end of the path make no difference. -/
structure SameAddress (u v : Location) : Prop where
  scheme : u.scheme = v.scheme
  host : u.host = v.host
  port : u.port = v.port
  path : Endpoint.trimSlashes u.path.text = Endpoint.trimSlashes v.path.text

/-- The text of a place that browsers would write. -/
def standardText (u : Location) : String :=
  u.scheme ++ "://" ++ (u.host.elim "" fun h => Location.authority h u.port) ++
    Endpoint.trimSlashes u.path.text

theorem SameAddress.standardText_eq {u v : Location} (h : SameAddress u v) :
    standardText u = standardText v := by
  rw [standardText, standardText, h.scheme, h.host, h.port, h.path]

/-- A base URL that is written as browsers would write it. -/
def IsStandard (base : String) : Prop := ∃ u, parse base = .ok u ∧ base = standardText u

end Url

namespace Config

open Url (Location)

variable {vs : Values} {b b' : String}

theorem readUrl_eq_ok_iff {v : String} :
    readUrl v = .ok b ↔ ∃ u, Url.parse (Text.trim v) = .ok u ∧ Url.IsWeb u.scheme ∧
      Endpoint.trimSlashes (Text.trim v) = b := by
  unfold readUrl
  cases Url.parse (Text.trim v) with
  | error f => simp
  | ok u =>
    simp only [Except.ok.injEq, exists_eq_left', Url.IsWeb]
    split
    · rename_i hweb
      simp [hweb]
    · rename_i hweb
      simp [hweb]

theorem readUrl_ne_sameAgent (v : String) : readUrl v ≠ .error .sameAgent := by
  unfold readUrl
  split
  · simp
  · split <;> simp

/-- The base URL that a setting gives. -/
def Gives (vs : Values) (s : Setting) (b : String) : Prop :=
  ∃ v, vs s = some v ∧ readUrl v = .ok b

theorem need_eq_ok_iff {s : Setting} {v : String} : vs.need s = .ok v ↔ vs s = some v := by
  unfold Values.need
  cases vs s <;> simp

theorem readUrls_eq_ok_iff :
    readUrls vs = .ok (b, b') ↔
      Gives vs .inviterUrl b ∧ Gives vs .inviteeUrl b' ∧ b ≠ b' := by
  simp only [readUrls, bind_eq_ok_iff, need_eq_ok_iff, mapError_eq_ok_iff, Gives]
  constructor
  · rintro ⟨v, hv, v', hv', b₀, hb, b₀', hb', h⟩
    split at h
    · cases h
    · rename_i hne
      cases h
      exact ⟨⟨v, hv, hb⟩, ⟨v', hv', hb'⟩, hne⟩
  · rintro ⟨⟨v, hv, hb⟩, ⟨v', hv', hb'⟩, hne⟩
    exact ⟨v, hv, v', hv', b, hb, b', hb', by rw [if_neg hne]⟩

theorem need_eq_error {s : Setting} {e : Error} (h : vs.need s = .error e) : e = .missing s := by
  unfold Values.need at h
  split at h <;> cases h
  rfl

theorem readUrls_eq_sameAgent_iff :
    readUrls vs = .error (.invalid .inviteeUrl .sameAgent) ↔
      ∃ b, Gives vs .inviterUrl b ∧ Gives vs .inviteeUrl b := by
  simp only [readUrls, bind_eq_error_iff, mapError_eq_ok_iff, mapError_eq_error_iff,
    need_eq_ok_iff, Gives]
  constructor
  · rintro (h | ⟨v, hv, h | ⟨v', hv', ⟨d, -, h⟩ | ⟨b, hb, ⟨d, hd, h⟩ | ⟨b', hb', h⟩⟩⟩⟩)
    · cases need_eq_error h
    · cases need_eq_error h
    · cases h
    · cases h
      exact absurd hd (readUrl_ne_sameAgent v')
    · split at h
      · subst b'
        exact ⟨b, ⟨v, hv, hb⟩, ⟨v', hv', hb'⟩⟩
      · cases h
  · rintro ⟨b, ⟨v, hv, hb⟩, v', hv', hb'⟩
    exact .inr ⟨v, hv, .inr ⟨v', hv', .inr ⟨b, hb, .inr ⟨b, hb', by rw [if_pos rfl]⟩⟩⟩⟩

def Error.setting : Error → Setting
  | missing s | invalid s _ => s

theorem readOr_setting {α : Type} {s : Setting} {read : String → Except Defect α} {default : α}
    {e : Error} (h : vs.readOr s read default = .error e) : e.setting = s := by
  unfold Values.readOr at h
  split at h
  · obtain ⟨d, -, rfl⟩ := mapError_eq_error_iff.mp h
    rfl
  · cases h

theorem readBackoff_setting {e : Error} (h : readBackoff vs = .error e) :
    e.setting ∈ [.pollInterval, .pollMaxInterval, .pollFactor, .pollTimeout] := by
  simp only [readBackoff, bind_eq_error_iff] at h
  rcases h with h | ⟨_, -, h | ⟨_, -, h | ⟨_, -, h | ⟨_, -, h⟩⟩⟩⟩
  · simp [readOr_setting h]
  · simp [readOr_setting h]
  · simp [readOr_setting h]
  · simp [readOr_setting h]
  · split at h <;> cases h
    simp [Error.setting]

/-- A fault of the base URLs is one of the whole configuration, since they are read first. -/
theorem ofValues_eq_sameAgent_iff {freshAlias : String} :
    ofValues vs freshAlias = .error (.invalid .inviteeUrl .sameAgent) ↔
      readUrls vs = .error (.invalid .inviteeUrl .sameAgent) := by
  simp only [ofValues, bind_eq_error_iff]
  refine ⟨?_, .inl⟩
  rintro (h | ⟨_, -, h | ⟨_, -, h | ⟨_, -, h | ⟨_, -, h | ⟨_, -, h⟩⟩⟩⟩⟩)
  · exact h
  · exact absurd (readBackoff_setting h) (by decide)
  · exact absurd (readOr_setting h) (by decide)
  · exact absurd (readOr_setting h) (by decide)
  · exact absurd (readOr_setting h) (by decide)
  · cases h

theorem readUrls_of_ofValues {freshAlias : String} {c : Config}
    (h : ofValues vs freshAlias = .ok c) :
    readUrls vs = .ok (c.inviter.baseUrl, c.invitee.baseUrl) := by
  simp only [ofValues, bind_eq_ok_iff] at h
  obtain ⟨⟨b, b'⟩, hurls, _, -, _, -, _, -, _, -, hc⟩ := h
  cases hc
  exact hurls

/-- A configuration is refused for naming one agent twice exactly if both settings give one text.
So agents at one address are told from each other only by how their base URLs are written, and two
base URLs in standard form are not of one address. -/
theorem roles_told_apart_by_text (lookup : String → Option String) (unique : String) :
    (ofVariables lookup unique = .error (.invalid .inviteeUrl .sameAgent) ↔
      ∃ b, Gives (.ofLookup lookup) .inviterUrl b ∧ Gives (.ofLookup lookup) .inviteeUrl b) ∧
    ∀ c, ofVariables lookup unique = .ok c →
      Gives (.ofLookup lookup) .inviterUrl c.inviter.baseUrl ∧
      Gives (.ofLookup lookup) .inviteeUrl c.invitee.baseUrl ∧
      c.inviter.baseUrl ≠ c.invitee.baseUrl ∧
      (Url.IsStandard c.inviter.baseUrl → Url.IsStandard c.invitee.baseUrl →
        ∀ u v, Url.parse c.inviter.baseUrl = .ok u → Url.parse c.invitee.baseUrl = .ok v →
          ¬Url.SameAddress u v) := by
  refine ⟨ofValues_eq_sameAgent_iff.trans readUrls_eq_sameAgent_iff, fun c hc => ?_⟩
  obtain ⟨hinviter, hinvitee, hne⟩ := readUrls_eq_ok_iff.mp (readUrls_of_ofValues hc)
  refine ⟨hinviter, hinvitee, hne, fun hstandard hstandard' u v hu hv hsame => ?_⟩
  obtain ⟨u', hu', htext⟩ := hstandard
  obtain ⟨v', hv', htext'⟩ := hstandard'
  obtain rfl : u' = u := Except.ok.inj (hu'.symm.trans hu)
  obtain rfl : v' = v := Except.ok.inj (hv'.symm.trans hv)
  exact hne (htext.trans (hsame.standardText_eq.trans htext'.symm))

/-- Variables that hold no more than two base URLs. -/
def twoUrls (inviter invitee : String) : String → Option String := fun name =>
  if name = Setting.inviterUrl.name then some inviter
  else if name = Setting.inviteeUrl.name then some invitee
  else none

def basesOf (inviter invitee : String) : Option (String × String) :=
  (ofVariables (twoUrls inviter invitee) "q").toOption.map fun c =>
    (c.inviter.baseUrl, c.invitee.baseUrl)

theorem standard_urls_are_told_apart :
    ∃ c, ofVariables (twoUrls "http://inviter:8021/" "http://invitee:8031") "q" = .ok c ∧
      ∃ u v, Url.parse c.inviter.baseUrl = .ok u ∧ Url.parse c.invitee.baseUrl = .ok v ∧
        ¬Url.SameAddress u v := by
  have hbases : basesOf "http://inviter:8021/" "http://invitee:8031" =
      some ("http://inviter:8021", "http://invitee:8031") := by decide +kernel
  obtain ⟨c, hc, hurls⟩ := Option.map_eq_some_iff.mp hbases
  obtain ⟨hinviter, hinvitee⟩ := Prod.mk.inj hurls
  have hu : Url.parse c.inviter.baseUrl =
      .ok ⟨"http", "", none, some (.domain "inviter"), some 8021, .segments [""], none, none⟩ := by
    rw [hinviter]
    exact toOption_eq_some_iff.mp (by decide +kernel)
  have hv : Url.parse c.invitee.baseUrl =
      .ok ⟨"http", "", none, some (.domain "invitee"), some 8031, .segments [""], none, none⟩ := by
    rw [hinvitee]
    exact toOption_eq_some_iff.mp (by decide +kernel)
  have hread := toOption_eq_some_iff.mp hc
  obtain ⟨-, -, -, hapart⟩ := (roles_told_apart_by_text _ _).2 c hread
  exact ⟨c, hread, _, _, hu, hv, hapart ⟨_, hu, by rw [hinviter]; decide +kernel⟩
    ⟨_, hv, by rw [hinvitee]; decide +kernel⟩ _ _ hu hv⟩

/-- One agent under two spellings is taken for two. -/
theorem spelling_hides_same_agent :
    ∃ c, ofVariables (twoUrls "http://localhost:8021" "http://LOCALHOST:8021") "q" = .ok c ∧
      ∃ u, Url.parse c.inviter.baseUrl = .ok u ∧ Url.parse c.invitee.baseUrl = .ok u := by
  have hbases : basesOf "http://localhost:8021" "http://LOCALHOST:8021" =
      some ("http://localhost:8021", "http://LOCALHOST:8021") := by decide +kernel
  obtain ⟨c, hc, hurls⟩ := Option.map_eq_some_iff.mp hbases
  obtain ⟨hinviter, hinvitee⟩ := Prod.mk.inj hurls
  refine ⟨c, toOption_eq_some_iff.mp hc, ⟨"http", "", none, some (.domain "localhost"), some 8021,
    .segments [""], none, none⟩, ?_, ?_⟩
  · rw [hinviter]
    exact toOption_eq_some_iff.mp (by decide +kernel)
  · rw [hinvitee]
    exact toOption_eq_some_iff.mp (by decide +kernel)

end Config

end Rendezvous
