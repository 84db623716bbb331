import Rendezvous.Proofs.Config.Addresses
import Rendezvous.Proofs.Text.Numeral

/-! Which settings are accepted, what each of them gives, and which one is named when they are
refused. -/

namespace Rendezvous

/-- The rules that a text names, in letters of either case. -/
def Handshake.Matching.Named (s : String) : Handshake.Matching → Prop
  | .strict => Text.asciiLower s = "strict"
  | .lastMatch => Text.asciiLower s = "last-match" ∨ Text.asciiLower s = "last_match"

namespace Config

/-- What is demanded of the settings. -/
inductive Demand
  | given (s : Setting)
  | webAddress (s : Setting)
  /-- The two agents are not one. -/
  | apart
  | number (s : Setting) (most : Nat)
  /-- The factor by which waits grow is not zero. -/
  | nonzeroFactor
  | knownMatching
deriving DecidableEq

namespace Demand

def order : List Demand :=
  [given .inviterUrl, given .inviteeUrl, webAddress .inviterUrl, webAddress .inviteeUrl, apart,
    number .pollInterval (UInt64.size - 1), number .pollMaxInterval (UInt64.size - 1),
    number .pollFactor (UInt32.size - 1), number .pollTimeout (UInt64.size - 1), nonzeroFactor,
    knownMatching, number .runTimeout (UInt64.size - 1), number .requestTimeout (UInt64.size - 1)]

def setting : Demand → Setting
  | given s | webAddress s | number s _ => s
  | apart => .inviteeUrl
  | nonzeroFactor => .pollFactor
  | knownMatching => .matching

def Met (vs : Values) : Demand → Prop
  | given s => ∃ v, vs s = some v
  | webAddress s => ∀ v, vs s = some v →
      ∃ u, Url.parse (Text.trim v) = .ok u ∧ (u.scheme = "http" ∨ u.scheme = "https")
  | apart => ∀ v v', vs .inviterUrl = some v → vs .inviteeUrl = some v' →
      Endpoint.trimSlashes (Text.trim v) ≠ Endpoint.trimSlashes (Text.trim v')
  | number s most => ∀ v, vs s = some v → ∃ n, Text.IsNumeral (Text.trim v) n ∧ n ≤ most
  | nonzeroFactor => ∀ v, vs .pollFactor = some v → ¬Text.IsNumeral (Text.trim v) 0
  | knownMatching => ∀ v, vs .matching = some v →
      ∃ m, Handshake.Matching.Named (Text.trim v) m

end Demand

/-- What is wrong with a value that does not meet a demand. -/
inductive Fails (v : String) : Demand → Defect → Prop
  | noUrl {s f} (refused : Url.parse (Text.trim v) = .error f) : Fails v (.webAddress s) (.url f)
  | noWebUrl {s u} (parsed : Url.parse (Text.trim v) = .ok u)
      (other : ¬(u.scheme = "http" ∨ u.scheme = "https")) :
      Fails v (.webAddress s) (.scheme u.scheme)
  | sameAgent : Fails v .apart .sameAgent
  | noNumber {s most f} (spoils : Text.Spoils most (Text.trim v) f) :
      Fails v (.number s most) (.numeral f)
  | zero (zero : Text.IsNumeral (Text.trim v) 0) : Fails v .nonzeroFactor .zeroFactor
  | unknown (other : ∀ m, ¬Handshake.Matching.Named (Text.trim v) m) :
      Fails v .knownMatching (.matching ⟨Text.asciiLower (Text.trim v)⟩)

/-- The error by which an unmet demand is refused. -/
inductive Refusal (vs : Values) : Demand → Error → Prop
  | missing {s} (none : vs s = none) : Refusal vs (.given s) (.missing s)
  | invalid {d v defect} (given : vs d.setting = some v) (fails : Fails v d defect) :
      Refusal vs d (.invalid d.setting defect)

/-- What a setting gives: that for which its value stands, or the usual if it has none. -/
def Values.Yields {α : Type} (vs : Values) (s : Setting) (stands : String → α → Prop)
    (usual a : α) : Prop :=
  match vs s with
  | some v => stands (Text.trim v) a
  | none => a = usual

/-- What the settings give for the waits between two looks. -/
structure FollowsBackoff (vs : Values) (b : Handshake.Backoff) : Prop where
  pollInterval : ∃ n, vs.Yields .pollInterval Text.IsNumeral 250 n ∧
    b.initial.nanos = 1000000 * n
  pollMaxInterval : ∃ n, vs.Yields .pollMaxInterval Text.IsNumeral 2000 n ∧
    b.cap.nanos = 1000000 * n
  pollFactor : vs.Yields .pollFactor Text.IsNumeral 2 b.factor.toNat
  pollTimeout : ∃ n, vs.Yields .pollTimeout Text.IsNumeral 30 n ∧
    b.budget.nanos = 1000000000 * n

/-- Each part of a configuration comes from its own setting, or is as usual. -/
structure Follows (vs : Values) (freshAlias : String) (c : Config) : Prop where
  inviterUrl : ∃ v, vs .inviterUrl = some v ∧
    c.inviter.baseUrl = Endpoint.trimSlashes (Text.trim v)
  inviteeUrl : ∃ v, vs .inviteeUrl = some v ∧
    c.invitee.baseUrl = Endpoint.trimSlashes (Text.trim v)
  inviterKey : c.inviter.apiKey = vs .inviterKey
  inviteeKey : c.invitee.apiKey = vs .inviteeKey
  aliasName : c.options.aliasName = some ((vs .aliasName).getD freshAlias)
  label : c.options.label = vs .label
  targetState : c.options.targetState = (vs .targetState).getD "request"
  matching : vs.Yields .matching Handshake.Matching.Named .strict c.options.matching
  backoff : FollowsBackoff vs c.options.backoff
  requestTimeout : ∃ n, vs.Yields .requestTimeout Text.IsNumeral 10 n ∧
    c.requestTimeout.nanos = 1000000000 * n
  runTimeout : ∃ n, vs.Yields .runTimeout Text.IsNumeral 120 n ∧
    c.options.limit.nanos = 1000000000 * n

/-- What comes of reading settings of which `ds` is demanded: `P` holds of the result, or the first
demand that is not met is named. -/
inductive Checks {α : Type} (vs : Values) (ds : List Demand) (P : α → Prop) :
    Except Error α → Prop
  | passed {a} (met : ∀ d ∈ ds, d.Met vs) (reads : P a) : Checks vs ds P (.ok a)
  | refused {before d after e} (order : ds = before ++ d :: after)
      (met : ∀ x ∈ before, x.Met vs) (unmet : ¬d.Met vs) (refusal : Refusal vs d e) :
      Checks vs ds P (.error e)

namespace Checks

variable {α β : Type} {vs : Values} {ds ds' : List Demand} {P : α → Prop} {Q : β → Prop}
  {x : Except Error α} {f : α → Except Error β}

theorem bind (hx : Checks vs ds P x) (hf : ∀ a, P a → Checks vs ds' Q (f a)) :
    Checks vs (ds ++ ds') Q (x >>= f) := by
  cases hx with
  | refused order met unmet refusal =>
    exact .refused (by rw [order, List.append_assoc, List.cons_append]) met unmet refusal
  | @passed a met reads =>
    have h := hf a reads
    change Checks vs (ds ++ ds') Q (f a)
    generalize f a = y at h ⊢
    cases h with
    | passed met' reads' =>
      exact .passed (fun d hd => (List.mem_append.mp hd).elim (met d) (met' d)) reads'
    | refused order met' unmet refusal =>
      refine .refused (by rw [order, List.append_assoc]) ?_ unmet refusal
      exact fun d hd => (List.mem_append.mp hd).elim (met d) (met' d)

/-- One demand is met. -/
theorem of_met {d : Demand} {a : α} (met : d.Met vs) (reads : P a) : Checks vs [d] P (.ok a) :=
  .passed (by simpa using met) reads

/-- One demand is not met. -/
theorem of_unmet {d : Demand} {e : Error} (unmet : ¬d.Met vs) (refusal : Refusal vs d e) :
    Checks vs [d] P (.error e) := by
  have order : [d] = [] ++ d :: [] := rfl
  exact .refused order (by simp) unmet refusal

/-- Settings are accepted exactly if all demands are met. -/
theorem exists_ok_iff (h : Checks vs ds P x) : (∃ a, x = .ok a) ↔ ∀ d ∈ ds, d.Met vs := by
  cases h with
  | passed met _ => exact ⟨fun _ => met, fun _ => ⟨_, rfl⟩⟩
  | @refused before d after e order _ unmet _ =>
    constructor
    · rintro ⟨a, ha⟩
      cases ha
    · intro hmet
      exact absurd (hmet d (by rw [order]; simp)) unmet

end Checks

section Stages

variable {α : Type} {vs : Values} {s : Setting} {v v' : String}

theorem checks_need (vs : Values) (s : Setting) :
    Checks vs [.given s] (vs s = some ·) (vs.need s) := by
  unfold Values.need
  cases h : vs s with
  | some v => exact .of_met ⟨v, h⟩ rfl
  | none => exact .of_unmet (by simp [Demand.Met, h]) (.missing h)

theorem checks_readUrl (h : vs s = some v) :
    Checks vs [.webAddress s] (· = Endpoint.trimSlashes (Text.trim v))
      ((readUrl v).mapError (.invalid s)) := by
  unfold readUrl
  cases hu : Url.parse (Text.trim v) with
  | error f =>
    refine .of_unmet (fun hmet => ?_) (.invalid h (.noUrl hu))
    obtain ⟨u, hok, -⟩ := hmet v h
    rw [hu] at hok
    cases hok
  | ok u =>
    by_cases hweb : u.scheme = "http" ∨ u.scheme = "https"
    · dsimp only
      rw [if_pos hweb]
      refine .of_met (fun w hw => ?_) rfl
      rw [h] at hw
      cases hw
      exact ⟨u, hu, hweb⟩
    · dsimp only
      rw [if_neg hweb]
      refine .of_unmet (fun hmet => ?_) (.invalid h (.noWebUrl hu hweb))
      obtain ⟨u', hok, hweb'⟩ := hmet v h
      rw [hu] at hok
      cases hok
      exact hweb hweb'

/-- Both base URLs, from the values `v` and `v'` of their settings. -/
structure Bases (vs : Values) (v v' : String) (b : String × String) : Prop where
  inviter : vs .inviterUrl = some v
  invitee : vs .inviteeUrl = some v'
  first : b.1 = Endpoint.trimSlashes (Text.trim v)
  second : b.2 = Endpoint.trimSlashes (Text.trim v')

theorem checks_readUrls (vs : Values) :
    Checks vs [.given .inviterUrl, .given .inviteeUrl, .webAddress .inviterUrl,
      .webAddress .inviteeUrl, .apart] (fun b => ∃ v v', Bases vs v v' b) (readUrls vs) := by
  refine (checks_need vs .inviterUrl).bind fun v hv => ?_
  refine (checks_need vs .inviteeUrl).bind fun v' hv' => ?_
  refine (checks_readUrl hv).bind fun b hb => ?_
  refine (checks_readUrl hv').bind fun b' hb' => ?_
  split
  · rename_i hsame
    refine .of_unmet (fun hmet => hmet v v' hv hv' ?_) (.invalid hv' .sameAgent)
    rw [← hb, ← hb', hsame]
  · rename_i hne
    refine .of_met (fun w w' hw hw' => ?_) ⟨v, v', hv, hv', hb, hb'⟩
    rw [hv] at hw
    rw [hv'] at hw'
    cases hw
    cases hw'
    rwa [← hb, ← hb']

/-- A setting that may be left out. -/
theorem checks_readOr {d : Demand} {P : α → Prop} {read : String → Except Defect α} {usual : α}
    (hs : d.setting = s) (hnone : vs s = none → d.Met vs ∧ P usual)
    (hok : ∀ v a, vs s = some v → read (Text.trim v) = .ok a → d.Met vs ∧ P a)
    (herror : ∀ v f, vs s = some v → read (Text.trim v) = .error f → ¬d.Met vs ∧ Fails v d f) :
    Checks vs [d] P (vs.readOr s read usual) := by
  unfold Values.readOr
  cases hv : vs s with
  | none =>
    obtain ⟨hmet, hp⟩ := hnone hv
    exact .of_met hmet hp
  | some v =>
    cases hr : read (Text.trim v) with
    | ok a =>
      obtain ⟨hmet, hp⟩ := hok v a hv hr
      dsimp only
      rw [hr]
      exact .of_met hmet hp
    | error f =>
      obtain ⟨hunmet, hfails⟩ := herror v f hv hr
      dsimp only
      rw [hr]
      have hrefusal : Refusal vs d (.invalid d.setting f) := .invalid (by rw [hs, hv]) hfails
      rw [hs] at hrefusal
      exact .of_unmet hunmet hrefusal

/-- A number that is kept in a word of some width. -/
theorem checks_number {word : Nat → α} {toNat : α → Nat} {most : Nat}
    {read : String → Except Defect α} (usual : α) (hword : ∀ n ≤ most, toNat (word n) = n)
    (hread : ∀ t, read t = ((Text.readNumeral most t).map word).mapError .numeral) :
    Checks vs [.number s most]
      (fun a => vs.Yields s Text.IsNumeral (toNat usual) (toNat a)) (vs.readOr s read usual) := by
  apply checks_readOr (s := s) rfl
  · intro hnone
    exact ⟨by simp [Demand.Met, hnone], by simp [Values.Yields, hnone]⟩
  · intro v a hv ha
    have hr := Text.numeralRead most (Text.trim v)
    rw [hread] at ha
    generalize Text.readNumeral most (Text.trim v) = r at ha hr
    cases hr with
    | error => cases ha
    | @ok n stands within =>
      cases ha
      have hyields : vs.Yields s Text.IsNumeral (toNat usual) n := by simpa [Values.Yields, hv]
      refine ⟨?_, by rwa [hword n within]⟩
      simpa [Demand.Met, hv] using ⟨n, stands, within⟩
  · intro v f hv hf
    have hr := Text.numeralRead most (Text.trim v)
    rw [hread] at hf
    generalize Text.readNumeral most (Text.trim v) = r at hf hr
    cases hr with
    | ok => cases hf
    | error spoils other =>
      cases hf
      refine ⟨fun hmet => ?_, .noNumber spoils⟩
      obtain ⟨n, stands, within⟩ := hmet v hv
      exact absurd within (Nat.not_le.mpr (other n stands))

theorem checks_readNumber (vs : Values) (s : Setting) (usual : UInt64) :
    Checks vs [.number s (UInt64.size - 1)]
      (fun n => vs.Yields s Text.IsNumeral usual.toNat n.toNat) (vs.readOr s readNumber usual) :=
  checks_number usual (fun _ hn => UInt64.toNat_ofNat_of_lt' (Nat.lt_of_le_pred (by decide) hn))
    fun _ => rfl

theorem checks_readFactor (vs : Values) (usual : UInt32) :
    Checks vs [.number .pollFactor (UInt32.size - 1)]
      (fun n => vs.Yields .pollFactor Text.IsNumeral usual.toNat n.toNat)
      (vs.readOr .pollFactor readFactor usual) :=
  checks_number usual (fun _ hn => UInt32.toNat_ofNat_of_lt' (Nat.lt_of_le_pred (by decide) hn))
    fun _ => rfl

theorem named_of_ofText {t : String} {m : Handshake.Matching}
    (h : Handshake.Matching.ofText t = .ok m) : m.Named (Text.trim t) := by
  unfold Handshake.Matching.ofText at h
  split at h
  · rename_i hname
    cases h
    exact hname
  · rename_i hname
    cases h
    exact .inl hname
  · rename_i hname
    cases h
    exact .inr hname
  · cases h

theorem unnamed_of_ofText {t : String} {u : Handshake.UnknownMatching}
    (h : Handshake.Matching.ofText t = .error u) :
    u = ⟨Text.asciiLower (Text.trim t)⟩ ∧
      ∀ m : Handshake.Matching, ¬m.Named (Text.trim t) := by
  unfold Handshake.Matching.ofText at h
  split at h
  · cases h
  · cases h
  · cases h
  · rename_i hstrict hdash hbar
    refine ⟨(Except.error.inj h).symm, fun m hm => ?_⟩
    cases m with
    | strict => exact hstrict hm
    | lastMatch => exact hm.elim hdash hbar

theorem checks_readMatching (vs : Values) (usual : Handshake.Matching) :
    Checks vs [.knownMatching] (vs.Yields .matching Handshake.Matching.Named usual)
      (vs.readOr .matching readMatching usual) := by
  apply checks_readOr (s := .matching) rfl
  · intro hnone
    exact ⟨by simp [Demand.Met, hnone], by simp [Values.Yields, hnone]⟩
  · intro v m hv hm
    have hnamed := named_of_ofText (mapError_eq_ok_iff.mp hm)
    rw [Text.trim_trim] at hnamed
    refine ⟨?_, by simpa [Values.Yields, hv]⟩
    simpa [Demand.Met, hv] using ⟨m, hnamed⟩
  · intro v f hv hf
    obtain ⟨u, hu, rfl⟩ := mapError_eq_error_iff.mp hf
    obtain ⟨rfl, hother⟩ := unnamed_of_ofText hu
    rw [Text.trim_trim] at hother ⊢
    refine ⟨fun hmet => ?_, .unknown hother⟩
    obtain ⟨m, hm⟩ := hmet v hv
    exact hother m hm

/-- A factor that is not as usual comes from a value. -/
theorem given_of_zero {factor : UInt32}
    (h : vs.Yields .pollFactor Text.IsNumeral 2 factor.toNat) (hzero : factor = 0) :
    ∃ v, vs .pollFactor = some v ∧ Text.IsNumeral (Text.trim v) 0 := by
  subst hzero
  unfold Values.Yields at h
  split at h
  · rename_i v hv
    exact ⟨v, hv, h⟩
  · cases h

theorem checks_readBackoff (vs : Values) :
    Checks vs [.number .pollInterval (UInt64.size - 1), .number .pollMaxInterval (UInt64.size - 1),
      .number .pollFactor (UInt32.size - 1), .number .pollTimeout (UInt64.size - 1), .nonzeroFactor]
      (FollowsBackoff vs) (readBackoff vs) := by
  refine (checks_readNumber vs .pollInterval 250).bind fun initial hinitial => ?_
  refine (checks_readNumber vs .pollMaxInterval 2000).bind fun cap hcap => ?_
  refine (checks_readFactor vs 2).bind fun factor hfactor => ?_
  refine (checks_readNumber vs .pollTimeout 30).bind fun budget hbudget => ?_
  split
  · rename_i hzero
    obtain ⟨v, hv, hstands⟩ := given_of_zero hfactor hzero
    exact .of_unmet (fun hmet => hmet v hv hstands) (.invalid hv (.zero hstands))
  · rename_i hne
    refine .of_met (fun v hv hstands => hne ?_)
      ⟨⟨_, hinitial, rfl⟩, ⟨_, hcap, rfl⟩, hfactor, ⟨_, hbudget, rfl⟩⟩
    rw [Values.Yields, hv] at hfactor
    exact UInt32.toNat_inj.mp (hfactor.value.symm.trans hstands.value)

/-- The demands come one by one as the settings are read. -/
theorem checks_ofValues (vs : Values) (freshAlias : String) :
    Checks vs Demand.order (Follows vs freshAlias) (ofValues vs freshAlias) := by
  refine (checks_readUrls vs).bind fun ⟨b, b'⟩ ⟨v, v', hb⟩ => ?_
  refine (checks_readBackoff vs).bind fun backoff hbackoff => ?_
  refine (checks_readMatching vs .strict).bind fun matching hmatching => ?_
  refine (checks_readNumber vs .runTimeout 120).bind fun limit hlimit => ?_
  refine (checks_readNumber vs .requestTimeout 10).bind fun timeout htimeout => ?_
  have hnone : ∀ d ∈ ([] : List Demand), d.Met vs := by simp
  refine .passed hnone ?_
  constructor
  · exact ⟨v, hb.inviter, hb.first⟩
  · exact ⟨v', hb.invitee, hb.second⟩
  · rfl
  · rfl
  · rfl
  · rfl
  · rfl
  · exact hmatching
  · exact hbackoff
  · exact ⟨_, htimeout, rfl⟩
  · exact ⟨_, hlimit, rfl⟩

end Stages

/-- Only a value that is not blank counts. -/
theorem ofLookup_eq_some_iff {lookup : String → Option String} {s : Setting} {v : String} :
    Values.ofLookup lookup s = some v ↔
      lookup s.name = some v ∧ ∃ c ∈ v.toList, ¬Text.isBlank c := by
  simp [Values.ofLookup, Option.filter_eq_some_iff, Text.blank]

theorem Refusal.setting_eq {vs : Values} {d : Demand} {e : Error} (h : Refusal vs d e) :
    e.setting = d.setting := by
  cases h with
  | missing none => rfl
  | invalid given fails => rfl

/-- Settings are accepted exactly if all demands are met. Each part of the configuration then comes
from its own setting alone, or is as usual. Otherwise the error is about the first demand that is
not met. -/
theorem settings_accepted_iff_demands_met (lookup : String → Option String) (unique : String) :
    (∀ s v, Values.ofLookup lookup s = some v ↔
      lookup s.name = some v ∧ ∃ c ∈ v.toList, ¬Text.isBlank c) ∧
      let vs := Values.ofLookup lookup
      ((∃ c, ofVariables lookup unique = .ok c) ↔ ∀ d ∈ Demand.order, d.Met vs) ∧
      (∀ c, ofVariables lookup unique = .ok c → Follows vs (freshAlias unique) c) ∧
      ∀ e, ofVariables lookup unique = .error e →
        ∃ before d after, Demand.order = before ++ d :: after ∧ (∀ x ∈ before, x.Met vs) ∧
          ¬d.Met vs ∧ Refusal vs d e ∧ e.setting = d.setting := by
  refine ⟨fun s v => ofLookup_eq_some_iff, ?_⟩
  intro vs
  have hchecks : Checks vs Demand.order (Follows vs (freshAlias unique))
      (ofVariables lookup unique) := checks_ofValues vs _
  refine ⟨hchecks.exists_ok_iff, ?_, ?_⟩
  · intro c hc
    rw [hc] at hchecks
    cases hchecks with
    | passed _ reads => exact reads
  · intro e he
    rw [he] at hchecks
    cases hchecks with
    | refused order met unmet refusal =>
      exact ⟨_, _, _, order, met, unmet, refusal, refusal.setting_eq⟩

end Config

end Rendezvous
