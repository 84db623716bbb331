import Rendezvous.Proofs.Config.Addresses
import Rendezvous.Proofs.Handshake.Blame
import Rendezvous.Proofs.Http.Classification

/-! The base URLs that settings give: what is trimmed off their texts, whether they are settings
that give themselves, and where they turn up again. -/

namespace Rendezvous.Http

open Config (readUrl readUrl_eq_ok_iff)
open Handshake
open Url

variable {v b : String}

/-! ### Trimming -/

/-- White space stands between the slashes at the end of a setting and what comes before them. -/
def HidesBlank (v : String) : Prop :=
  ∃ front c n, (Text.trim v).toList = front ++ c :: List.replicate (n + 1) '/' ∧
    Text.isBlank c = true

/-- A base URL starts as its setting does, so there is no white space. -/
theorem head_not_blank (h : Endpoint.trimSlashes (Text.trim v) = b) :
    ∀ c ∈ b.toList.head?, Text.isBlank c = false := by
  obtain ⟨⟨n, hn⟩, -⟩ := Endpoint.trimSlashes_eq_iff.mp h
  intro c hc
  refine (Text.trim_eq_self_iff.mp (Text.trim_trim v)).1 c ?_
  rw [hn, List.head?_append, Option.mem_def.mp hc]
  rfl

/-- White space is left at the end of a base URL only if slashes came behind it. -/
theorem trim_eq_self_iff_not_hidesBlank (h : Endpoint.trimSlashes (Text.trim v) = b) :
    Text.trim b = b ↔ ¬HidesBlank v := by
  obtain ⟨⟨n, hn⟩, hslash⟩ := Endpoint.trimSlashes_eq_iff.mp h
  rw [Text.trim_eq_self_iff, and_iff_right (head_not_blank h)]
  constructor
  · rintro hlast ⟨front, c, m, hv, hblank⟩
    have hc : c ≠ '/' := by
      rintro rfl
      exact absurd hblank (by decide)
    have hb : Endpoint.trimSlashes (Text.trim v) = String.ofList (front ++ [c]) := by
      refine Endpoint.trimSlashes_eq_iff.mpr ⟨⟨m + 1, by simp [hv]⟩, ?_⟩
      rw [String.toList_ofList, List.getLast?_concat]
      exact fun heq => hc (Option.some.inj heq)
    rw [← h, hb, String.toList_ofList] at hlast
    rw [hlast c List.getLast?_concat] at hblank
    cases hblank
  · intro hhides c hc
    obtain ⟨front, hfront⟩ := List.getLast?_eq_some_iff.mp hc
    rw [Bool.eq_false_iff]
    intro hblank
    cases n with
    | zero =>
      have hend := (Text.trim_eq_self_iff.mp (Text.trim_trim v)).2 c
      rw [hn, List.replicate_zero, List.append_nil] at hend
      rw [hend hc] at hblank
      cases hblank
    | succ n => exact hhides ⟨front, c, n, by simp [hn, hfront], hblank⟩

/-! ### Reading a base URL again -/

/-- A base URL is a setting that is accepted, for the same scheme and the same place: what has been
trimmed off belonged to neither. -/
theorem readUrl_of_accepted (h : readUrl v = .ok b) :
    readUrl b = .ok (Endpoint.trimSlashes (Text.trim b)) := by
  obtain ⟨u, hu, hweb, hb⟩ := readUrl_eq_ok_iff.mp h
  obtain ⟨⟨n, hn⟩, -⟩ := Endpoint.trimSlashes_eq_iff.mp hb
  obtain ⟨zs, hzs, hblank⟩ := Text.exists_trim_append (head_not_blank hb)
  obtain ⟨t, ht, hmem⟩ := exists_clean_append (Text.trim b).toList (zs ++ List.replicate n '/')
  have hloose : ∀ c ∈ t, isLoose c = true := by
    intro c hc
    rcases hmem c hc with hc | hle
    · rcases List.mem_append.mp hc with hc | hc
      · simp [isLoose, isPadding, hblank c hc]
      · rw [List.eq_of_mem_replicate hc]
        rfl
    · simp [isLoose, isPadding, hle]
  obtain ⟨a, path, query, fragment, hwritten, -⟩ := (parse_eq_ok_iff hweb).mp hu
  rw [hn, hzs, List.append_assoc, ht] at hwritten
  obtain ⟨path', query', fragment', hfront⟩ : ∃ path' query' fragment',
      Written (clean (Text.trim b).toList) u.scheme a path' query' fragment' := by
    rcases hwritten.of_append_loose hloose with
      ⟨path', -, -, -, hfront⟩ | ⟨-, query', fragment', -, hfront⟩
    · exact ⟨path', none, none, hfront⟩
    · exact ⟨path, query', fragment', hfront⟩
  have hparse : Url.parse (Text.trim b) = .ok (locate u.scheme a path' query' fragment') :=
    (parse_eq_ok_iff (u := locate u.scheme a path' query' fragment') hweb).mpr
      ⟨a, path', query', fragment', hfront, rfl⟩
  exact readUrl_eq_ok_iff.mpr ⟨_, hparse, hweb, rfl⟩

/-- If the two trimmings together take nothing off a text, then neither does the first of them. -/
theorem trim_eq_self_of_trimSlashes (hfirst : ∀ c ∈ b.toList.head?, Text.isBlank c = false)
    (h : Endpoint.trimSlashes (Text.trim b) = b) : Text.trim b = b := by
  obtain ⟨zs, hzs, -⟩ := Text.exists_trim_append hfirst
  obtain ⟨⟨n, hn⟩, -⟩ := Endpoint.trimSlashes_eq_iff.mp h
  have hlength := congrArg List.length hzs
  rw [hn, List.length_append, List.length_append] at hlength
  have hnil : zs = [] := List.length_eq_zero_iff.mp (by omega)
  rw [hnil, List.append_nil] at hzs
  exact (String.toList_inj.mp hzs).symm

/-! ### Where a base URL turns up -/

theorem endpoint_of_ask [Text.Encodings] (clients : Side → Client) {call : Agent.Call}
    {t : Traffic} {f : Agent.Fault} (h : ((agents clients).ask call t).1.answer = .error f) :
    f.endpoint = (agents clients).endpoint call.side := by
  rw [ask_answer] at h
  exact (Client.settle_eq_error_iff.mp h).endpoint_eq

/-- The agent that a client calls is named by the base URL `b`: in the client, in the faults of its
calls, and in the failures of handshakes at steps of that agent. -/
structure ReportedAs [Text.Encodings] (c : Client) (b : String) : Prop where
  baseUrl : c.endpoint.baseUrl = b
  faults : ∀ call t f, (c.ask call.side call t).1.answer = .error f → f.endpoint = b
  failures : ∀ (clients : Side → Client) o cancelAfter w f s, clients s.side = c →
    (perform (agents clients) o cancelAfter w).result o.limit = some (.error f) →
      f.step? = some s → f.endpoint? = some b

theorem reportedAs_baseUrl [Text.Encodings] (c : Client) : ReportedAs c c.endpoint.baseUrl where
  baseUrl := rfl
  faults := fun _ _ _ h => endpoint_of_ask (fun _ => c) h
  failures := by
    rintro clients o cancelAfter w f s rfl hresult hstep
    exact blames_perform (fun _ _ _ => endpoint_of_ask clients) hresult s hstep

/-- An accepted base URL starts with no white space and ends with no slash, it is accepted again,
and its agent is named by it as it is. No white space ends it, and it is read again as it is,
exactly if none stands before the slashes at the end of its setting: such white space is not trimmed
off with them. -/
theorem accepted_base_keeps_its_form [Text.Encodings] (v b : String) (h : readUrl v = .ok b) :
    (∀ x ∈ b.toList.head?, Text.isBlank x = false) ∧ b.toList.getLast? ≠ some '/' ∧
    (Text.trim b = b ↔ ¬HidesBlank v) ∧
    readUrl b = .ok (Endpoint.trimSlashes (Text.trim b)) ∧ (readUrl b = .ok b ↔ ¬HidesBlank v) ∧
    ∀ key timeout, ReportedAs (.ofEndpoint ⟨b, key⟩ timeout) b := by
  obtain ⟨-, -, -, hb⟩ := readUrl_eq_ok_iff.mp h
  have hfirst := head_not_blank hb
  have hslash := (Endpoint.trimSlashes_eq_iff.mp hb).2
  have htrim := trim_eq_self_iff_not_hidesBlank hb
  have hagain := readUrl_of_accepted h
  refine ⟨hfirst, hslash, htrim, hagain, ?_, fun key timeout => ?_⟩
  · rw [← htrim, hagain, Except.ok.injEq]
    refine ⟨trim_eq_self_of_trimSlashes hfirst, fun heq => ?_⟩
    rw [heq, Endpoint.trimSlashes_eq_self hslash]
  · have hbaseUrl : (Client.ofEndpoint ⟨b, key⟩ timeout).endpoint.baseUrl = b :=
      Endpoint.trimSlashes_eq_self hslash
    have hreported := reportedAs_baseUrl (.ofEndpoint ⟨b, key⟩ timeout)
    rwa [hbaseUrl] at hreported

/-- White space around the text, and slashes within it, are trimmed off at once. -/
theorem padded_base_keeps_its_form :
    readUrl " http://localhost:8021// " = .ok "http://localhost:8021" ∧
    ¬HidesBlank " http://localhost:8021// " ∧
    readUrl "http://localhost:8021" = .ok "http://localhost:8021" := by
  have hread : readUrl " http://localhost:8021// " = .ok "http://localhost:8021" :=
    toOption_eq_some_iff.mp (by decide +kernel)
  obtain ⟨-, -, htrim, -, hagain, -⟩ := accepted_base_keeps_its_form _ _ hread
  have hhides := htrim.mp (by decide +kernel)
  exact ⟨hread, hhides, hagain.mpr hhides⟩

/-- A space before the last slash is left at the end. It is trimmed off, with the slash before it,
when the base URL is read again. -/
theorem hidden_blank_comes_off_later :
    readUrl "http://localhost:8021/ /" = .ok "http://localhost:8021/ " ∧
    Text.trim "http://localhost:8021/ " ≠ "http://localhost:8021/ " ∧
    readUrl "http://localhost:8021/ " = .ok "http://localhost:8021" := by
  exact ⟨toOption_eq_some_iff.mp (by decide +kernel), by decide +kernel,
    toOption_eq_some_iff.mp (by decide +kernel)⟩

end Rendezvous.Http
