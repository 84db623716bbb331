import Rendezvous.Proofs.Failing
import Rendezvous.Proofs.Text.Percent
import Rendezvous.Proofs.Text.Utf8
import Rendezvous.Proofs.Unicode.Normal
import Rendezvous.Proofs.Url.Hosts
import Rendezvous.Proofs.Url.Splitting

/-! White space and controls are no part of a place: no host and no port ends with one. -/

namespace Rendezvous.Url

variable {c x : Char} {cs : List Char} {scheme : String}

/-- A character that is trimmed off a setting, or goes from around a URL. -/
def isPadding (c : Char) : Bool := Text.isBlank c || c.toNat ≤ 0x20

/-- A character that may be missing at the end of a base URL. -/
def isLoose (c : Char) : Bool := c == '/' || isPadding c

/-! ### White space in names -/

/-- White space beyond ASCII that no domain name may hold. -/
def bannedBlanks : List Nat := [0x85, 0x1680, 0x2028, 0x2029]

/-- White space beyond ASCII that stands for a space in a domain name. -/
def spaceBlanks : List Nat :=
  [0xA0, 0x2000, 0x2001, 0x2002, 0x2003, 0x2004, 0x2005, 0x2006, 0x2007, 0x2008, 0x2009, 0x200A,
    0x202F, 0x205F, 0x3000]

theorem mem_blanks_of_isBlank (h : Text.isBlank c = true) (hc : 0x20 < c.toNat) :
    c.toNat ∈ bannedBlanks ∨ c.toNat ∈ spaceBlanks := by
  simp only [Text.isBlank, Bool.or_eq_true, Bool.and_eq_true, decide_eq_true_eq, beq_iff_eq] at h
  simp only [bannedBlanks, spaceBlanks, List.mem_cons, List.not_mem_nil, or_false]
  omega

theorem exists_spelt_disallowedText : ∃ css, Unicode.Spelt css disallowedText ∧
    bannedBlanks.all (fun n => (Unicode.find?
      ((Unicode.wordsOf css).map Unicode.rangeOfWord) (Char.ofNat n)).isSome) = true := by
  delta disallowedText
  apply Exists.intro
  apply And.intro
  · repeat' first | apply Unicode.Spelt.nil | apply Unicode.Spelt.cons | apply Eq.refl
  · decide +kernel

theorem exists_spelt_ignoredText : ∃ css, Unicode.Spelt css ignoredText ∧
    spaceBlanks.all (fun n => (Unicode.find?
      ((Unicode.wordsOf css).map Unicode.rangeOfWord) (Char.ofNat n)).isNone) = true := by
  delta ignoredText
  apply Exists.intro
  apply And.intro
  · repeat' first | apply Unicode.Spelt.nil | apply Unicode.Spelt.cons | apply Eq.refl
  · decide +kernel

theorem exists_spelt_mappedText : ∃ css, Unicode.Spelt css mappedText ∧
    spaceBlanks.all (fun n => (((Unicode.wordsOf css).map mappingOfWord).find? fun m =>
      m.first ≤ n && n ≤ m.last && (n - m.first) % m.stride == 0).any fun m =>
        m.target.map (fun t => Char.ofNat (t + (n - m.first))) == [' ']) = true := by
  delta mappedText
  apply Exists.intro
  apply And.intro
  · repeat' first | apply Unicode.Spelt.nil | apply Unicode.Spelt.cons | apply Eq.refl
  · decide +kernel

theorem mapChar_of_banned (h : c.toNat ∈ bannedBlanks) : mapChar c = none := by
  obtain ⟨css, hcss, hall⟩ := exists_spelt_disallowedText
  have hfound := List.all_eq_true.mp hall c.toNat h
  rw [← hcss.words_eq, Char.ofNat_toNat] at hfound
  have hwide : ∀ n ∈ bannedBlanks, ¬n < 0x80 := by decide
  rw [mapChar, if_neg (hwide _ h)]
  exact if_pos hfound

theorem mapChar_of_space (h : c.toNat ∈ spaceBlanks) :
    mapChar c = none ∨ mapChar c = some [' '] := by
  obtain ⟨css, hcss, hall⟩ := exists_spelt_ignoredText
  have hkept := List.all_eq_true.mp hall c.toNat h
  rw [← hcss.words_eq, Char.ofNat_toNat, Option.isNone_iff_eq_none] at hkept
  have hignored : Unicode.find? ignored c = none := hkept
  obtain ⟨css', hcss', hall'⟩ := exists_spelt_mappedText
  have hmapped := List.all_eq_true.mp hall' c.toNat h
  rw [← hcss'.words_eq] at hmapped
  change Option.any _ (mappings.find? _) = true at hmapped
  have hwide : ∀ n ∈ spaceBlanks, ¬n < 0x80 := by decide
  rw [mapChar, if_neg (hwide _ h)]
  split
  · exact .inl rfl
  · rw [hignored]
    refine .inr ?_
    cases hm : mappings.find? fun m =>
        m.first ≤ c.toNat && c.toNat ≤ m.last && (c.toNat - m.first) % m.stride == 0 with
    | none =>
      rw [hm] at hmapped
      cases hmapped
    | some m =>
      rw [hm] at hmapped
      exact congrArg some (beq_iff_eq.mp hmapped)

/-- A name cannot hold padding, since what stands for it is a control or a space. -/
theorem mapChar_of_isPadding (h : isPadding c = true) :
    mapChar c = none ∨ ∃ y, mapChar c = some [y] ∧ y.toNat ≤ 0x20 := by
  by_cases hc : c.toNat ≤ 0x20
  · refine .inr ⟨c, ?_, hc⟩
    have hlower : ∀ n ≤ 0x20, (Char.ofNat n).toLower = Char.ofNat n := by decide
    have hself := hlower c.toNat hc
    rw [Char.ofNat_toNat] at hself
    rw [mapChar, if_pos (by omega), hself]
  · have hblank : Text.isBlank c = true := by simpa [isPadding, hc] using h
    rcases mem_blanks_of_isBlank hblank (by omega) with hbanned | hspace
    · exact .inl (mapChar_of_banned hbanned)
    · exact (mapChar_of_space hspace).imp_right fun heq => ⟨' ', heq, by decide⟩

/-! ### Marks -/

/-- Padding is no character that is printed in ASCII. -/
theorem toNat_of_isPadding (h : isPadding c = true) : c.toNat ≤ 0x20 ∨ 0x7F < c.toNat := by
  simp only [isPadding, Text.isBlank, Bool.or_eq_true, Bool.and_eq_true, decide_eq_true_eq,
    beq_iff_eq] at h
  omega

theorem ne_of_isPadding (h : isPadding c = true) (hx : 0x20 < x.toNat ∧ x.toNat ≤ 0x7F) : c ≠ x := by
  rintro rfl
  have hbounds := toNat_of_isPadding h
  omega

theorem isDigit_of_isPadding (h : isPadding c = true) : c.isDigit = false := by
  have hbounds := toNat_of_isPadding h
  rw [Bool.eq_false_iff]
  intro hdigit
  simp only [Char.isDigit, Bool.and_eq_true, decide_eq_true_eq] at hdigit
  have hlow : 48 ≤ c.toNat := hdigit.1
  have hhigh : c.toNat ≤ 57 := hdigit.2
  omega

theorem hexDigit?_of_isPadding (h : isPadding c = true) : Text.hexDigit? c = none := by
  have hbounds := toNat_of_isPadding h
  have hletter : ∀ low high : Char, 0x20 < low.toNat → high.toNat ≤ 0x7F → ¬(low ≤ c ∧ c ≤ high) := by
    rintro low high hlow hhigh ⟨hle, hge⟩
    have hle' : low.toNat ≤ c.toNat := hle
    have hge' : c.toNat ≤ high.toNat := hge
    omega
  rw [Text.hexDigit?, isDigit_of_isPadding h, if_neg Bool.false_ne_true,
    if_neg (hletter 'a' 'f' (by decide) (by decide)),
    if_neg (hletter 'A' 'F' (by decide) (by decide))]

/-! ### Hosts -/

theorem mem_of_mem_splitOn (h : c ∈ cs) (hc : c ≠ x) : ∃ l ∈ cs.splitOn x, c ∈ l := by
  have hjoin : [x].intercalate (cs.splitOn x) = cs := List.intercalate_splitOn x
  rw [← hjoin] at h
  rcases of_mem_intercalate h with h | h
  · exact absurd (List.mem_singleton.mp h) hc
  · exact h

theorem domainToAscii?_of_isPadding (hx : isPadding x = true) (h : x ∈ cs) :
    domainToAscii? cs = none := by
  cases hname : domainToAscii? cs with
  | none => rfl
  | some name =>
    obtain ⟨mapped, hmapped, hname⟩ := Option.bind_eq_some_iff.mp hname
    obtain ⟨scripts, hscripts, -⟩ := Option.bind_eq_some_iff.mp hname
    obtain ⟨ys, hmem, hys⟩ := exists_of_mem_of_mapM hmapped h
    rcases mapChar_of_isPadding hx with hnone | ⟨y, hy, hle⟩
    · rw [hys] at hnone
      cases hnone
    · obtain rfl : ys = [y] := Option.some.inj (hys.symm.trans hy)
      have hflat : y ∈ mapped.flatten := List.mem_flatten_of_mem hmem (List.mem_singleton_self y)
      have hpoint : y ≠ '.' := by
        rintro rfl
        exact absurd hle (by decide)
      obtain ⟨label, hlabel, hy⟩ := mem_of_mem_splitOn (Unicode.mem_normalize hle hflat) hpoint
      obtain ⟨u, -, hu⟩ := exists_of_mem_of_mapM hscripts hlabel
      have hallowed := not_forbidden_of_mem_label hu hy
      simp [isForbiddenInDomain, hle] at hallowed

/-- No host ends with padding. -/
theorem Host.read_concat_ne_ok (hx : isPadding x = true) (cs : List Char) (h : Host) :
    Host.read (cs ++ [x]) ≠ .ok h := by
  intro hread
  unfold Host.read at hread
  split at hread
  · rename_i address hbracketed
    unfold bracketed? at hbracketed
    split at hbracketed
    · rename_i r hcs
      have hlast : r.getLast? ≠ some ']' := by
        intro hclosed
        have hend := congrArg List.getLast? hcs
        rw [List.getLast?_concat, List.getLast?_cons, hclosed] at hend
        exact ne_of_isPadding hx (by decide) (Option.some.inj hend)
      rw [if_neg hlast] at hbracketed
      cases hbracketed
      cases hread
    · cases hbracketed
  · rw [Text.percentDecode_concat (hexDigit?_of_isPadding hx)] at hread
    cases hdecoded : Text.decodeUtf8? (Text.percentDecode cs ++ String.utf8EncodeChar x) with
    | none =>
      rw [hdecoded] at hread
      cases hread
    | some name =>
      have hmem := Text.mem_of_decodeUtf8?_concat hdecoded
      rw [hdecoded, Option.bind_some, domainToAscii?_of_isPadding hx hmem] at hread
      cases hread

/-! ### Places -/

theorem isDigit_of_readDigits {most value n : Nat} (h : Text.readDigits most value cs = .ok n)
    (hc : c ∈ cs) : c.isDigit = true := by
  induction cs generalizing value with
  | nil => cases hc
  | cons d cs ih =>
    rw [Text.readDigits] at h
    split at h
    · rename_i hdigit
      dsimp only at h
      split at h
      · rcases List.mem_cons.mp hc with rfl | hc
        · exact hdigit
        · exact ih h hc
      · cases h
    · cases h

theorem readPort_concat_ne_ok (hx : isPadding x = true) (cs : List Char) (port : Option Nat) :
    readPort scheme (cs ++ [x]) ≠ .ok port := by
  intro h
  have hempty : (cs ++ [x]).isEmpty = false := by simp
  rw [readPort, hempty, if_neg Bool.false_ne_true] at h
  cases hdigits : Text.readDigits (UInt16.size - 1) 0 (cs ++ [x]) with
  | error f =>
    rw [hdigits] at h
    cases h
  | ok n =>
    have hdigit := isDigit_of_readDigits hdigits (List.mem_concat_self)
    rw [isDigit_of_isPadding hx] at hdigit
    cases hdigit

/-- A host ends with its place, or a colon comes behind it. -/
theorem hostLength_cases (inside : Bool) (cs : List Char) : hostLength inside cs = cs.length ∨
    ∃ name rest, cs = name ++ ':' :: rest ∧ hostLength inside cs = name.length := by
  induction cs generalizing inside with
  | nil => exact .inl rfl
  | cons c cs ih =>
    rw [hostLength]
    split
    · rename_i hcolon
      exact .inr ⟨[], cs, by rw [hcolon.1, List.nil_append], rfl⟩
    · rcases ih (if c = '[' then true else if c = ']' then false else inside) with
        hall | ⟨name, rest, hcs, hlength⟩
      · exact .inl (by rw [hall, List.length_cons])
      · exact .inr ⟨c :: name, rest, by rw [hcs, List.cons_append],
          by rw [hlength, List.length_cons]⟩

/-- The part of an authority behind its last `@` ends as the authority does. -/
theorem place_concat (h : x ≠ '@') (cs : List Char) :
    ∃ place, ((splitAtLast? '@' (cs ++ [x])).getD ([], cs ++ [x])).2 = place ++ [x] ∧
      ∀ c ∈ place, c ∈ cs := by
  have hx : (x != '@') = true := by simpa using h
  unfold splitAtLast?
  dsimp only
  rw [List.reverse_concat, List.dropWhile_cons_of_pos (p := (· != '@')) hx,
    List.takeWhile_cons_of_pos (p := (· != '@')) hx]
  split
  · exact ⟨cs, rfl, fun c hc => hc⟩
  · refine ⟨(cs.reverse.takeWhile (· != '@')).reverse, List.reverse_cons, fun c hc => ?_⟩
    have hback := (List.takeWhile_sublist _).subset (List.mem_reverse.mp hc)
    exact List.mem_reverse.mp hback

/-- No place ends with padding. -/
theorem readAuthority_concat_ne_ok (hx : isPadding x = true) {followed : Bool}
    (hcs : ∀ c ∈ cs, isWebSlash c = false) (r : Authority × List Char) :
    readAuthority scheme true followed (cs ++ [x]) ≠ .ok r := by
  intro h
  have hmark : ∀ y : Char, 0x20 < y.toNat → y.toNat ≤ 0x7F → x ≠ y :=
    fun y hlow hhigh => ne_of_isPadding hx ⟨hlow, hhigh⟩
  obtain ⟨place, hplace, hmem⟩ := place_concat (hmark '@' (by decide) (by decide)) cs
  unfold readAuthority at h
  rcases hsplit : (splitAtLast? '@' (cs ++ [x])).getD ([], cs ++ [x]) with ⟨userinfo, p⟩
  rcases hinfo : readUserinfo userinfo with ⟨username, password⟩
  rw [hsplit] at hplace
  obtain rfl : p = place ++ [x] := hplace
  simp only [hsplit, hinfo, if_true] at h
  split at h
  · cases h
  · obtain ⟨host, hhost, h⟩ := bind_eq_ok_iff.mp h
    split at h
    · cases h
    · obtain ⟨port, hport, -⟩ := bind_eq_ok_iff.mp h
      rcases hostLength_cases false (place ++ [x]) with hall | ⟨name, rest, hname, hlength⟩
      · rw [hall, List.take_length] at hhost
        exact Host.read_concat_ne_ok hx place host hhost
      · have hcolon : ':' ∉ [x] := fun hin =>
          hmark ':' (by decide) (by decide) (List.mem_singleton.mp hin).symm
        obtain ⟨digits, rfl, hdigits⟩ := exists_of_append_eq hcolon hname
        have hplain : ∀ c ∈ digits ++ [x], (c != '\\') = true := by
          intro c hc
          rw [bne_iff_ne]
          rcases List.mem_append.mp hc with hc | hc
          · rintro rfl
            have hin : '\\' ∈ place := by
              rw [hdigits]
              exact List.mem_append_right name (List.mem_cons_of_mem ':' hc)
            exact absurd (hcs _ (hmem _ hin)) (by decide)
          · rw [List.mem_singleton.mp hc]
            exact hmark '\\' (by decide) (by decide)
        have hdigit := takeWhile_append_stop (t := []) hplain nofun
        rw [List.append_nil] at hdigit
        rw [hlength, hname, List.drop_left, List.drop_one, List.tail_cons, hdigit] at hport
        exact readPort_concat_ne_ok hx digits port hport

end Rendezvous.Url
