import Rendezvous.Proofs.Text.Percent
import Rendezvous.Proofs.Text.Runs
import Rendezvous.Url.Parse

/-! The text of a host holds none of the characters that end a host: what marks a path, a query, a
fragment or a user is kept out of names in any script, and numbers do not make it either. -/

namespace Rendezvous.Url

variable {x c : Char} {cs label : List Char}

/-! ### Punycode -/

namespace Punycode

/-- A character of the numbers that stand for other characters. -/
def IsDigit (c : Char) : Prop := (digitValue? c).isSome = true

theorem isDigit_digit {d : Nat} (h : d < 36) : IsDigit (digit d) := by
  have hall : ∀ e < 36, (digitValue? (digit e)).isSome = true := by decide
  exact hall d h

theorem threshold_le (k bias : Nat) : threshold k bias ≤ 26 := by
  unfold threshold
  split
  · omega
  · split <;> omega

theorem threshold_pos (k bias : Nat) : 0 < threshold k bias := by
  unfold threshold
  split
  · omega
  · split <;> omega

theorem isDigit_of_mem_writeNumber {bias n k q : Nat} (h : c ∈ writeNumber bias n k q) :
    IsDigit c := by
  induction n generalizing k q with
  | zero => cases h
  | succ n ih =>
    have hle := threshold_le k bias
    have hpos := threshold_pos k bias
    rw [writeNumber] at h
    split at h
    · rename_i hlast
      rw [List.mem_singleton.mp h]
      exact isDigit_digit (by omega)
    · rcases List.mem_cons.mp h with rfl | h
      · have hrest := Nat.mod_lt (q - threshold k bias) (y := 36 - threshold k bias) (by omega)
        exact isDigit_digit (by omega)
      · exact ih h

/-- Every character of the text is one of the label's own in ASCII, the hyphen or a digit. -/
def Spelt (label text : List Char) : Prop := ∀ c ∈ text, c ∈ label ∨ c = '-' ∨ IsDigit c

theorem spelt_writeCodePoint {basic n : Nat} {w : Writer} (h : Spelt label w.text) :
    Spelt label (writeCodePoint basic n w cs).text := by
  induction cs generalizing w with
  | nil => exact h
  | cons c cs ih =>
    rw [writeCodePoint]
    dsimp only
    split
    · exact ih h
    · split
      · refine ih fun d hd => ?_
        rcases List.mem_append.mp hd with hd | hd
        · exact h d hd
        · exact .inr (.inr (isDigit_of_mem_writeNumber hd))
      · exact ih h

theorem spelt_writeFrom {basic rounds n : Nat} {w : Writer} (h : Spelt label w.text) :
    Spelt label (writeFrom label basic rounds n w).text := by
  induction rounds generalizing n w with
  | zero => exact h
  | succ rounds ih =>
    rw [writeFrom]
    split
    · exact h
    · exact ih (spelt_writeCodePoint h)

theorem spelt_encode (label : List Char) : Spelt label (encode label) := by
  refine spelt_writeFrom fun c hc => ?_
  dsimp only at hc
  split at hc
  · cases hc
  · rcases List.mem_append.mp hc with hc | hc
    · exact .inl (List.mem_filter.mp hc).1
    · exact .inr (.inl (List.mem_singleton.mp hc))

theorem of_readNumber {bias k weight i j : Nat} {rest : List Char}
    (h : readNumber bias k weight i cs = some (j, rest)) :
    ∃ digits, cs = digits ++ rest ∧ ∀ c ∈ digits, IsDigit c := by
  induction cs generalizing k weight i with
  | nil => cases h
  | cons c cs ih =>
    rw [readNumber] at h
    split at h
    · cases h
    · rename_i d hd
      have hc : IsDigit c := Option.isSome_of_eq_some hd
      dsimp only at h
      split at h
      · cases h
      · split at h
        · cases h
          exact ⟨[c], rfl, List.forall_mem_singleton.mpr hc⟩
        · split at h
          · cases h
          · obtain ⟨digits, rfl, hdigits⟩ := ih h
            exact ⟨c :: digits, rfl, List.forall_mem_cons.mpr ⟨hc, hdigits⟩⟩

/-- What is read keeps the characters that stand for themselves, and the rest is numbers. -/
theorem of_readFrom {rounds n i bias : Nat} {u : List Char}
    (h : readFrom rounds n i bias label cs = some u) :
    (∀ c ∈ label, c ∈ u) ∧ ∀ c ∈ cs, IsDigit c := by
  induction rounds generalizing n i bias label cs with
  | zero => cases h
  | succ rounds ih =>
    cases cs with
    | nil =>
      rw [readFrom] at h
      cases h
      exact ⟨fun _ hc => hc, nofun⟩
    | cons d ds =>
      rw [readFrom] at h
      · split at h
        · cases h
        · rename_i j rest hnumber
          dsimp only at h
          split at h
          · obtain ⟨hkept, hrest⟩ := ih h
            obtain ⟨digits, hds, hdigits⟩ := of_readNumber hnumber
            refine ⟨fun c hc => hkept c ?_, fun c hc => ?_⟩
            · rw [← List.take_append_drop (j % (label.length + 1)) label] at hc
              rcases List.mem_append.mp hc with hc | hc
              · exact List.mem_append_left _ hc
              · exact List.mem_append_right _ (List.mem_cons_of_mem _ hc)
            · rw [hds] at hc
              rcases List.mem_append.mp hc with hc | hc
              · exact hdigits c hc
              · exact hrest c hc
          · cases h
      · exact nofun

/-- A text is cut at its last hyphen, or not at all. -/
theorem cut_at_hyphen (cs : List Char) :
    (cs.reverse.takeWhile (· != '-')).reverse = cs ∨
      ∃ front, cs = front ++ '-' :: (cs.reverse.takeWhile (· != '-')).reverse := by
  have hcut := List.takeWhile_append_dropWhile (p := (· != '-')) (l := cs.reverse)
  cases hdrop : cs.reverse.dropWhile (· != '-') with
  | nil =>
    rw [hdrop, List.append_nil] at hcut
    exact .inl (by rw [hcut, List.reverse_reverse])
  | cons d r =>
    have hd : d = '-' := by
      have hhead : d ∈ (cs.reverse.dropWhile (· != '-')).head? := by
        rw [hdrop]
        rfl
      simpa using stops_dropWhile hhead
    refine .inr ⟨r.reverse, ?_⟩
    rw [hdrop, hd] at hcut
    have hcs := congrArg List.reverse hcut
    simpa using hcs.symm

/-- What stands for a label in another script is made of that label's characters, hyphens and
digits. -/
theorem spelt_of_decode? {u : List Char} (h : decode? cs = some u) : Spelt u cs := by
  unfold decode? at h
  dsimp only at h
  have hcut := cut_at_hyphen cs
  generalize (cs.reverse.takeWhile (· != '-')).reverse = tail at h hcut
  split at h
  · exact fun c hc => .inr (.inr ((of_readFrom h).2 c hc))
  · rename_i hlength
    rcases hcut with rfl | ⟨front, rfl⟩
    · exact absurd rfl hlength
    · split at h
      · cases h
      · have hfront : (front ++ '-' :: tail).length - tail.length - 1 = front.length := by
          simp only [List.length_append, List.length_cons]
          omega
        rw [hfront, List.take_left] at h
        obtain ⟨hkept, htail⟩ := of_readFrom h
        intro c hc
        rcases List.mem_append.mp hc with hc | hc
        · exact .inl (hkept c hc)
        · rcases List.mem_cons.mp hc with rfl | hc
          · exact .inr (.inl rfl)
          · exact .inr (.inr (htail c hc))

end Punycode

/-! ### Names -/

theorem toNat_lt_of_isDigit (h : Punycode.IsDigit c) : c.toNat < 0x80 := by
  have hval : ∀ {a b : Char}, a ≤ b → a.toNat ≤ b.toNat := fun h => h
  unfold Punycode.IsDigit Punycode.digitValue? at h
  split at h
  · rename_i hc
    exact Nat.lt_of_le_of_lt (hval hc.2) (by decide)
  · split at h
    · rename_i hc
      exact Nat.lt_of_le_of_lt (hval hc.2) (by decide)
    · split at h
      · rename_i hc
        exact Nat.lt_of_le_of_lt (hval hc.2) (by decide)
      · cases h

theorem not_forbidden_of_isDigit (h : Punycode.IsDigit c) : isForbiddenInDomain c = false := by
  have hall : ∀ n < 0x80, (Punycode.digitValue? (Char.ofNat n)).isSome = true →
      isForbiddenInDomain (Char.ofNat n) = false := by decide
  have hc := hall c.toNat (toNat_lt_of_isDigit h)
  rw [Char.ofNat_toNat] at hc
  exact hc h

theorem not_forbidden_of_isValidLabel (h : isValidLabel label = true) (hc : c ∈ label) :
    isForbiddenInDomain c = false := by
  simp only [isValidLabel, Bool.and_eq_true, List.all_eq_true] at h
  simpa using (h.1.1.1 c hc).1

theorem not_forbidden_of_spelt {text : List Char} (hspelt : Punycode.Spelt label text)
    (h : isValidLabel label = true) (hc : c ∈ text) : isForbiddenInDomain c = false := by
  rcases hspelt c hc with hc | rfl | hc
  · exact not_forbidden_of_isValidLabel h hc
  · decide
  · exact not_forbidden_of_isDigit hc

theorem not_forbidden_of_mem_acePrefix (hc : c ∈ acePrefix) : isForbiddenInDomain c = false := by
  have hall : acePrefix.all (fun c => !isForbiddenInDomain c) = true := by decide
  simpa using List.all_eq_true.mp hall c hc

/-- A label of a name holds nothing forbidden once it is in ASCII. -/
theorem not_forbidden_of_mem_asciiLabel {u : List Char} (h : unicodeLabel? label = some u)
    (hc : c ∈ asciiLabel label) : isForbiddenInDomain c = false := by
  unfold unicodeLabel? at h
  unfold asciiLabel at hc
  split at h
  · rename_i hprefix
    split at h
    · rename_i hascii
      rw [if_pos hascii] at hc
      split at h
      · rename_i u' hdecode
        split at h
        · cases h
        · rename_i hvalid
          cases h
          have hsplit : label = acePrefix ++ label.drop 4 := by
            obtain ⟨rest, rfl⟩ := List.isPrefixOf_iff_prefix.mp hprefix
            rfl
          rw [hsplit] at hc
          rcases List.mem_append.mp hc with hc | hc
          · exact not_forbidden_of_mem_acePrefix hc
          · have hu : isAscii u = false ∧ isValidLabel u = true := by simpa using hvalid
            exact not_forbidden_of_spelt (Punycode.spelt_of_decode? hdecode) hu.2 hc
      · cases h
    · cases h
  · split at h
    · rename_i hvalid
      split at hc
      · exact not_forbidden_of_isValidLabel hvalid hc
      · rcases List.mem_append.mp hc with hc | hc
        · exact not_forbidden_of_mem_acePrefix hc
        · exact not_forbidden_of_spelt (Punycode.spelt_encode label) hvalid hc
    · cases h

/-- Nor does it hold anything forbidden in the script in which it was written. -/
theorem not_forbidden_of_mem_label {u : List Char} (h : unicodeLabel? label = some u)
    (hc : c ∈ label) : isForbiddenInDomain c = false := by
  by_cases hascii : isAscii label = true
  · exact not_forbidden_of_mem_asciiLabel h (by rwa [asciiLabel, if_pos hascii])
  · unfold unicodeLabel? at h
    rw [if_neg hascii] at h
    split at h
    · cases h
    · split at h
      · rename_i hvalid
        exact not_forbidden_of_isValidLabel hvalid hc
      · cases h

theorem exists_of_mem_of_mapM {α β : Type} {f : α → Option β} {as : List α} {bs : List β}
    (h : as.mapM f = some bs) {a : α} (ha : a ∈ as) : ∃ b ∈ bs, f a = some b := by
  induction as generalizing bs with
  | nil => cases ha
  | cons a' as ih =>
    rw [List.mapM_cons] at h
    obtain ⟨b, hb, h⟩ := Option.bind_eq_some_iff.mp h
    obtain ⟨bs', hbs, h⟩ := Option.bind_eq_some_iff.mp h
    cases h
    rcases List.mem_cons.mp ha with rfl | ha
    · exact ⟨b, List.mem_cons_self, hb⟩
    · obtain ⟨d, hd, hfd⟩ := ih hbs ha
      exact ⟨d, List.mem_cons_of_mem b hd, hfd⟩

/-- A domain name in ASCII holds nothing forbidden, in whatever script it was written. -/
theorem not_forbidden_of_domainToAscii? {name : List Char} (h : domainToAscii? cs = some name)
    (hc : c ∈ name) : isForbiddenInDomain c = false := by
  obtain ⟨mapped, -, h⟩ := Option.bind_eq_some_iff.mp h
  obtain ⟨scripts, hscripts, h⟩ := Option.bind_eq_some_iff.mp h
  dsimp only at h
  split at h
  · cases h
  · cases h
    rcases of_mem_intercalate hc with hc | ⟨l, hl, hc⟩
    · rw [List.mem_singleton.mp hc]
      decide
    · obtain ⟨label, hlabel, rfl⟩ := List.mem_map.mp hl
      obtain ⟨u, -, hu⟩ := exists_of_mem_of_mapM hscripts hlabel
      exact not_forbidden_of_mem_asciiLabel hu hc

/-! ### Addresses -/

theorem of_mem_toDigits {b n : Nat} (h : c ∈ Nat.toDigits b n) : ∃ d, c = Nat.digitChar d := by
  have hcore : ∀ fuel n ds, (∀ c ∈ ds, ∃ d, c = Nat.digitChar d) →
      ∀ c ∈ Nat.toDigitsCore b fuel n ds, ∃ d, c = Nat.digitChar d := by
    intro fuel
    induction fuel with
    | zero => exact fun _ _ hds => hds
    | succ fuel ih =>
      intro n ds hds
      have hnext : ∀ c ∈ Nat.digitChar (n % b) :: ds, ∃ d, c = Nat.digitChar d :=
        List.forall_mem_cons.mpr ⟨⟨_, rfl⟩, hds⟩
      rw [Nat.toDigitsCore]
      split
      · exact hnext
      · exact ih _ _ hnext
  exact hcore (n + 1) n [] nofun c h

theorem not_forbidden_of_mem_toDigits {b n : Nat} (h : c ∈ Nat.toDigits b n) :
    isForbiddenInDomain c = false := by
  obtain ⟨d, rfl⟩ := of_mem_toDigits h
  by_cases hd : d < 16
  · have hall : ∀ d < 16, isForbiddenInDomain (Nat.digitChar d) = false := by decide
    exact hall d hd
  · have hstar : Nat.digitChar d = '*' := by
      unfold Nat.digitChar
      simp (disch := omega) only [if_neg]
    rw [hstar]
    decide

/-- The characters of addresses, beside those of names. -/
def isAddressMark (c : Char) : Bool := [':', '[', ']'].contains c

theorem of_mem_hexGroups {groups : List Nat} (h : c ∈ (Host.hexGroups groups).toList) :
    c = ':' ∨ isForbiddenInDomain c = false := by
  rw [Host.hexGroups, String.toList_intercalate] at h
  rcases of_mem_intercalate h with h | ⟨l, hl, h⟩
  · exact .inl (List.mem_singleton.mp h)
  · simp only [List.map_map, List.mem_map, Function.comp_apply, String.toList_ofList] at hl
    obtain ⟨g, -, rfl⟩ := hl
    exact .inr (not_forbidden_of_mem_toDigits h)

theorem of_mem_text_ipv6 {groups : List Nat} (h : c ∈ (Host.ipv6 groups).text.toList) :
    isAddressMark c = true ∨ isForbiddenInDomain c = false := by
  have hgroups : ∀ {gs : List Nat}, c ∈ (Host.hexGroups gs).toList →
      isAddressMark c = true ∨ isForbiddenInDomain c = false := by
    intro gs hc
    rcases of_mem_hexGroups hc with rfl | hc
    · exact .inl (by decide)
    · exact .inr hc
  have hmark : ∀ {t : String}, t.toList.all isAddressMark = true → c ∈ t.toList →
      isAddressMark c = true ∨ isForbiddenInDomain c = false :=
    fun ht hc => .inl (List.all_eq_true.mp ht c hc)
  rw [Host.text] at h
  split at h
  · simp only [String.toList_append, List.mem_append] at h
    rcases h with (((h | h) | h) | h) | h
    · exact hmark (by decide) h
    · exact hgroups h
    · exact hmark (by decide) h
    · exact hgroups h
    · exact hmark (by decide) h
  · simp only [String.toList_append, List.mem_append] at h
    rcases h with (h | h) | h
    · exact hmark (by decide) h
    · exact hgroups h
    · exact hmark (by decide) h

theorem not_forbidden_of_mem_text_ipv4 {n : Nat} (h : c ∈ (Host.ipv4 n).text.toList) :
    isForbiddenInDomain c = false := by
  rw [Host.text, String.toList_intercalate] at h
  rcases of_mem_intercalate h with h | ⟨l, hl, h⟩
  · rw [List.mem_singleton.mp h]
    decide
  · simp only [List.map_map, List.mem_map, Function.comp_apply, Nat.toString_eq_repr,
      Nat.toList_repr] at hl
    obtain ⟨k, -, rfl⟩ := hl
    exact not_forbidden_of_mem_toDigits h

/-- The text of a host that is read holds nothing that would end the host. -/
theorem of_mem_text_of_read {host : Host} (hread : Host.read cs = .ok host)
    (hc : c ∈ host.text.toList) : isAddressMark c = true ∨ isForbiddenInDomain c = false := by
  unfold Host.read at hread
  split at hread
  · rename_i address _
    cases address with
    | error f => cases hread
    | ok groups =>
      cases hread
      exact of_mem_text_ipv6 hc
  · split at hread
    · cases hread
    · cases hread
    · rename_i name hne hname
      obtain ⟨decoded, -, hascii⟩ := Option.bind_eq_some_iff.mp hname
      split at hread
      · cases hnumber : readIpv4 name with
        | error f =>
          rw [hnumber] at hread
          cases hread
        | ok n =>
          rw [hnumber] at hread
          cases hread
          exact .inr (not_forbidden_of_mem_text_ipv4 hc)
      · cases hread
        rw [Host.text, String.toList_ofList] at hc
        exact .inr (not_forbidden_of_domainToAscii? hascii hc)

end Rendezvous.Url
