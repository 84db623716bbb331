import Rendezvous.Text.Charset

/-! The bytes of a text are decoded to that text. -/

namespace Rendezvous.Text

variable {p : Partial} {n : Nat} {bs : List UInt8}

theorem toNat_ofNat_byte (h : n < 256) : (UInt8.ofNat n).toNat = n := UInt8.toNat_ofNat_of_lt' h

/-- A byte that ends a character. -/
theorem decodeUtf8From_last (hmissing : p.missing = 1) (hlow : p.low ≤ n) (hhigh : n ≤ p.high)
    (hn : n < 256) : decodeUtf8From (some p) (UInt8.ofNat n :: bs) =
      some (Char.ofNat (p.bits * 64 + (n - 0x80))) :: decodeUtf8From none bs := by
  rw [decodeUtf8From, toNat_ofNat_byte hn]
  simp only [hlow, hhigh, and_self, if_true, hmissing]

/-- A byte in the middle of a character. -/
theorem decodeUtf8From_middle (hmissing : p.missing ≠ 1) (hlow : p.low ≤ n) (hhigh : n ≤ p.high)
    (hn : n < 256) : decodeUtf8From (some p) (UInt8.ofNat n :: bs) =
      decodeUtf8From (some ⟨p.bits * 64 + (n - 0x80), p.missing - 1, 0x80, 0xBF⟩) bs := by
  rw [decodeUtf8From, toNat_ofNat_byte hn]
  simp only [hlow, hhigh, and_self, if_true, hmissing, if_false]

/-- A byte that starts a character of several bytes. -/
theorem decodeUtf8From_start (h : startByte n = some (.inr p)) (hn : n < 256) :
    decodeUtf8From none (UInt8.ofNat n :: bs) = decodeUtf8From (some p) bs := by
  rw [decodeUtf8From, toNat_ofNat_byte hn, h]

/-! ### Characters of one to four bytes -/

theorem decodeUtf8From_one {v : Nat} (h : v ≤ 127) :
    decodeUtf8From none (UInt8.ofNat v :: bs) =
      some (Char.ofNat v) :: decodeUtf8From none bs := by
  rw [decodeUtf8From, toNat_ofNat_byte (by omega), startByte, if_pos (by omega)]

theorem decodeUtf8From_two {v : Nat} (hlow : 127 < v) (hhigh : v ≤ 2047) :
    decodeUtf8From none (UInt8.ofNat (v / 64 % 32 + 192) :: UInt8.ofNat (v % 64 + 128) :: bs) =
      some (Char.ofNat v) :: decodeUtf8From none bs := by
  have hstart : startByte (v / 64 % 32 + 192) = some (.inr ⟨v / 64, 1, 0x80, 0xBF⟩) := by
    have hbits : v / 64 % 32 + 192 - 0xC0 = v / 64 := by omega
    rw [startByte, if_neg (by omega), if_pos (by omega), hbits]
  have hjoin : v / 64 * 64 + (v % 64 + 128 - 0x80) = v := by omega
  rw [decodeUtf8From_start hstart (by omega),
    decodeUtf8From_last rfl (by dsimp only; omega) (by dsimp only; omega) (by omega), hjoin]

/-- The second byte keeps surrogates and what fits into fewer bytes out. -/
theorem decodeUtf8From_three {v : Nat} (hlow : 2047 < v) (hhigh : v ≤ 65535)
    (hvalid : v < 0xD800 ∨ 0xDFFF < v) :
    decodeUtf8From none (UInt8.ofNat (v / 4096 % 16 + 224) :: UInt8.ofNat (v / 64 % 64 + 128) ::
      UInt8.ofNat (v % 64 + 128) :: bs) = some (Char.ofNat v) :: decodeUtf8From none bs := by
  have hstart : startByte (v / 4096 % 16 + 224) = some (.inr ⟨v / 4096, 2,
      if v / 4096 % 16 + 224 = 0xE0 then 0xA0 else 0x80,
      if v / 4096 % 16 + 224 = 0xED then 0x9F else 0xBF⟩) := by
    have hbits : v / 4096 % 16 + 224 - 0xE0 = v / 4096 := by omega
    rw [startByte, if_neg (by omega), if_neg (by omega), if_pos (by omega), hbits]
  have hsecond : v / 4096 * 64 + (v / 64 % 64 + 128 - 0x80) = v / 64 := by omega
  have hjoin : v / 64 * 64 + (v % 64 + 128 - 0x80) = v := by omega
  rw [decodeUtf8From_start hstart (by omega),
    decodeUtf8From_middle (by dsimp only; omega) (by dsimp only; split <;> omega)
      (by dsimp only; split <;> omega) (by omega),
    decodeUtf8From_last rfl (by dsimp only; omega) (by dsimp only; omega) (by omega)]
  dsimp only
  rw [hsecond, hjoin]

theorem decodeUtf8From_four {v : Nat} (hlow : 65535 < v) (hhigh : v < 0x110000) :
    decodeUtf8From none (UInt8.ofNat (v / 262144 % 8 + 240) ::
      UInt8.ofNat (v / 4096 % 64 + 128) :: UInt8.ofNat (v / 64 % 64 + 128) ::
      UInt8.ofNat (v % 64 + 128) :: bs) = some (Char.ofNat v) :: decodeUtf8From none bs := by
  have hstart : startByte (v / 262144 % 8 + 240) = some (.inr ⟨v / 262144, 3,
      if v / 262144 % 8 + 240 = 0xF0 then 0x90 else 0x80,
      if v / 262144 % 8 + 240 = 0xF4 then 0x8F else 0xBF⟩) := by
    have hbits : v / 262144 % 8 + 240 - 0xF0 = v / 262144 := by omega
    rw [startByte, if_neg (by omega), if_neg (by omega), if_neg (by omega), if_pos (by omega),
      hbits]
  have hsecond : v / 262144 * 64 + (v / 4096 % 64 + 128 - 0x80) = v / 4096 := by omega
  have hthird : v / 4096 * 64 + (v / 64 % 64 + 128 - 0x80) = v / 64 := by omega
  have hjoin : v / 64 * 64 + (v % 64 + 128 - 0x80) = v := by omega
  rw [decodeUtf8From_start hstart (by omega),
    decodeUtf8From_middle (by dsimp only; omega) (by dsimp only; split <;> omega)
      (by dsimp only; split <;> omega) (by omega),
    decodeUtf8From_middle (by dsimp only; omega) (by dsimp only; omega)
      (by dsimp only; omega) (by omega),
    decodeUtf8From_last rfl (by dsimp only; omega) (by dsimp only; omega) (by omega)]
  dsimp only
  rw [hsecond, hthird, hjoin]

theorem decodeUtf8From_char (c : Char) (bs : List UInt8) :
    decodeUtf8From none (String.utf8EncodeChar c ++ bs) = some c :: decodeUtf8From none bs := by
  have hvalid : c.toNat < 0xD800 ∨ 0xDFFF < c.toNat ∧ c.toNat < 0x110000 := c.valid
  have hc : Char.ofNat c.toNat = c := Char.ofNat_toNat c
  have hnat : c.val.toNat = c.toNat := rfl
  unfold String.utf8EncodeChar
  simp only [hnat]
  generalize c.toNat = v at hvalid hc ⊢
  subst hc
  split
  · exact decodeUtf8From_one (by omega)
  · split
    · exact decodeUtf8From_two (by omega) (by omega)
    · split
      · exact decodeUtf8From_three (by omega) (by omega) (by omega)
      · exact decodeUtf8From_four (by omega) (by omega)

/-! ### The last character -/

/-- No byte that starts a character goes on with this one. -/
structure Partial.Within (p : Partial) : Prop where
  low : 0x80 ≤ p.low
  high : p.high ≤ 0xBF

theorem within_of_startByte (h : startByte n = some (.inr p)) : p.Within := by
  unfold startByte at h
  split at h
  · cases h
  · split at h
    · obtain rfl := Sum.inr.inj (Option.some.inj h)
      exact ⟨Nat.le_refl _, Nat.le_refl _⟩
    · split at h
      · obtain rfl := Sum.inr.inj (Option.some.inj h)
        exact ⟨by dsimp only; split <;> omega, by dsimp only; split <;> omega⟩
      · split at h
        · obtain rfl := Sum.inr.inj (Option.some.inj h)
          exact ⟨by dsimp only; split <;> omega, by dsimp only; split <;> omega⟩
        · cases h

/-- A byte that does not go on with a character starts anew. -/
theorem decodeUtf8From_broken {b : UInt8} (hb : ¬(p.low ≤ b.toNat ∧ b.toNat ≤ p.high)) :
    decodeUtf8From (some p) (b :: bs) = none :: decodeUtf8From none (b :: bs) := by
  rw [decodeUtf8From, decodeUtf8From]
  dsimp only
  rw [if_neg hb]
  cases startByte b.toNat with
  | none => rfl
  | some s => cases s <;> rfl

theorem exists_utf8EncodeChar_cons (x : Char) :
    ∃ b r, String.utf8EncodeChar x = b :: r ∧ (b.toNat < 0x80 ∨ 0xBF < b.toNat) := by
  unfold String.utf8EncodeChar
  dsimp only
  split
  · exact ⟨_, _, rfl, .inl (by rw [toNat_ofNat_byte (by omega)]; omega)⟩
  · split
    · exact ⟨_, _, rfl, .inr (by rw [toNat_ofNat_byte (by omega)]; omega)⟩
    · split
      · exact ⟨_, _, rfl, .inr (by rw [toNat_ofNat_byte (by omega)]; omega)⟩
      · exact ⟨_, _, rfl, .inr (by rw [toNat_ofNat_byte (by omega)]; omega)⟩

/-- A character at the end is read, whatever comes before it. -/
theorem mem_decodeUtf8From_concat (x : Char) (bs : List UInt8) {start : Option Partial}
    (hstart : ∀ p ∈ start, p.Within) :
    some x ∈ decodeUtf8From start (bs ++ String.utf8EncodeChar x) := by
  induction bs generalizing start with
  | nil =>
    have hchar : some x ∈ decodeUtf8From none (String.utf8EncodeChar x) := by
      rw [← List.append_nil (String.utf8EncodeChar x), decodeUtf8From_char]
      exact List.mem_cons_self
    cases start with
    | none => exact hchar
    | some p =>
      obtain ⟨hlow, hhigh⟩ := hstart p rfl
      obtain ⟨b, r, hbytes, hb⟩ := exists_utf8EncodeChar_cons x
      rw [List.nil_append]
      rw [hbytes] at hchar ⊢
      rw [decodeUtf8From_broken (by omega)]
      exact List.mem_cons_of_mem none hchar
  | cons b bs ih =>
    -- Between characters the byte makes one, starts a longer one, or is malformed.
    have hnext : some x ∈ decodeUtf8From none (b :: (bs ++ String.utf8EncodeChar x)) := by
      rw [decodeUtf8From]
      split
      · exact List.mem_cons_of_mem _ (ih nofun)
      · rename_i p hp
        refine ih fun q hq => ?_
        cases hq
        exact within_of_startByte hp
      · exact List.mem_cons_of_mem _ (ih nofun)
    cases start with
    | none => exact hnext
    | some p =>
      rw [List.cons_append]
      by_cases hb : p.low ≤ b.toNat ∧ b.toNat ≤ p.high
      · rw [decodeUtf8From]
        dsimp only
        rw [if_pos hb]
        split
        · exact List.mem_cons_of_mem _ (ih nofun)
        · refine ih fun q hq => ?_
          obtain rfl := Option.some.inj hq
          exact ⟨Nat.le_refl _, Nat.le_refl _⟩
      · rw [decodeUtf8From_broken hb]
        exact List.mem_cons_of_mem none hnext

theorem mem_of_decodeUtf8?_concat {x : Char} {cs : List Char}
    (h : decodeUtf8? (bs ++ String.utf8EncodeChar x) = some cs) : x ∈ cs := by
  have hnone : ∀ p ∈ (none : Option Partial), p.Within := nofun
  have hmem := mem_decodeUtf8From_concat x bs hnone
  rw [decodeUtf8?] at h
  generalize decodeUtf8From none (bs ++ String.utf8EncodeChar x) = read at h hmem
  induction read generalizing cs with
  | nil => cases hmem
  | cons c read ih =>
    rw [List.mapM_cons] at h
    obtain ⟨d, hd, h⟩ := Option.bind_eq_some_iff.mp h
    obtain ⟨ds, hds, h⟩ := Option.bind_eq_some_iff.mp h
    cases h
    rcases List.mem_cons.mp hmem with rfl | hmem
    · cases hd
      exact List.mem_cons_self
    · exact List.mem_cons_of_mem d (ih hds hmem)

/-! ### Texts -/

theorem decodeUtf8From_encodeUtf8 (cs : List Char) :
    decodeUtf8From none (encodeUtf8 cs) = cs.map some := by
  induction cs with
  | nil => rfl
  | cons c cs ih =>
    have hcons : encodeUtf8 (c :: cs) = String.utf8EncodeChar c ++ encodeUtf8 cs := rfl
    rw [hcons, decodeUtf8From_char, ih, List.map_cons]

theorem decodeUtf8?_encodeUtf8 (cs : List Char) : decodeUtf8? (encodeUtf8 cs) = some cs := by
  rw [decodeUtf8?, decodeUtf8From_encodeUtf8]
  induction cs with
  | nil => rfl
  | cons c cs ih => simp [ih]

theorem decodeUtf8Lossy_encodeUtf8 (cs : List Char) : decodeUtf8Lossy (encodeUtf8 cs) = cs := by
  rw [decodeUtf8Lossy, decodeUtf8From_encodeUtf8, List.map_map]
  exact List.map_id cs

/-- A text that begins in ASCII bears no mark. -/
theorem decode_encodeUtf8 {s : String} {c : Char} {r : List Char} (h : s.toList = c :: r)
    (hc : c.toNat < 0x80) : Charset.utf8.decode (encodeUtf8 s.toList) = s := by
  have hbytes : encodeUtf8 s.toList = UInt8.ofNat c.toNat :: encodeUtf8 r := by
    have hchar : String.utf8EncodeChar c = [UInt8.ofNat c.toNat] := by
      unfold String.utf8EncodeChar
      exact if_pos (Nat.le_of_lt_succ hc)
    rw [h]
    exact congrArg (· ++ encodeUtf8 r) hchar
  have hmark : Charset.marked? (encodeUtf8 s.toList) = none := by
    have hbyte : (UInt8.ofNat c.toNat).toNat < 0x80 := by
      rw [toNat_ofNat_byte (by omega)]
      exact hc
    rw [hbytes]
    generalize UInt8.ofNat c.toNat = b at hbyte
    unfold Charset.marked?
    split
    all_goals first
      | rfl
      | rename_i heq
        rw [(List.cons.inj heq).1] at hbyte
        exact absurd hbyte (by decide)
  rw [Charset.decode, hmark]
  change String.ofList (decodeUtf8Lossy (encodeUtf8 s.toList)) = s
  rw [decodeUtf8Lossy_encodeUtf8, String.ofList_toList]

end Rendezvous.Text
