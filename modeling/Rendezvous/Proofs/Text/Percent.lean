import Rendezvous.Text.Percent

/-! Percent-encoding can be undone, and what it writes is made of few characters. -/

namespace Rendezvous.Text

variable {keep : Char → Bool} {cs : List Char} {c : Char}

theorem encodeUtf8_injective {cs ds : List Char} (h : encodeUtf8 cs = encodeUtf8 ds) : cs = ds := by
  have hbytes : cs.utf8Encode = ds.utf8Encode := congrArg List.toByteArray h
  have hread := List.utf8Decode?_utf8Encode (l := cs)
  rw [hbytes, List.utf8Decode?_utf8Encode] at hread
  simpa using hread.symm

theorem hexDigit?_upperHexDigit {n : Nat} (h : n < 16) : hexDigit? (upperHexDigit n) = some n := by
  decide +revert

theorem isUnreserved_upperHexDigit {n : Nat} (h : n < 16) :
    isUnreserved (upperHexDigit n) = true := by
  decide +revert

theorem percentDecode_percentByte (b : UInt8) (cs : List Char) :
    percentDecode (percentByte b ++ cs) = b :: percentDecode cs := by
  have hb : b.toNat < 256 := b.toNat_lt
  have hhigh := hexDigit?_upperHexDigit (n := b.toNat / 16) (by omega)
  have hlow := hexDigit?_upperHexDigit (n := b.toNat % 16) (by omega)
  have hjoin : b.toNat / 16 * 16 + b.toNat % 16 = b.toNat := by omega
  simp only [percentByte, List.cons_append, List.nil_append, percentDecode, hhigh, hlow, hjoin,
    UInt8.ofNat_toNat]

theorem percentDecode_flatMap_percentByte (bs : List UInt8) (cs : List Char) :
    percentDecode (bs.flatMap percentByte ++ cs) = bs ++ percentDecode cs := by
  induction bs with
  | nil => rfl
  | cons b bs ih =>
    rw [List.flatMap_cons, List.append_assoc, percentDecode_percentByte, ih, List.cons_append]

theorem percentDecode_cons (h : c ≠ '%') (cs : List Char) :
    percentDecode (c :: cs) = String.utf8EncodeChar c ++ percentDecode cs := by
  rw [percentDecode]
  intro _ _ _ hc
  exact absurd hc h

/-- A character that does not begin an encoded byte stands for itself. -/
theorem percentDecode_literal {c : Char} {r : List Char} (h : c = '%' → ∀ a b r', r = a :: b :: r' →
    hexDigit? a = none ∨ hexDigit? b = none) :
    percentDecode (c :: r) = String.utf8EncodeChar c ++ percentDecode r := by
  by_cases hc : c = '%'
  · subst hc
    match r with
    | [] => rfl
    | [a] => rfl
    | a :: b :: r' =>
      rw [percentDecode]
      split
      · rename_i m n ha hb
        rcases h rfl a b r' rfl with hnone | hnone
        · rw [hnone] at ha
          cases ha
        · rw [hnone] at hb
          cases hb
      · rfl
  · exact percentDecode_cons hc r

/-- A character at the end that is no hexadecimal digit stands for itself. -/
theorem percentDecode_concat {x : Char} (hx : hexDigit? x = none) (cs : List Char) :
    percentDecode (cs ++ [x]) = percentDecode cs ++ String.utf8EncodeChar x := by
  induction cs using percentDecode.induct with
  | case1 => simp [percentDecode]
  | case2 a b r' m n ha hb ih => simp only [List.cons_append, percentDecode, ha, hb, ih]
  | case3 a b r' h ih =>
    have hpair : hexDigit? a = none ∨ hexDigit? b = none := by
      cases ha : hexDigit? a with
      | none => exact .inl rfl
      | some m =>
        cases hb : hexDigit? b with
        | none => exact .inr rfl
        | some n => exact (h m n ha hb).elim
    have hliteral : ∀ r, percentDecode ('%' :: a :: b :: r) =
        String.utf8EncodeChar '%' ++ percentDecode (a :: b :: r) := by
      refine fun r => percentDecode_literal ?_
      rintro - _ _ _ ⟨⟩
      exact hpair
    simp only [List.cons_append] at ih ⊢
    rw [hliteral, hliteral, ih, List.append_assoc]
  | case4 c r h ih =>
    have hlast : percentDecode (c :: (r ++ [x])) =
        String.utf8EncodeChar c ++ percentDecode (r ++ [x]) := by
      refine percentDecode_literal fun hc a b r' hr => ?_
      match r with
      | [] => cases hr
      | [_] =>
        cases hr
        exact .inr hx
      | a' :: b' :: r'' => exact (h a' b' r'' hc rfl).elim
    rw [List.cons_append, hlast, ih,
      percentDecode_literal fun hc a b r' hr => (h a b r' hc hr).elim, List.append_assoc]

theorem percentDecode_percentChar (h : keep '%' = false) (c : Char) (cs : List Char) :
    percentDecode (percentChar keep c ++ cs) = String.utf8EncodeChar c ++ percentDecode cs := by
  unfold percentChar
  split
  · rename_i hkeep
    refine percentDecode_cons ?_ cs
    rintro rfl
    simp [h] at hkeep
  · exact percentDecode_flatMap_percentByte _ cs

/-- Decoding gives back the bytes of the text, if every percent sign in it was encoded. -/
theorem percentDecode_percentEncode (h : keep '%' = false) (cs : List Char) :
    percentDecode (percentEncode keep cs) = encodeUtf8 cs := by
  induction cs with
  | nil => rfl
  | cons c cs ih =>
    have hcons : percentEncode keep (c :: cs) = percentChar keep c ++ percentEncode keep cs := by
      simp [percentEncode]
    rw [hcons, percentDecode_percentChar h, ih]
    simp [encodeUtf8]

/-- What is kept as it is, throughout a text, leaves the text as it is. -/
theorem percentEncode_eq_self (h : ∀ c ∈ cs, c.toNat < 0x80 ∧ keep c = true) :
    percentEncode keep cs = cs := by
  induction cs with
  | nil => rfl
  | cons c cs ih =>
    obtain ⟨hascii, hkeep⟩ := h c List.mem_cons_self
    have hrest := ih fun d hd => h d (List.mem_cons_of_mem c hd)
    simp only [percentEncode] at hrest
    simp [percentEncode, percentChar, hascii, hkeep, hrest]

theorem mem_percentByte {b : UInt8} (h : c ∈ percentByte b) : c = '%' ∨ isUnreserved c = true := by
  have hb : b.toNat < 256 := b.toNat_lt
  simp only [percentByte, List.mem_cons, List.not_mem_nil, or_false] at h
  rcases h with rfl | rfl | rfl
  · exact .inl rfl
  · exact .inr (isUnreserved_upperHexDigit (by omega))
  · exact .inr (isUnreserved_upperHexDigit (by omega))

theorem mem_percentEncode (h : c ∈ percentEncode keep cs) :
    c ∈ cs ∧ c.toNat < 0x80 ∧ keep c = true ∨ c = '%' ∨ isUnreserved c = true := by
  obtain ⟨d, hd, hc⟩ := List.mem_flatMap.mp h
  unfold percentChar at hc
  split at hc
  · rename_i hkeep
    obtain rfl := List.mem_singleton.mp hc
    simp only [Bool.and_eq_true, decide_eq_true_eq] at hkeep
    exact .inl ⟨hd, hkeep⟩
  · obtain ⟨b, -, hb⟩ := List.mem_flatMap.mp hc
    exact .inr (mem_percentByte hb)

end Rendezvous.Text
