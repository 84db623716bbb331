import Rendezvous.Agent.Invitation
import Rendezvous.Proofs.Json.Meaning
import Rendezvous.Proofs.Text.Trimming

/-! Invitations keep the text of their value, character for character. -/

namespace Rendezvous

namespace Json

variable {cs v : List Char}

/-- A text without the white space around it. -/
def trimSpace (cs : List Char) : List Char := Text.dropEndWhile isSpace (skipSpace cs)

theorem not_isSpace_of_isNumeric {c : Char} (h : isNumeric c = true) : isSpace c = false := by
  by_cases hc : isSpace c = true
  · rcases isSpace_iff.mp hc with rfl | rfl | rfl | rfl <;> exact absurd h (by decide)
  · simpa using hc

theorem Bracketed.getLast?_eq {opening closing : Char} {ts : List (List Char)} {text : List Char}
    (h : Bracketed opening closing ts text) : text.getLast? = some closing := by
  cases h with
  | @empty gap _ =>
    rw [← List.cons_append]
    exact List.getLast?_concat
  | @texts t ts =>
    rw [← List.append_assoc, ← List.cons_append]
    exact List.getLast?_concat

/-- A value ends with something to be seen. -/
theorem last_visible_of_value (h : Value v) : ∀ c ∈ v.getLast?, isSpace c = false := by
  intro c hc
  cases h with
  | null | true | false =>
    cases hc
    decide
  | number number =>
    exact not_isSpace_of_isNumeric (number.isNumeric c (List.mem_of_getLast? hc))
  | negative number =>
    rcases List.mem_cons.mp (List.mem_of_getLast? hc) with rfl | hmem
    · decide
    · exact not_isSpace_of_isNumeric (number.isNumeric c hmem)
  | string body =>
    rw [← List.cons_append, List.getLast?_concat] at hc
    cases hc
    decide
  | list _ _ written =>
    rw [written.getLast?_eq] at hc
    cases hc
    decide
  | object _ _ _ written =>
    rw [written.getLast?_eq] at hc
    cases hc
    decide

theorem trimSpace_of_surrounds (hv : Value v) (h : Surrounds cs v) : trimSpace cs = v := by
  obtain ⟨s, s', hs, hs', rfl⟩ := h
  rw [trimSpace, skipSpace_append hs hv, Text.dropEndWhile_eq_iff]
  exact ⟨⟨s', rfl, hs'⟩, last_visible_of_value hv⟩

/-- A text without white space around it is no shorter than the whole. -/
theorem eq_of_surrounds {t : String} (h : Surrounds t.toList v)
    (hlength : ¬ (String.ofList v).utf8ByteSize < t.utf8ByteSize) : t = String.ofList v := by
  obtain ⟨s, s', -, -, htext⟩ := h
  have ht : t = String.ofList s ++ (String.ofList v ++ String.ofList s') := by
    rw [← String.toList_inj, htext]
    simp
  have hbytes := congrArg String.utf8ByteSize ht
  rw [String.utf8ByteSize_append, String.utf8ByteSize_append] at hbytes
  -- Each character takes a byte or more, so what takes none is empty.
  have hs : String.ofList s = "" := String.utf8ByteSize_eq_zero_iff.mp (by omega)
  have hs' : String.ofList s' = "" := String.utf8ByteSize_eq_zero_iff.mp (by omega)
  rw [ht, hs, hs', String.empty_append, String.append_empty]

theorem readAll_map {α β : Type} (read : Reader α) (f : α → β) (text : String) :
    readAll (fun cs => do
      let (a, rest) ← read cs
      .ok (f a, rest)) text = (readAll read text).map f := by
  simp only [readAll]
  cases read text.toList with
  | error e => rfl
  | ok r =>
    obtain ⟨a, rest⟩ := r
    rw [ok_bind, ok_bind, ok_bind]
    dsimp only
    split <;> rfl

end Json

namespace Invitation

open Json

variable {t : String} {i : Invitation}

theorem ofText_eq_ok_iff :
    ofText t = .ok i ↔ Value i.text.toList ∧ Surrounds t.toList i.text.toList := by
  have hkept : ∀ v, Surrounds t.toList v →
      (if (String.ofList v).utf8ByteSize < t.utf8ByteSize then String.ofList v else t) =
        String.ofList v := by
    intro v hv
    split
    · rfl
    · exact eq_of_surrounds hv ‹_›
  rw [ofText, bind_eq_ok_iff]
  constructor
  · rintro ⟨value, hvalue, hok⟩
    obtain ⟨v, hsurrounds, hv, rfl⟩ := means_readRaw.readAll_iff.mp hvalue
    rw [hkept v hsurrounds] at hok
    cases hok
    rw [String.toList_ofList]
    exact ⟨hv, hsurrounds⟩
  · rintro ⟨hv, hsurrounds⟩
    refine ⟨i.text, means_readRaw.readAll_iff.mpr ⟨_, hsurrounds, hv, ?_⟩, ?_⟩
    · exact String.ofList_toList.symm
    · have htext := hkept _ hsurrounds
      rw [String.ofList_toList] at htext
      rw [htext]

/-- An invitation may be read as a text is, or made from the text. -/
theorem readAll_read_eq (t : String) : readAll read t = ofText t := by
  have hmap : readAll read t = (readAll readRaw t).map Invitation.mk := readAll_map readRaw _ t
  cases hraw : readAll readRaw t with
  | error e =>
    rw [hmap, ofText, hraw]
    rfl
  | ok value =>
    obtain ⟨v, hsurrounds, hv, rfl⟩ := means_readRaw.readAll_iff.mp hraw
    rw [hmap, hraw]
    refine (ofText_eq_ok_iff.mpr ?_).symm
    rw [String.toList_ofList]
    exact ⟨hv, hsurrounds⟩

theorem ofText_text (h : ofText t = .ok i) : ofText i.text = .ok i :=
  ofText_eq_ok_iff.mpr ⟨(ofText_eq_ok_iff.mp h).1, surrounds_self _⟩

/-- A text makes an invitation just when it is one JSON value with white space around it, whichever
way it is read. What is kept is the value without that white space and otherwise unchanged, and it
is what is written again. -/
theorem ofText_keeps_text (t : String) :
    ((∃ i, ofText t = .ok i) ↔ ∃ v, Value v ∧ Surrounds t.toList v) ∧
      readAll read t = ofText t ∧
      (∀ i, ofText t = .ok i →
        Value i.text.toList ∧ Surrounds t.toList i.text.toList ∧
          i.text = String.ofList (trimSpace t.toList) ∧ i.json = i.text ∧
          (∀ depth, i.tree.pretty depth = i.text) ∧ ofText i.text = .ok i) ∧
      ∀ i j : Invitation, i = j ↔ i.text = j.text := by
  refine ⟨⟨?_, ?_⟩, readAll_read_eq t, fun i hi => ?_, fun i j => ⟨congrArg _, ?_⟩⟩
  · rintro ⟨i, hi⟩
    exact ⟨_, ofText_eq_ok_iff.mp hi⟩
  · rintro ⟨v, hv, hsurrounds⟩
    refine ⟨⟨String.ofList v⟩, ofText_eq_ok_iff.mpr ?_⟩
    rw [String.toList_ofList]
    exact ⟨hv, hsurrounds⟩
  · obtain ⟨hv, hsurrounds⟩ := ofText_eq_ok_iff.mp hi
    refine ⟨hv, hsurrounds, ?_, ?_, ?_, ofText_text hi⟩
    · rw [trimSpace_of_surrounds hv hsurrounds, String.ofList_toList]
    · rw [json, tree, Tree.compact]
    · intro depth
      rw [tree, Tree.pretty]
  · cases i
    cases j
    rintro rfl
    rfl

/-- White space goes from around the value, not from within it. -/
example : (ofText "\t\x7b \"a\" :\n[1,  null ]\x7d \r\n").map json =
    .ok "\x7b \"a\" :\n[1,  null ]\x7d" := by
  decide +kernel

end Invitation

end Rendezvous
