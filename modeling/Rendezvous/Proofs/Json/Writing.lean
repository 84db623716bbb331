import Rendezvous.Json.Tree
import Rendezvous.Proofs.Json.Entries

/-! What the writer writes, as readers find it. -/

namespace Rendezvous.Json

variable {b s : List Char} {c : Char}

theorem Spells.escaped {x y z w : Char}
    (hex : (isHex x && isHex y && isHex z && isHex w) = true)
    (low : isLowSurrogate (codeUnit x y z w) = false)
    (high : isHighSurrogate (codeUnit x y z w) = false)
    (hc : Char.ofNat (codeUnit x y z w) = c) (hb : Spells b s) :
    Spells ('\\' :: 'u' :: x :: y :: z :: w :: b) (c :: s) := by
  subst hc
  exact .code hex low high hb

/-- A character is written so that it is read back. -/
theorem spells_writeChar (c : Char) (hb : Spells b s) : Spells (writeChar c ++ b) (c :: s) := by
  unfold writeChar
  split
  case h_8 hquote hescape hback hfeed hline hreturn htab =>
    by_cases hcontrol : isControl c = true
    · rw [if_pos hcontrol]
      have hn : c.toNat < 32 := by simpa [isControl] using hcontrol
      have hc := Char.ofNat_toNat c
      generalize c.toNat = n at hn hc ⊢
      subst hc
      refine .escaped ?_ ?_ ?_ ?_ hb
      all_goals
        clear hcontrol hquote hescape hback hfeed hline hreturn htab
        revert n
        decide
    · rw [if_neg hcontrol]
      exact .char hquote hescape (by simpa using hcontrol) hb
  all_goals exact .short (by decide) hb

theorem spells_flatMap_writeChar (s : List Char) : Spells (s.flatMap writeChar) s := by
  induction s with
  | nil => exact .nil
  | cons c s ih =>
    rw [List.flatMap_cons]
    exact spells_writeChar c ih

theorem toList_writeString (t : String) :
    (writeString t).toList = '"' :: (t.toList.flatMap writeChar ++ ['"']) := by
  rw [writeString, String.toList_ofList, List.cons_append]

theorem spellsText_writeString (t : String) : SpellsText (writeString t).toList t :=
  ⟨_, toList_writeString t, spells_flatMap_writeChar t.toList⟩

/-- A member without any white space. -/
def Member.tight (name : String) (value : List Char) : Member :=
  ⟨[], name.toList.flatMap writeChar, [], ⟨[], value, []⟩⟩

theorem Member.tight_named (name : String) (value : List Char) :
    (Member.tight name value).Named name := spells_flatMap_writeChar name.toList

def Member.ofPair (p : String × Tree) : Member := .tight p.1 p.2.compact.toList

theorem Member.value_ofPair (name : String) (t : Tree) :
    (Member.ofPair (name, t)).value = t.compact.toList := rfl

theorem Member.ofPair_named (name : String) (t : Tree) : (Member.ofPair (name, t)).Named name :=
  tight_named name _

/-- A value in a list without any white space. -/
def Item.tight (value : List Char) : Item := ⟨[], value, []⟩

theorem Member.tight_sound (name : String) {value : List Char} (h : Value value) :
    (Member.tight name value).Sound where
  spaced := ⟨spaces_nil, spaces_nil, spaces_nil, spaces_nil⟩
  key := (tight_named name value).stringBody
  value := h

theorem Item.tight_sound {value : List Char} (h : Value value) : (Item.tight value).Sound :=
  ⟨⟨spaces_nil, spaces_nil⟩, h⟩

/-- Texts with commas between them, in brackets. -/
theorem bracketed_intercalate (opening closing : Char) (ts : List (List Char)) :
    Bracketed opening closing ts (opening :: ([','].intercalate ts ++ [closing])) := by
  cases ts with
  | nil => exact .empty spaces_nil
  | cons t ts =>
    have hcommas : [','].intercalate (t :: ts) = t ++ ts.flatMap (',' :: ·) := by
      induction ts generalizing t with
      | nil => simp
      | cons t' ts ih => rw [List.intercalate_cons_cons, ih t', List.flatMap_cons]; simp
    rw [hcommas, List.append_assoc]
    exact .texts

namespace Tree

theorem compactItems_eq (items : List Tree) : compactItems items = items.map compact := by
  induction items with
  | nil => rfl
  | cons t ts ih => rw [compactItems, ih, List.map_cons]

theorem compactMembers_eq (members : List (String × Tree)) :
    compactMembers members = members.map fun p => writeString p.1 ++ ":" ++ p.2.compact := by
  induction members with
  | nil => rfl
  | cons p members ih => rw [compactMembers, ih, List.map_cons]

theorem listText_compact (items : List Tree) :
    ListText (items.map fun t => .tight t.compact.toList) (Tree.list items).compact.toList := by
  have htexts : (compactItems items).map String.toList =
      (items.map fun t => Item.tight t.compact.toList).map Item.text := by
    simp [compactItems_eq, Item.tight, Item.text]
  have htext : (Tree.list items).compact.toList =
      '[' :: ([','].intercalate ((compactItems items).map String.toList) ++ [']']) := by
    simp [compact, String.toList_intercalate]
  rw [htext, htexts]
  exact bracketed_intercalate '[' ']' _

theorem objectText_compact (members : List (String × Tree)) :
    ObjectText (members.map Member.ofPair) (Tree.object members).compact.toList := by
  have htexts : (compactMembers members).map String.toList =
      (members.map Member.ofPair).map Member.text := by
    simp [compactMembers_eq, Member.ofPair, Member.tight, Member.text, Item.text,
      toList_writeString]
  have htext : (Tree.object members).compact.toList =
      '\x7b' :: ([','].intercalate ((compactMembers members).map String.toList) ++ ['\x7d']) := by
    simp [compact, String.toList_intercalate]
  rw [htext, htexts]
  exact bracketed_intercalate '\x7b' '\x7d' _

/-- No name is written twice if the names are different. -/
theorem once_ofPair {members : List (String × Tree)} (h : (members.map Prod.fst).Nodup)
    (name : String) : Once (members.map Member.ofPair) name := by
  rw [Once, List.pairwise_map]
  refine (List.pairwise_map.mp h).imp ?_
  rintro p p' hne ⟨hname, hname'⟩
  exact hne ((Member.ofPair_named p.1 p.2).unique hname ▸
    (hname'.unique (Member.ofPair_named p'.1 p'.2)))

end Tree

end Rendezvous.Json
