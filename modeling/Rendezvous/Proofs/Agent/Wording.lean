import Rendezvous.Proofs.Agent.Records

/-! What is said of a connection is settled by what the members of an object say, and not by their
wording. -/

namespace Rendezvous.ConnectionRecord

open Json

/-- A record is read the same however its text is worded: in any order, with any white space, with
any spelling of names and texts, with members of other names whatever they hold, and with `null` or
nothing for a field that may be missing. The names have to be names that can be decoded. -/
theorem wording_leaves_record {r : ConnectionRecord} {text text' : String}
    {members members' : List Member} (object : ObjectOf text members)
    (object' : ObjectOf text' members') (rewords : shape.Rewords members members')
    (read : ofText text = .ok r) : ofText text' = .ok r :=
  (rewords.readAll_iff shape_loose object object').mp read

/-- A member with white space wherever it may be. -/
def airy (key value : List Char) : Member := ⟨[' '], key, ['\t'], ⟨['\n'], value, ['\r']⟩⟩

theorem airy_sound {key value name : List Char} (hkey : Spells key name) (hvalue : Value value) :
    (airy key value).Sound where
  spaced := by
    have hspace : ∀ c, isSpace c = true → Spaces [c] := fun c hc => List.forall_mem_singleton.mpr hc
    exact ⟨hspace _ rfl, hspace _ rfl, hspace _ rfl, hspace _ rfl⟩
  key := hkey.stringBody
  value := hvalue

/-- The name of the state with an escape in it. -/
def escapedName : List Char := ['s', 't', '\\', 'u', '0', '0', '6', '1', 't', 'e']

theorem spells_escapedName : Spells escapedName "state".toList := by
  have hend : Spells ['t', 'e'] ['t', 'e'] := spells_flatMap_writeChar ['t', 'e']
  have hescape : Spells ('\\' :: 'u' :: '0' :: '0' :: '6' :: '1' :: ['t', 'e']) ['a', 't', 'e'] :=
    .escaped (by decide) (by decide) (by decide) (by decide) hend
  exact spells_writeChar 's' (spells_writeChar 't' hescape)

def escapedText : List Char := ['"', '\\', 'u', '0', '0', '7', '3', '"']

theorem spellsText_escapedText : SpellsText escapedText "s" :=
  ⟨['\\', 'u', '0', '0', '7', '3'], rfl,
    .escaped (by decide) (by decide) (by decide) (by decide) .nil⟩

def nested : List Char := ['[', '\x7b', '\x7d', ']']

theorem value_nested : Value nested := by
  have hobject : Value ['\x7b', '\x7d'] :=
    .of_members (List.forall_mem_nil _) (.empty spaces_nil)
  have hsound : ∀ i ∈ [Item.tight ['\x7b', '\x7d']], i.Sound :=
    List.forall_mem_singleton.mpr (Item.tight_sound hobject)
  exact .of_items hsound .texts

def airyMembers : List Member :=
  [airy ['x'] nested, airy escapedName escapedText,
    .tight "alias" nullText, .tight "connection_id" (writeString "c").toList]

def airyText : String :=
  "\t\x7b \"x\"\t:\n[\x7b\x7d]\r, \"st\\u0061te\"\t:\n\"\\u0073\"\r,\"alias\":null," ++
    "\"connection_id\":\"c\"\x7d\n"

theorem airyText_object : ObjectOf airyText airyMembers where
  sound := by
    simp only [airyMembers, List.forall_mem_cons]
    exact ⟨airy_sound (spells_flatMap_writeChar ['x']) value_nested,
      airy_sound spells_escapedName spellsText_escapedText.value, Member.tight_sound _ .null,
      Member.tight_sound _ (spellsText_writeString "c").value, nofun⟩
  written := ⟨_, ⟨['\t'], ['\n'], List.forall_mem_singleton.mpr rfl,
      List.forall_mem_singleton.mpr rfl, by decide +kernel⟩,
    bracketed_intercalate '\x7b' '\x7d' (airyMembers.map Member.text)⟩

theorem airyMembers_reword : shape.Rewords (bare "c" "s").members airyMembers := by
  let id : Member := .tight "connection_id" (writeString "c").toList
  let state : Member := .tight "state" (writeString "s").toList
  have hid : id.Named "connection_id" := Member.tight_named _ _
  have hstate : (airy escapedName escapedText).Named "state" := spells_escapedName
  have hmembers : (bare "c" "s").members = [id, state] := by
    simp [members, pairs, given, bare, Member.ofPair, Tree.compact, id, state]
  have hreordered : shape.Rewords [id, state] [state, id] := .reordered (.swap state id [])
  have hrespelt : shape.Rewords [state, id] [airy escapedName escapedText, id] := by
    refine .respelt (.cons ⟨"state", Member.tight_named _ _, hstate, fun _ => ?_⟩
      (.cons ⟨"connection_id", hid, hid, fun _ => .same rfl⟩ .nil))
    exact .spelt (spellsText_writeString "s") spellsText_escapedText
  have hnull : shape.Rewords ([airy escapedName escapedText] ++ [id])
      ([airy escapedName escapedText] ++ .tight "alias" nullText :: [id]) := by
    have hfield : shape.fields[3]? = some _ := rfl
    refine .null (List.mem_of_getElem? hfield) rfl (Member.tight_named _ _) rfl ?_
    intro m hm hname
    rcases List.mem_cons.mp hm with rfl | hm
    · exact absurd (hname.unique hstate) (by decide)
    · rw [List.mem_singleton.mp hm] at hname
      exact absurd (hname.unique hid) (by decide)
  have hx : (airy ['x'] nested).Named "x" := spells_flatMap_writeChar ['x']
  have hunknown : shape.Rewords ([] ++ [airy escapedName escapedText, .tight "alias" nullText, id])
      ([] ++ airy ['x'] nested :: [airy escapedName escapedText, .tight "alias" nullText, id]) :=
    .unknown hx (Shape.find?_eq_none_iff.mp rfl)
  rw [hmembers]
  exact (hreordered.trans hrespelt).trans (hnull.trans hunknown)

theorem airyText_is_read_the_same : ofText airyText = .ok (bare "c" "s") :=
  wording_leaves_record (object_text (bare "c" "s")) airyText_object airyMembers_reword
    (ofText_text (bare "c" "s"))

def namelessText : String := "\x7b\"connection_id\":\"c\",\"state\":\"s\",\"\\ud800\":1\x7d"

theorem namelessText_object :
    ObjectOf namelessText ((bare "c" "s").members ++ [nameless]) where
  sound := by
    intro m hm
    rcases List.mem_append.mp hm with hm | hm
    · exact sound_of_mem_members hm
    · exact List.mem_singleton.mp hm ▸ nameless_sound
  written := ⟨_, ⟨[], [], spaces_nil, spaces_nil, by decide +kernel⟩,
    bracketed_intercalate '\x7b' '\x7d' (((bare "c" "s").members ++ [nameless]).map Member.text)⟩

/-- A member of an unknown name spoils a record after all if its name cannot be decoded. -/
theorem nameless_member_spoils_record :
    ObjectOf (bare "c" "s").text (bare "c" "s").members ∧
    ObjectOf namelessText ((bare "c" "s").members ++ [nameless]) ∧
    (∀ f ∈ shape.fields, ¬nameless.Named f.name) ∧
    ofText (bare "c" "s").text = .ok (bare "c" "s") ∧ ∀ r, ofText namelessText ≠ .ok r := by
  refine ⟨object_text _, namelessText_object, fun f _ => not_named_nameless f.name,
    ofText_text _, fun r => ?_⟩
  exact Shape.readAll_ne_ok_of_nameless shape_loose.steady namelessText_object
    (List.mem_append_right _ List.mem_cons_self) not_named_nameless

end Rendezvous.ConnectionRecord
