import Rendezvous.Proofs.Json.Writing
import Rendezvous.Proofs.Json.Rewording
import Rendezvous.Proofs.Http.Classification
import Rendezvous.Proofs.Text.Utf8

/-! Records that are written are read back, one by one and in listings. -/

namespace Rendezvous

open Json

namespace ConnectionRecord

/-- The fields are texts, of which those that may be missing are missing at first. -/
theorem forall_fields {P : Json.Field ConnectionRecord → Prop}
    (text : ∀ name put, P (textField name put))
    (optional : ∀ name put, put shape.empty none = shape.empty →
      P (optionalField name readText put)) :
    ∀ f ∈ shape.fields, P f := by
  simp only [shape, List.forall_mem_cons]
  exact ⟨text _ _, text _ _, optional _ _ rfl, optional _ _ rfl, optional _ _ rfl,
    optional _ _ rfl, optional _ _ rfl, optional _ _ rfl, nofun⟩

theorem shape_commutes : shape.fields.Pairwise Json.Field.Commutes := by
  have text := fun name put => textField_puts (α := ConnectionRecord) name put
  have optional := fun name put =>
    optionalField_puts (α := ConnectionRecord) means_readText name put
  simp only [shape, List.pairwise_cons, List.forall_mem_cons]
  refine ⟨⟨?_, ?_, ?_, ?_, ?_, ?_, ?_, nofun⟩, ⟨?_, ?_, ?_, ?_, ?_, ?_, nofun⟩,
    ⟨?_, ?_, ?_, ?_, ?_, nofun⟩, ⟨?_, ?_, ?_, ?_, nofun⟩, ⟨?_, ?_, ?_, nofun⟩, ⟨?_, ?_, nofun⟩,
    ⟨?_, nofun⟩, nofun, .nil⟩
  · exact (text _ _).commutes (text _ _) fun _ _ _ => rfl
  all_goals first
    | exact (text _ _).commutes (optional _ _) fun _ _ _ => rfl
    | exact (optional _ _).commutes (optional _ _) fun _ _ _ => rfl

theorem shape_loose : shape.Loose where
  steady := forall_fields (fun name put => (textField_puts name put).steady)
    fun name put _ => (optionalField_puts means_readText name put).steady
  distinct := by decide
  commutes := shape_commutes
  respells := forall_fields
    (fun name put _ _ _ _ hsame => (textField_puts name put).reads_of_saysSame respells_text hsame)
    fun name put _ _ _ _ _ hsame =>
      (optionalField_puts means_readText name put).reads_of_saysSame respells_text.optional hsame
  null := forall_fields (fun _ _ => nofun) fun name put hnone _ r' => by
    rw [optionalField_null_iff means_readText, hnone]

variable {name : String} {seen : List String} {record out : ConnectionRecord} {ms : List Member}

/-- What is written of a field that is left out without a value. -/
def given (name : String) (s? : Option String) : List (String × Tree) :=
  (s?.map fun s => (name, Tree.text s)).toList

def pairs (r : ConnectionRecord) : List (String × Tree) :=
  [("connection_id", .text r.connectionId), ("state", .text r.state)] ++
    given "rfc23_state" r.rfc23State ++ given "alias" r.aliasName ++
    given "invitation_key" r.invitationKey ++ given "their_label" r.theirLabel ++
    given "created_at" r.createdAt ++ given "updated_at" r.updatedAt

def members (r : ConnectionRecord) : List Member := r.pairs.map Member.ofPair

theorem tree_eq (r : ConnectionRecord) : r.tree = .object r.pairs := rfl

theorem objectText_members (r : ConnectionRecord) : ObjectText r.members r.text.toList := by
  rw [text, tree_eq]
  exact Tree.objectText_compact r.pairs

theorem sound_of_mem_members {r : ConnectionRecord} {m : Member} (hm : m ∈ r.members) :
    m.Sound := by
  have hgiven : ∀ name s?, ∀ p ∈ given name s?, ∃ s, p.2 = .text s := by
    intro name s? p hp
    obtain ⟨s, -, rfl⟩ : ∃ s, s? = some s ∧ (name, Tree.text s) = p := by simpa [given] using hp
    exact ⟨s, rfl⟩
  have htext : ∀ p ∈ r.pairs, ∃ s, p.2 = .text s := by
    intro p hp
    simp only [pairs, List.mem_append, List.mem_cons, List.not_mem_nil, or_false, or_assoc] at hp
    rcases hp with rfl | rfl | hp | hp | hp | hp | hp | hp
    · exact ⟨_, rfl⟩
    · exact ⟨_, rfl⟩
    all_goals exact hgiven _ _ p hp
  obtain ⟨⟨name, t⟩, hp, rfl⟩ := List.mem_map.mp hm
  obtain ⟨s, rfl⟩ : ∃ s, t = .text s := htext _ hp
  refine Member.tight_sound name ?_
  rw [Tree.compact]
  exact (spellsText_writeString s).value

theorem filled_text {put : ConnectionRecord → String → ConnectionRecord} (s : String)
    (found : shape.fields.find? (fun f => f.name == name) = some (textField name put))
    (fresh : name ∉ seen) (rest : Filled shape (name :: seen) (put record s) ms out) :
    Filled shape seen record (.ofPair (name, .text s) :: ms) out := by
  have spells := spellsText_writeString s
  refine (Filled.cons_known_iff (Member.ofPair_named _ _) found).mpr ⟨fresh, put record s, ?_, rest⟩
  rw [Member.value_ofPair, Tree.compact]
  exact (textField_puts name put).reads_iff.mpr ⟨spells.value, s, spells, rfl⟩

theorem filled_optional {put : ConnectionRecord → Option String → ConnectionRecord}
    (s? : Option String)
    (found : shape.fields.find? (fun f => f.name == name) =
      some (optionalField name readText put))
    (fresh : name ∉ seen) (missing : put record none = record)
    (rest : Filled shape (name :: seen) (put record s?) ms out) :
    Filled shape seen record ((given name s?).map Member.ofPair ++ ms) out := by
  cases s? with
  | none =>
    rw [missing] at rest
    exact rest.mono fun _ h => List.mem_cons_of_mem _ h
  | some s =>
    have spells := spellsText_writeString s
    refine (Filled.cons_known_iff (Member.ofPair_named _ _) found).mpr
      ⟨fresh, put record (some s), ?_, rest⟩
    rw [Member.value_ofPair, Tree.compact]
    exact (optionalField_puts means_readText name put).reads_iff.mpr
      ⟨spells.value, some s, .some spells.ne_null spells, rfl⟩

/-- Field by field, the members of its text fill a record. -/
theorem filled_members (r : ConnectionRecord) : Filled shape [] shape.empty r.members r := by
  simp only [members, pairs, List.append_assoc, List.map_append, List.cons_append,
    List.nil_append, List.map_cons]
  refine filled_text r.connectionId rfl (by decide) ?_
  refine filled_text r.state rfl (by decide) ?_
  refine filled_optional r.rfc23State rfl (by decide) rfl ?_
  refine filled_optional r.aliasName rfl (by decide) rfl ?_
  refine filled_optional r.invitationKey rfl (by decide) rfl ?_
  refine filled_optional r.theirLabel rfl (by decide) rfl ?_
  refine filled_optional r.createdAt rfl (by decide) rfl ?_
  rw [← List.append_nil ((given "updated_at" r.updatedAt).map Member.ofPair)]
  exact filled_optional r.updatedAt rfl (by decide) rfl .done

theorem complete_members (r : ConnectionRecord) : shape.Complete r.members := by
  have hnamed : ∀ name s, (name, .text s) ∈ r.pairs → ∃ m ∈ r.members, m.Named name :=
    fun name s hp => ⟨_, List.mem_map_of_mem hp, Member.tight_named name _⟩
  have hid := hnamed "connection_id" r.connectionId (by simp [pairs])
  have hstate := hnamed "state" r.state (by simp [pairs])
  simp only [Shape.Complete, shape, List.forall_mem_cons]
  exact ⟨fun _ => hid, fun _ => hstate, nofun, nofun, nofun, nofun, nofun, nofun, nofun⟩

theorem spelt_text (r : ConnectionRecord) : shape.Spelt r.text.toList r :=
  .object (fun _ => sound_of_mem_members) (objectText_members r) (filled_members r)
    (complete_members r)

theorem object_text (r : ConnectionRecord) : ObjectOf r.text r.members :=
  ⟨fun _ => sound_of_mem_members, _, surrounds_self _, objectText_members r⟩

theorem value_text (r : ConnectionRecord) : Value r.text.toList :=
  .of_members (fun _ => sound_of_mem_members) (objectText_members r)

theorem ofText_text (r : ConnectionRecord) : ofText r.text = .ok r := by
  have hmeans := Shape.means_read shape_loose.steady
  exact hmeans.readAll_iff.mpr ⟨r.text.toList, surrounds_self _, value_text r, spelt_text r⟩

theorem text_injective : Function.Injective text := by
  intro r r' h
  have hread := ofText_text r
  rw [h, ofText_text r'] at hread
  exact (Except.ok.inj hread).symm

end ConnectionRecord

namespace Agent

variable {records : List ConnectionRecord} {body : String}

/-- The text is that of an object with the list of the texts of the records under the name
`results`, whatever white space is between its tokens. -/
inductive Lists (body : String) (records : List ConnectionRecord) : Prop
  | mk {m : Member} {items : List Item} (object : ObjectOf body [m]) (named : m.Named "results")
      (spaced : ∀ i ∈ items, i.Spaced) (written : ListText items m.value)
      (texts : items.map Item.value = records.map fun r => r.text.toList) : Lists body records

theorem listing_puts : ∀ f ∈ listingShape.fields,
    f.Puts (fun _ records => records) (ListMeans ConnectionRecord.shape.Spelt) := by
  have hmeans := (Shape.means_read ConnectionRecord.shape_loose.steady).list
  refine List.forall_mem_singleton.mpr (Json.Field.puts_of_means fun _ => ?_)
  simpa using hmeans

theorem Lists.readAll_eq (h : Lists body records) :
    readAll listingShape.read body = .ok records := by
  obtain @⟨m, items, object, named, spaced, written, texts⟩ := h
  have htexts : List.Forall₂ (fun i r => i.value = r.text.toList) items records := by
    have hsame := List.forall₂_eq_eq_eq ▸ texts
    rwa [List.forall₂_map_left_iff, List.forall₂_map_right_iff] at hsame
  have hmeans : ListMeans ConnectionRecord.shape.Spelt m.value records := by
    refine ⟨fun i hi => ⟨spaced i hi, ?_⟩, written, htexts.imp fun i r hi => hi ▸ r.spelt_text⟩
    have hmem : i.value ∈ records.map fun r => r.text.toList := texts ▸ List.mem_map_of_mem hi
    obtain ⟨r, -, hr⟩ := List.mem_map.mp hmem
    exact hr ▸ r.value_text
  have hputs := listing_puts
  have hsteady : ∀ f ∈ listingShape.fields, f.Steady := fun f hf => (hputs f hf).steady
  have hvalue : Value m.value := (object.sound m List.mem_cons_self).value
  refine (Shape.readAll_object_iff hsteady object).mpr ⟨?_, ?_⟩
  · refine (Filled.cons_known_iff named rfl).mpr ⟨nofun, records, ?_, .done⟩
    exact (hputs _ List.mem_cons_self).reads_iff.mpr ⟨hvalue, records, hmeans, rfl⟩
  · exact List.forall_mem_singleton.mpr fun _ => ⟨m, List.mem_cons_self, named⟩

def listing (records : List ConnectionRecord) : Tree :=
  .object [("results", .list (records.map ConnectionRecord.tree))]

theorem lists_listing (records : List ConnectionRecord) :
    Lists (listing records).compact records := by
  have hlist := Tree.listText_compact (records.map ConnectionRecord.tree)
  rw [List.map_map] at hlist
  have hsound : ∀ i ∈ records.map fun r => Item.tight r.text.toList, i.Sound := by
    intro i hi
    obtain ⟨r, -, rfl⟩ := List.mem_map.mp hi
    exact Item.tight_sound r.value_text
  have hmember := Member.tight_sound "results" (.of_items hsound hlist)
  refine .mk ⟨List.forall_mem_singleton.mpr hmember, ?_⟩ (Member.tight_named _ _)
    (fun i hi => (hsound i hi).spaced) hlist ?_
  · refine ⟨_, surrounds_self _, ?_⟩
    exact Tree.objectText_compact [("results", .list (records.map ConnectionRecord.tree))]
  · simp [Item.tight]

end Agent

namespace Http

open Agent (Lists listing listingShape lists_listing)

theorem Client.conclude_listing [Text.Encodings] {c : Client} {a : Option String} {q : Request}
    {response : Response} {records : List ConnectionRecord} {body : String}
    (success : response.isSuccess = true)
    (text : response.text? = some body) (lists : Lists body records) :
    c.conclude (.listConnections a) q (some response) = .ok records := by
  have hread : c.parse (.listConnections a) listingShape.read body = .ok records :=
    parse_eq_ok_iff.mpr lists.readAll_eq
  rw [conclude, accepted, if_pos success, text]
  exact hread

def listed (records : List ConnectionRecord) : Response :=
  ⟨200, none, none, some (Text.encodeUtf8 (listing records).compact.toList)⟩

theorem text?_listed (records : List ConnectionRecord) :
    (listed records).text? = some (listing records).compact := by
  obtain ⟨inner, htext⟩ := (Json.Tree.objectText_compact
    [("results", .list (records.map ConnectionRecord.tree))]).exists_inner
  exact congrArg some (Text.decode_encodeUtf8 htext (by decide))

/-- What is written of a record is read back, so that different records have different texts, and a
response that lists the texts of records brings these records in their order. -/
theorem written_records_are_read_back [Text.Encodings] :
    (∀ r : ConnectionRecord, ConnectionRecord.ofText r.text = .ok r) ∧
    Function.Injective ConnectionRecord.text ∧
    ∀ (c : Client) (a : Option String) (q : Request) (response : Response)
      (records : List ConnectionRecord) (body : String), response.isSuccess = true →
      response.text? = some body → Lists body records →
      c.conclude (.listConnections a) q (some response) = .ok records := by
  refine ⟨ConnectionRecord.ofText_text, ConnectionRecord.text_injective, ?_⟩
  intro c a q response records body success text lists
  exact Client.conclude_listing success text lists

/-- Texts with quotes, control characters and characters beyond the basic plane. -/
def oddRecord : ConnectionRecord where
  connectionId := "\"c\\"
  state := ""
  rfc23State := some "\n\x00\x1f"
  aliasName := some "😀é"
  invitationKey := none
  theirLabel := some "null"
  createdAt := none
  updatedAt := some "\x7b\x7d"

theorem odd_records_are_read_back :
    ConnectionRecord.ofText oddRecord.text = .ok oddRecord ∧
    (listed [oddRecord, .bare "c" "s", oddRecord]).isSuccess = true ∧
    (listed [oddRecord, .bare "c" "s", oddRecord]).text? =
      some (listing [oddRecord, .bare "c" "s", oddRecord]).compact ∧
    (plainClients .inviter).conclude (.listConnections none) plainRequest
        (some (listed [oddRecord, .bare "c" "s", oddRecord])) =
      .ok [oddRecord, .bare "c" "s", oddRecord] :=
  ⟨written_records_are_read_back.1 oddRecord, rfl, text?_listed _,
    written_records_are_read_back.2.2 _ _ _ _ _ _ rfl (text?_listed _) (lists_listing _)⟩

end Http

end Rendezvous
