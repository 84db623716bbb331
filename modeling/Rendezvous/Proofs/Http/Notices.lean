import Rendezvous.Proofs.Json.Writing
import Rendezvous.Proofs.Http.Classification
import Rendezvous.Proofs.Text.Utf8

/-! Which answers about one connection are accepted. -/

namespace Rendezvous.Http

open Agent (Call Fault Notice createdShape receivedShape)
open Json

variable {members : List Member} {n : Notice} {text : String}

theorem means_readInvitation : Means Invitation.read fun v i => i.text.toList = v := by
  have hmeans := means_readRaw.map Invitation.mk
  have hsame : (fun v i => ∃ t, t = String.ofList v ∧ i = ⟨t⟩) =
      fun (v : List Char) (i : Invitation) => i.text.toList = v := by
    ext v i
    constructor
    · rintro ⟨t, rfl, rfl⟩
      exact String.toList_ofList
    · rintro rfl
      exact ⟨i.text, String.ofList_toList.symm, rfl⟩
  rwa [hsame] at hmeans

/-- The connection's name is the text that its member spells. -/
def NamesConnection (members : List Member) (id : String) : Prop :=
  ∃ m ∈ members, m.Named "connection_id" ∧ SpellsText m.value id

/-- The invitation is the value of its member, which is not `null`. -/
def HoldsInvitation (members : List Member) (i : Invitation) : Prop :=
  ∃ m ∈ members, m.Named "invitation" ∧ m.value ≠ nullText ∧ i.text.toList = m.value

section Fields

abbrev putId (n : Notice) (id? : Option String) : Notice := { n with connectionId := id? }

abbrev putInvitation (n : Notice) (i? : Option Invitation) : Notice := { n with invitation := i? }

theorem idField_puts : (optionalField "connection_id" readText putId).Puts putId
    (Optionally SpellsText) := optionalField_puts means_readText _ _

theorem invitationField_puts : (optionalField "invitation" Invitation.read putInvitation).Puts
    putInvitation (Optionally fun v i => i.text.toList = v) :=
  optionalField_puts means_readInvitation _ _

theorem createdShape_fields : createdShape.fields =
    [optionalField "connection_id" readText putId,
      optionalField "invitation" Invitation.read putInvitation] := rfl

theorem createdShape_steady : ∀ f ∈ createdShape.fields, f.Steady := by
  rw [createdShape_fields]
  simp only [List.forall_mem_cons]
  exact ⟨idField_puts.steady, invitationField_puts.steady, nofun⟩

theorem receivedShape_steady : ∀ f ∈ receivedShape.fields, f.Steady :=
  List.forall_mem_singleton.mpr idField_puts.steady

/-- The name that is read is the one that the members give. -/
theorem id_iff {sh : Shape Notice} (hdistinct : (sh.fields.map Json.Field.name).Nodup)
    (hid : optionalField "connection_id" readText putId ∈ sh.fields)
    (hother : ∀ g ∈ sh.fields, g.name ≠ "connection_id" → ∀ n n' v, g.Reads n n' v →
      n'.connectionId = n.connectionId)
    (hempty : sh.empty.connectionId = none) (h : Filled sh [] sh.empty members n) {id : String} :
    n.connectionId = some id ↔ NamesConnection members id := by
  rw [h.entry_iff Notice.connectionId hdistinct hid idField_puts (fun _ _ => rfl) hother hempty
    SpellsText.unique]
  constructor
  · rintro ⟨m, hm, hname, -, spells⟩
    exact ⟨m, hm, hname, spells⟩
  · rintro ⟨m, hm, hname, spells⟩
    exact ⟨m, hm, hname, spells.ne_null, spells⟩

theorem received_id_iff (h : Filled receivedShape [] receivedShape.empty members n)
    {id : String} : n.connectionId = some id ↔ NamesConnection members id := by
  refine id_iff (by decide) List.mem_cons_self ?_ rfl h
  exact List.forall_mem_singleton.mpr fun hne => absurd rfl hne

theorem created_id_iff (h : Filled createdShape [] createdShape.empty members n) {id : String} :
    n.connectionId = some id ↔ NamesConnection members id := by
  refine id_iff (by decide) List.mem_cons_self ?_ rfl h
  rw [createdShape_fields]
  simp only [List.forall_mem_cons]
  exact ⟨fun hne => absurd rfl hne,
    fun _ _ _ _ reads => invitationField_puts.keeps (fun _ _ => rfl) reads, nofun⟩

theorem created_invitation_iff (h : Filled createdShape [] createdShape.empty members n)
    {i : Invitation} : n.invitation = some i ↔ HoldsInvitation members i := by
  have hother : ∀ g ∈ createdShape.fields, g.name ≠ "invitation" → ∀ n n' v,
      g.Reads n n' v → n'.invitation = n.invitation := by
    rw [createdShape_fields]
    simp only [List.forall_mem_cons]
    exact ⟨fun _ _ _ _ reads => idField_puts.keeps (fun _ _ => rfl) reads,
      fun hne => absurd rfl hne, nofun⟩
  refine h.entry_iff Notice.invitation (by decide) (List.mem_cons_of_mem _ List.mem_cons_self)
    invitationField_puts (fun _ _ => rfl) hother rfl ?_
  intro v i i' hi hi'
  have htext : i.text = i'.text := String.toList_injective (hi.trans hi'.symm)
  cases i
  cases i'
  exact congrArg Invitation.mk htext

/-- A member that names the connection can be read, and it is the only one. -/
theorem id_readable {id : String} (once : Once members "connection_id")
    (hid : NamesConnection members id) : ∀ m ∈ members, m.Named "connection_id" → ∀ n, ∃ n',
      (optionalField "connection_id" readText putId).Reads n n' m.value := by
  intro m hm hname n
  obtain ⟨m', hm', hname', spells⟩ := hid
  obtain rfl := once.unique hm' hm hname' hname
  exact ⟨_, idField_puts.reads_iff.mpr
    ⟨spells.value, some id, .some spells.ne_null spells, rfl⟩⟩

/-- Every value can be read as an invitation, or as none if it is `null`. -/
theorem invitation_readable {v : List Char} (hv : Value v) (n : Notice) :
    ∃ n', (optionalField "invitation" Invitation.read putInvitation).Reads n n' v := by
  by_cases hnull : v = nullText
  · exact ⟨_, invitationField_puts.reads_iff.mpr ⟨hv, none, .null hnull, rfl⟩⟩
  · exact ⟨_, invitationField_puts.reads_iff.mpr
      ⟨hv, some ⟨String.ofList v⟩, .some hnull String.toList_ofList, rfl⟩⟩

section Object

variable (object : ObjectOf text members) (named : ∀ m ∈ members, ∃ name, m.Named name)
  (onceId : Once members "connection_id")

include object named onceId

theorem received_iff {id : String} :
    (∃ n, readAll receivedShape.read text = .ok n ∧ n.connectionId = some id) ↔
      NamesConnection members id := by
  have hread : ∀ n, readAll receivedShape.read text = .ok n ↔
      Filled receivedShape [] receivedShape.empty members n ∧ receivedShape.Complete members :=
    fun _ => Shape.readAll_object_iff receivedShape_steady object
  constructor
  · rintro ⟨n, hn, hid⟩
    exact (received_id_iff ((hread n).mp hn).1).mp hid
  · intro hid
    have honce : ∀ f ∈ receivedShape.fields, Once members f.name :=
      List.forall_mem_singleton.mpr onceId
    have hreadable : ∀ f ∈ receivedShape.fields, ∀ m ∈ members, m.Named f.name → ∀ n, ∃ n',
        f.Reads n n' m.value := List.forall_mem_singleton.mpr (id_readable onceId hid)
    obtain ⟨n, hfilled⟩ := Filled.exists_filled (by decide) named honce hreadable
      (fun _ _ _ hseen => absurd hseen List.not_mem_nil) receivedShape.empty
    have hcomplete : receivedShape.Complete members := List.forall_mem_singleton.mpr nofun
    exact ⟨n, (hread n).mpr ⟨hfilled, hcomplete⟩, (received_id_iff hfilled).mpr hid⟩

theorem created_iff (onceInvitation : Once members "invitation") {id : String} {i : Invitation} :
    (∃ n, readAll createdShape.read text = .ok n ∧ n.connectionId = some id ∧
      n.invitation = some i) ↔ NamesConnection members id ∧ HoldsInvitation members i := by
  have hread : ∀ n, readAll createdShape.read text = .ok n ↔
      Filled createdShape [] createdShape.empty members n ∧ createdShape.Complete members :=
    fun _ => Shape.readAll_object_iff createdShape_steady object
  constructor
  · rintro ⟨n, hn, hid, hi⟩
    have hfilled := ((hread n).mp hn).1
    exact ⟨(created_id_iff hfilled).mp hid, (created_invitation_iff hfilled).mp hi⟩
  · rintro ⟨hid, hi⟩
    have hreadable : ∀ f ∈ createdShape.fields, ∀ m ∈ members, m.Named f.name → ∀ n, ∃ n',
        f.Reads n n' m.value := by
      rw [createdShape_fields]
      simp only [List.forall_mem_cons]
      exact ⟨id_readable onceId hid,
        fun m hm _ n => invitation_readable (object.sound m hm).value n, nofun⟩
    have honce : ∀ f ∈ createdShape.fields, Once members f.name :=
      List.forall_mem_cons.mpr ⟨onceId, List.forall_mem_singleton.mpr onceInvitation⟩
    obtain ⟨n, hfilled⟩ := Filled.exists_filled (by decide) named honce hreadable
      (fun _ _ _ hseen => absurd hseen List.not_mem_nil) createdShape.empty
    have hcomplete : createdShape.Complete members :=
      List.forall_mem_cons.mpr ⟨nofun, List.forall_mem_singleton.mpr nofun⟩
    exact ⟨n, (hread n).mpr ⟨hfilled, hcomplete⟩, (created_id_iff hfilled).mpr hid,
      (created_invitation_iff hfilled).mpr hi⟩

end Object

end Fields

/-! ### Responses -/

section Response

variable [Text.Encodings] {c : Client} {call : Call} {q : Request} {response : Response}
  {i : Invitation} {a : Option String} {auto : Bool}

/-- The response is found malformed, with a fault that names the agent that was called. -/
def FoundMalformed (c : Client) (call : Call) (q : Request) (response : Response) : Prop :=
  ∃ detail, c.conclude call q (some response) = .error (.malformed c.endpoint.baseUrl detail)

section Text

variable (success : response.isSuccess = true) (read : response.text? = some text)

include success read

theorem Client.conclude_text : c.conclude call q (some response) = c.readAnswer call text := by
  rw [conclude, accepted, if_pos success, read]
  rfl

theorem foundMalformed_of_ne_ok (h : ∀ answer, c.conclude call q (some response) ≠ .ok answer) :
    FoundMalformed c call q response := by
  have htext : c.conclude call q (some response) = c.readAnswer call text :=
    Client.conclude_text success read
  unfold FoundMalformed
  cases hanswer : c.conclude call q (some response) with
  | ok answer => exact absurd hanswer (h answer)
  | error f =>
    rw [htext] at hanswer
    obtain ⟨detail, rfl, -⟩ := Client.readAnswer_eq_error_iff.mp hanswer
    exact ⟨detail, rfl⟩

theorem Client.conclude_received_iff {id : ConnectionId .invitee} :
    c.conclude (.receiveInvitation i a auto) q (some response) = .ok id ↔
      (∃ n, readAll receivedShape.read text = .ok n ∧ n.connectionId = some id.text) ∧
        id.text ≠ "" := by
  rw [Client.conclude_text success read]
  change c.readReceived _ text = .ok id ↔ _
  constructor
  · intro h
    obtain ⟨n, hn, h⟩ := bind_eq_ok_iff.mp h
    obtain ⟨id', hid, hok⟩ := bind_eq_ok_iff.mp h
    cases hok
    obtain ⟨hsome, hne⟩ := needId_eq_ok_iff.mp hid
    exact ⟨⟨n, parse_eq_ok_iff.mp hn, hsome⟩, hne⟩
  · rintro ⟨⟨n, hn, hsome⟩, hne⟩
    exact bind_eq_ok_iff.mpr ⟨n, parse_eq_ok_iff.mpr hn,
      bind_eq_ok_iff.mpr ⟨id.text, needId_eq_ok_iff.mpr ⟨hsome, hne⟩, rfl⟩⟩

theorem Client.conclude_created_iff {created : Agent.Created} :
    c.conclude (.createInvitation a auto) q (some response) = .ok created ↔
      (∃ n, readAll createdShape.read text = .ok n ∧ n.connectionId = some created.connection.text ∧
        n.invitation = some created.invitation) ∧ created.connection.text ≠ "" := by
  rw [Client.conclude_text success read]
  change c.readCreated _ text = .ok created ↔ _
  constructor
  · intro h
    obtain ⟨n, hn, h⟩ := bind_eq_ok_iff.mp h
    obtain ⟨id', hid, h⟩ := bind_eq_ok_iff.mp h
    obtain ⟨hsome, hne⟩ := needId_eq_ok_iff.mp hid
    split at h
    · rename_i hinvitation
      cases h
      exact ⟨⟨n, parse_eq_ok_iff.mp hn, hsome, hinvitation⟩, hne⟩
    · cases h
  · rintro ⟨⟨n, hn, hsome, hinvitation⟩, hne⟩
    refine bind_eq_ok_iff.mpr ⟨n, parse_eq_ok_iff.mpr hn,
      bind_eq_ok_iff.mpr ⟨created.connection.text, needId_eq_ok_iff.mpr ⟨hsome, hne⟩, ?_⟩⟩
    rw [hinvitation]

/-- A text that none of the answers is read from is found malformed. -/
theorem received_malformed (h : ∀ n id, readAll receivedShape.read text = .ok n →
    n.connectionId = some id → id = "") :
    FoundMalformed c (.receiveInvitation i a auto) q response := by
  refine foundMalformed_of_ne_ok success read fun id hok => ?_
  obtain ⟨⟨n, hn, hid⟩, hne⟩ := (Client.conclude_received_iff success read).mp hok
  exact hne (h n id.text hn hid)

theorem created_malformed (h : ∀ n id i, readAll createdShape.read text = .ok n →
    n.connectionId = some id → n.invitation = some i → id = "") :
    FoundMalformed c (.createInvitation a auto) q response := by
  refine foundMalformed_of_ne_ok success read fun created hok => ?_
  obtain ⟨⟨n, hn, hid, hi⟩, hne⟩ := (Client.conclude_created_iff success read).mp hok
  exact hne (h n _ _ hn hid hi)

end Text

/-- Among the answers in objects with names that can be decoded, those are accepted that name a
connection, and of a created invitation also hold the invitation. All other objects are malformed,
and so are texts that are no JSON. -/
theorem usable_answers_are_accepted (c : Client) (q : Request) (response : Response)
    (text : String) (i : Invitation) (a : Option String) (auto : Bool)
    (success : response.isSuccess = true) (read : response.text? = some text) :
    (∀ members, ObjectOf text members → (∀ m ∈ members, ∃ name, m.Named name) →
      Once members "connection_id" →
      (∀ id, c.conclude (.receiveInvitation i a auto) q (some response) = .ok id ↔
        NamesConnection members id.text ∧ id.text ≠ "") ∧
      ((∀ id, NamesConnection members id → id = "") →
        FoundMalformed c (.receiveInvitation i a auto) q response) ∧
      (Once members "invitation" →
        (∀ created, c.conclude (.createInvitation a auto) q (some response) = .ok created ↔
          NamesConnection members created.connection.text ∧ created.connection.text ≠ "" ∧
            HoldsInvitation members created.invitation) ∧
        ((∀ id i, NamesConnection members id → HoldsInvitation members i → id = "") →
          FoundMalformed c (.createInvitation a auto) q response))) ∧
    ((∃ members, ObjectOf text members ∧ ∃ m ∈ members, ∀ name, ¬m.Named name) →
      FoundMalformed c (.receiveInvitation i a auto) q response ∧
      FoundMalformed c (.createInvitation a auto) q response) ∧
    ((¬∃ v, Surrounds text.toList v ∧ Value v) →
      FoundMalformed c (.receiveInvitation i a auto) q response ∧
      FoundMalformed c (.createInvitation a auto) q response) := by
  refine ⟨fun members object named onceId => ⟨fun id => ?_, fun hnone => ?_, fun onceInvitation =>
    ⟨fun created => ?_, fun hnone => ?_⟩⟩, fun hnameless => ?_, fun hvalue => ?_⟩
  · rw [Client.conclude_received_iff success read, received_iff object named onceId]
  · refine received_malformed success read fun n id hn hid => hnone id ?_
    exact (received_iff object named onceId).mp ⟨n, hn, hid⟩
  · rw [Client.conclude_created_iff success read, created_iff object named onceId onceInvitation,
      and_assoc, and_comm (a := HoldsInvitation _ _)]
  · refine created_malformed success read fun n id i hn hid hi => ?_
    obtain ⟨hnames, hholds⟩ :=
      (created_iff object named onceId onceInvitation).mp ⟨n, hn, hid, hi⟩
    exact hnone id i hnames hholds
  · obtain ⟨members, object, m, hm, hname⟩ := hnameless
    refine ⟨received_malformed success read fun n id hn _ => ?_,
      created_malformed success read fun n id i hn _ _ => ?_⟩
    · exact absurd hn (Shape.readAll_ne_ok_of_nameless receivedShape_steady object hm hname)
    · exact absurd hn (Shape.readAll_ne_ok_of_nameless createdShape_steady object hm hname)
  · have hread : ∀ {sh : Shape Notice} {n}, (∀ f ∈ sh.fields, f.Steady) →
        readAll sh.read text ≠ .ok n := by
      intro sh n hsteady hn
      obtain ⟨v, around, hv, -⟩ := (Shape.means_read hsteady).readAll_iff.mp hn
      exact hvalue ⟨v, around, hv⟩
    exact ⟨received_malformed success read fun n id hn _ => absurd hn (hread receivedShape_steady),
      created_malformed success read fun n id i hn _ _ => absurd hn (hread createdShape_steady)⟩

end Response

/-- An answer with a member that no one asks for. -/
def plainPairs : List (String × Tree) :=
  [("x", .list []), ("invitation", .object []), ("connection_id", .text "i")]

def plainAnswer : String := (Tree.object plainPairs).compact

def plainMembers : List Member := plainPairs.map Member.ofPair

theorem plainAnswer_object : ObjectOf plainAnswer plainMembers where
  sound := by
    have hlist : Value (Tree.list []).compact.toList :=
      .of_items (List.forall_mem_nil _) (Tree.listText_compact [])
    have hobject : Value (Tree.object []).compact.toList :=
      .of_members (List.forall_mem_nil _) (Tree.objectText_compact [])
    have htext : Value (Tree.text "i").compact.toList := by
      rw [Tree.compact]
      exact (spellsText_writeString "i").value
    simp only [plainMembers, plainPairs, List.map_cons, List.map_nil, List.forall_mem_cons]
    exact ⟨Member.tight_sound _ hlist, Member.tight_sound _ hobject, Member.tight_sound _ htext,
      List.forall_mem_nil _⟩
  written := ⟨_, surrounds_self _, Tree.objectText_compact plainPairs⟩

theorem plain_answer_is_accepted :
    (plainResponse plainAnswer).isSuccess = true ∧
    (plainResponse plainAnswer).text? = some plainAnswer ∧
    (plainClients .invitee).conclude (.receiveInvitation ⟨"\x7b\x7d"⟩ none false) plainRequest
        (some (plainResponse plainAnswer)) = .ok ⟨"i"⟩ ∧
    (plainClients .inviter).conclude (.createInvitation none false) plainRequest
        (some (plainResponse plainAnswer)) = .ok ⟨⟨"i"⟩, ⟨"\x7b\x7d"⟩⟩ := by
  have htext : (plainResponse plainAnswer).text? = some plainAnswer := by decide +kernel
  have hdistinct : (plainPairs.map Prod.fst).Nodup := by decide
  have hnamed : ∀ m ∈ plainMembers, ∃ name, m.Named name := by
    intro m hm
    obtain ⟨p, -, rfl⟩ := List.mem_map.mp hm
    exact ⟨p.1, Member.ofPair_named p.1 p.2⟩
  have hid : NamesConnection plainMembers "i" := by
    refine ⟨_, List.mem_map_of_mem (a := ("connection_id", Tree.text "i")) (by simp [plainPairs]),
      Member.ofPair_named _ _, ?_⟩
    rw [Member.value_ofPair, Tree.compact]
    exact spellsText_writeString "i"
  have hinvitation : HoldsInvitation plainMembers ⟨"\x7b\x7d"⟩ :=
    ⟨_, List.mem_map_of_mem (a := ("invitation", Tree.object [])) (by simp [plainPairs]),
      Member.ofPair_named _ _, by decide +kernel, by decide +kernel⟩
  have hobject := fun c => (usable_answers_are_accepted c plainRequest (plainResponse plainAnswer)
    plainAnswer ⟨"\x7b\x7d"⟩ none false rfl htext).1 plainMembers plainAnswer_object hnamed
    (Tree.once_ofPair hdistinct _)
  refine ⟨rfl, htext, ((hobject _).1 ⟨"i"⟩).mpr ⟨hid, by decide⟩, ?_⟩
  have honce : Once plainMembers "invitation" := Tree.once_ofPair hdistinct _
  exact (((hobject _).2.2 honce).1 ⟨⟨"i"⟩, ⟨"\x7b\x7d"⟩⟩).mpr ⟨hid, by decide, hinvitation⟩

/-- A name that cannot be decoded spoils an answer that names a connection. -/
def namelessAnswer : String := "\x7b\"connection_id\":\"i\",\"\\ud800\":1\x7d"

def namelessMembers : List Member := [.ofPair ("connection_id", .text "i"), nameless]

theorem namelessAnswer_object : ObjectOf namelessAnswer namelessMembers where
  sound := by
    have htext : Value (Tree.text "i").compact.toList := by
      rw [Tree.compact]
      exact (spellsText_writeString "i").value
    simp only [namelessMembers, List.forall_mem_cons]
    exact ⟨Member.tight_sound _ htext, nameless_sound, List.forall_mem_nil _⟩
  written := ⟨_, ⟨[], [], spaces_nil, spaces_nil, by decide +kernel⟩,
    bracketed_intercalate '\x7b' '\x7d' (namelessMembers.map Member.text)⟩

theorem nameless_member_spoils_answer :
    ObjectOf namelessAnswer namelessMembers ∧ Once namelessMembers "connection_id" ∧
    NamesConnection namelessMembers "i" ∧
    (plainResponse namelessAnswer).isSuccess = true ∧
    (plainResponse namelessAnswer).text? = some namelessAnswer ∧
    (plainClients .invitee).conclude (.receiveInvitation ⟨"\x7b\x7d"⟩ none false) plainRequest
      (some (plainResponse namelessAnswer)) ≠ .ok ⟨"i"⟩ := by
  have htext : (plainResponse namelessAnswer).text? = some namelessAnswer := by decide +kernel
  have hid : NamesConnection namelessMembers "i" := by
    refine ⟨_, List.mem_cons_self, Member.ofPair_named _ _, ?_⟩
    rw [Member.value_ofPair, Tree.compact]
    exact spellsText_writeString "i"
  have honce : Once namelessMembers "connection_id" := by
    refine List.pairwise_pair.mpr ?_
    rintro ⟨-, h⟩
    exact not_named_nameless _ h
  refine ⟨namelessAnswer_object, honce, hid, rfl, htext, fun hok => ?_⟩
  obtain ⟨⟨n, hn, -⟩, -⟩ := (Client.conclude_received_iff rfl htext).mp hok
  exact Shape.readAll_ne_ok_of_nameless receivedShape_steady namelessAnswer_object
    (List.mem_cons_of_mem _ List.mem_cons_self) not_named_nameless hn

end Rendezvous.Http
