import Rendezvous.Proofs.Http.Classification
import Rendezvous.Proofs.Json.Records

/-! The invitation on its way from the inviter's response to the request that the invitee gets. -/

namespace Rendezvous

namespace Json

/-- `v` is the value of the invitation in the text: the value of that name in an object, or the
second value in a list. -/
inductive Invites (text v : List Char) : Prop
  | named {object : List Char} {members : List Member} {m : Member}
      (around : Surrounds text object) (written : ObjectText members object)
      (sound : ∀ m ∈ members, m.Sound) (mem : m ∈ members)
      (name : Spells m.key "invitation".toList) (value : v = m.value)
  | second {list : List Char} {items : List Item} {i : Item} (around : Surrounds text list)
      (written : ListText items list) (sound : ∀ i ∈ items, i.Sound) (place : items[1]? = some i)
      (value : v = i.value)

theorem Bracketed.isInfix_of_mem {opening closing : Char} {ts : List (List Char)}
    {text t : List Char} (h : Bracketed opening closing ts text) (ht : t ∈ ts) : t <:+: text := by
  cases h with
  | empty _ => cases ht
  | @texts u us =>
    rcases List.mem_cons.mp ht with rfl | ht
    · exact ⟨[opening], us.flatMap (',' :: ·) ++ [closing], by simp⟩
    · obtain ⟨a, b, rfl⟩ := List.append_of_mem ht
      exact ⟨opening :: (u ++ (a.flatMap (',' :: ·) ++ [','])), b.flatMap (',' :: ·) ++ [closing],
        by simp⟩

theorem Item.value_isInfix (i : Item) : i.value <:+: i.text :=
  ⟨i.before, i.after, by simp [Item.text]⟩

theorem Member.value_isInfix (m : Member) : m.value <:+: m.text :=
  m.item.value_isInfix.trans
    ⟨m.before ++ '"' :: (m.key ++ '"' :: (m.between ++ [':'])), [], by simp [Member.text]⟩

theorem Invites.isInfix {text v : List Char} (h : Invites text v) : v <:+: text := by
  cases h with
  | @named object members m around written _ mem _ value =>
    have hobject := written.isInfix_of_mem (List.mem_map_of_mem mem)
    rw [value]
    exact (m.value_isInfix.trans hobject).trans around.isInfix
  | @second list items i around written _ place value =>
    have hlist := written.isInfix_of_mem (List.mem_map_of_mem (List.mem_of_getElem? place))
    rw [value]
    exact (i.value_isInfix.trans hlist).trans around.isInfix

/-- Of an object the invitation is the value of that name. -/
theorem invites_object_iff {text v object : List Char} {members : List Member}
    (around : Surrounds text object) (written : ObjectText members object)
    (sound : ∀ m ∈ members, m.Sound) :
    Invites text v ↔ ∃ m ∈ members, Spells m.key "invitation".toList ∧ v = m.value := by
  constructor
  · intro h
    cases h with
    | named around' written' sound' mem name value =>
      obtain rfl := around.unique around' (.of_members sound written) (.of_members sound' written')
      obtain rfl := written.members_unique sound sound' written'
      exact ⟨_, mem, name, value⟩
    | second around' written' sound' _ _ =>
      obtain rfl := around.unique around' (.of_members sound written) (.of_items sound' written')
      exact (written.not_list written').elim
  · rintro ⟨m, mem, name, value⟩
    exact .named around written sound mem name value

/-- Of a list the invitation is the second value. -/
theorem invites_list_iff {text v list : List Char} {items : List Item}
    (around : Surrounds text list) (written : ListText items list)
    (sound : ∀ i ∈ items, i.Sound) :
    Invites text v ↔ ∃ i, items[1]? = some i ∧ v = i.value := by
  constructor
  · intro h
    cases h with
    | named around' written' sound' _ _ _ =>
      obtain rfl := around.unique around' (.of_items sound written) (.of_members sound' written')
      exact (written'.not_list written).elim
    | second around' written' sound' place value =>
      obtain rfl := around.unique around' (.of_items sound written) (.of_items sound' written')
      obtain rfl := written.items_unique sound sound' written'
      exact ⟨_, place, value⟩
  · rintro ⟨i, place, value⟩
    exact .second around written sound place value

end Json

namespace Http

open Agent (Call Fault Reply Notice createdShape)
open Json
open Handshake

theorem takesValues_readInvitation : TakesValues Invitation.read := by
  intro cs i rest h
  obtain ⟨⟨t, rest'⟩, hread, hok⟩ := bind_eq_ok_iff.mp h
  cases hok
  exact takesValues_readRaw hread

theorem text_of_readInvitation {v rest : List Char} {i : Invitation} (hv : Value v)
    (h : Invitation.read (v ++ rest) = .ok (i, rest)) : i.text.toList = v := by
  obtain ⟨⟨t, rest'⟩, hread, hok⟩ := bind_eq_ok_iff.mp h
  cases hok
  obtain ⟨s, v', hs, hv', rfl, heq⟩ := value_of_readRaw hread
  rw [← List.append_assoc] at heq
  have hsame := List.append_cancel_right heq
  have hskip : skipSpace ([] ++ (v ++ [])) = v ++ [] := skipSpace_append spaces_nil hv
  rw [List.nil_append, List.append_nil] at hskip
  have hnil := eq_nil_of_skipSpace hs (hskip.trans hsame)
  rw [String.toList_ofList, hsame, hnil, List.nil_append]

theorem createdShape_regular : createdShape.Regular := by
  intro f hf record
  simp only [createdShape, List.mem_cons, List.not_mem_nil, or_false] at hf
  rcases hf with rfl | rfl
  · exact takesValues_optionalField takesValues_readText _ _ _
  · exact takesValues_optionalField takesValues_readInvitation _ _ _

/-- Only the field of the invitation sets it, and it keeps the value as it is written. -/
theorem createdShape_reads {f : Json.Field Notice} (hf : f ∈ createdShape.fields) {n n' : Notice}
    {v : List Char} (h : f.Reads n n' v) :
    (f.name ≠ "invitation" ∧ n'.invitation = n.invitation) ∨
      (f.name = "invitation" ∧ ∀ i, n'.invitation = some i → i.text.toList = v) := by
  simp only [createdShape, List.mem_cons, List.not_mem_nil, or_false] at hf
  rcases hf with rfl | rfl
  · obtain ⟨b, rfl, -⟩ := h.optional
    exact .inl ⟨by decide, rfl⟩
  · obtain ⟨b, rfl, hread⟩ := h.optional
    refine .inr ⟨rfl, fun i hi => ?_⟩
    obtain ⟨rest, hrest⟩ := hread i hi
    exact text_of_readInvitation h.1 hrest

theorem find?_invitation :
    ∃ f ∈ createdShape.fields,
      createdShape.fields.find? (fun f => f.name == "invitation") = some f ∧
      f.name = "invitation" :=
  ⟨optionalField "invitation" Invitation.read fun n i => { n with invitation := i },
    by simp [createdShape], by simp [createdShape, optionalField], rfl⟩

section Created

variable {n : Notice} {i : Invitation}

theorem value_of_filled {members : List Member}
    (h : Filled createdShape [] createdShape.empty members n) (hi : n.invitation = some i) :
    (∃ m ∈ members, Spells m.key "invitation".toList) ∧
      ∀ m ∈ members, Spells m.key "invitation".toList → m.value = i.text.toList := by
  have hother : ∀ f ∈ createdShape.fields, f.name ≠ "invitation" → ∀ n n' v, f.Reads n n' v →
      n'.invitation = n.invitation := by
    intro f hf hname n n' v hreads
    rcases createdShape_reads hf hreads with ⟨-, heq⟩ | ⟨heq, -⟩
    · exact heq
    · exact absurd heq hname
  constructor
  · apply Classical.byContradiction
    intro hnone
    have hempty := h.keeps hother (.inr fun m hm hspells => hnone ⟨m, hm, hspells⟩)
    rw [hi] at hempty
    cases hempty
  · intro m hm hspells
    obtain ⟨f, hmem, hfind, hname⟩ := find?_invitation
    obtain ⟨before, after, hreads, heq⟩ := h.sets hfind hother hm hspells
    rcases createdShape_reads hmem hreads with ⟨hne, -⟩ | ⟨-, hkept⟩
    · exact absurd hname hne
    · exact (hkept i (heq ▸ hi)).symm

theorem value_of_filledInOrder {items : List Item}
    (h : FilledInOrder createdShape.empty createdShape.fields items n)
    (hi : n.invitation = some i) : ∃ j, items[1]? = some j ∧ j.value = i.text.toList := by
  cases h with
  | done => cases hi
  | item reads₁ rest₁ =>
    have hnone := createdShape_reads (by simp [createdShape]) reads₁
    rcases hnone with ⟨-, hnone⟩ | ⟨hname, -⟩
    · cases rest₁ with
      | done =>
        rw [hi] at hnone
        cases hnone
      | item reads₂ rest₂ =>
        rcases createdShape_reads (by simp [createdShape]) reads₂ with ⟨hne, -⟩ | ⟨-, hkept⟩
        · exact absurd rfl hne
        · cases rest₂
          exact ⟨_, rfl, (hkept i hi).symm⟩
    · exact absurd hname (by decide)

/-- An invitation that is read from a text is the one that the text holds, character for
character, and the text holds no other. -/
theorem invites_iff {text : String} {v : List Char}
    (h : readAll createdShape.read text = .ok n) (hi : n.invitation = some i) :
    Invites text.toList v ↔ v = i.text.toList := by
  obtain ⟨whole, around, hwritten⟩ := Shape.written_of_readAll createdShape_regular h
  cases hwritten with
  | object sound written filled =>
    obtain ⟨⟨m, hm, hspells⟩, hvalue⟩ := value_of_filled filled hi
    rw [invites_object_iff around written sound]
    constructor
    · rintro ⟨m', hm', hspells', rfl⟩
      exact hvalue m' hm' hspells'
    · rintro rfl
      exact ⟨m, hm, hspells, (hvalue m hm hspells).symm⟩
  | list sound written filled =>
    obtain ⟨j, hj, hvalue⟩ := value_of_filledInOrder filled hi
    rw [invites_list_iff around written sound, hj]
    simp [hvalue]

end Created

theorem Request.of_build {method : Method} {url : String} {apiKey contentType : Option String}
    {body : String} {q : Request} (h : Request.build method url apiKey contentType body = .ok q) :
    q.method = method ∧ q.contentType = contentType ∧ q.body = body := by
  unfold Request.build at h
  split at h
  · cases h
  split at h
  · cases h
  split at h
  · cases h
  dsimp only at h
  split at h
  · cases h
    exact ⟨rfl, rfl, rfl⟩
  · cases h

section Run

variable [Text.Encodings] {clients : Side → Client} {o : Options} {cancelAfter : Option Nat}
  {w : World Traffic} {q : Request} {response : Response} {text : String}
  {created : Agent.Created}
  (got : (clients .inviter).reception (.createInvitation o.aliasName false) w.agents.coming.head? =
    .answered q response)
  (hsuccess : response.isSuccess = true) (htext : response.text? = some text)
  (hread : (clients .inviter).readCreated (.createInvitation o.aliasName false) text = .ok created)

include got hsuccess htext hread

/-- The answer to the first call is what the response reads as. -/
theorem settle_created :
    let call : Call := .createInvitation o.aliasName false
    (clients .inviter).settle call ((clients .inviter).reception call w.agents.coming[0]?) =
      .ok created := by
  intro call
  rw [← List.head?_eq_getElem?, got]
  simp only [call, Client.settle, Client.conclude, Client.accepted, hsuccess, htext, if_true]
  exact hread

/-- The second call of a run hands on the invitation that the first response reads as. -/
theorem second_call_eq {e : Logged}
    (h : (perform (agents clients) o cancelAfter w).calls[1]? = some e) :
    e.call = .receiveInvitation created.invitation o.aliasName false := by
  obtain ⟨own, invitee, polls, inviter, hcourse⟩ :=
    exists_course (agents clients) o cancelAfter w
  have hlength := (List.getElem?_eq_some_iff.mp h).1
  have hown := settle_of_answeredAt (hcourse.created (by rwa [length_transcript]))
  cases (settle_created got hsuccess htext hread).symm.trans hown
  obtain ⟨reply, hx, -, -⟩ := getElem?_transcript_perform o cancelAfter w h
  simpa [course, eq_comm] using hcourse.getElem?_call hx

/-- The first call of a run succeeds. -/
theorem first_call_answered {x : Exchange}
    (hx : (transcript (agents clients) w.agents
      (perform (agents clients) o cancelAfter w).calls)[0]? = some x) :
    ∃ a, x.reply.answer = .ok a := by
  obtain ⟨own, invitee, polls, inviter, hcourse⟩ :=
    exists_course (agents clients) o cancelAfter w
  have hcall : x.call = .createInvitation o.aliasName false := by
    simpa [course, eq_comm] using hcourse.getElem?_call hx
  have hpos : 0 < (perform (agents clients) o cancelAfter w).calls.length := by
    rw [← length_transcript (agents clients) w.agents]
    exact (List.getElem?_eq_some_iff.mp hx).1
  obtain ⟨reply, hx', hanswer, -⟩ :=
    getElem?_transcript_perform o cancelAfter w (List.getElem?_eq_getElem hpos)
  rw [hx] at hx'
  generalize (perform (agents clients) o cancelAfter w).calls[0] = e at reply hx' hanswer
  obtain ⟨time, call⟩ := e
  cases hx'
  obtain rfl : call = .createInvitation o.aliasName false := hcall
  exact ⟨created, hanswer.trans (settle_created got hsuccess htext hread)⟩

end Run

/-- Of the requests behind those of the first call, the first one is the second call's own. -/
theorem head?_sent_behind_first [Text.Encodings] (clients : Side → Client) (o : Options)
    (cancelAfter : Option Nat) (w : World Traffic) :
    let r := perform (agents clients) o cancelAfter w
    let first := (clients .inviter).requests (.createInvitation o.aliasName false)
      w.agents.coming.head?
    (r.world.agents.sent.drop (w.agents.sent.length + first.length)).head? =
      r.calls[1]?.bind fun e =>
        ((clients e.call.side).request e.call).toOption.map (Sent.mk e.call.side) := by
  intro r first
  rw [← head?_sent_perform clients o cancelAfter w 1, sent_perform, ← List.drop_drop,
    List.drop_left, sentForAll]
  cases hcalls : r.calls with
  | nil => simp
  | cons e es =>
    obtain ⟨own, invitee, polls, inviter, hcourse⟩ :=
      exists_course (agents clients) o cancelAfter w
    have hcall : e.call = .createInvitation o.aliasName false := by
      obtain ⟨reply, hx, -, -⟩ := getElem?_transcript_perform (k := 0) o cancelAfter w
        (by rw [hcalls]; rfl)
      simpa [course, eq_comm] using hcourse.getElem?_call hx
    have hlength : first.length = (sentFor clients e.call w.agents.coming[0]?).length := by
      rw [hcall, sentFor, List.length_map, ← List.head?_eq_getElem?]
      rfl
    rw [List.zipIdx_cons, List.flatMap_cons, hlength, List.drop_left, List.drop_one,
      List.tail_cons]

/-- What the second call of a run sends: the very characters that stand for the invitation in the
response to the first call, which holds no other invitation. There is such a request unless the run
is interrupted, or the request cannot be made. -/
theorem invitation_arrives_unchanged [Text.Encodings] (clients : Side → Client) (o : Options)
    (cancelAfter : Option Nat) (w : World Traffic) (q : Request) (response : Response)
    (text : String) (created : Agent.Created)
    (got : (clients .inviter).reception (.createInvitation o.aliasName false)
      w.agents.coming.head? = .answered q response)
    (hsuccess : response.isSuccess = true) (htext : response.text? = some text)
    (hread : (clients .inviter).readCreated (.createInvitation o.aliasName false) text =
      .ok created) :
    let r := perform (agents clients) o cancelAfter w
    let first := (clients .inviter).requests (.createInvitation o.aliasName false)
      w.agents.coming.head?
    let next? := (r.world.agents.sent.drop (w.agents.sent.length + first.length)).head?
    let receive :=
      (clients .invitee).request (.receiveInvitation created.invitation o.aliasName false)
    ∃ v, v <:+: text.toList ∧ (∀ v', Invites text.toList v' ↔ v' = v) ∧
      (∀ s, next? = some s → s.side = .invitee ∧ receive = .ok s.request ∧
        s.request.method = .post ∧ s.request.contentType = some "application/json" ∧
        s.request.body.toList = v) ∧
      ((∀ i, r.ending ≠ .interrupted i) → ∀ q, receive = .ok q → next? = some ⟨.invitee, q⟩) := by
  intro r first next? receive
  have hnext : next? = r.calls[1]?.bind fun e =>
      ((clients e.call.side).request e.call).toOption.map (Sent.mk e.call.side) :=
    head?_sent_behind_first clients o cancelAfter w
  obtain ⟨n, hn, hread'⟩ := bind_eq_ok_iff.mp hread
  obtain ⟨id, -, hcreated⟩ := bind_eq_ok_iff.mp hread'
  have hnotice := Client.parse_eq_ok_iff.mp hn
  have hinvitation : n.invitation = some created.invitation := by
    split at hcreated
    · rename_i i hi
      cases hcreated
      exact hi
    · cases hcreated
  have hinvites : ∀ v, Invites text.toList v ↔ v = created.invitation.text.toList :=
    fun v => invites_iff hnotice hinvitation
  refine ⟨_, ((hinvites _).mpr rfl).isInfix, hinvites, ?_, ?_⟩
  · intro s hs
    obtain ⟨e, he, hsent⟩ := Option.bind_eq_some_iff.mp (hnext.symm.trans hs)
    rw [second_call_eq got hsuccess htext hread he] at hsent
    obtain ⟨q, hq, rfl⟩ := Option.map_eq_some_iff.mp hsent
    have hq := toOption_eq_some_iff.mp hq
    obtain ⟨hmethod, htype, hbody⟩ := Request.of_build hq
    exact ⟨rfl, hq, hmethod, htype, by rw [hbody]; rfl⟩
  · intro hquiet q hq
    have hlength : 1 < r.calls.length := one_lt_length_calls hquiet fun x hx =>
      first_call_answered got hsuccess htext hread hx
    have hcall := List.getElem?_eq_getElem hlength
    rw [hnext, hcall, Option.bind_some, second_call_eq got hsuccess htext hread hcall]
    exact congrArg (Option.map (Sent.mk .invitee)) (toOption_eq_some_iff.mpr hq)

/-- An invitation whose name and value are spelt as no writer of JSON would spell them. -/
def oddText : String := "\x7b\"\\u0069nvitation\": [1.0E+2 ,\"]\\/\"],\"connection_id\":\"i\"\x7d"

def oddInvitation : Invitation := ⟨"[1.0E+2 ,\"]\\/\"]"⟩

theorem odd_invitation_arrives :
    (plainResponse oddText).isSuccess = true ∧ (plainResponse oddText).text? = some oddText ∧
    (plainClients .inviter).readCreated (.createInvitation none false) oddText =
      .ok ⟨⟨"i"⟩, oddInvitation⟩ ∧
    ∃ s, (perform (agents plainClients) .standard none (worldOf [oddText])).world.agents.sent[1]? =
        some s ∧
      Invites oddText.toList s.request.body.toList := by
  have htext : (plainResponse oddText).text? = some oddText := by decide +kernel
  have hread : (plainClients .inviter).readCreated (.createInvitation none false) oddText =
      .ok ⟨⟨"i"⟩, oddInvitation⟩ := toOption_eq_some_iff.mp (by decide +kernel)
  have hquiet : ∀ i, (perform (agents plainClients) .standard none (worldOf [oddText])).ending ≠
      .interrupted i := by
    have hfailed : (match (perform (agents plainClients) .standard none (worldOf [oddText])).ending
        with | .failed _ => true | _ => false) = true := by decide +kernel
    intro i hi
    rw [hi] at hfailed
    cases hfailed
  have hinvite : ((plainClients .inviter).request
      (.createInvitation none false)).toOption.isSome = true := by decide +kernel
  have hreceive : ((plainClients .invitee).request
      (.receiveInvitation oddInvitation none false)).toOption.isSome = true := by decide +kernel
  obtain ⟨q, hq⟩ := Option.isSome_iff_exists.mp hinvite
  obtain ⟨q', hq'⟩ := Option.isSome_iff_exists.mp hreceive
  have got : (plainClients .inviter).reception (.createInvitation none false)
      (worldOf [oddText]).agents.coming.head? = .answered q (plainResponse oddText) :=
    Client.reception_of_isSuccess (toOption_eq_some_iff.mp hq) rfl (by decide) [] false
  obtain ⟨v, -, hinvites, hsent, hexists⟩ := invitation_arrives_unchanged plainClients .standard
    none (worldOf [oddText]) q (plainResponse oddText) oddText _ got rfl htext hread
  have hs := hexists hquiet q' (toOption_eq_some_iff.mp hq')
  have hfirst : ((plainClients .inviter).requests
      (.createInvitation Options.standard.aliasName false)
      (worldOf [oddText]).agents.coming.head?).length = 1 := by decide +kernel
  refine ⟨rfl, htext, hread, _, ?_, (hinvites _).mpr (hsent _ hs).2.2.2.2⟩
  rw [List.head?_drop, hfirst] at hs
  exact hs

end Http

end Rendezvous
