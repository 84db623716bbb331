import Rendezvous.Agent.Record
import Rendezvous.Agent.Invitation
import Rendezvous.Json.Tree

/-! The JSON forms of what agents send. -/

namespace Rendezvous

namespace Json

def textField (name : String) (put : α → String → α) : Field α :=
  ⟨name, true, fun record cs => do
    let (s, rest) ← readText cs
    .ok (put record s, rest)⟩

/-- A field that may be missing or null. -/
def optionalField (name : String) (read : Reader β) (put : α → Option β → α) : Field α :=
  ⟨name, false, fun record cs => do
    let (s?, rest) ← readOptional read cs
    .ok (put record s?, rest)⟩

end Json

open Json

namespace ConnectionRecord

def shape : Shape ConnectionRecord where
  title := "struct ConnectionRecord"
  empty := bare "" ""
  fields := [
    textField "connection_id" fun r s => { r with connectionId := s },
    textField "state" fun r s => { r with state := s },
    optionalField "rfc23_state" readText fun r s => { r with rfc23State := s },
    optionalField "alias" readText fun r s => { r with aliasName := s },
    optionalField "invitation_key" readText fun r s => { r with invitationKey := s },
    optionalField "their_label" readText fun r s => { r with theirLabel := s },
    optionalField "created_at" readText fun r s => { r with createdAt := s },
    optionalField "updated_at" readText fun r s => { r with updatedAt := s }]

def ofText (text : String) : Except Error ConnectionRecord := readAll shape.read text

/-- Fields without a value are left out. -/
def tree (r : ConnectionRecord) : Tree :=
  let given (name : String) (s? : Option String) : List (String × Tree) :=
    (s?.map fun s => (name, Tree.text s)).toList
  .object ([("connection_id", .text r.connectionId), ("state", .text r.state)] ++
    given "rfc23_state" r.rfc23State ++ given "alias" r.aliasName ++
    given "invitation_key" r.invitationKey ++ given "their_label" r.theirLabel ++
    given "created_at" r.createdAt ++ given "updated_at" r.updatedAt)

def text (r : ConnectionRecord) : String := r.tree.compact

end ConnectionRecord

namespace Agent

/-- An agent's answer about one connection, as far as it goes. -/
structure Notice where
  connectionId : Option String
  invitation : Option Invitation

def createdShape : Shape Notice where
  title := "struct CreateInvitationResponse"
  empty := ⟨none, none⟩
  fields := [
    optionalField "connection_id" readText fun n s => { n with connectionId := s },
    optionalField "invitation" Invitation.read fun n i => { n with invitation := i }]

def receivedShape : Shape Notice where
  title := "struct ConnectionIdResponse"
  empty := ⟨none, none⟩
  fields := [optionalField "connection_id" readText fun n s => { n with connectionId := s }]

def listingShape : Shape (List ConnectionRecord) where
  title := "struct ConnectionListResponse"
  empty := []
  fields := [⟨"results", true, fun _ cs => readList ConnectionRecord.shape.read cs⟩]

end Agent

end Rendezvous
