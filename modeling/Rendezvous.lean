import Rendezvous.Agent.Script
import Rendezvous.Main
import Rendezvous.Proofs.Config.Acceptance
import Rendezvous.Proofs.Handshake.Budget
import Rendezvous.Proofs.Handshake.Foreign
import Rendezvous.Proofs.Handshake.History
import Rendezvous.Proofs.Handshake.Order
import Rendezvous.Proofs.Handshake.Stepwise
import Rendezvous.Proofs.Http.Bases
import Rendezvous.Proofs.Http.Delivery
import Rendezvous.Proofs.Http.Keys
import Rendezvous.Proofs.Http.Names
import Rendezvous.Proofs.Http.Segments
import Rendezvous.Proofs.Handshake.Delays
import Rendezvous.Proofs.Handshake.Selection
import Rendezvous.Proofs.Handshake.Looks
import Rendezvous.Proofs.Handshake.Fallback
import Rendezvous.Proofs.Json.Completeness
import Rendezvous.Proofs.Json.Meaning
import Rendezvous.Proofs.Json.Filling
import Rendezvous.Proofs.Json.Rewording
import Rendezvous.Proofs.Json.Writing
import Rendezvous.Proofs.Text.Utf8
import Rendezvous.Proofs.Agent.Records
import Rendezvous.Proofs.Agent.Wording
import Rendezvous.Proofs.Json.Entries
import Rendezvous.Proofs.Http.Notices
import Rendezvous.Proofs.Url.Hosts
import Rendezvous.Proofs.Url.Queries
import Rendezvous.Proofs.Http.Parameters
import Rendezvous.Proofs.Agent.Invitations
import Rendezvous.Proofs.Handshake.Recording
import Rendezvous.Proofs.Handshake.Transitions
import Rendezvous.Proofs.Http.Acceptances
import Rendezvous.Proofs.Handshake.Pauses
import Rendezvous.Proofs.Http.Origins
