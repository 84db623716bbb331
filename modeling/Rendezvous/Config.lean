import Rendezvous.Url.Parse
import Rendezvous.Agent.Endpoint
import Rendezvous.Handshake.Options

/-! The settings of the program. They are read from variables with texts as their values. A blank
text counts as none. -/

namespace Rendezvous

inductive Setting
  | inviterUrl
  | inviteeUrl
  | inviterKey
  | inviteeKey
  | aliasName
  | label
  | targetState
  | matching
  | pollInterval
  | pollMaxInterval
  | pollFactor
  | pollTimeout
  | requestTimeout
  | runTimeout
deriving DecidableEq

def Setting.name : Setting → String
  | inviterUrl => "INVITER_ADMIN_URL"
  | inviteeUrl => "INVITEE_ADMIN_URL"
  | inviterKey => "INVITER_ADMIN_API_KEY"
  | inviteeKey => "INVITEE_ADMIN_API_KEY"
  | aliasName => "HANDSHAKE_ALIAS"
  | label => "HANDSHAKE_MY_LABEL"
  | targetState => "HANDSHAKE_TARGET_STATE"
  | matching => "HANDSHAKE_CORRELATION"
  | pollInterval => "POLL_INTERVAL_MS"
  | pollMaxInterval => "POLL_MAX_INTERVAL_MS"
  | pollFactor => "POLL_BACKOFF_FACTOR"
  | pollTimeout => "POLL_TIMEOUT_SECS"
  | requestTimeout => "REQUEST_TIMEOUT_SECS"
  | runTimeout => "RUN_TIMEOUT_SECS"

def Setting.all : List Setting :=
  [inviterUrl, inviteeUrl, inviterKey, inviteeKey, aliasName, label, targetState, matching,
    pollInterval, pollMaxInterval, pollFactor, pollTimeout, requestTimeout, runTimeout]

namespace Config

/-- Why a text is no value for its setting. -/
inductive Defect
  | url (fault : Url.Fault)
  | scheme (name : String)
  | sameAgent
  | numeral (fault : Text.NumeralFault)
  | zeroFactor
  | matching (fault : Handshake.UnknownMatching)
deriving DecidableEq

def Defect.message : Defect → String
  | url f => f.message
  | scheme s => "unsupported scheme '" ++ s ++ "'"
  | sameAgent => "must differ from " ++ Setting.inviterUrl.name
  | numeral f => f.message
  | zeroFactor => "must be at least 1"
  | matching f => f.message

inductive Error
  | missing (setting : Setting)
  | invalid (setting : Setting) (defect : Defect)
deriving DecidableEq

def Error.message : Error → String
  | missing s => "Missing required environment variable: " ++ s.name
  | invalid s d => "Invalid value for " ++ s.name ++ ": " ++ d.message

/-- The values of the settings, each by itself. -/
abbrev Values := Setting → Option String

namespace Values

/-- Looks the variables up. A blank value is none. -/
def ofLookup (lookup : String → Option String) : Values := fun s =>
  (lookup s.name).filter fun v => !Text.blank v

/-- The value of a setting that cannot be left out. -/
def need (vs : Values) (s : Setting) : Except Error String :=
  match vs s with
  | some v => .ok v
  | none => .error (.missing s)

/-- Reads a setting from its value without the white space around it. -/
def readOr (vs : Values) (s : Setting) (read : String → Except Defect α) (default : α) :
    Except Error α :=
  match vs s with
  | some v => (read (Text.trim v)).mapError (.invalid s)
  | none => .ok default

end Values

def readNumber (s : String) : Except Defect UInt64 :=
  ((Text.readNumeral (UInt64.size - 1) s).map UInt64.ofNat).mapError .numeral

def readFactor (s : String) : Except Defect UInt32 :=
  ((Text.readNumeral (UInt32.size - 1) s).map UInt32.ofNat).mapError .numeral

def readMatching (s : String) : Except Defect Handshake.Matching :=
  (Handshake.Matching.ofText s).mapError .matching

/-- The base URL that a value gives: the text itself, if it is a web address. -/
def readUrl (v : String) : Except Defect String :=
  match Url.parse (Text.trim v) with
  | .error f => .error (.url f)
  | .ok u =>
    if u.scheme = "http" ∨ u.scheme = "https" then .ok (Endpoint.trimSlashes (Text.trim v))
    else .error (.scheme u.scheme)

def readUrls (vs : Values) : Except Error (String × String) := do
  let inviter ← vs.need .inviterUrl
  let invitee ← vs.need .inviteeUrl
  let inviter ← (readUrl inviter).mapError (.invalid .inviterUrl)
  let invitee ← (readUrl invitee).mapError (.invalid .inviteeUrl)
  if inviter = invitee then .error (.invalid .inviteeUrl .sameAgent)
  else .ok (inviter, invitee)

def readBackoff (vs : Values) : Except Error Handshake.Backoff := do
  let initial ← vs.readOr .pollInterval readNumber 250
  let cap ← vs.readOr .pollMaxInterval readNumber 2000
  let factor ← vs.readOr .pollFactor readFactor 2
  let budget ← vs.readOr .pollTimeout readNumber 30
  if factor = 0 then .error (.invalid .pollFactor .zeroFactor)
  else .ok ⟨.ofMillis initial, .ofMillis cap, factor, .ofSeconds budget⟩

end Config

structure Config where
  inviter : Endpoint
  invitee : Endpoint
  /-- The time for a single exchange with an agent. -/
  requestTimeout : Span
  options : Handshake.Options
deriving DecidableEq

namespace Config

/-- All settings but the base URLs are as usual. -/
def standard (inviterUrl inviteeUrl : String) : Config :=
  ⟨⟨inviterUrl, none⟩, ⟨inviteeUrl, none⟩, .ofSeconds 10, .standard⟩

/-- Reads all settings. The first one in this order that cannot be read decides. -/
def ofValues (vs : Values) (freshAlias : String) : Except Error Config := do
  let (inviter, invitee) ← readUrls vs
  let backoff ← readBackoff vs
  let matching ← vs.readOr .matching readMatching .strict
  let limit ← vs.readOr .runTimeout readNumber 120
  let timeout ← vs.readOr .requestTimeout readNumber 10
  .ok {
    inviter := ⟨inviter, vs .inviterKey⟩
    invitee := ⟨invitee, vs .inviteeKey⟩
    requestTimeout := .ofSeconds timeout
    options := {
      aliasName := some ((vs .aliasName).getD freshAlias)
      label := vs .label
      targetState := (vs .targetState).getD Handshake.defaultTarget
      matching := matching
      backoff := backoff
      limit := .ofSeconds limit } }

/-- An alias of which one part is `unique` to this handshake. -/
def freshAlias (unique : String) : String := "handshake-" ++ unique

def ofVariables (lookup : String → Option String) (unique : String) : Except Error Config :=
  ofValues (.ofLookup lookup) (freshAlias unique)

def endpoint (c : Config) : Side → Endpoint
  | .inviter => c.inviter
  | .invitee => c.invitee

end Config

end Rendezvous
