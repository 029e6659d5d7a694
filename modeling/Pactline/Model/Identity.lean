import Pactline.Concurrency.Rowwise
import Pactline.Model.Attachment

/-!
# Users, sessions and invitations

The store of the identities (`internal/store/identity_store.go`) with the policy it applies
(`internal/identity/policy.go`). Every operation is one transaction of a few statements, each of
which names its row; where a statement goes over several rows, it does so one row after the other.

The profile of a user, the ciphertexts of a credential, impersonations, deliveries and the audit
trail of identities are left out.
-/

set_option autoImplicit false

namespace Pactline.Identity

open ReadCommitted Rowwise

/-! ## Types -/

inductive ProviderErrorCategory
  | unauthorized
  | notFound
  | resigned
  | frozen
  | authorizationRevoked
  | credentialExpired
  | rateLimited
  | unavailable
  | contract
deriving DecidableEq, Repr

/-- An error of the provider's client: its category, if it has one, and whether it wraps
`ErrProviderTransient`. -/
structure ProviderError where
  category : Option ProviderErrorCategory
  transient : Bool
deriving DecidableEq, Repr

/-- The sentinels of `internal/identity/errors.go`, the errors of the provider, and those that wrap
no sentinel. -/
inductive IdentityError
  | authorizationInvalid
  | invitationInvalid
  | invitationConflict
  | credentialNotFound
  | sessionInvalid
  | sessionExpired
  | sessionRevoked
  | userInactive
  | providerTransient
  | providerContract
  | loginDenied
  | notFound
  | provider (e : ProviderError)
  | unclassified
deriving DecidableEq, Repr

structure PrincipalKey where
  provider : String
  tenantId : String
  subjectId : String
deriving DecidableEq, Repr

structure OAuthCredential where
  accessTokenExpiresAt : Time
  refreshTokenExpiresAt : Time
deriving DecidableEq, Repr

/-- A row of `users`. The identities of the sessions and of the external identity that name the
user are kept with it: whoever inserts one of these rows has the user's row locked or inserts it. -/
structure User where
  active : Bool
  sessionIds : List Id
  external : Option PrincipalKey
deriving DecidableEq, Repr

structure ExternalIdentity where
  userId : Id
  lastVerifiedAt : Option Time
deriving DecidableEq, Repr

inductive InvitationStatus
  | pending
  | accepted
  | revoked
  | expired
deriving DecidableEq, Repr

structure Invitation where
  target : PrincipalKey
  tokenHash : Bytes
  status : InvitationStatus
  createdByUserId : Id
  expiresAt : Time
  acceptedByUserId : Option Id
  acceptedAt : Option Time
  revokedAt : Option Time
  createdAt : Time
  updatedAt : Time
deriving DecidableEq, Repr

inductive AuthorizationPurpose
  | login
  | invitation
deriving DecidableEq, Repr

structure AuthorizationTransaction where
  purpose : AuthorizationPurpose
  invitationId : Option Id
  invitationTokenHash : Bytes
  expiresAt : Time
  consumedAt : Option Time
  createdAt : Time
deriving DecidableEq, Repr

structure Session where
  userId : Id
  secretHash : Bytes
  csrfSecretHash : Bytes
  createdAt : Time
  lastSeenAt : Time
  idleExpiresAt : Time
  absoluteExpiresAt : Time
  lastProviderVerifiedAt : Option Time
  providerFailureSince : Option Time
  revokedAt : Option Time
  revokeReason : Option String
deriving DecidableEq, Repr

/-! ## Policy -/

def minute : Time := 60 * 1000000

def hour : Time := 60 * minute

def day : Time := 24 * hour

def invitationLifetime : Time := 7 * day
def sessionIdleLifetime : Time := 24 * hour
def sessionAbsoluteLifetime : Time := 30 * day
def providerVerificationInterval : Time := 15 * minute
def providerTransientGrace : Time := hour
def sessionRollingWriteInterval : Time := 5 * minute

/-- `InvitationMatches`. -/
def Invitation.Matches (i : Invitation) (key : PrincipalKey) (now : Time) : Prop :=
  i.status = .pending ∧ now < i.expiresAt ∧ i.target = key
deriving Decidable

def rollingIdleExpiry (now absoluteExpiresAt : Time) : Time :=
  if absoluteExpiresAt < now + sessionIdleLifetime then absoluteExpiresAt
  else now + sessionIdleLifetime

/-- `SessionUsable`. -/
def Session.Usable (s : Session) (now : Time) : Prop :=
  s.revokedAt = none ∧ now < s.idleExpiresAt ∧ now < s.absoluteExpiresAt
deriving Decidable

/-- `SessionRollDue`. -/
def Session.RollDue (s : Session) (now : Time) : Prop :=
  s.Usable now ∧ s.lastSeenAt + sessionRollingWriteInterval ≤ now
deriving Decidable

def ProviderVerificationDue (lastVerifiedAt : Option Time) (now : Time) : Prop :=
  ∀ at_ ∈ lastVerifiedAt, at_ + providerVerificationInterval ≤ now
deriving Decidable

def WithinProviderGrace (failureSince : Option Time) (now : Time) : Prop :=
  ∃ since ∈ failureSince, now ≤ since + providerTransientGrace
deriving Decidable

def IsExplicitInvalid : ProviderErrorCategory → Bool
  | .unauthorized | .notFound | .resigned | .frozen | .authorizationRevoked => true
  | _ => false

/-- What a login draws for its session. -/
structure SessionSeed where
  id : Id
  secretHash : Bytes
  csrfSecretHash : Bytes
  createdAt : Time
deriving DecidableEq, Repr

/-- The session of `newSession` (`internal/identity/service.go:711-731`), with `NewSessionTimes`. -/
def SessionSeed.session (seed : SessionSeed) (userId : Id) : Session :=
  { userId, secretHash := seed.secretHash, csrfSecretHash := seed.csrfSecretHash
    createdAt := seed.createdAt, lastSeenAt := seed.createdAt
    idleExpiresAt := seed.createdAt + sessionIdleLifetime
    absoluteExpiresAt := seed.createdAt + sessionAbsoluteLifetime
    lastProviderVerifiedAt := none, providerFailureSince := none, revokedAt := none
    revokeReason := none }

def Session.touch (s : Session) (now idleExpiresAt : Time) : Session :=
  { s with
    lastSeenAt := now
    idleExpiresAt := if s.absoluteExpiresAt < idleExpiresAt then s.absoluteExpiresAt
      else idleExpiresAt }

/-- `COALESCE` keeps the first revocation. -/
def Session.revoke (s : Session) (now : Time) (reason : String) : Session :=
  { s with
    revokedAt := s.revokedAt <|> some now, revokeReason := s.revokeReason <|> some reason }

def Session.verified (s : Session) (verifiedAt : Time) : Session :=
  { s with lastProviderVerifiedAt := some verifiedAt, providerFailureSince := none }

def Session.failed (s : Session) (failedAt : Time) : Session :=
  { s with providerFailureSince := s.providerFailureSince <|> some failedAt }

def AuthorizationTransaction.consume (a : AuthorizationTransaction) (now : Time) :
    AuthorizationTransaction :=
  { a with consumedAt := some now }

def Invitation.revoke (i : Invitation) (now : Time) : Invitation :=
  { i with status := .revoked, revokedAt := some now, updatedAt := now }

def Invitation.rotate (i : Invitation) (tokenHash : Bytes) (expiresAt now : Time) : Invitation :=
  { i with tokenHash, expiresAt, updatedAt := now }

def Invitation.expire (i : Invitation) (now : Time) : Invitation :=
  { i with status := .expired, updatedAt := now }

def Invitation.accept (i : Invitation) (userId : Id) (now : Time) : Invitation :=
  { i with
    status := .accepted, acceptedByUserId := some userId, acceptedAt := some now, updatedAt := now }

def User.setActive (u : User) (active : Bool) : User := { u with active }

def User.addSession (u : User) (id : Id) : User := { u with sessionIds := id :: u.sessionIds }

def User.setExternal (u : User) (key : PrincipalKey) : User := { u with external := some key }

def ExternalIdentity.verify (e : ExternalIdentity) (at_ : Time) : ExternalIdentity :=
  { e with lastVerifiedAt := some at_ }

/-! ## Tables -/

/-- The rows that can be locked: those of the tables, and the entries of the unique indexes on token
hashes and on the one administrator. -/
inductive Key
  | user (id : Id)
  | external (key : PrincipalKey)
  | credential (key : PrincipalKey)
  | session (id : Id)
  | invitation (id : Id)
  | tokenHash (hash : Bytes)
  | authorization (stateHash : Bytes)
  | administrator
deriving DecidableEq, Repr

abbrev Columns : Key → Type
  | .user _ => User
  | .external _ => ExternalIdentity
  | .credential _ => OAuthCredential
  | .session _ => Session
  | .invitation _ => Invitation
  | .authorization _ => AuthorizationTransaction
  | _ => Id

abbrev Db := Rows Columns

abbrev Program := Rowwise Columns IdentityError

/-! ## Authorizations and invitations -/

/-- `CreateAuthorizationTransaction` (`identity_store.go:29-45`). -/
def createAuthorizationTransaction (stateHash : Bytes) (transaction : AuthorizationTransaction) :
    Program Unit := do
  let fresh ← insert (.authorization stateHash) transaction
  require fresh .authorizationInvalid

/-- `ConsumeAuthorizationState` (`identity_store.go:47-74`). -/
def consumeAuthorizationState (stateHash : Bytes) (now : Time) :
    Program AuthorizationTransaction := do
  let found ← selectForUpdate (.authorization stateHash)
  let transaction : AuthorizationTransaction ← demand found .authorizationInvalid
  require (transaction.consumedAt = none ∧ now < transaction.expiresAt)
    .authorizationInvalid
  let _ ← update (.authorization stateHash) fun row : AuthorizationTransaction =>
    some (row.consume now)
  return transaction.consume now

/-- `invalidateInvitationAuthorizations`, of the given states. -/
def invalidateInvitationAuthorizations (invitationId : Id) (now : Time) :
    List Bytes → Program Unit
  | [] => return ()
  | stateHash :: rest => do
      let _ ← update (.authorization stateHash) fun row : AuthorizationTransaction =>
        if row.invitationId = some invitationId ∧ row.consumedAt = none then
          some (row.consume now)
        else none
      invalidateInvitationAuthorizations invitationId now rest

/-- `CreateInvitation` (`identity_store.go:76-97`) of a new invitation, as
`Service.CreateInvitation` makes it. -/
def createInvitation (id : Id) (target : PrincipalKey) (tokenHash : Bytes) (createdByUserId : Id)
    (now : Time) : Program Unit := do
  let free ← insert (.tokenHash tokenHash) id
  require free .invitationConflict
  let fresh ← insert (.invitation id)
    ({ target, tokenHash, status := .pending, createdByUserId
       expiresAt := now + invitationLifetime, acceptedByUserId := none, acceptedAt := none
       revokedAt := none, createdAt := now, updatedAt := now } : Invitation)
  require fresh .invitationConflict

/-- `GetInvitationByTokenHash` (`identity_store.go:160-174`). -/
def getInvitationByTokenHash (tokenHash : Bytes) (now : Time) : Program (Id × Invitation) := do
  let found ← query fun d : Db => (d (.tokenHash tokenHash) : Option Id).bind fun id =>
    (d (.invitation id) : Option Invitation).map fun row => (id, row)
  let found ← demand found .invitationInvalid
  require (found.2.tokenHash = tokenHash ∧ found.2.status = .pending ∧
    now < found.2.expiresAt) .invitationInvalid
  return found

/-- A pending invitation that has not expired, locked. -/
def lockPendingInvitation (id : Id) (now : Time) : Program Invitation := do
  let found ← selectForUpdate (.invitation id)
  let invitation : Invitation ← demand found .invitationInvalid
  require (invitation.status = .pending ∧ now < invitation.expiresAt) .invitationInvalid
  return invitation

/-- `RevokeInvitation` (`identity_store.go:176-194`). -/
def revokeInvitation (id : Id) (now : Time) (states : List Bytes) : Program Unit := do
  let _ ← lockPendingInvitation id now
  let row ← update (.invitation id) fun row : Invitation =>
    if row.status = .pending then
      some (row.revoke now)
    else none
  require row.isSome .invitationInvalid
  invalidateInvitationAuthorizations id now states

/-- `RotateInvitation` (`identity_store.go:196-226`). -/
def rotateInvitation (id : Id) (tokenHash : Bytes) (expiresAt now : Time) (states : List Bytes) :
    Program Invitation := do
  let invitation ← lockPendingInvitation id now
  delete (.tokenHash invitation.tokenHash)
  let free ← insert (.tokenHash tokenHash) id
  require free .invitationInvalid
  let _ ← update (.invitation id) fun row : Invitation =>
    some (row.rotate tokenHash expiresAt now)
  invalidateInvitationAuthorizations id now states
  return invitation.rotate tokenHash expiresAt now

/-- `ExpireInvitations` (`identity_store.go:228-238`), of the given rows. -/
def expireInvitations (now : Time) : List Id → Program Unit
  | [] => return ()
  | id :: rest => do
      let _ ← update (.invitation id) fun row : Invitation =>
        if row.status = .pending ∧ row.expiresAt ≤ now then
          some (row.expire now)
        else none
      expireInvitations now rest

/-! ## Logins -/

/-- `insertSession`, on the row of its user. -/
def insertSession (userId : Id) (seed : SessionSeed) : Program Unit := do
  let fresh ← insert (.session seed.id) (seed.session userId)
  require fresh .unclassified
  let _ ← update (.user userId) fun row : User =>
    some (row.addSession seed.id)

/-- `insertExternalIdentityAndCredential`, on the row of its user. -/
def insertExternalIdentityAndCredential (userId : Id) (key : PrincipalKey)
    (credential : OAuthCredential) (now : Time) (e : IdentityError) : Program Unit := do
  let fresh ← insert (.external key) (⟨userId, some now⟩ : ExternalIdentity)
  require fresh e
  let _ ← insert (.credential key) credential
  let _ ← update (.user userId) fun row : User => some (row.setExternal key)

/-- A new user with the external identity it has logged in with. -/
def insertUser (userId : Id) (key : PrincipalKey) (credential : OAuthCredential) (now : Time)
    (e : IdentityError) : Program Unit := do
  let fresh ← insert (.user userId) (⟨true, [], none⟩ : User)
  require fresh e
  insertExternalIdentityAndCredential userId key credential now e

/-- How `AcceptInvitation` finds the invitation: under its identity, with the token hash that the
login has brought, or under a token hash. -/
inductive InvitationLookup
  | byId (id : Id) (tokenHash : Bytes)
  | byHash (tokenHash : Bytes)
deriving DecidableEq, Repr

/-- The token hash that the login presents. -/
def InvitationLookup.tokenHash : InvitationLookup → Bytes
  | byId _ tokenHash => tokenHash
  | byHash tokenHash => tokenHash

def InvitationLookup.find : InvitationLookup → Program (Option Id)
  | byId id _ => return some id
  | byHash tokenHash => query fun d : Db => (d (.tokenHash tokenHash) : Option Id)

/-- The token hash is the one of the invitation; beside an identity it must not be empty. -/
def InvitationLookup.Holds (lookup : InvitationLookup) (i : Invitation) : Prop :=
  i.tokenHash = lookup.tokenHash ∧ (lookup = .byHash lookup.tokenHash ∨ lookup.tokenHash ≠ [])
deriving Decidable

/-- `AcceptInvitation` (`identity_store.go:240-317`), and the invitation that was accepted. -/
def acceptInvitation (lookup : InvitationLookup) (key : PrincipalKey)
    (credential : OAuthCredential) (userId : Id) (seed : Option SessionSeed) (now : Time) :
    Program Id := do
  let found ← lookup.find
  let id ← demand found .invitationInvalid
  let row ← selectForUpdate (.invitation id)
  let invitation : Invitation ← demand row .invitationInvalid
  require (invitation.Matches key now ∧ lookup.Holds invitation) .invitationInvalid
  insertUser userId key credential now .invitationInvalid
  let row ← update (.invitation id) fun row : Invitation =>
    if row.status = .pending then
      some (row.accept userId now)
    else none
  require row.isSome .invitationInvalid
  match seed with
  | none => return id
  | some seed => do
      insertSession userId seed
      return id

/-- `RegisterAccessRequest` (`identity_store.go:319-373`). -/
def registerAccessRequest (key : PrincipalKey) (credential : OAuthCredential) (userId : Id)
    (seed : SessionSeed) (now : Time) : Program Unit := do
  insertUser userId key credential now .loginDenied
  insertSession userId seed

/-- `primarySeedUserID`. -/
def primarySeedUserId : Id := 1

/-- `BootstrapAdmin` (`identity_store.go:487-541`). -/
def bootstrapAdmin (key : PrincipalKey) (credential : OAuthCredential) (seed : SessionSeed)
    (now : Time) : Program Unit := do
  let admin ← query fun d : Db => (d .administrator : Option Id)
  require admin.isNone .loginDenied
  let found ← selectForUpdate (.user primarySeedUserId)
  require found.isSome .unclassified
  let single ← insert .administrator primarySeedUserId
  require single .loginDenied
  let _ ← update (.user primarySeedUserId) fun row : User =>
    some (row.setActive true)
  insertExternalIdentityAndCredential primarySeedUserId key credential now .loginDenied
  insertSession primarySeedUserId seed

/-- `FindExternalIdentity` (`identity_store.go:452-485`), the user it names. -/
def findExternalIdentity (key : PrincipalKey) : Program Id := do
  let found ← query fun d : Db => (d (.external key) : Option ExternalIdentity)
  let external ← demand found .notFound
  return external.userId

/-- `LoginExternal` (`identity_store.go:543-597`). The session is one of the user
that the external identity names, which never changes. -/
def loginExternal (key : PrincipalKey) (credential : OAuthCredential) (seed : SessionSeed)
    (now : Time) : Program Unit := do
  let found ← selectForUpdate (.external key)
  let external : ExternalIdentity ← demand found .loginDenied
  let found ← selectForUpdate (.user external.userId)
  let user : User ← demand found .loginDenied
  require user.active .loginDenied
  let _ ← update (.external key) fun row : ExternalIdentity =>
    some (row.verify now)
  let _ ← update (.credential key) fun _ : OAuthCredential => some credential
  insertSession external.userId seed

/-- `CreateSession` (`identity_store.go:656-675`). -/
def createSession (userId : Id) (seed : SessionSeed) : Program Unit := do
  let found ← selectForUpdate (.user userId)
  let user : User ← demand found .sessionInvalid
  require user.active .userInactive
  insertSession userId seed

/-! ## Sessions -/

def lockSession (id : Id) : Program Session := do
  let found ← selectForUpdate (.session id)
  demand found .sessionInvalid

/-- `LogoutSession` (`identity_store.go:677-735`). -/
def logoutSession (id : Id) (now : Time) : Program Unit := do
  let _ ← lockSession id
  let _ ← update (.session id) fun row : Session => some (row.revoke now "logout")

/-- `ResolveSession` (`identity_store.go:737-779`). -/
def resolveSession (id : Id) (secretHash : Bytes) (now : Time) : Program Session := do
  let found ← query fun d : Db => (d (.session id) : Option Session).bind fun session =>
    (d (.user session.userId) : Option User).map fun user => (session, user)
  let found ← demand found .sessionInvalid
  require (found.1.secretHash = secretHash) .sessionInvalid
  require found.2.active .userInactive
  require (found.1.revokedAt = none) .sessionRevoked
  require (now < found.1.idleExpiresAt ∧ now < found.1.absoluteExpiresAt) .sessionExpired
  return found.1

/-- `TouchSession` (`identity_store.go:781-809`). -/
def touchSession (id : Id) (now idleExpiresAt : Time) : Program Bool := do
  let session ← lockSession id
  if session.RollDue now then
    let _ ← update (.session id) fun row : Session => some (row.touch now idleExpiresAt)
    return true
  else return false

/-- `UPDATE external_identities SET last_verified_at … WHERE user_id=$1`, and whether there was a
row. -/
def verifyExternalIdentity (userId : Id) (verifiedAt : Time) : Program Bool := do
  let found ← query fun d : Db => (d (.user userId) : Option User).bind (·.external)
  match found with
  | none => return false
  | some key => do
      let row ← update (.external key) fun row : ExternalIdentity =>
        if row.userId = userId then some (row.verify verifiedAt) else none
      return row.isSome

/-- `RecordProviderVerification` (`identity_store.go:811-832`). -/
def recordProviderVerification (sessionId : Id) (verifiedAt : Time) : Program Unit := do
  let session ← lockSession sessionId
  let _ ← update (.session sessionId) fun row : Session => some (row.verified verifiedAt)
  let _ ← verifyExternalIdentity session.userId verifiedAt

/-- `RecordTokenProviderVerification` (`identity_store.go:834-850`). -/
def recordTokenProviderVerification (userId : Id) (verifiedAt : Time) : Program Unit := do
  let found ← verifyExternalIdentity userId verifiedAt
  require found .credentialNotFound

/-- `RecordProviderFailure` (`identity_store.go:852-864`). -/
def recordProviderFailure (sessionId : Id) (failedAt : Time) : Program Unit := do
  let _ ← lockSession sessionId
  let _ ← update (.session sessionId) fun row : Session => some (row.failed failedAt)

/-! ## Users -/

/-- The sessions of a user are revoked, those that are not yet. -/
def revokeSessions (userId : Id) (now : Time) (reason : String) : List Id → Program Unit
  | [] => return ()
  | id :: rest => do
      let _ ← update (.session id) fun row : Session =>
        if row.userId = userId ∧ row.revokedAt = none then some (row.revoke now reason) else none
      revokeSessions userId now reason rest

/-- `DeactivateUser` (`identity_store.go:891-925`). -/
def deactivateUser (userId : Id) (reason : String) (now : Time) : Program Unit := do
  let row ← update (.user userId) fun row : User => some (row.setActive false)
  let user : User ← demand row .notFound
  revokeSessions userId now reason user.sessionIds

/-- `ReactivateUser` (`identity_store.go:927-940`). -/
def reactivateUser (userId : Id) : Program Unit := do
  let row ← update (.user userId) fun row : User => some (row.setActive true)
  require row.isSome .notFound

/-- `GetExternalIdentityForUser` (`identity_store.go:398-425`). -/
def getExternalIdentityForUser (userId : Id) :
    Program (PrincipalKey × ExternalIdentity × OAuthCredential) := do
  let found ← query fun d : Db =>
    (d (.user userId) : Option User).bind fun user => user.external.bind fun key =>
      (d (.external key) : Option ExternalIdentity).bind fun external =>
        (d (.credential key) : Option OAuthCredential).bind fun credential =>
          if external.userId = userId then some (key, external, credential) else none
  demand found .credentialNotFound

/-- `RefreshCredentialLocked` (`identity_store.go:599-630`) with the function that
`verifyExternalPrincipal` gives it; `refreshed` is what the provider answers. -/
def refreshCredentialLocked (key : PrincipalKey) (now : Time)
    (refreshed : Except ProviderError OAuthCredential) : Program OAuthCredential := do
  let found ← selectForUpdate (.credential key)
  let current : OAuthCredential ← demand found .credentialNotFound
  let updated ← (if now < current.accessTokenExpiresAt then .ok current
    else refreshed.mapError .provider : Except IdentityError OAuthCredential)
  let _ ← update (.credential key) fun _ : OAuthCredential => some updated
  return updated

/-! ## The system -/

inductive Cmd
  | createAuthorizationTransaction (stateHash : Bytes) (transaction : AuthorizationTransaction)
  | consumeAuthorizationState (stateHash : Bytes) (now : Time)
  | createInvitation (id : Id) (target : PrincipalKey) (tokenHash : Bytes) (createdByUserId : Id)
      (now : Time)
  | getInvitationByTokenHash (tokenHash : Bytes) (now : Time)
  | revokeInvitation (id : Id) (now : Time) (states : List Bytes)
  | rotateInvitation (id : Id) (tokenHash : Bytes) (expiresAt now : Time) (states : List Bytes)
  | expireInvitations (now : Time) (ids : List Id)
  | acceptInvitation (lookup : InvitationLookup) (key : PrincipalKey)
      (credential : OAuthCredential) (userId : Id) (seed : Option SessionSeed) (now : Time)
  | registerAccessRequest (key : PrincipalKey) (credential : OAuthCredential) (userId : Id)
      (seed : SessionSeed) (now : Time)
  | bootstrapAdmin (key : PrincipalKey) (credential : OAuthCredential) (seed : SessionSeed)
      (now : Time)
  | findExternalIdentity (key : PrincipalKey)
  | loginExternal (key : PrincipalKey) (credential : OAuthCredential) (seed : SessionSeed)
      (now : Time)
  | createSession (userId : Id) (seed : SessionSeed)
  | logoutSession (id : Id) (now : Time)
  | resolveSession (id : Id) (secretHash : Bytes) (now : Time)
  | touchSession (id : Id) (now idleExpiresAt : Time)
  | recordProviderVerification (sessionId : Id) (verifiedAt : Time)
  | recordTokenProviderVerification (userId : Id) (verifiedAt : Time)
  | recordProviderFailure (sessionId : Id) (failedAt : Time)
  | deactivateUser (userId : Id) (reason : String) (now : Time)
  | reactivateUser (userId : Id)
  | getExternalIdentityForUser (userId : Id)
  | refreshCredentialLocked (key : PrincipalKey) (now : Time)
      (refreshed : Except ProviderError OAuthCredential)
deriving DecidableEq

inductive Reply
  | done
  | authorization (transaction : AuthorizationTransaction)
  | invitation (id : Id) (invitation : Invitation)
  | accepted (id : Id)
  | user (id : Id)
  | session (session : Session)
  | changed (changed : Bool)
  | external (key : PrincipalKey) (external : ExternalIdentity) (credential : OAuthCredential)
  | credential (credential : OAuthCredential)

def statements : Cmd → Program Reply
  | .createAuthorizationTransaction stateHash transaction => do
      createAuthorizationTransaction stateHash transaction
      return .done
  | .consumeAuthorizationState stateHash now => do
      return .authorization (← consumeAuthorizationState stateHash now)
  | .createInvitation id target tokenHash createdByUserId now => do
      createInvitation id target tokenHash createdByUserId now
      return .done
  | .getInvitationByTokenHash tokenHash now => do
      let found ← getInvitationByTokenHash tokenHash now
      return .invitation found.1 found.2
  | .revokeInvitation id now states => do
      revokeInvitation id now states
      return .done
  | .rotateInvitation id tokenHash expiresAt now states => do
      return .invitation id (← rotateInvitation id tokenHash expiresAt now states)
  | .expireInvitations now ids => do
      expireInvitations now ids
      return .done
  | .acceptInvitation lookup key credential userId seed now => do
      return .accepted (← acceptInvitation lookup key credential userId seed now)
  | .registerAccessRequest key credential userId seed now => do
      registerAccessRequest key credential userId seed now
      return .done
  | .bootstrapAdmin key credential seed now => do
      bootstrapAdmin key credential seed now
      return .done
  | .findExternalIdentity key => do return .user (← findExternalIdentity key)
  | .loginExternal key credential seed now => do
      loginExternal key credential seed now
      return .done
  | .createSession userId seed => do
      createSession userId seed
      return .done
  | .logoutSession id now => do
      logoutSession id now
      return .done
  | .resolveSession id secretHash now => do return .session (← resolveSession id secretHash now)
  | .touchSession id now idleExpiresAt => do return .changed (← touchSession id now idleExpiresAt)
  | .recordProviderVerification sessionId verifiedAt => do
      recordProviderVerification sessionId verifiedAt
      return .done
  | .recordTokenProviderVerification userId verifiedAt => do
      recordTokenProviderVerification userId verifiedAt
      return .done
  | .recordProviderFailure sessionId failedAt => do
      recordProviderFailure sessionId failedAt
      return .done
  | .deactivateUser userId reason now => do
      deactivateUser userId reason now
      return .done
  | .reactivateUser userId => do
      reactivateUser userId
      return .done
  | .getExternalIdentityForUser userId => do
      let found ← getExternalIdentityForUser userId
      return .external found.1 found.2.1 found.2.2
  | .refreshCredentialLocked key now refreshed => do
      return .credential (← refreshCredentialLocked key now refreshed)

def prog (c : Cmd) : Txn Db Key IdentityError Reply := (statements c).toTxn

end Pactline.Identity
