import Pactline.Concurrency.Service
import Pactline.Model.Identity

/-!
# The services of the identities

`internal/identity/service.go`: the completion of a login, the authentication of a session and the
check of a token's owner. What the provider answers, the clock and the secrets that are drawn are
arguments. The signature of a session cookie and the impersonation that a session may have are left
out; both can only make an authentication fail.
-/

set_option autoImplicit false

namespace Pactline.Identity

open ReadCommitted

abbrev IdentityService := Service Cmd IdentityError Reply

abbrev IdentityClient := Client Cmd IdentityError Reply

/-! ## The provider -/

/-- `VerificationState`; any other value of the type is `other`. -/
inductive VerificationState
  | valid
  | invalid
  | transient
  | other
deriving DecidableEq, Repr

structure VerificationResult where
  state : VerificationState
  category : ProviderErrorCategory
deriving DecidableEq, Repr

/-- What the provider answers to one request, and the time at which `DeactivateUser` reads the
clock if it comes to that. -/
structure ProviderAnswers where
  refresh : Except ProviderError OAuthCredential
  verify : Except ProviderError VerificationResult
  deactivatedAt : Time

def IdentityError.category : IdentityError → Option ProviderErrorCategory
  | .provider e => e.category
  | _ => none

/-- The error says that the provider may answer later. -/
def IdentityError.isTransient : IdentityError → Bool
  | .providerTransient => true
  | .provider e => e.transient || e.category = some .rateLimited || e.category = some .unavailable
  | _ => false

def transientResult (e : IdentityError) : VerificationResult :=
  ⟨.transient, e.category.getD .unavailable⟩

/-- `verifyExternalPrincipal` (`service.go:844-897`) after the credential was found or refreshed. -/
def verifyPrincipal (answers : ProviderAnswers) : IdentityService VerificationResult :=
  match answers.verify with
  | .ok result => return result
  | .error e =>
    if (IdentityError.provider e).isTransient then return transientResult (.provider e)
    else Service.fail .providerContract

/-- What a refresh that has failed says of the principal. -/
def refreshFailure (e : IdentityError) : IdentityService VerificationResult :=
  if e.isTransient then return transientResult e
  else match e.category with
    | some category =>
      if IsExplicitInvalid category then return ⟨.invalid, category⟩
      else Service.fail .sessionInvalid
    | none => Service.fail .sessionInvalid

def pickCredential : Reply → Option OAuthCredential
  | .credential credential => some credential
  | _ => none

def verifyExternalPrincipal (key : PrincipalKey) (credential : OAuthCredential) (now : Time)
    (answers : ProviderAnswers) : IdentityService VerificationResult := do
  if now < credential.accessTokenExpiresAt then verifyPrincipal answers
  else if ¬ now < credential.refreshTokenExpiresAt then Service.fail .sessionInvalid
  else do
    let refreshed ← Service.attempt .unclassified pickCredential
      (.refreshCredentialLocked key now answers.refresh)
    match refreshed with
    | .ok _ => verifyPrincipal answers
    | .error e => refreshFailure e

/-! ## Calls -/

def pickDone : Reply → Option Unit
  | .done => some ()
  | _ => none

def pickSession : Reply → Option Session
  | .session session => some session
  | _ => none

def pickExternal : Reply → Option (PrincipalKey × ExternalIdentity × OAuthCredential)
  | .external key external credential => some (key, external, credential)
  | _ => none

def pickChanged : Reply → Option Bool
  | .changed changed => some changed
  | _ => none

def send {β : Type} (pick : Reply → Option β) (c : Cmd) : IdentityService β :=
  Service.send .unclassified pick c

/-- A call any error of which the service gives back as `e`. -/
def sendOr {β : Type} (e : IdentityError) (pick : Reply → Option β) (c : Cmd) :
    IdentityService β := do
  let answer ← Service.attempt .unclassified pick c
  match answer with
  | .ok b => return b
  | .error _ => Service.fail e

def externalIdentity (userId : Id) :
    IdentityService (PrincipalKey × ExternalIdentity × OAuthCredential) :=
  sendOr .sessionInvalid pickExternal (.getExternalIdentityForUser userId)

/-- `deactivateInvalidPrincipal` (`service.go:899-912`). -/
def deactivateInvalidPrincipal (userId : Id) (reason : String) (now : Time) :
    IdentityService Unit := do
  send pickDone (.deactivateUser userId reason now)
  Service.fail .userInactive

def ProviderErrorCategory.text : ProviderErrorCategory → String
  | unauthorized => "unauthorized"
  | notFound => "not_found"
  | resigned => "resigned"
  | frozen => "frozen"
  | authorizationRevoked => "authorization_revoked"
  | credentialExpired => "credential_expired"
  | rateLimited => "rate_limited"
  | unavailable => "unavailable"
  | contract => "contract"

/-! ## Sessions -/

/-- `applyProviderTransient` (`service.go:914-944`), with the session as
`ResolveSession` has found it. -/
def applyProviderTransient (sessionId : Id) (session : Session) (now : Time) :
    IdentityService Session := do
  send pickDone (.recordProviderFailure sessionId now)
  match session.providerFailureSince with
  | none => return { session with providerFailureSince := some now }
  | some _ =>
    if WithinProviderGrace session.providerFailureSince now then return session
    else Service.fail .providerTransient

/-- `revalidate` (`service.go:770-798`). -/
def revalidate (sessionId : Id) (session : Session) (now : Time) (answers : ProviderAnswers) :
    IdentityService Session := do
  let external ← externalIdentity session.userId
  let result ← verifyExternalPrincipal external.1 external.2.2 now answers
  match result.state with
  | .valid => do
      send pickDone (.recordProviderVerification sessionId now)
      return session.verified now
  | .invalid =>
    if IsExplicitInvalid result.category then do
      deactivateInvalidPrincipal session.userId result.category.text answers.deactivatedAt
      return session
    else Service.fail .providerContract
  | .transient => applyProviderTransient sessionId session now
  | .other => Service.fail .providerContract

/-- The session after a verification that was due. -/
def revalidateDue (sessionId : Id) (session : Session) (now : Time) (answers : ProviderAnswers) :
    IdentityService Session :=
  if ProviderVerificationDue session.lastProviderVerifiedAt now then
    revalidate sessionId session now answers
  else return session

/-- The session after its idle deadline was moved, where that is due. -/
def roll (sessionId : Id) (session : Session) (now : Time) : IdentityService Session := do
  if session.RollDue now then do
    let _ ← send pickChanged (.touchSession sessionId now
      (rollingIdleExpiry now session.absoluteExpiresAt))
    return { session with
      lastSeenAt := now, idleExpiresAt := rollingIdleExpiry now session.absoluteExpiresAt }
  else return session

/-- `Authenticate` (`service.go:735-768`), for the session and the secret that the cookie names. -/
def authenticate (sessionId : Id) (secretHash : Bytes) (now : Time) (answers : ProviderAnswers) :
    IdentityService Session := do
  let session ← send pickSession (.resolveSession sessionId secretHash now)
  let session ← revalidateDue sessionId session now answers
  roll sessionId session now

/-! ## Tokens -/

/-- The part of `VerifyTokenOwner` that asks the provider. -/
def verifyOwner (userId : Id) (key : PrincipalKey) (external : ExternalIdentity)
    (credential : OAuthCredential) (now : Time) (answers : ProviderAnswers) :
    IdentityService Unit := do
  let result ← verifyExternalPrincipal key credential now answers
  match result.state with
  | .valid => send pickDone (.recordTokenProviderVerification userId now)
  | .invalid =>
    if IsExplicitInvalid result.category then
      deactivateInvalidPrincipal userId result.category.text answers.deactivatedAt
    else Service.fail .providerContract
  | .transient =>
    if ∃ at_ ∈ external.lastVerifiedAt, now ≤ at_ + providerTransientGrace then return ()
    else Service.fail .providerTransient
  | .other => Service.fail .providerContract

/-- `VerifyTokenOwner` (`service.go:800-842`), for a user that the token's
authentication has read with this value of `active`. -/
def verifyTokenOwner (userId : Id) (active : Bool) (now : Time) (answers : ProviderAnswers) :
    IdentityService Unit := do
  if ¬ active then Service.fail .userInactive
  let external ← externalIdentity userId
  if ProviderVerificationDue external.2.1.lastVerifiedAt now then
    verifyOwner userId external.1 external.2.1 external.2.2 now answers
  else return ()

/-! ## Logins -/

/-- What `ExchangeAuthorizationCode` has given, as far as a login depends on it; `bootstrap` says
that the verified email is that of the first administrator. -/
structure AuthenticatedPrincipal where
  key : PrincipalKey
  active : Bool
  bootstrap : Bool
  credential : OAuthCredential
deriving DecidableEq, Repr

def pickAuthorization : Reply → Option AuthorizationTransaction
  | .authorization transaction => some transaction
  | _ => none

def pickAccepted : Reply → Option Id
  | .accepted id => some id
  | _ => none

def pickUser : Reply → Option Id
  | .user id => some id
  | _ => none

/-- The login of a principal who has no invitation in hand. -/
def completeLogin (principal : AuthenticatedPrincipal) (userId : Id) (seed : SessionSeed)
    (now : Time) : IdentityService Unit := do
  let found ← Service.attempt .unclassified pickUser (.findExternalIdentity principal.key)
  match found with
  | .ok _ =>
    sendOr .loginDenied pickDone (.loginExternal principal.key principal.credential seed now)
  | .error .notFound =>
    if principal.bootstrap then
      sendOr .loginDenied pickDone
        (.bootstrapAdmin principal.key principal.credential seed now)
    else
      sendOr .loginDenied pickDone
        (.registerAccessRequest principal.key principal.credential userId seed now)
  | .error e => Service.fail e

/-- `CompleteAuthorization` (`service.go:536-643`). The clock is read for the
state, for the session and for the login. -/
def completeAuthorization (tenantId : String) (stateHash : Bytes)
    (exchange : Except ProviderError AuthenticatedPrincipal) (userId : Id) (seed : SessionSeed)
    (consumedAt now : Time) : IdentityService Unit := do
  let transaction ← sendOr .authorizationInvalid pickAuthorization
    (.consumeAuthorizationState stateHash consumedAt)
  match exchange with
  | .error _ => Service.fail .loginDenied
  | .ok principal =>
    if principal.key.provider ≠ "lark" ∨ principal.key.tenantId ≠ tenantId ∨
        principal.active = false then Service.fail .loginDenied
    else match transaction.purpose with
      | .login => completeLogin principal userId seed now
      | .invitation => match transaction.invitationId with
          | none => Service.fail .loginDenied
          | some id =>
            if transaction.invitationTokenHash = [] then Service.fail .loginDenied
            else do
              let _ ← sendOr .loginDenied pickAccepted (.acceptInvitation
                (.byId id transaction.invitationTokenHash) principal.key principal.credential
                userId (some seed) now)

end Pactline.Identity
