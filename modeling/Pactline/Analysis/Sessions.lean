import Pactline.Analysis.Identity

/-!
# Requests on sessions

Who calls the store: a request that authenticates a session or checks the owner of a token, a login,
and the commands that administrators and jobs issue (`Request`). `Provided` is what this says of the
commands that only a request issues: a touch moves the idle deadline by no more than its lifetime,
and a verification is recorded only where the provider has confirmed the user.
-/

set_option autoImplicit false

namespace Pactline.Identity

open ReadCommitted Rowwise Service

variable {key : PrincipalKey} {credential : OAuthCredential} {secretHash : Bytes}
  {start : IdentityConfig} {i : Nat}

variable {es : List IdentityEvent} {c : Cmd} {now : Time} {answers : ProviderAnswers} {userId : Id}

/-! ## Requests -/

/-- Commands that are not part of a request on a session or of the check of a token's owner. -/
def Cmd.Direct : Cmd → Prop
  | .touchSession .. => False
  | .recordProviderVerification .. => False
  | .recordTokenProviderVerification .. => False
  | .recordProviderFailure .. => False
  | _ => True

inductive Request : IdentityClient → Prop
  | authenticate (sessionId : Id) (secretHash : Bytes) (now : Time) (answers : ProviderAnswers) :
      Request (authenticate sessionId secretHash now answers).client
  | verifyTokenOwner (userId : Id) (active : Bool) (now : Time) (answers : ProviderAnswers) :
      Request (verifyTokenOwner userId active now answers).client
  | completeAuthorization (tenantId : String) (stateHash : Bytes)
      (exchange : Except ProviderError AuthenticatedPrincipal) (userId : Id) (seed : SessionSeed)
      (consumedAt now : Time) :
      Request (completeAuthorization tenantId stateHash exchange userId seed consumedAt now).client
  | direct (commands : List Cmd) (h : ∀ c ∈ commands, c.Direct) : Request (.script commands)

/-- The provider has answered that the user is valid. -/
def ProviderAnswers.Confirm (answers : ProviderAnswers) : Prop :=
  ∃ result, answers.verify = .ok result ∧ result.state = .valid

/-- Where the requests of the schedule are the only callers, the commands that belong to them come
from a request of that time. -/
def Provided (es : List IdentityEvent) : Cmd → Prop
  | .touchSession _ now idleExpiresAt => idleExpiresAt ≤ now + sessionIdleLifetime
  | .recordProviderVerification sessionId verifiedAt => ∃ secretHash answers,
      .connect (authenticate sessionId secretHash verifiedAt answers).client ∈ es ∧ answers.Confirm
  | .recordTokenProviderVerification userId verifiedAt => ∃ active answers,
      .connect (verifyTokenOwner userId active verifiedAt answers).client ∈ es ∧ answers.Confirm
  | .recordProviderFailure sessionId failedAt => ∃ secretHash answers,
      .connect (authenticate sessionId secretHash failedAt answers).client ∈ es
  | _ => True

theorem Provided.mono {es'} (hle : es ⊆ es') (h : Provided es c) :
    Provided es' c := by
  cases c with
  | recordProviderVerification | recordTokenProviderVerification =>
    obtain ⟨_, answers, hmem, hconfirm⟩ := h
    exact ⟨_, answers, hle hmem, hconfirm⟩
  | recordProviderFailure =>
    obtain ⟨_, answers, hmem⟩ := h
    exact ⟨_, answers, hle hmem⟩
  | _ => exact h

theorem Cmd.Direct.provided (h : c.Direct) : Provided es c := by
  cases c <;> first | exact h.elim | trivial

section Calls

variable {p : Cmd → Prop}

/-- The provider's answer is the result, unless the credential could not be refreshed. -/
theorem calls_verifyExternalPrincipal {Q}
    (hp : p (.refreshCredentialLocked key now answers.refresh))
    (hQ : ∀ result, (result.state = .valid → answers.Confirm) → Q result) :
    (verifyExternalPrincipal key credential now answers).Calls p Q := by
  have hverify : (verifyPrincipal answers).Calls p Q := by
    unfold verifyPrincipal
    split
    case h_1 result heq => exact hQ result fun hvalid => ⟨result, heq, hvalid⟩
    case h_2 e heq =>
      rw [calls_ite]
      exact ⟨fun _ => hQ _ fun h => (by cases h), fun _ => trivial⟩
  simp only [verifyExternalPrincipal, calls_ite, calls_bind, calls_fail]
  refine ⟨fun _ => hverify, fun _ => ⟨fun _ => trivial, fun _ => ?_⟩⟩
  refine calls_attempt hp fun r => ?_
  cases r with
  | ok credential => exact hverify
  | error e =>
    dsimp only [refreshFailure]
    rw [calls_ite]
    refine ⟨fun _ => hQ _ fun h => (by cases h), fun _ => ?_⟩
    split
    · rw [calls_ite]
      exact ⟨fun _ => hQ _ fun h => (by cases h), fun _ => trivial⟩
    · trivial

theorem calls_sendOr {β : Type} {e : IdentityError} {pick : Reply → Option β} {Q : β → Prop}
    (hc : p c) (hQ : ∀ b, Q b) : (sendOr e pick c).Calls p Q := by
  rw [sendOr, calls_bind]
  refine calls_attempt hc fun r => ?_
  cases r with
  | ok b => exact hQ b
  | error e => trivial

theorem calls_deactivateInvalidPrincipal {reason Q}
    (hc : p (.deactivateUser userId reason now)) :
    (deactivateInvalidPrincipal userId reason now).Calls p Q := by
  rw [deactivateInvalidPrincipal, calls_bind]
  exact calls_send hc fun _ => trivial

end Calls

theorem rollingIdleExpiry_le (now absoluteExpiresAt : Time) :
    rollingIdleExpiry now absoluteExpiresAt ≤ now + sessionIdleLifetime := by
  unfold rollingIdleExpiry
  split
  case isTrue h => exact Nat.le_of_lt h
  case isFalse => exact Nat.le_refl _

theorem provided_authenticate {sessionId : Id}
    (h : .connect (authenticate sessionId secretHash now answers).client ∈ es) :
    (authenticate sessionId secretHash now answers).Calls (Provided es) fun _ => True := by
  have hroll : ∀ session : Session,
      (roll sessionId session now).Calls (Provided es) fun _ => True := by
    intro session
    simp only [roll, calls_ite, calls_bind, calls_pure, implies_true, and_true]
    exact fun _ => calls_send (rollingIdleExpiry_le _ _) fun _ => trivial
  simp only [authenticate, calls_bind]
  refine calls_send trivial fun session => ?_
  simp only [revalidateDue, calls_ite, calls_pure]
  refine ⟨fun _ => ?_, fun _ => hroll session⟩
  simp only [revalidate, externalIdentity, calls_bind]
  refine calls_sendOr trivial fun external => ?_
  refine calls_verifyExternalPrincipal trivial fun result hresult => ?_
  split
  case h_1 hvalid =>
    rw [calls_bind]
    exact calls_send ⟨secretHash, answers, h, hresult hvalid⟩ fun _ => hroll _
  case h_2 =>
    rw [calls_ite]
    refine ⟨fun _ => ?_, fun _ => trivial⟩
    rw [calls_bind]
    exact calls_deactivateInvalidPrincipal trivial
  case h_3 =>
    simp only [applyProviderTransient, calls_bind]
    refine calls_send ⟨secretHash, answers, h⟩ fun _ => ?_
    split
    · exact hroll _
    · rw [calls_ite]
      exact ⟨fun _ => hroll _, fun _ => trivial⟩
  case h_4 => trivial

theorem provided_verifyTokenOwner {active : Bool}
    (h : .connect (verifyTokenOwner userId active now answers).client ∈ es) :
    (verifyTokenOwner userId active now answers).Calls (Provided es) fun _ => True := by
  have howner : ∀ external : PrincipalKey × ExternalIdentity × OAuthCredential,
      (verifyOwner userId external.1 external.2.1 external.2.2 now answers).Calls (Provided es)
        fun _ => True := by
    intro external
    simp only [verifyOwner, calls_bind]
    refine calls_verifyExternalPrincipal trivial fun result hresult => ?_
    split
    case h_1 hvalid =>
      exact calls_send ⟨active, answers, h, hresult hvalid⟩ fun _ => trivial
    case h_2 =>
      rw [calls_ite]
      exact ⟨fun _ => calls_deactivateInvalidPrincipal trivial, fun _ => trivial⟩
    case h_3 =>
      rw [calls_ite]
      exact ⟨fun _ => trivial, fun _ => trivial⟩
    case h_4 => trivial
  have hrest : (externalIdentity userId).Calls (Provided es) fun external =>
      (if ProviderVerificationDue external.2.1.lastVerifiedAt now then
        verifyOwner userId external.1 external.2.1 external.2.2 now answers
      else pure ()).Calls (Provided es) fun _ => True := by
    refine calls_sendOr trivial fun external => ?_
    rw [calls_ite]
    exact ⟨fun _ => howner external, fun _ => trivial⟩
  cases active with
  | false => trivial
  | true =>
    simp only [verifyTokenOwner, not_true_eq_false, if_false, calls_bind]
    exact hrest

theorem provided_completeAuthorization {tenantId : String} {stateHash : Bytes}
    {exchange : Except ProviderError AuthenticatedPrincipal} {seed : SessionSeed}
    {consumedAt : Time} :
    (completeAuthorization tenantId stateHash exchange userId seed consumedAt now).Calls
      (Provided es) fun _ => True := by
  simp only [completeAuthorization, calls_bind]
  refine calls_sendOr trivial fun transaction => ?_
  cases exchange with
  | error e => trivial
  | ok principal =>
    dsimp only
    rw [calls_ite]
    refine ⟨fun _ => trivial, fun _ => ?_⟩
    split
    · simp only [completeLogin, calls_bind]
      refine calls_attempt trivial fun found => ?_
      split
      · exact calls_sendOr trivial fun _ => trivial
      · rw [calls_ite]
        exact ⟨fun _ => calls_sendOr trivial fun _ => trivial,
          fun _ => calls_sendOr trivial fun _ => trivial⟩
      · trivial
    · split
      · trivial
      · rw [calls_ite]
        refine ⟨fun _ => trivial, fun _ => ?_⟩
        rw [calls_bind]
        exact calls_sendOr trivial fun _ => trivial

/-- What the requests of a schedule commit is what the schedule provides. -/
theorem provided_of_run {users} {cfg : IdentityConfig}
    (hclients : ∀ client, .connect client ∈ es → Request client)
    (h : runIdentity users es = some cfg) : ∀ e ∈ cfg.log, Provided es e.cmd := by
  refine Client.Only.run (fun client hmem => ?_)
    (fun s hs => by cases hs) (fun e he => by cases he) h
  cases hclients client hmem with
  | authenticate => exact (provided_authenticate hmem).only
  | verifyTokenOwner => exact (provided_verifyTokenOwner hmem).only
  | completeAuthorization => exact provided_completeAuthorization.only
  | direct commands hdirect =>
    exact Client.only_script fun c hc => (hdirect c hc).provided

/-! ## Single reads -/

/-- The session that `ResolveSession` gives is one that can be used, of an active user. -/
theorem resolve_read {id} {session : Session} (hquiet : start.Quiet i)
    (hcalls : (.resolveSession id secretHash now, .committed (.session session)) ∈
      calls prog i start es) :
    ∃ es₁ es₂ mid, es = es₁ ++ es₂ ∧ run prog start es₁ = some mid ∧
      mid.db (.session id) = some session ∧ session.Usable now := by
  obtain ⟨es₁, es₂, mid, hes, hrun, hread⟩ := calls_read hquiet hcalls
    toTxn_query_bind_bind fun d => by
      simp only [ends_bind, ends_demand, ends_require, ends_pure, implies_true, and_true]
  refine ⟨es₁, es₂, mid, hes, hrun, ?_⟩
  simp only [toTxn_eq_ret, bind_eq_ret, demand_eq_ret, require_eq_ret, pure_eq_ret,
    Option.bind_eq_some_iff, Option.map_eq_some_iff] at hread
  obtain ⟨_, ⟨found, ⟨s, hs, user, -, rfl⟩, _, -, _, -, _, hrevoked, _, hexpiry, rfl⟩, heq⟩ := hread
  cases heq
  exact ⟨hs, hrevoked, hexpiry⟩

theorem external_read {external : ExternalIdentity} (hquiet : start.Quiet i)
    (hcalls : (.getExternalIdentityForUser userId,
      .committed (.external key external credential)) ∈ calls prog i start es) :
    ∃ es₁ es₂ mid, es = es₁ ++ es₂ ∧ run prog start es₁ = some mid ∧
      mid.db (.external key) = some external ∧ external.userId = userId := by
  obtain ⟨es₁, es₂, mid, hes, hrun, hread⟩ := calls_read hquiet hcalls
    toTxn_query_bind_bind fun d => by
      simp only [ends_bind, ends_demand, ends_pure, implies_true, and_true]
  refine ⟨es₁, es₂, mid, hes, hrun, ?_⟩
  simp only [toTxn_eq_ret, bind_eq_ret, demand_eq_ret,
    pure_eq_ret, Option.bind_eq_some_iff, Option.ite_none_right_eq_some] at hread
  obtain ⟨_, ⟨user, -, key', -, x, hx, _, -, huser, hfound⟩, heq⟩ := hread
  cases hfound
  cases heq
  exact ⟨hx, huser⟩

end Pactline.Identity
