import Pactline.Concurrency.Calls
import Pactline.Model.IdentityService

/-!
# The rows of the identities over time

`RowStep` says once what the statements of a command can do to a row, and `rowSteps_of_runs` that a
commit does nothing else. What every row keeps over time follows from it constructor by constructor:
a session stays a session of its user and a revocation is never undone, a consumed authorization
stays consumed, an invitation that is not pending any more keeps its status.
-/

set_option autoImplicit false

namespace Pactline.Identity

open ReadCommitted

/-! ## Runs -/

abbrev Entry := Commit Db Key Cmd Reply

abbrev IdentityConfig := Config Db Key IdentityError Cmd Reply

abbrev IdentityEvent := Event Cmd IdentityError Reply

/-- The users that the migrations have inserted, with their `active` flags, and nothing else. -/
def Db.initial (users : Id → Option Bool) : Db
  | .user id => (users id).map fun active => ⟨active, [], none⟩
  | _ => none

def runIdentity (users : Id → Option Bool) (es : List IdentityEvent) : Option IdentityConfig :=
  run prog (Config.initial (Db.initial users)) es

/-- The commit is a run of its statements from the database before it. -/
def Runs (e : Entry) : Prop := (statements e.cmd).Runs [] e.before e.reply e.held e.after

variable {users : Id → Option Bool} {es : List IdentityEvent} {cfg : IdentityConfig}

theorem sound_of_run (h : runIdentity users es = some cfg) :
    cfg.Sound prog (fun _ => Rows.locked) (Db.initial users) := by
  apply (Rowwise.protocol statements).sound trivial _ h
  exact Along.of_forall (fun _ _ _ _ _ _ _ _ _ _ _ _ => trivial) _ es

theorem serial_of_run (h : runIdentity users es = some cfg) :
    Serial prog (fun _ => Rows.locked) (Db.initial users) cfg.log cfg.db :=
  (sound_of_run h).serial

theorem runs_of_valid {e : Entry} (h : e.Valid prog fun _ => Rows.locked) : Runs e :=
  Rowwise.runs_of_valid h

/-! ## What a statement can do to a row -/

/-- The session that a command starts. -/
def Cmd.seed : Cmd → Option SessionSeed
  | .acceptInvitation _ _ _ _ seed _ => seed
  | .registerAccessRequest _ _ _ seed _ => some seed
  | .bootstrapAdmin _ _ seed _ => some seed
  | .loginExternal _ _ seed _ => some seed
  | .createSession _ seed => some seed
  | _ => none

/-- The time at which the provider has confirmed a user, for the commands that record it. -/
def Cmd.verifiedAt : Cmd → Option Time
  | .acceptInvitation _ _ _ _ _ now => some now
  | .registerAccessRequest _ _ _ _ now => some now
  | .bootstrapAdmin _ _ _ now => some now
  | .loginExternal _ _ _ now => some now
  | .recordProviderVerification _ verifiedAt => some verifiedAt
  | .recordTokenProviderVerification _ verifiedAt => some verifiedAt
  | _ => none

/-- One statement of the command `c` on one row. -/
inductive RowStep (c : Cmd) : (k : Key) → Option (Columns k) → Option (Columns k) → Prop
  | authorize {stateHash t} :
      RowStep c (.authorization stateHash) none (some t)
  | consume {stateHash} {t : AuthorizationTransaction} {now} :
      RowStep c (.authorization stateHash) (some t) (some (t.consume now))
  | invite {id createdByUserId target tokenHash now i}
      (hc : c = .createInvitation id target tokenHash createdByUserId now) :
      RowStep c (.invitation id) none (some i)
  | revoke {id} {i : Invitation} {now} (hi : i.status = .pending) :
      RowStep c (.invitation id) (some i) (some (i.revoke now))
  | rotate {id} {i : Invitation} {tokenHash expiresAt now states}
      (hc : c = .rotateInvitation id tokenHash expiresAt now states) :
      RowStep c (.invitation id) (some i) (some (i.rotate tokenHash expiresAt now))
  | expire {id} {i : Invitation} {now} (hi : i.status = .pending) :
      RowStep c (.invitation id) (some i) (some (i.expire now))
  | accept {id userId} {i : Invitation} {lookup key credential seed now}
      (hc : c = .acceptInvitation lookup key credential userId seed now)
      (hi : i.status = .pending) :
      RowStep c (.invitation id) (some i) (some (i.accept userId now))
  | issue {id createdByUserId target tokenHash now}
      (hc : c = .createInvitation id target tokenHash createdByUserId now) :
      RowStep c (.tokenHash tokenHash) none (some id)
  | giveUp {id hash tokenHash expiresAt now states row}
      (hc : c = .rotateInvitation id tokenHash expiresAt now states) :
      RowStep c (.tokenHash hash) row none
  | reissue {id tokenHash expiresAt now states}
      (hc : c = .rotateInvitation id tokenHash expiresAt now states) :
      RowStep c (.tokenHash tokenHash) none (some id)
  | register {id} : RowStep c (.user id) none (some (⟨true, [], none⟩ : User))
  | setActive {id} {u : User} {active} :
      RowStep c (.user id) (some u) (some (u.setActive active))
  | addSession {id sessionId} {u : User} :
      RowStep c (.user id) (some u) (some (u.addSession sessionId))
  | setExternal {id} {u : User} {key} :
      RowStep c (.user id) (some u) (some (u.setExternal key))
  | external {key userId now} (hc : c.verifiedAt = some now) :
      RowStep c (.external key) none (some (⟨userId, some now⟩ : ExternalIdentity))
  | verify {key} {x : ExternalIdentity} {now} (hc : c.verifiedAt = some now) :
      RowStep c (.external key) (some x) (some (x.verify now))
  | credential {key row row'} :
      RowStep c (.credential key) row (some row')
  | administrator {id} : RowStep c .administrator none (some id)
  | start {seed : SessionSeed} {userId} (hc : c.seed = some seed) :
      RowStep c (.session seed.id) none (some (seed.session userId))
  | touch {id} {s : Session} {now idleExpiresAt}
      (hc : c = .touchSession id now idleExpiresAt) :
      RowStep c (.session id) (some s) (some (s.touch now idleExpiresAt))
  | close {id} {s : Session} {now reason} :
      RowStep c (.session id) (some s) (some (s.revoke now reason))
  | verified {id} {s : Session} {verifiedAt}
      (hc : c = .recordProviderVerification id verifiedAt) :
      RowStep c (.session id) (some s) (some (s.verified verifiedAt))
  | failed {id} {s : Session} {failedAt} (hc : c = .recordProviderFailure id failedAt) :
      RowStep c (.session id) (some s) (some (s.failed failedAt))

variable {key : PrincipalKey} {credential : OAuthCredential} {e : IdentityError}
  {lookup : InvitationLookup} {d : Db}

variable {id : Id} {now : Time} {Q : Unit → Prop}

abbrev RowStep.many (c : Cmd) : Rowwise.Evolution Columns := .closure (RowStep c)

section Programs

variable {c : Cmd} {userId : Id} {seed : SessionSeed}

theorem keeps_invalidateInvitationAuthorizations (hQ : Q ()) (states : List Bytes) :
    (invalidateInvitationAuthorizations id now states).Keeps (RowStep.many c) Q := by
  induction states with
  | nil => exact hQ
  | cons _ _ ih =>
    rw [invalidateInvitationAuthorizations, Rowwise.keeps_bind]
    exact Rowwise.keeps_update_ite (fun _ _ => .single .consume) fun _ => ih

@[simp] theorem keeps_lockPendingInvitation {Q} :
    (lockPendingInvitation id now).Keeps (RowStep.many c) Q ↔
      ∀ i : Invitation, i.status = .pending ∧ now < i.expiresAt → Q i := by
  simp only [lockPendingInvitation, Rowwise.keeps_rules]
  exact ⟨fun h i => h (some i) i rfl, fun h _ i _ => h i⟩

theorem keeps_expireInvitations (hQ : Q ()) (ids : List Id) :
    (expireInvitations now ids).Keeps (RowStep.many c) Q := by
  induction ids with
  | nil => exact hQ
  | cons _ _ ih =>
    rw [expireInvitations, Rowwise.keeps_bind]
    exact Rowwise.keeps_update_ite (fun _ hc => .single (.expire hc.1)) fun _ => ih

theorem keeps_insertSession (hc : c.seed = some seed) (hQ : Q ()) :
    (insertSession userId seed).Keeps (RowStep.many c) Q := by
  simp only [insertSession, Rowwise.keeps_rules, Bool.false_eq_true, false_implies, and_true]
  exact ⟨.single (.start hc), fun _ => ⟨fun _ => .single .addSession, fun _ => hQ⟩⟩

theorem keeps_insertExternalIdentityAndCredential (hc : c.verifiedAt = some now) (hQ : Q ()) :
    (insertExternalIdentityAndCredential userId key credential now e).Keeps (RowStep.many c) Q := by
  simp only [insertExternalIdentityAndCredential, Rowwise.keeps_rules, Bool.false_eq_true,
    false_implies, and_true, and_self]
  exact ⟨.single (.external hc), fun _ => ⟨.single .credential, fun _ => .single .setExternal,
    fun _ => hQ⟩⟩

theorem keeps_insertUser (hc : c.verifiedAt = some now) (hQ : Q ()) :
    (insertUser userId key credential now e).Keeps (RowStep.many c) Q := by
  simp only [insertUser, Rowwise.keeps_rules, Bool.false_eq_true, false_implies, and_true]
  exact ⟨.single .register, fun _ => keeps_insertExternalIdentityAndCredential hc hQ⟩

theorem keeps_find {Q} (hQ : ∀ found, Q found) :
    lookup.find.Keeps (RowStep.many c) Q := by
  cases lookup with
  | byId id => exact hQ (some id)
  | byHash => exact fun d => hQ _

@[simp] theorem keeps_lockSession {Q} :
    (lockSession id).Keeps (RowStep.many c) Q ↔ ∀ s, Q s := by
  simp only [lockSession, Rowwise.keeps_rules]
  exact ⟨fun h s => h (some s) s rfl, fun h _ s _ => h s⟩

theorem keeps_verifyExternalIdentity (hc : c.verifiedAt = some now) {Q}
    (hQ : ∀ b, Q b) : (verifyExternalIdentity userId now).Keeps (RowStep.many c) Q := by
  simp only [verifyExternalIdentity, Rowwise.keeps_rules]
  intro d
  split
  · exact hQ false
  · rw [Rowwise.keeps_bind]
    exact Rowwise.keeps_update_ite (fun _ _ => .single (.verify hc)) fun _ => hQ _

theorem keeps_revokeSessions {reason} (hQ : Q ()) (ids : List Id) :
    (revokeSessions userId now reason ids).Keeps (RowStep.many c) Q := by
  induction ids with
  | nil => exact hQ
  | cons _ _ ih =>
    rw [revokeSessions, Rowwise.keeps_bind]
    exact Rowwise.keeps_update_ite (fun _ _ => .single .close) fun _ => ih

theorem find_runs {held held' d' found}
    (h : lookup.find.Runs held d found held' d') : held' = held ∧ d' = d := by
  cases lookup with
  | byId => exact h.2
  | byHash => exact (Rowwise.runs_query.mp h).2

end Programs

/-- The statements of a command make only the steps of that command. -/
theorem keeps_statements (c : Cmd) : (statements c).Keeps (RowStep.many c) fun _ => True := by
  cases c with
  | createAuthorizationTransaction =>
    simp only [statements, createAuthorizationTransaction, Rowwise.keeps_rules, implies_true,
      and_true]
    exact .single .authorize
  | consumeAuthorizationState =>
    simp only [statements, consumeAuthorizationState, Rowwise.keeps_rules, implies_true, and_true]
    exact fun _ _ _ _ _ => .single .consume
  | createInvitation =>
    simp only [statements, createInvitation, Rowwise.keeps_rules, implies_true, and_true]
    exact ⟨.single (.issue rfl), fun _ => .single (.invite rfl), fun _ => .single (.invite rfl)⟩
  | getInvitationByTokenHash =>
    simp [statements, getInvitationByTokenHash]
  | revokeInvitation _ _ states =>
    simp only [statements, revokeInvitation, Rowwise.keeps_bind, keeps_lockPendingInvitation]
    refine fun i _ => Rowwise.keeps_update_ite (fun _ hc => .single (.revoke hc)) fun _ => ?_
    rw [Rowwise.keeps_require]
    exact fun _ => keeps_invalidateInvitationAuthorizations trivial states
  | rotateInvitation _ _ _ _ states =>
    simp only [statements, rotateInvitation, Rowwise.keeps_rules, keeps_lockPendingInvitation,
      Bool.false_eq_true, false_implies, and_true]
    exact fun _ _ => ⟨fun _ => .single (.giveUp rfl), .single (.reissue rfl),
      fun _ => ⟨fun _ => .single (.rotate rfl),
        fun _ => keeps_invalidateInvitationAuthorizations trivial states⟩⟩
  | expireInvitations _ ids =>
    simp only [statements, Rowwise.keeps_bind]
    exact keeps_expireInvitations trivial ids
  | acceptInvitation _ _ _ _ seed =>
    simp only [statements, acceptInvitation, Rowwise.keeps_bind]
    refine keeps_find fun found => ?_
    simp only [Rowwise.keeps_demand, Rowwise.keeps_selectForUpdate, Rowwise.keeps_require]
    intro id _ _ i _ _
    refine keeps_insertUser rfl (Rowwise.keeps_update_ite (fun _ hc => .single (.accept rfl hc)) ?_)
    intro _ _
    cases seed with
    | none => trivial
    | some =>
      rw [Rowwise.keeps_bind]
      exact keeps_insertSession rfl trivial
  | registerAccessRequest =>
    simp only [statements, registerAccessRequest, Rowwise.keeps_bind]
    exact keeps_insertUser rfl (keeps_insertSession rfl trivial)
  | bootstrapAdmin =>
    simp only [statements, bootstrapAdmin, Rowwise.keeps_rules, Bool.false_eq_true, false_implies,
      and_true]
    exact fun _ _ _ _ => ⟨.single .administrator, fun _ => ⟨fun _ => .single .setActive,
      fun _ => keeps_insertExternalIdentityAndCredential rfl (keeps_insertSession rfl trivial)⟩⟩
  | findExternalIdentity => simp [statements, findExternalIdentity]
  | loginExternal =>
    simp only [statements, loginExternal, Rowwise.keeps_rules]
    exact fun _ _ _ _ _ _ _ => ⟨fun _ => .single (.verify rfl), fun _ =>
      ⟨fun _ => .single .credential, fun _ => keeps_insertSession rfl trivial⟩⟩
  | createSession =>
    simp only [statements, createSession, Rowwise.keeps_rules]
    exact fun _ _ _ _ => keeps_insertSession rfl trivial
  | logoutSession =>
    simp only [statements, logoutSession, Rowwise.keeps_rules, keeps_lockSession]
    exact fun _ => ⟨fun _ => .single .close, fun _ => trivial⟩
  | resolveSession => simp [statements, resolveSession]
  | touchSession =>
    simp only [statements, touchSession, Rowwise.keeps_rules, keeps_lockSession, Rowwise.keeps_ite,
      implies_true, and_true]
    exact fun _ _ _ => .single (.touch rfl)
  | recordProviderVerification =>
    simp only [statements, recordProviderVerification, Rowwise.keeps_rules, keeps_lockSession]
    exact fun _ => ⟨fun _ => .single (.verified rfl),
      fun _ => keeps_verifyExternalIdentity rfl fun _ => trivial⟩
  | recordTokenProviderVerification =>
    simp only [statements, recordTokenProviderVerification, Rowwise.keeps_bind]
    refine keeps_verifyExternalIdentity rfl fun found => ?_
    simp only [Rowwise.keeps_require, Rowwise.keeps_pure, implies_true]
  | recordProviderFailure =>
    simp only [statements, recordProviderFailure, Rowwise.keeps_rules, keeps_lockSession]
    exact fun _ => ⟨fun _ => .single (.failed rfl), fun _ => trivial⟩
  | deactivateUser =>
    simp only [statements, deactivateUser, Rowwise.keeps_rules]
    exact ⟨fun _ => .single .setActive, fun _ user _ => keeps_revokeSessions trivial _⟩
  | reactivateUser =>
    simp only [statements, reactivateUser, Rowwise.keeps_rules]
    exact ⟨fun _ => .single .setActive, fun _ _ => trivial⟩
  | getExternalIdentityForUser => simp [statements, getExternalIdentityForUser]
  | refreshCredentialLocked =>
    simp only [statements, refreshCredentialLocked, Rowwise.keeps_rules]
    exact fun _ _ _ _ _ => ⟨fun _ => .single .credential, fun _ => trivial⟩

theorem rowSteps_of_runs {e : Entry} (h : Runs e) (k : Key) :
    (RowStep.many e.cmd).rel k (e.before k) (e.after k) :=
  (Rowwise.Runs.evolves h (keeps_statements e.cmd)).1 k

/-! ## What stays of a row -/

def Session.Continues (s s' : Session) : Prop :=
  s'.userId = s.userId ∧ s'.createdAt = s.createdAt ∧
    s'.absoluteExpiresAt = s.absoluteExpiresAt ∧
    (s.revokedAt ≠ none → s'.revokedAt = s.revokedAt)

def RowChange : (k : Key) → Columns k → Columns k → Prop
  | .user _, (u : User), (u' : User) => u.sessionIds ⊆ u'.sessionIds
  | .external _, (x : ExternalIdentity), (x' : ExternalIdentity) => x'.userId = x.userId
  | .session _, (s : Session), (s' : Session) => s.Continues s'
  | .invitation _, (i : Invitation), (i' : Invitation) =>
    i'.target = i.target ∧ (i.status ≠ .pending → i'.status = i.status)
  | .authorization _, (t : AuthorizationTransaction), (t' : AuthorizationTransaction) =>
    t.consumedAt ≠ none → t'.consumedAt ≠ none
  | _, _, _ => True

theorem RowChange.refl (k : Key) (row : Columns k) : RowChange k row row := by
  cases k <;> simp [RowChange, Session.Continues]

theorem RowChange.trans (k : Key) {a b c} (h₁ : RowChange k a b)
    (h₂ : RowChange k b c) : RowChange k a c := by
  cases k with
  | user => exact List.Subset.trans h₁ h₂
  | external => exact Eq.trans h₂ h₁
  | session =>
    obtain ⟨hu, hc, he, hr⟩ := h₁
    obtain ⟨hu', hc', he', hr'⟩ := h₂
    refine ⟨hu'.trans hu, hc'.trans hc, he'.trans he, fun h => ?_⟩
    rw [hr' (by rw [hr h]; exact h), hr h]
  | invitation =>
    obtain ⟨ht, hs⟩ := h₁
    obtain ⟨ht', hs'⟩ := h₂
    refine ⟨ht'.trans ht, fun h => ?_⟩
    rw [hs' (by rw [hs h]; exact h), hs h]
  | authorization => exact fun h => h₂ (h₁ h)
  | credential | tokenHash | administrator => trivial

/-- Rows stay, except that a token hash is given up. -/
def evolution : Rowwise.Evolution Columns where
  rel k row row' := (∀ hash, k ≠ .tokenHash hash) →
    ∀ r, row = some r → ∃ r', row' = some r' ∧ RowChange k r r'
  refl k row _ r hr := ⟨r, hr, RowChange.refl k r⟩
  trans k a b c h₁ h₂ hk r hr := by
    obtain ⟨r', hr', hchange⟩ := h₁ hk r hr
    obtain ⟨r'', hr'', hchange'⟩ := h₂ hk r' hr'
    exact ⟨r'', hr'', hchange.trans k hchange'⟩

theorem RowStep.evolves {c k a b} (h : RowStep c k a b) :
    evolution.rel k a b := by
  intro hk r hr
  cases h with
  | authorize | invite | register | external | administrator | start => cases hr
  | issue | giveUp | reissue => exact absurd rfl (hk _)
  | credential => exact ⟨_, rfl, trivial⟩
  | consume =>
    cases hr
    exact ⟨_, rfl, fun _ => Option.some_ne_none _⟩
  | revoke hi | expire hi | accept hc hi =>
    cases hr
    exact ⟨_, rfl, rfl, fun h => absurd hi h⟩
  | rotate | setActive | setExternal | verify =>
    cases hr
    exact ⟨_, rfl, by simp [RowChange, Invitation.rotate, User.setActive, User.setExternal,
      ExternalIdentity.verify]⟩
  | addSession =>
    cases hr
    exact ⟨_, rfl, List.subset_cons_self _ _⟩
  | touch | verified | failed =>
    cases hr
    exact ⟨_, rfl, rfl, rfl, rfl, fun _ => rfl⟩
  | close =>
    cases hr
    refine ⟨_, rfl, rfl, rfl, rfl, fun h => ?_⟩
    obtain ⟨at_, hat⟩ := Option.ne_none_iff_exists'.mp h
    simp only [Session.revoke, hat, Option.orElse_eq_orElse, Option.orElse_some]

theorem evolves_of_runs {e : Entry} (h : Runs e) (k : Key) :
    evolution.rel k (e.before k) (e.after k) :=
  evolution.closure_le (fun _ _ => RowStep.evolves) (rowSteps_of_runs h k)

theorem evolves_of_serial {d₀ log}
    (h : Serial prog (fun _ => Rows.locked) d₀ log d) (k : Key) : evolution.rel k (d₀ k) (d k) := by
  refine h.invariant (P := fun d => evolution.rel k (d₀ k) (d k)) (evolution.refl k _) ?_
  intro e hv hbefore
  exact evolution.trans k _ _ _ hbefore (evolves_of_runs (runs_of_valid hv) k)

end Pactline.Identity
