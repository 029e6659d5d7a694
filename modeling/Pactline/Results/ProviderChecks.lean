import Pactline.Results.Sessions

/-!
# What the provider has to say

A request succeeds only on a recent confirmation of the user by the provider, on one that the
request itself obtains, or within the grace period after the provider has begun to fail.
`providerState` says what this means for a session in terms of the commits: the last confirmation,
and the first failure after it.
-/

set_option autoImplicit false

namespace Pactline.Identity

open ReadCommitted Rowwise Service List

variable {k : Key} {held' : List (Lock Key)} {d d' : Db} {reply : Reply}
  {credential : OAuthCredential} {x : ExternalIdentity} {s : Session} {i : Nat}

variable {c : Cmd} {e : Entry} {id userId : Id} {verifiedAt now : Time} {key : PrincipalKey}
  {answers : ProviderAnswers} {made : List (Cmd × Outcome IdentityError Reply)}

variable {users : Id → Option Bool} {es es₁ es₂ : List IdentityEvent} {start cfg : IdentityConfig}

/-! ## Confirmations and failures of a session -/

/-- The time of the last confirmation that was recorded for a session, and of the first failure
recorded after it. -/
def providerState (id : Id) : List Entry → Option Time × Option Time
  | [] => (none, none)
  | e :: older => match e.cmd with
      | .recordProviderVerification id' verifiedAt =>
        if id' = id then (some verifiedAt, none) else providerState id older
      | .recordProviderFailure id' failedAt =>
        if id' = id then ((providerState id older).1, (providerState id older).2 <|> some failedAt)
        else providerState id older
      | _ => providerState id older

/-- What the row of a session says of the provider. -/
def providerColumns : Option Session → Option Time × Option Time
  | some s => (s.lastProviderVerifiedAt, s.providerFailureSince)
  | none => (none, none)

/-- The command records nothing of the provider for the session. -/
def Cmd.Silent (c : Cmd) (id : Id) : Prop :=
  (∀ verifiedAt, c ≠ .recordProviderVerification id verifiedAt) ∧
    ∀ failedAt, c ≠ .recordProviderFailure id failedAt

def silence (c : Cmd) : Rowwise.Evolution Columns where
  rel
    | .session id, row, row' => c.Silent id → providerColumns row' = providerColumns row
    | _, _, _ => True
  refl k row := by
    cases k with
    | session id => exact fun _ => rfl
    | _ => trivial
  trans k a b c' h₁ h₂ := by
    cases k with
    | session id => exact fun hc => (h₂ hc).trans (h₁ hc)
    | _ => trivial

theorem RowStep.silent {a b} (h : RowStep c k a b) :
    (silence c).rel k a b := by
  cases h with
  | start | touch | close => exact fun _ => rfl
  | verified hc => exact fun hsilent => absurd hc (hsilent.1 _)
  | failed hc => exact fun hsilent => absurd hc (hsilent.2 _)
  | _ => trivial

theorem silent_of_runs (h : Runs e) (hc : e.cmd.Silent id) :
    providerColumns (e.after (.session id)) = providerColumns (e.before (.session id)) :=
  (silence e.cmd).closure_le (fun _ _ => RowStep.silent) (rowSteps_of_runs h (.session id)) hc

abbrev besideSessions : Rowwise.Evolution Columns := .frame fun k => ∃ id, k = .session id

theorem verifyExternalIdentity_frame (userId : Id) (verifiedAt : Time) :
    (verifyExternalIdentity userId verifiedAt).Keeps besideSessions fun _ => True := by
  simp only [verifyExternalIdentity, keeps_rules]
  intro d
  split
  · trivial
  · simp [Rowwise.Evolution.frame]

theorem recordProviderVerification_runs (h : Runs e)
    (hc : e.cmd = .recordProviderVerification id verifiedAt) :
    ∃ s : Session, e.before (.session id) = some s ∧
      e.after (.session id) = some (s.verified verifiedAt) := by
  rw [Runs, hc] at h
  simp only [statements, recordProviderVerification, lockSession, steps] at h
  obtain ⟨s, hs, ⟨hnone, -⟩ | ⟨old, new, hold, hnew, hrest⟩⟩ := h
  · cases hnone s hs
  cases hs.symm.trans hold
  cases hnew
  obtain ⟨_, _, d, hverify, hdone⟩ := runs_bind.mp hrest
  obtain ⟨-, -, hafter⟩ := hdone
  have hsame := (hverify.evolves (verifyExternalIdentity_frame s.userId verifiedAt)).1
    (.session id) ⟨id, rfl⟩
  exact ⟨s, hs, by rw [hafter, hsame, Function.update_self]⟩

theorem recordProviderFailure_runs (h : Runs e) {failedAt}
    (hc : e.cmd = .recordProviderFailure id failedAt) :
    ∃ s : Session, e.before (.session id) = some s ∧
      e.after (.session id) = some (s.failed failedAt) := by
  rw [Runs, hc] at h
  simp only [statements, recordProviderFailure, lockSession, steps] at h
  obtain ⟨s, hs, ⟨hnone, -⟩ | ⟨old, new, hold, hnew, -, -, hafter⟩⟩ := h
  · cases hnone s hs
  cases hs.symm.trans hold
  cases hnew
  exact ⟨s, hs, by rw [hafter, Function.update_self]⟩

theorem providerState_silent (hc : e.cmd.Silent id) (older : List Entry) :
    providerState id (e :: older) = providerState id older := by
  conv_lhs => rw [providerState]
  split
  case h_1 id' verifiedAt heq =>
    refine if_neg fun hid => ?_
    subst hid
    exact hc.1 verifiedAt heq
  case h_2 id' failedAt heq =>
    refine if_neg fun hid => ?_
    subst hid
    exact hc.2 failedAt heq
  case h_3 => rfl

/-- The row of a session knows the last confirmation and the first failure after it. -/
theorem providerState_of_run (h : runIdentity users es = some cfg) (id : Id) :
    providerColumns (cfg.db (.session id)) = providerState id cfg.log := by
  refine (serial_of_run h).history
    (P := fun log d => providerColumns (d (.session id)) = providerState id log) rfl ?_
  intro e older hvalid ih
  have hruns := runs_of_valid hvalid
  by_cases hverification : ∃ verifiedAt, e.cmd = .recordProviderVerification id verifiedAt
  · obtain ⟨verifiedAt, hc⟩ := hverification
    obtain ⟨s, -, hs⟩ := recordProviderVerification_runs hruns hc
    simp only [providerState, hc, if_true, hs]
    rfl
  by_cases hfailure : ∃ failedAt, e.cmd = .recordProviderFailure id failedAt
  · obtain ⟨failedAt, hc⟩ := hfailure
    obtain ⟨s, hbefore, hs⟩ := recordProviderFailure_runs hruns hc
    simp only [providerState, hc, if_true, hs, ← ih, hbefore]
    rfl
  have hsilent : e.cmd.Silent id :=
    ⟨fun verifiedAt hc => hverification ⟨verifiedAt, hc⟩,
      fun failedAt hc => hfailure ⟨failedAt, hc⟩⟩
  rw [silent_of_runs hruns hsilent, providerState_silent hsilent, ih]

theorem confirmed_of_providerState {log}
    (h : (providerState id log).1 = some verifiedAt) :
    ∃ e ∈ log, e.cmd = .recordProviderVerification id verifiedAt := by
  induction log with
  | nil => cases h
  | cons e older ih =>
    have holder : (providerState id older).1 = some verifiedAt →
        ∃ e' ∈ e :: older, e'.cmd = .recordProviderVerification id verifiedAt := by
      intro hold
      obtain ⟨e', he', hc⟩ := ih hold
      exact ⟨e', mem_cons_of_mem e he', hc⟩
    unfold providerState at h
    split at h
    case h_1 id' verifiedAt' heq =>
      split at h
      case isTrue hid =>
        cases h
        subst hid
        exact ⟨e, mem_cons_self, heq⟩
      case isFalse => exact holder h
    case h_2 =>
      split at h
      · exact holder h
      · exact holder h
    case h_3 => exact holder h

/-! ## Confirmations of a user -/

/-- The commit records that the provider has confirmed the user: for one of the user's sessions, for
one of the user's tokens, or at a login, whose principal the provider has just given. -/
def Confirms (e : Entry) (userId : Id) (verifiedAt : Time) : Prop :=
  match e.cmd with
  | .recordProviderVerification sessionId at_ => at_ = verifiedAt ∧
      ∃ s : Session, e.before (.session sessionId) = some s ∧ s.userId = userId
  | .recordTokenProviderVerification userId' at_ => at_ = verifiedAt ∧ userId' = userId
  | .loginExternal key _ _ now => now = verifiedAt ∧
      ∃ x : ExternalIdentity, e.before (.external key) = some x ∧ x.userId = userId
  | .acceptInvitation _ _ _ userId' _ now => now = verifiedAt ∧ userId' = userId
  | .registerAccessRequest _ _ userId' _ now => now = verifiedAt ∧ userId' = userId
  | .bootstrapAdmin _ _ _ now => now = verifiedAt ∧ primarySeedUserId = userId
  | _ => False

/-- A row of an external identity stays, or is that of the user, confirmed now. -/
def confirming (userId : Id) (verifiedAt : Time) : Rowwise.Evolution Columns where
  rel
    | .external _, row, row' => row' = row ∨
        ∃ x : ExternalIdentity, row' = some x ∧ x.userId = userId ∧
          x.lastVerifiedAt = some verifiedAt
    | _, _, _ => True
  refl k row := by
    cases k with
    | external key => exact .inl rfl
    | _ => trivial
  trans k a b c h₁ h₂ := by
    cases k with
    | external key =>
      rcases h₂ with heq | hnew
      · subst heq
        exact h₁
      · exact .inr hnew
    | _ => trivial

theorem verifyExternalIdentity_confirming (userId : Id) (verifiedAt : Time) {Q}
    (hQ : ∀ found, Q found) :
    (verifyExternalIdentity userId verifiedAt).Keeps (confirming userId verifiedAt) Q := by
  simp only [verifyExternalIdentity, keeps_rules]
  intro d
  split
  · exact hQ false
  · rw [keeps_bind]
    exact keeps_update_ite (fun _ huser => .inr ⟨_, rfl, huser, rfl⟩) fun _ => hQ _

/-- The locks of these two commands say which user they confirm. -/
theorem recordProviderVerification_confirming
    (h : (statements (.recordProviderVerification id verifiedAt)).Runs [] d reply held' d') :
    ∃ s : Session, d (.session id) = some s ∧
      ∀ key, (confirming s.userId verifiedAt).rel (.external key) (d (.external key))
        (d' (.external key)) := by
  simp only [statements, recordProviderVerification, lockSession, runs_assoc,
    runs_selectForUpdate_bind, runs_demand_bind] at h
  obtain ⟨s, hs, hrest⟩ := h
  refine ⟨s, hs, fun key => ?_⟩
  refine (hrest.evolves (R := confirming s.userId verifiedAt) (Q := fun _ => True) ?_).1
    (.external key)
  simp only [keeps_bind, keeps_update, keeps_pure]
  exact ⟨fun _ _ _ => trivial, fun _ => verifyExternalIdentity_confirming _ _ fun _ => trivial⟩

theorem loginExternal_confirming {seed}
    (h : (statements (.loginExternal key credential seed now)).Runs [] d reply held' d') :
    ∃ x : ExternalIdentity, d (.external key) = some x ∧
      ∀ key', (confirming x.userId now).rel (.external key') (d (.external key'))
        (d' (.external key')) := by
  simp only [statements, loginExternal, runs_assoc, runs_selectForUpdate_bind,
    runs_demand_bind, runs_require_bind] at h
  obtain ⟨x, hx, user, -, -, hverify⟩ := h
  rw [runs_update_bind] at hverify
  rcases hverify with ⟨hnone, -⟩ | ⟨old, new, hold, hnew, hrest⟩
  · cases hnone x hx
  cases hx.symm.trans hold
  cases hnew
  refine ⟨x, hx, fun key' => ?_⟩
  have hlater := (hrest.evolves (R := confirming x.userId now) (Q := fun _ => True)
    (by simp [insertSession, confirming])).1 (.external key')
  refine (confirming x.userId now).trans (.external key') _ _ _ ?_ hlater
  by_cases hkey : key' = key
  · subst hkey
    exact .inr ⟨x.verify now, Function.update_self _ _ _, rfl, rfl⟩
  · exact .inl (Function.update_of_ne (by simpa using hkey) _ _)

/-- What the six commands that record a confirmation do to the external identities. -/
theorem confirming_of_runs (h : Runs e) (hc : e.cmd.verifiedAt = some verifiedAt) :
    ∃ userId, (∀ key, (confirming userId verifiedAt).rel (.external key) (e.before (.external key))
      (e.after (.external key))) ∧ Confirms e userId verifiedAt := by
  unfold Runs at h
  obtain ⟨c, _, _, _, _⟩ := e
  have hkept : ∀ userId, (statements c).Keeps (confirming userId verifiedAt) (fun _ => True) →
      ∀ key, (confirming userId verifiedAt).rel (.external key) _ _ :=
    fun _ hkeeps key => (h.evolves hkeeps).1 (.external key)
  cases c with
  | acceptInvitation lookup =>
    cases hc
    refine ⟨_, hkept _ ?_, rfl, rfl⟩
    cases lookup <;> cases ‹Option SessionSeed› <;>
      simp [statements, acceptInvitation, InvitationLookup.find, insertUser,
        insertExternalIdentityAndCredential, insertSession, confirming]
  | registerAccessRequest =>
    cases hc
    refine ⟨_, hkept _ ?_, rfl, rfl⟩
    simp [statements, registerAccessRequest, insertUser, insertExternalIdentityAndCredential,
      insertSession, confirming]
  | bootstrapAdmin =>
    cases hc
    refine ⟨_, hkept _ ?_, rfl, rfl⟩
    simp [statements, bootstrapAdmin, insertExternalIdentityAndCredential, insertSession,
      confirming]
  | loginExternal =>
    cases hc
    obtain ⟨x, hx, hrel⟩ := loginExternal_confirming h
    exact ⟨x.userId, hrel, rfl, x, hx, rfl⟩
  | recordProviderVerification =>
    cases hc
    obtain ⟨s, hs, hrel⟩ := recordProviderVerification_confirming h
    exact ⟨s.userId, hrel, rfl, s, hs, rfl⟩
  | recordTokenProviderVerification =>
    cases hc
    refine ⟨_, hkept _ ?_, rfl, rfl⟩
    simp only [statements, recordTokenProviderVerification, keeps_bind]
    refine verifyExternalIdentity_confirming _ _ fun found => ?_
    simp only [keeps_require, keeps_pure, implies_true]
  | _ => cases hc

/-- The other commands leave the external identities alone. -/
def unconfirming (c : Cmd) : Rowwise.Evolution Columns where
  rel
    | .external _, row, row' => c.verifiedAt = none → row' = row
    | _, _, _ => True
  refl k row := by
    cases k with
    | external key => exact fun _ => rfl
    | _ => trivial
  trans k a b c' h₁ h₂ := by
    cases k with
    | external key => exact fun hc => (h₂ hc).trans (h₁ hc)
    | _ => trivial

theorem RowStep.unconfirming {a b} (h : RowStep c k a b) :
    (unconfirming c).rel k a b := by
  cases h with
  | external hc | verify hc =>
    intro hnone
    rw [hc] at hnone
    cases hnone
  | _ => trivial

theorem external_of_runs (h : Runs e) (hx : e.after (.external key) = some x)
    (hverified : x.lastVerifiedAt = some verifiedAt) :
    e.before (.external key) = some x ∨ Confirms e x.userId verifiedAt := by
  cases hc : e.cmd.verifiedAt with
  | none =>
    have hsame := (unconfirming e.cmd).closure_le (fun _ _ => RowStep.unconfirming)
      (rowSteps_of_runs h (.external key)) hc
    exact .inl (hsame ▸ hx)
  | some at_ =>
    obtain ⟨userId, hrel, hconfirms⟩ := confirming_of_runs h hc
    rcases hrel key with hsame | ⟨x', hx', huser, hat⟩
    · exact .inl (hsame ▸ hx)
    · cases hx.symm.trans hx'
      cases hverified.symm.trans hat
      exact .inr (huser ▸ hconfirms)

theorem external_of_run (h : runIdentity users es = some cfg) (hx : cfg.db (.external key) = some x)
    (hverified : x.lastVerifiedAt = some verifiedAt) :
    ∃ e ∈ cfg.log, Confirms e x.userId verifiedAt := by
  let Confirmed (log : List Entry) (d : Db) : Prop :=
    ∀ x : ExternalIdentity, d (.external key) = some x → x.lastVerifiedAt = some verifiedAt →
      ∃ e ∈ log, Confirms e x.userId verifiedAt
  have hhistory : Confirmed cfg.log cfg.db := by
    refine (serial_of_run h).history (P := Confirmed) (fun x hx => by cases hx) ?_
    intro e older hvalid ih x hx hverified
    rcases external_of_runs (runs_of_valid hvalid) hx hverified with hbefore | hconfirms
    · obtain ⟨e', he', hconfirms⟩ := ih x hbefore hverified
      exact ⟨e', mem_cons_of_mem e he', hconfirms⟩
    · exact ⟨e, mem_cons_self, hconfirms⟩
  exact hhistory x hx hverified

/-! ## Requests -/

/-- After its first `n` calls the request has asked the provider, and this is the result. -/
def Answered (n : Nat) (now : Time) (answers : ProviderAnswers)
    (made : List (Cmd × Outcome IdentityError Reply)) (result : VerificationResult) : Prop :=
  ∃ userId key external credential first later,
    made.drop n = (.getExternalIdentityForUser userId,
      .committed (.external key external credential)) :: (first ++ later) ∧
    (verifyExternalPrincipal key credential now answers).Gives first result

theorem Answered.unique {n result result'}
    (h : Answered n now answers made result) (h' : Answered n now answers made result') :
    result = result' := by
  obtain ⟨_, key, external, credential, first, later, heq, hgives⟩ := h
  obtain ⟨_, key', external', credential', first', later', heq', hgives'⟩ := h'
  rw [heq] at heq'
  simp only [cons.injEq, Prod.mk.injEq, Outcome.committed.injEq, Reply.external.injEq] at heq'
  obtain ⟨⟨-, rfl, rfl, rfl⟩, hrest⟩ := heq'
  exact gives_unique hgives hgives' hrest

theorem Answered.valid_or {n result result'} (h : Answered n now answers made result)
    (h' : Answered n now answers made result')
    (hpasses : result'.state = .valid ∨ result'.state = .transient) : result.state ≠ .invalid := by
  rw [h.unique h']
  rcases hpasses with hstate | hstate <;> rw [hstate] <;> decide

theorem gives_sendOr {β : Type} {e : IdentityError} {pick : Reply → Option β} {b : β} :
    (sendOr e pick c).Gives made b ↔ ∃ a, pick a = some b ∧ made = [(c, .committed a)] := by
  simp only [sendOr, gives_bind, gives_attempt]
  constructor
  · rintro ⟨r, first, rest, rfl, ⟨outcome, rfl, rfl⟩, hrest⟩
    split at hrest
    case h_1 b' hok =>
      obtain ⟨rfl, rfl⟩ := hrest
      obtain ⟨a, rfl, hpick⟩ := settle_eq_ok.mp hok
      exact ⟨a, hpick, rfl⟩
    case h_2 => exact hrest.elim
  · rintro ⟨a, hpick, rfl⟩
    refine ⟨.ok b, [(c, .committed a)], [], rfl, ⟨_, rfl, ?_⟩, rfl, rfl⟩
    exact (settle_eq_ok.mpr ⟨a, rfl, hpick⟩).symm

theorem gives_externalIdentity {external : PrincipalKey × ExternalIdentity × OAuthCredential}
    (h : (externalIdentity userId).Gives made external) :
    made = [(.getExternalIdentityForUser userId,
      .committed (.external external.1 external.2.1 external.2.2))] := by
  obtain ⟨reply, hpick, rfl⟩ := gives_sendOr.mp h
  cases reply with
  | external key x credential =>
    cases hpick
    rfl
  | _ => cases hpick

/-- An answer of the provider that lets a request on a session succeed. -/
def Session.Passes (s : Session) (now : Time) (result : VerificationResult) : Prop :=
  result.state = .valid ∨ result.state = .transient ∧
    ∀ since, s.providerFailureSince = some since → now ≤ since + providerTransientGrace

theorem revalidate_gives {row : Session} (h : (revalidate id row now answers).Gives made s) :
    ∃ result, Answered 0 now answers made result ∧ row.Passes now result := by
  simp only [revalidate, gives_bind] at h
  obtain ⟨external, _, rest, rfl, hexternal, result, first, later, rfl, hresult, hend⟩ := h
  rw [gives_externalIdentity hexternal]
  refine ⟨result, ⟨_, _, _, _, first, later, rfl, hresult⟩, ?_⟩
  split at hend
  case h_1 hvalid => exact .inl hvalid
  case h_2 =>
    simp only [gives_ite, gives_bind, deactivateInvalidPrincipal, gives_fail,
      and_false, exists_false, false_and, or_false] at hend
  case h_3 htransient =>
    refine .inr ⟨htransient, fun since hsince => ?_⟩
    simp only [applyProviderTransient, gives_bind] at hend
    obtain ⟨_, _, _, -, -, hgrace⟩ := hend
    simp only [hsince, gives_ite, gives_fail, and_false, or_false,
      WithinProviderGrace, Option.mem_some_iff, exists_eq_left'] at hgrace
    exact hgrace.1
  case h_4 => exact hend.elim

theorem verifyOwner_gives {external : ExternalIdentity}
    (h : (verifyOwner userId key external credential now answers).Gives made ()) :
    ∃ result first later, made = first ++ later ∧
      (verifyExternalPrincipal key credential now answers).Gives first result ∧
      (result.state = .valid ∨ result.state = .transient ∧
        ∃ verifiedAt, external.lastVerifiedAt = some verifiedAt ∧
          now ≤ verifiedAt + providerTransientGrace) := by
  simp only [verifyOwner, gives_bind] at h
  obtain ⟨result, first, later, rfl, hresult, hend⟩ := h
  refine ⟨result, first, later, rfl, hresult, ?_⟩
  split at hend
  case h_1 hvalid => exact .inl hvalid
  case h_2 =>
    simp only [gives_ite, gives_bind, deactivateInvalidPrincipal, gives_fail,
      and_false, exists_false, or_false] at hend
  case h_3 htransient =>
    simp only [gives_ite, gives_fail, and_false, or_false] at hend
    obtain ⟨⟨verifiedAt, hverified, hle⟩, -⟩ := hend
    exact .inr ⟨htransient, verifiedAt, hverified, hle⟩
  case h_4 => exact hend.elim

/-- The request on a session was due to ask the provider, and this is the result. -/
def SessionAsks (id : Id) (secretHash : Bytes) (now : Time) (answers : ProviderAnswers)
    (made : List (Cmd × Outcome IdentityError Reply)) (result : VerificationResult) : Prop :=
  (∃ row, made.head? = some (.resolveSession id secretHash now, .committed (.session row)) ∧
    ProviderVerificationDue row.lastProviderVerifiedAt now) ∧
    Answered 1 now answers made result

/-- The request with a token of the user was due to ask the provider, and this is the result. -/
def TokenAsks (userId : Id) (now : Time) (answers : ProviderAnswers)
    (made : List (Cmd × Outcome IdentityError Reply)) (result : VerificationResult) : Prop :=
  (∃ key external credential, made.head? =
      some (.getExternalIdentityForUser userId, .committed (.external key external credential)) ∧
    ProviderVerificationDue external.lastVerifiedAt now) ∧
    Answered 0 now answers made result

theorem not_due {lastVerifiedAt} (h : ¬ ProviderVerificationDue lastVerifiedAt now) :
    ∃ verifiedAt, lastVerifiedAt = some verifiedAt ∧
      now < verifiedAt + providerVerificationInterval := by
  simp only [ProviderVerificationDue, not_forall, Nat.not_le] at h
  obtain ⟨verifiedAt, hmem, hlt⟩ := h
  exact ⟨verifiedAt, hmem, hlt⟩

/-- What a request on a session that succeeds has found in its row, and what it was told. -/
theorem authenticate_checks {secretHash} (hquiet : start.Quiet i)
    (hgives : (authenticate id secretHash now answers).Gives (calls prog i start es) s) :
    ∃ es₁ es₂ mid row, es = es₁ ++ es₂ ∧ run prog start es₁ = some mid ∧
      mid.db (.session id) = some row ∧
      (calls prog i start es).head? =
        some (.resolveSession id secretHash now, .committed (.session row)) ∧
      (¬ ProviderVerificationDue row.lastProviderVerifiedAt now ∨
        ∃ result, SessionAsks id secretHash now answers (calls prog i start es) result ∧
          row.Passes now result) := by
  obtain ⟨es₁, es₂, mid, row, _, hes, hmid, hrow, -, hcalls, session, first, later, rfl, hdue⟩ :=
    authenticate_resolves hquiet hgives
  refine ⟨es₁, es₂, mid, row, hes, hmid, hrow, by rw [hcalls]; rfl, ?_⟩
  simp only [revalidateDue, gives_ite] at hdue
  rcases hdue with ⟨hdue, hrevalidate⟩ | ⟨hdue, -⟩
  · obtain ⟨result, ⟨userId, key, external, credential, first', later', hfirst, hresult⟩,
      hpasses⟩ :=
      revalidate_gives hrevalidate
    refine .inr ⟨result, ⟨⟨row, by rw [hcalls]; rfl, hdue⟩, ?_⟩, hpasses⟩
    refine ⟨userId, key, external, credential, first', later' ++ later, ?_, hresult⟩
    rw [drop_zero] at hfirst
    rw [hcalls, drop_one, tail_cons, hfirst, cons_append, append_assoc]
  · exact .inl hdue

theorem verifyTokenOwner_checks {active} (hquiet : start.Quiet i)
    (hgives : (verifyTokenOwner userId active now answers).Gives (calls prog i start es) ()) :
    ∃ es₁ es₂ mid key external credential, es = es₁ ++ es₂ ∧ run prog start es₁ = some mid ∧
      mid.db (.external key) = some external ∧ external.userId = userId ∧
      (calls prog i start es).head? = some (.getExternalIdentityForUser userId,
        .committed (.external key external credential)) ∧
      (¬ ProviderVerificationDue external.lastVerifiedAt now ∨
        ∃ result, TokenAsks userId now answers (calls prog i start es) result ∧
          (result.state = .valid ∨ result.state = .transient ∧
            ∃ verifiedAt, external.lastVerifiedAt = some verifiedAt ∧
              now ≤ verifiedAt + providerTransientGrace)) := by
  have hrest : ∃ external first later, calls prog i start es = first ++ later ∧
      (externalIdentity userId).Gives first external ∧
      (if ProviderVerificationDue external.2.1.lastVerifiedAt now then
        verifyOwner userId external.1 external.2.1 external.2.2 now answers
      else pure ()).Gives later () := by
    cases active with
    | false => exact hgives.elim
    | true =>
      simp only [verifyTokenOwner, not_true_eq_false, if_false] at hgives
      exact gives_bind.mp hgives
  obtain ⟨⟨key, external, credential⟩, _, later, hcalls, hexternal, hcheck⟩ := hrest
  rw [gives_externalIdentity hexternal] at hcalls
  obtain ⟨es₁, es₂, mid, hes, hmid, hrow, huser⟩ := external_read hquiet
    (by rw [hcalls]; exact mem_cons_self)
  refine ⟨es₁, es₂, mid, key, external, credential, hes, hmid, hrow, huser, by rw [hcalls]; rfl, ?_⟩
  rw [gives_ite] at hcheck
  rcases hcheck with ⟨hdue, howner⟩ | ⟨hdue, -⟩
  · obtain ⟨result, first, later', rfl, hresult, hpasses⟩ := verifyOwner_gives howner
    refine .inr ⟨result, ⟨⟨key, external, credential, by rw [hcalls]; rfl, hdue⟩, ?_⟩, hpasses⟩
    exact ⟨userId, key, external, credential, first, later', hcalls, hresult⟩
  · exact .inl hdue

/-- What is in the log of a part of a schedule, its requests have provided. -/
theorem provided_of_mid {es₃ es₄} {mid : IdentityConfig}
    (hclients : ∀ client, .connect client ∈ es₁ ++ (es₃ ++ es₄) → Request client)
    (hstart : runIdentity users es₁ = some start) (hmid : run prog start es₃ = some mid) :
    ∀ e ∈ mid.log, Provided (es₁ ++ (es₃ ++ es₄)) e.cmd := by
  have hle : es₁ ++ es₃ ⊆ es₁ ++ (es₃ ++ es₄) := by
    rw [← append_assoc]
    exact subset_append_left _ _
  intro e he
  refine Provided.mono hle (provided_of_run ?_ (runIdentity_append hstart hmid) e he)
  exact fun client hmem => hclients client (hle hmem)

/-- In every schedule of requests, a request on a session succeeds only if the provider has
confirmed the session's user less than the interval before, or does so when the request asks it, or
fails then for the time being while the grace period since the first failure after the last
confirmation has not passed. For the token of a user the grace period counts from a confirmation of
the user. A request that is told that the user is not valid does not succeed. -/
theorem request_needs_provider
    (hclients : ∀ client, .connect client ∈ es₁ ++ es₂ → Request client)
    (hstart : runIdentity users es₁ = some start) {i : Nat} (hquiet : start.Quiet i) :
    (∀ id secretHash now answers s,
      (authenticate id secretHash now answers).Gives (calls prog i start es₂) s →
      (∃ es₃ es₄ mid, es₂ = es₃ ++ es₄ ∧ run prog start es₃ = some mid ∧
        ((∃ verifiedAt, (providerState id mid.log).1 = some verifiedAt ∧
            now < verifiedAt + providerVerificationInterval ∧
            ∃ secretHash' answers', .connect (authenticate id secretHash' verifiedAt
              answers').client ∈ es₁ ++ es₂ ∧ answers'.Confirm) ∨
          ∃ result, SessionAsks id secretHash now answers (calls prog i start es₂) result ∧
            (result.state = .valid ∨ result.state = .transient ∧
              ∀ since, (providerState id mid.log).2 = some since →
                now ≤ since + providerTransientGrace))) ∧
      ∀ result, SessionAsks id secretHash now answers (calls prog i start es₂) result →
        result.state ≠ .invalid) ∧
    ∀ userId active now answers,
      (verifyTokenOwner userId active now answers).Gives (calls prog i start es₂) () →
      (∃ es₃ es₄ mid, es₂ = es₃ ++ es₄ ∧ run prog start es₃ = some mid ∧
        ((∃ e ∈ mid.log, ∃ verifiedAt, Confirms e userId verifiedAt ∧
            Provided (es₁ ++ es₂) e.cmd ∧ now < verifiedAt + providerVerificationInterval) ∨
          ∃ result, TokenAsks userId now answers (calls prog i start es₂) result ∧
            (result.state = .valid ∨ result.state = .transient ∧
              ∃ e ∈ mid.log, ∃ verifiedAt, Confirms e userId verifiedAt ∧
                Provided (es₁ ++ es₂) e.cmd ∧ now ≤ verifiedAt + providerTransientGrace))) ∧
      ∀ result, TokenAsks userId now answers (calls prog i start es₂) result →
        result.state ≠ .invalid := by
  constructor
  · intro id secretHash now answers s hgives
    obtain ⟨es₃, es₄, mid, row, rfl, hmid, hrow, hhead, hchecks⟩ :=
      authenticate_checks hquiet hgives
    have hstate := providerState_of_run (runIdentity_append hstart hmid) id
    rw [hrow] at hstate
    have hverified : (providerState id mid.log).1 = row.lastProviderVerifiedAt :=
      congrArg Prod.fst hstate.symm
    have hfailing : (providerState id mid.log).2 = row.providerFailureSince :=
      congrArg Prod.snd hstate.symm
    constructor
    · refine ⟨es₃, es₄, mid, rfl, hmid, hchecks.imp (fun hdue => ?_) ?_⟩
      · obtain ⟨verifiedAt, hat, hlt⟩ := not_due hdue
        rw [← hverified] at hat
        obtain ⟨e, he, hc⟩ := confirmed_of_providerState hat
        have hprovided := provided_of_mid hclients hstart hmid e he
        rw [hc] at hprovided
        exact ⟨verifiedAt, hat, hlt, hprovided⟩
      · rintro ⟨result, hasks, hpasses⟩
        rw [hfailing]
        exact ⟨result, hasks, hpasses⟩
    · intro result hasks hinvalid
      rcases hchecks with hdue | ⟨result', hasks', hpasses⟩
      · obtain ⟨⟨row', hhead', hdue'⟩, -⟩ := hasks
        cases hhead.symm.trans hhead'
        exact hdue hdue'
      · exact hasks.2.valid_or hasks'.2 (hpasses.imp_right And.left) hinvalid
  · intro userId active now answers hgives
    obtain ⟨es₃, es₄, mid, key, external, credential, rfl, hmid, hrow, huser, hhead, hchecks⟩ :=
      verifyTokenOwner_checks hquiet hgives
    have hconfirmed : ∀ verifiedAt, external.lastVerifiedAt = some verifiedAt →
        ∃ e ∈ mid.log, Confirms e userId verifiedAt ∧ Provided (es₁ ++ (es₃ ++ es₄)) e.cmd := by
      intro verifiedAt hat
      obtain ⟨e, he, hconfirms⟩ := external_of_run (runIdentity_append hstart hmid) hrow hat
      rw [huser] at hconfirms
      exact ⟨e, he, hconfirms, provided_of_mid hclients hstart hmid e he⟩
    constructor
    · refine ⟨es₃, es₄, mid, rfl, hmid, hchecks.imp (fun hdue => ?_) ?_⟩
      · obtain ⟨verifiedAt, hat, hlt⟩ := not_due hdue
        obtain ⟨e, he, hconfirms, hprovided⟩ := hconfirmed verifiedAt hat
        exact ⟨e, he, verifiedAt, hconfirms, hprovided, hlt⟩
      · rintro ⟨result, hasks, hpasses⟩
        refine ⟨result, hasks, hpasses.imp id ?_⟩
        rintro ⟨htransient, verifiedAt, hat, hle⟩
        obtain ⟨e, he, hconfirms, hprovided⟩ := hconfirmed verifiedAt hat
        exact ⟨htransient, e, he, verifiedAt, hconfirms, hprovided, hle⟩
    · intro result hasks hinvalid
      rcases hchecks with hdue | ⟨result', hasks', hpasses⟩
      · obtain ⟨⟨key', external', credential', hhead', hdue'⟩, -⟩ := hasks
        cases hhead.symm.trans hhead'
        exact hdue hdue'
      · exact hasks.2.valid_or hasks'.2 (hpasses.imp_right And.left) hinvalid

/-- The first request on a new session asks the provider, records that it has confirmed the user,
and succeeds. -/
theorem request_needs_provider_first :
    ∃ start, runIdentity (fun _ => none) firstLogin = some start ∧
      ∃ cfg, run prog start firstVisit = some cfg ∧
        providerState 1 cfg.log = (some (10 * minute), none) ∧
        ∃ s, cfg.db (.session 1) = some s ∧
          (authenticate 1 [7] (10 * minute) sampleAnswers).Gives (calls prog 1 start firstVisit) s ∧
          ∀ result, SessionAsks 1 [7] (10 * minute) sampleAnswers (calls prog 1 start firstVisit)
            result → result.state ≠ .invalid := by
  obtain ⟨start, hstart, hlength, cfg, hcfg, hstate, s, hs, hgives⟩ :
      ∃ start, runIdentity (fun _ => none) firstLogin = some start ∧ start.sessions.length = 1 ∧
        ∃ cfg, run prog start firstVisit = some cfg ∧
          providerState 1 cfg.log = (some (10 * minute), none) ∧
          ∃ s : Session, cfg.db (.session 1) = some s ∧
            (authenticate 1 [7] (10 * minute) sampleAnswers).Gives
              (calls prog 1 start firstVisit) s := by decide +kernel
  have hquiet : start.Quiet 1 := by
    intro s hs
    have hlt := (List.getElem?_eq_some_iff.mp hs).1
    omega
  have hclients : ∀ client, .connect client ∈ firstLogin ++ firstVisit → Request client :=
    fun client hmem => request_of_visits client
      (mem_append_left _ (mem_append_left _ hmem))
  exact ⟨start, hstart, cfg, hcfg, hstate, s, hs, hgives,
    ((request_needs_provider hclients hstart hquiet).1 _ _ _ _ s hgives).2⟩

end Pactline.Identity
