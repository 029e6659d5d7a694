import Pactline.Analysis.Sessions

/-!
# Sessions

The deadlines of a session hold along every schedule of requests, a revocation is final, and the
sessions of a user who is deactivated are lost to every login that had begun before.

A request is a session of the schedule that is not inside a transaction when it begins; that it
succeeds is said of the calls it has made since (`Service.Gives`).
-/

set_option autoImplicit false

namespace Pactline.Identity

open ReadCommitted Rowwise Function Option List

variable {k : Key} {ev : IdentityEvent} {key : PrincipalKey} {credential : OAuthCredential}
  {error : IdentityError} {user : User}

variable {s : Session} {now : Time} {c : Cmd} {id userId : Id} {i : Nat} {seed : SessionSeed}
  {held held' : List (Lock Key)} {d d' : Db} {u : Unit} {e : Entry} {reason : String}

variable {users : Id → Option Bool} {es es₁ es₂ : List IdentityEvent} {start cfg : IdentityConfig}

/-! ## Deadlines -/

def Session.Timely (s : Session) : Prop :=
  s.absoluteExpiresAt = s.createdAt + sessionAbsoluteLifetime ∧
    s.idleExpiresAt ≤ s.absoluteExpiresAt ∧
    s.idleExpiresAt ≤ s.lastSeenAt + sessionIdleLifetime

theorem SessionSeed.timely (seed : SessionSeed) (userId : Id) : (seed.session userId).Timely := by
  refine ⟨rfl, ?_, Nat.le_refl _⟩
  exact Nat.add_le_add_left (by decide) _

theorem Session.Timely.touch (h : s.Timely) {idleExpiresAt}
    (hle : idleExpiresAt ≤ now + sessionIdleLifetime) : (s.touch now idleExpiresAt).Timely := by
  refine ⟨h.1, ?_, ?_⟩
  · dsimp only [Session.touch]
    split
    case isTrue => exact Nat.le_refl _
    case isFalse hlt => exact Nat.le_of_not_lt hlt
  · dsimp only [Session.touch]
    split
    case isTrue hlt => exact Nat.le_trans (Nat.le_of_lt hlt) hle
    case isFalse => exact hle

/-- Every session keeps its deadlines. -/
def timely : Rowwise.Evolution Columns := .ofInvariant fun
  | .session _, row => ∀ s : Session, row = some s → s.Timely
  | _, _ => True

theorem RowStep.timely (hc : Provided es c) {a b} (h : RowStep c k a b) :
    timely.rel k a b := by
  intro hbefore
  cases h with
  | start =>
    intro s hs
    cases hs
    exact SessionSeed.timely _ _
  | touch heq =>
    intro s hs
    cases hs
    subst heq
    exact (hbefore _ rfl).touch hc
  | close | verified | failed =>
    intro s hs
    cases hs
    have hold : Session.Timely _ := hbefore _ rfl
    exact hold
  | _ => trivial

theorem timely_of_run (hclients : ∀ client, .connect client ∈ es → Request client)
    (h : runIdentity users es = some cfg) (hs : cfg.db (.session id) = some s) : s.Timely := by
  have hprovided := provided_of_run hclients h
  let Kept (log : List Entry) (d : Db) : Prop :=
    (∀ e ∈ log, Provided es e.cmd) → ∀ s : Session, d (.session id) = some s → s.Timely
  have hhistory : Kept cfg.log cfg.db := by
    refine (serial_of_run h).history (P := Kept) (fun _ s hs => by cases hs) ?_
    intro e older hvalid ih hlog
    have hbefore := ih fun e' he' => hlog e' (mem_cons_of_mem e he')
    have hsteps := rowSteps_of_runs (runs_of_valid hvalid) (.session id)
    exact timely.closure_le (fun _ _ => RowStep.timely (hlog e mem_cons_self)) hsteps hbefore
  exact hhistory hprovided s hs

/-! ## Requests -/

/-- What a schedule adds to a run. -/
theorem runIdentity_append (h₁ : runIdentity users es₁ = some start)
    (h₂ : run prog start es₂ = some cfg) : runIdentity users (es₁ ++ es₂) = some cfg := by
  rw [runIdentity] at h₁ ⊢
  rw [run_append, h₁]
  exact h₂

theorem runIdentity_step (h : runIdentity users es = some start)
    (hstep : step prog start ev = some cfg) : runIdentity users (es ++ [ev]) = some cfg := by
  refine runIdentity_append h ?_
  simp only [run, hstep, bind_some]

theorem evolves_of_run (h₁ : runIdentity users es₁ = some start)
    (h₂ : run prog start es₂ = some cfg) (k : Key) :
    evolution.rel k (start.db k) (cfg.db k) := by
  let Since (cfg : IdentityConfig) : Prop :=
    cfg.Sound prog (fun _ => Rows.locked) (Db.initial users) ∧
      evolution.rel k (start.db k) (cfg.db k)
  have hsince : Since cfg := by
    refine run_invariant_along (P := fun _ => True) (Q := Since) ?_
      (Along.of_forall (fun _ => trivial) _ _) ⟨sound_of_run h₁, evolution.refl k _⟩ h₂
    intro cfg ev cfg' _ hcfg hstep
    have hsound := hcfg.1.step (Rowwise.protocol statements)
      (fun _ _ _ _ _ _ _ _ _ _ _ => trivial) trivial hstep
    refine ⟨hsound, ?_⟩
    rcases step_db hstep with ⟨hdb, -⟩ | ⟨e, hlog, hbefore, hafter⟩
    · rw [hdb]
      exact hcfg.2
    · have hvalid := hsound.serial.valid (e := e) (by rw [hlog]; exact mem_cons_self)
      have hchange := evolves_of_runs (runs_of_valid hvalid) k
      rw [hbefore, hafter] at hchange
      exact evolution.trans k _ _ _ hcfg.2 hchange
  exact hsince.2

theorem pickSession_eq_some {reply} : pickSession reply = some s ↔ reply = .session s := by
  cases reply <;> simp [pickSession]

/-- The calls of a request that `Authenticate` accepts begin with a session that could be used at
some moment of the request. -/
theorem authenticate_resolves {secretHash answers}
    (hquiet : start.Quiet i)
    (hgives : (authenticate id secretHash now answers).Gives (calls prog i start es) s) :
    ∃ es₁ es₂ mid row rest, es = es₁ ++ es₂ ∧ run prog start es₁ = some mid ∧
      mid.db (.session id) = some row ∧ row.Usable now ∧
      calls prog i start es =
        (.resolveSession id secretHash now, .committed (.session row)) :: rest ∧
      ∃ session first later, rest = first ++ later ∧
        (revalidateDue id row now answers).Gives first session := by
  simp only [authenticate, send, Service.gives_bind, Service.gives_send] at hgives
  obtain ⟨row, _, rest, hcalls, ⟨reply, hpick, rfl⟩, session, first, later, rfl, hdue, -⟩ := hgives
  cases pickSession_eq_some.mp hpick
  obtain ⟨es₁, es₂, mid, hes, hrun, hrow, husable⟩ := resolve_read hquiet
    (by rw [hcalls]; exact mem_cons_self)
  exact ⟨es₁, es₂, mid, row, _, hes, hrun, hrow, husable, hcalls, session, first, later, rfl, hdue⟩

/-- A session that is revoked when a request begins is not accepted by it. -/
theorem not_accepted_of_revoked (hstart : runIdentity users es₁ = some start)
    (hquiet : start.Quiet i) {row : Session} (hrow : start.db (.session id) = some row)
    (hrevoked : row.revokedAt ≠ none) (secretHash : Bytes) (now : Time) (answers : ProviderAnswers)
    (s : Session) (es : List IdentityEvent) :
    ¬ (authenticate id secretHash now answers).Gives (calls prog i start es) s := by
  intro hgives
  obtain ⟨es₃, es₄, mid, row', -, -, hmid, hrow', husable, -⟩ := authenticate_resolves hquiet hgives
  obtain ⟨row'', hrow'', -, -, -, hstays⟩ :=
    evolves_of_run hstart hmid (.session id) (by simp) row hrow
  cases hrow'.symm.trans hrow''
  exact hrevoked ((hstays hrevoked).symm.trans husable.1)

/-- In every schedule of requests, the idle deadline of a session exceeds neither its absolute
deadline nor a day after it was last seen.  `Authenticate` accepts a session only before both
deadlines, and only if it was not revoked before the request began; and a revocation stays. -/
theorem session_deadlines (hclients : ∀ client, .connect client ∈ es₁ ++ es₂ → Request client)
    (hstart : runIdentity users es₁ = some start) (hcfg : run prog start es₂ = some cfg) :
    (∀ id s, cfg.db (.session id) = some s →
      s.idleExpiresAt ≤ s.absoluteExpiresAt ∧
        s.idleExpiresAt ≤ s.lastSeenAt + sessionIdleLifetime) ∧
    (∀ i id secretHash now answers s, start.Quiet i →
      (authenticate id secretHash now answers).Gives (calls prog i start es₂) s →
      (∃ es₃ es₄ mid row, es₂ = es₃ ++ es₄ ∧ run prog start es₃ = some mid ∧
        mid.db (.session id) = some row ∧ now < row.createdAt + sessionAbsoluteLifetime ∧
        now < row.lastSeenAt + sessionIdleLifetime ∧ row.revokedAt = none) ∧
      ∀ row, start.db (.session id) = some row → row.revokedAt = none) ∧
    ∀ id row, start.db (.session id) = some row → row.revokedAt ≠ none →
      ∃ row', cfg.db (.session id) = some row' ∧ row'.revokedAt = row.revokedAt := by
  have hrun := runIdentity_append hstart hcfg
  refine ⟨fun id s hs => (timely_of_run hclients hrun hs).2, ?_, ?_⟩
  · intro i id secretHash now answers s hquiet hgives
    obtain ⟨es₃, es₄, mid, row, -, rfl, hmid, hrow, ⟨hrevoked, hidle, habsolute⟩, -⟩ :=
      authenticate_resolves hquiet hgives
    have htimely := timely_of_run (fun client hmem => hclients client (by
      rw [← append_assoc]
      exact mem_append_left _ hmem)) (runIdentity_append hstart hmid) hrow
    refine ⟨⟨es₃, es₄, mid, row, rfl, hmid, hrow, ?_, ?_, hrevoked⟩, ?_⟩
    · rw [← htimely.1]
      exact habsolute
    · exact Nat.lt_of_lt_of_le hidle htimely.2.2
    · intro row₀ hrow₀
      by_contra hne
      exact not_accepted_of_revoked hstart hquiet hrow₀ hne _ _ _ _ _ hgives
  · intro id row hrow hrevoked
    obtain ⟨row', hrow', -, -, -, hstays⟩ :=
      evolves_of_run hstart hcfg (.session id) (by simp) row hrow
    exact ⟨row', hrow', hstays hrevoked⟩

/-! ### A session that is used -/

def sampleSubject : PrincipalKey := ⟨"lark", "tenant", "subject"⟩

/-- User 5 logs in for the first time. -/
def firstLogin : List IdentityEvent :=
  .connect (.script [.registerAccessRequest sampleSubject ⟨hour, day⟩ 5 ⟨1, [7], [8], 0⟩ 0]) ::
    replicate 20 (.advance 0)

def sampleAnswers : ProviderAnswers := ⟨.error ⟨none, false⟩, .ok ⟨.valid, .contract⟩, 0⟩

/-- Ten minutes later, a request on the session. -/
def firstVisit : List IdentityEvent :=
  .connect (authenticate 1 [7] (10 * minute) sampleAnswers).client :: replicate 26 (.advance 1)

/-- The user logs out, and another request comes after that. -/
def logout : List IdentityEvent :=
  .connect (.script [.logoutSession 1 (20 * minute)]) :: replicate 8 (.advance 2)

def lateVisit : List IdentityEvent :=
  .connect (authenticate 1 [7] (30 * minute) sampleAnswers).client :: replicate 3 (.advance 3)

theorem request_of_visits :
    ∀ client, .connect client ∈ firstLogin ++ firstVisit ++ logout ++ lateVisit →
      Request client := by
  intro client hmem
  simp only [firstLogin, firstVisit, logout, lateVisit, cons_append, mem_cons, mem_append,
    mem_replicate, Event.connect.injEq, reduceCtorEq, and_false, false_or, or_false] at hmem
  rcases hmem with rfl | (rfl | rfl) | rfl
  · refine .direct _ fun c hc => ?_
    cases mem_singleton.mp hc
    trivial
  · exact .authenticate _ _ _ _
  · refine .direct _ fun c hc => ?_
    cases mem_singleton.mp hc
    trivial
  · exact .authenticate _ _ _ _

/-- The first request has moved the idle deadline; the one after the logout is not accepted. -/
theorem session_deadlines_rolled :
    ∃ start cfg, runIdentity (fun _ => none) (firstLogin ++ firstVisit ++ logout) = some start ∧
      run prog start lateVisit = some cfg ∧
      (∃ s : Session, start.db (.session 1) = some s ∧ s.lastSeenAt = 10 * minute ∧
        s.revokedAt = some (20 * minute)) ∧
      (∃ s : Session, cfg.db (.session 1) = some s ∧ s.idleExpiresAt ≤ s.absoluteExpiresAt ∧
        s.revokedAt = some (20 * minute)) ∧
      ∀ s, ¬ (authenticate 1 [7] (30 * minute) sampleAnswers).Gives
        (calls prog 3 start lateVisit) s := by
  obtain ⟨start, hstart, ⟨s, hs, hseen, hrevoked⟩, hlength, cfg, hcfg, -⟩ :
      ∃ start, runIdentity (fun _ => none) (firstLogin ++ firstVisit ++ logout) = some start ∧
        (∃ s : Session, start.db (.session 1) = some s ∧ s.lastSeenAt = 10 * minute ∧
          s.revokedAt = some (20 * minute)) ∧ start.sessions.length = 3 ∧
        ∃ cfg, run prog start lateVisit = some cfg ∧ cfg.sessions.length = 4 := by decide +kernel
  have hquiet : start.Quiet 3 := by
    intro s hs
    have hlt := (List.getElem?_eq_some_iff.mp hs).1
    omega
  obtain ⟨htimely, haccepts, hstays⟩ := session_deadlines request_of_visits hstart hcfg
  obtain ⟨s', hs', hsame⟩ := hstays 1 s hs (by rw [hrevoked]; nofun)
  refine ⟨start, cfg, hstart, hcfg, ⟨s, hs, hseen, hrevoked⟩,
    ⟨s', hs', (htimely 1 s' hs').1, hsame.trans hrevoked⟩, fun _ hgives => ?_⟩
  cases hrevoked.symm.trans ((haccepts 3 1 _ _ _ _ hquiet hgives).2 s hs)

/-! ## Logins -/

theorem insertSession_runs (h : (insertSession userId seed).Runs held d u held' d') :
    held' = ⟨.user userId, .update⟩ :: ⟨.session seed.id, .update⟩ :: held ∧
      d' (.session seed.id) = some (seed.session userId) ∧
      ∀ user : User, d (.user userId) = some user →
        d' (.user userId) = some (user.addSession seed.id) := by
  simp only [insertSession, runs_insert_bind, runs_require_bind, runs_update_bind, runs_pure,
    Bool.false_eq_true, false_and, and_false, or_false, true_and] at h
  obtain ⟨-, ⟨hnone, rfl, rfl⟩ | ⟨old, new, hold, hnew, rfl, rfl⟩⟩ := h
  · refine ⟨rfl, update_self _ _ _, fun user huser => ?_⟩
    rw [update_of_ne (by simp)] at hnone
    cases hnone user huser
  · refine ⟨rfl, ?_, fun user huser => ?_⟩
    · rw [update_of_ne (by simp), update_self]
    · rw [update_of_ne (by simp)] at hold
      cases huser.symm.trans hold
      cases hnew
      rw [update_self]

theorem insertExternalIdentityAndCredential_runs
    (h : (insertExternalIdentityAndCredential userId key credential now error).Runs held d u
      held' d') :
    held' = [⟨.user userId, .update⟩, ⟨.credential key, .update⟩, ⟨.external key, .update⟩] ++
      held ∧ ∀ user : User, d (.user userId) = some user →
        d' (.user userId) = some (user.setExternal key) := by
  simp only [insertExternalIdentityAndCredential, runs_insert_bind,
    runs_require_bind, Bool.false_eq_true, false_and, and_false, or_false, true_and] at h
  obtain ⟨-, hcredential⟩ := h
  -- What is left is the update of the user, on a database with the same row.
  have hupdate : ∀ d₁ : Db, d₁ (.user userId) = d (.user userId) →
      (update (.user userId) (fun row : User => some (row.setExternal key)) >>=
        fun _ => pure () : Program Unit).Runs
          (⟨.credential key, .update⟩ :: ⟨.external key, .update⟩ :: held) d₁ u held' d' →
      held' = [⟨.user userId, .update⟩, ⟨.credential key, .update⟩, ⟨.external key, .update⟩] ++
          held ∧
        ∀ user : User, d (.user userId) = some user →
          d' (.user userId) = some (user.setExternal key) := by
    intro d₁ hd₁ hruns
    simp only [runs_update_bind, runs_pure, true_and] at hruns
    rw [← hd₁]
    rcases hruns with ⟨hnone, rfl, rfl⟩ | ⟨old, new, hold, hnew, rfl, rfl⟩
    · exact ⟨rfl, fun user huser => by cases hnone user huser⟩
    · refine ⟨rfl, fun user huser => ?_⟩
      cases huser.symm.trans hold
      cases hnew
      exact update_self _ _ _
  rcases hcredential with ⟨-, hruns⟩ | ⟨-, hruns⟩
  · refine hupdate _ ?_ hruns
    rw [update_of_ne (by simp), update_of_ne (by simp)]
  · refine hupdate _ ?_ hruns
    rw [update_of_ne (by simp)]

theorem insertUser_runs (h : (insertUser userId key credential now error).Runs held d u held' d') :
    held' = [⟨.user userId, .update⟩, ⟨.credential key, .update⟩, ⟨.external key, .update⟩,
        ⟨.user userId, .update⟩] ++ held ∧
      ∃ user : User, d' (.user userId) = some user := by
  simp only [insertUser, runs_insert_bind, runs_require_bind, Bool.false_eq_true,
    false_and, and_false, or_false, true_and] at h
  obtain ⟨hheld, huser⟩ := insertExternalIdentityAndCredential_runs h.2
  exact ⟨hheld, _, huser _ (update_self _ _ _)⟩

/-- The session that a login has started is one of its user, and the only user whose row the login
has locked. -/
def LoggedIn (seed : SessionSeed) (held : List (Lock Key)) (d : Db) (userId : Id) : Prop :=
  d (.session seed.id) = some (seed.session userId) ∧
    (∃ user : User, d (.user userId) = some user ∧ seed.id ∈ user.sessionIds) ∧
    ∀ userId', ⟨.user userId', .update⟩ ∈ held → userId' = userId

theorem loggedIn_of_insertSession (h : (insertSession userId seed).Runs held d u held' d')
    (huser : d (.user userId) = some user)
    (hheld : ∀ userId', ⟨.user userId', .update⟩ ∈ held → userId' = userId) :
    LoggedIn seed held' d' userId := by
  obtain ⟨rfl, hsession, hadd⟩ := insertSession_runs h
  refine ⟨hsession, ⟨_, hadd user huser, mem_cons_self⟩, fun userId' hmem => ?_⟩
  simp only [mem_cons, Lock.mk.injEq, Key.user.injEq, and_true, reduceCtorEq, false_or] at hmem
  exact hmem.elim id (hheld userId')

section Logins

variable {reply : Reply}

/-- A login that ends with its session, on a database in which its user is. -/
theorem loggedIn_of_rest
    (h : (insertSession userId seed >>= fun _ => pure .done : Program Reply).Runs held d reply
      held' d') (huser : d (.user userId) = some user)
    (hheld : ∀ userId', ⟨.user userId', .update⟩ ∈ held → userId' = userId) :
    LoggedIn seed held' d' userId := by
  obtain ⟨_, _, _, hinsert, -, rfl, rfl⟩ := runs_bind.mp h
  exact loggedIn_of_insertSession hinsert huser hheld

theorem createSession_runs
    (h : (statements (.createSession userId seed)).Runs [] d reply held' d') :
    LoggedIn seed held' d' userId := by
  simp only [statements, createSession, steps] at h
  obtain ⟨user, huser, -, hrest⟩ := h
  exact loggedIn_of_rest hrest huser fun userId' hmem => by simpa using hmem

theorem loginExternal_runs
    (h : (statements (.loginExternal key credential seed now)).Runs [] d reply held' d') :
    ∃ userId, LoggedIn seed held' d' userId := by
  simp only [statements, loginExternal, steps] at h
  obtain ⟨external, hexternal, user, huser, -, hverify⟩ := h
  rcases hverify with ⟨hnone, -⟩ | ⟨_, x, -, -, hcredential⟩
  · cases hnone external hexternal
  refine ⟨external.userId, ?_⟩
  rcases hcredential with ⟨-, hrest⟩ | ⟨_, credential', -, -, hrest⟩
  · rw [← update_of_ne (show Key.user external.userId ≠ .external key by simp) (some x) d] at huser
    exact loggedIn_of_rest hrest huser fun userId' hmem => by simpa using hmem
  · rw [← update_of_ne (show Key.user external.userId ≠ .external key by simp) (some x) d,
      ← update_of_ne (show Key.user external.userId ≠ .credential key by simp)
        (some credential') (update d (.external key) (some x))] at huser
    exact loggedIn_of_rest hrest huser fun userId' hmem => by simpa using hmem

theorem registerAccessRequest_runs
    (h : (statements (.registerAccessRequest key credential userId seed now)).Runs [] d reply
      held' d') : LoggedIn seed held' d' userId := by
  simp only [statements, registerAccessRequest, runs_assoc] at h
  obtain ⟨_, _, d₁, huser, hrest⟩ := runs_bind.mp h
  obtain ⟨rfl, user, hd₁⟩ := insertUser_runs huser
  exact loggedIn_of_rest hrest hd₁ fun userId' hmem => by simpa using hmem

theorem bootstrapAdmin_runs
    (h : (statements (.bootstrapAdmin key credential seed now)).Runs [] d reply held' d') :
    LoggedIn seed held' d' primarySeedUserId := by
  simp only [statements, bootstrapAdmin, steps, Bool.false_eq_true, false_and, and_false,
    or_false, true_and] at h
  obtain ⟨_, -, -, hfound, -, hactive⟩ := h
  obtain ⟨user, huser⟩ := isSome_iff_exists.mp hfound
  rw [update_of_ne (by simp)] at hactive
  rcases hactive with ⟨hnone, -⟩ | ⟨old, new, -, -, hrest⟩
  · cases hnone user huser
  obtain ⟨_, _, d₁, hexternal, hrest⟩ := runs_bind.mp hrest
  obtain ⟨rfl, huser'⟩ := insertExternalIdentityAndCredential_runs hexternal
  refine loggedIn_of_rest hrest (huser' new (update_self _ _ _)) fun userId' hmem => ?_
  simpa using hmem

theorem acceptInvitation_runs {lookup}
    (h : (statements (.acceptInvitation lookup key credential userId (some seed) now)).Runs [] d
      reply held' d') : LoggedIn seed held' d' userId := by
  simp only [statements, acceptInvitation, runs_assoc] at h
  obtain ⟨_, _, _, hfind, hlocked⟩ := runs_bind.mp h
  obtain ⟨rfl, rfl⟩ := find_runs hfind
  simp only [steps] at hlocked
  obtain ⟨id, -, i, -, -, hregister⟩ := hlocked
  obtain ⟨_, _, d₁, huser, haccept⟩ := runs_bind.mp hregister
  obtain ⟨rfl, user, hd₁⟩ := insertUser_runs huser
  simp only [steps, isSome_none, Bool.false_eq_true, false_and, and_false, false_or] at haccept
  obtain ⟨_, i', -, -, -, hsession⟩ := haccept
  obtain ⟨_, _, _, hinsert, hdone⟩ := runs_bind.mp hsession
  obtain ⟨-, rfl, rfl⟩ := hdone
  rw [← update_of_ne (show Key.user userId ≠ .invitation id by simp) (some i') d₁] at hd₁
  exact loggedIn_of_insertSession hinsert hd₁ fun userId' hmem => by simpa using hmem

end Logins

theorem login_runs (h : Runs e) (hseed : e.cmd.seed = some seed) :
    ∃ userId, LoggedIn seed e.held e.after userId := by
  unfold Runs at h
  obtain ⟨c, _, _, _, _⟩ := e
  cases c with
  | createSession =>
    cases hseed
    exact ⟨_, createSession_runs h⟩
  | loginExternal =>
    cases hseed
    exact loginExternal_runs h
  | registerAccessRequest =>
    cases hseed
    exact ⟨_, registerAccessRequest_runs h⟩
  | bootstrapAdmin =>
    cases hseed
    exact ⟨_, bootstrapAdmin_runs h⟩
  | acceptInvitation =>
    cases hseed
    exact ⟨_, acceptInvitation_runs h⟩
  | _ => cases hseed

/-! ## Deactivation -/

/-- Every session is listed with its user. -/
def Listed (d : Db) : Prop :=
  ∀ id (s : Session), d (.session id) = some s →
    ∃ user : User, d (.user s.userId) = some user ∧ id ∈ user.sessionIds

/-- Only a login inserts a session, and only its own. -/
def starting (c : Cmd) : Rowwise.Evolution Columns where
  rel
    | .session id, row, row' => row = none → row' ≠ none →
        ∃ seed, c.seed = some seed ∧ seed.id = id
    | _, _, _ => True
  refl k row := by
    cases k with
    | session id => exact fun hnone hsome => absurd hnone hsome
    | _ => trivial
  trans k a b c' h₁ h₂ := by
    cases k with
    | session id =>
      intro ha hc
      by_cases hb : b = none
      · exact h₂ hb hc
      · exact h₁ ha hb
    | _ => trivial

theorem RowStep.starts {a b} (h : RowStep c k a b) :
    (starting c).rel k a b := by
  cases h with
  | start hc => exact fun _ _ => ⟨_, hc, rfl⟩
  | touch | close | verified | failed =>
    intro hnone
    cases hnone
  | _ => trivial

theorem listed_of_runs (h : Runs e) (hbefore : Listed e.before) : Listed e.after := by
  intro id s hs
  cases hrow : e.before (.session id) with
  | none =>
    have hstarts := (starting e.cmd).closure_le (fun _ _ => RowStep.starts)
      (rowSteps_of_runs h (.session id))
    obtain ⟨seed, hseed, rfl⟩ := hstarts hrow (by rw [hs]; exact some_ne_none s)
    obtain ⟨userId, hsession, huser, -⟩ := login_runs h hseed
    cases hs.symm.trans hsession
    exact huser
  | some s₀ =>
    obtain ⟨s', hs', huserId, -⟩ := evolves_of_runs h (.session id) (by simp) s₀ hrow
    cases hs.symm.trans hs'
    obtain ⟨user, huser, hmem⟩ := hbefore id s₀ hrow
    obtain ⟨user', huser', hsub⟩ := evolves_of_runs h (.user s₀.userId) (by simp) user huser
    rw [huserId]
    exact ⟨user', huser', hsub hmem⟩

theorem listed_of_run (h : runIdentity users es = some cfg) : Listed cfg.db := by
  refine (serial_of_run h).invariant (fun id s hs => ?_) fun e hv hb =>
    listed_of_runs (runs_of_valid hv) hb
  cases hs

theorem revokeSessions_runs {ids}
    (h : (revokeSessions userId now reason ids).Runs held d u held' d') (hmem : id ∈ ids)
    (hs : d (.session id) = some s) (huser : s.userId = userId) :
    ∃ s' : Session, d' (.session id) = some s' ∧ s'.revokedAt ≠ none := by
  induction ids generalizing held d s with
  | nil => cases hmem
  | cons id₀ rest ih =>
    simp only [revokeSessions, runs_update_bind] at h
    by_cases heq : id = id₀
    · subst heq
      -- The session is revoked now, or was before; the others leave it so.
      have hlater : ∀ {held₁ : List (Lock Key)} {d₁ : Db} {s₁ : Session},
          (revokeSessions userId now reason rest).Runs held₁ d₁ u held' d' →
          d₁ (.session id) = some s₁ → s₁.revokedAt ≠ none →
            ∃ s' : Session, d' (.session id) = some s' ∧ s'.revokedAt ≠ none := by
        intro held₁ d₁ s₁ hrest hs₁ hrevoked
        have hsteps := (hrest.evolves (keeps_revokeSessions (c := .reactivateUser userId)
          (Q := fun _ => True) trivial rest)).1 (.session id)
        obtain ⟨s', hs', -, -, -, hstays⟩ :=
          evolution.closure_le (fun _ _ => RowStep.evolves) hsteps (by simp) s₁ hs₁
        exact ⟨s', hs', by rw [hstays hrevoked]; exact hrevoked⟩
      rcases h with ⟨hnone, hrest⟩ | ⟨old, new, hold, hnew, hrest⟩
      · refine hlater hrest hs fun hopen => ?_
        have hclosed := hnone s hs
        rw [if_pos ⟨huser, hopen⟩] at hclosed
        cases hclosed
      · refine hlater hrest (update_self _ _ _) ?_
        split at hnew
        · cases hnew
          simp [Session.revoke]
        · cases hnew
    · have hrest : id ∈ rest := (mem_cons.mp hmem).resolve_left heq
      rcases h with ⟨-, hruns⟩ | ⟨old, new, -, -, hruns⟩
      · exact ih hruns hrest hs huser
      · refine ih hruns hrest ?_ huser
        rw [update_of_ne (by simpa using heq), hs]

/-- A deactivation locks the user's row and revokes the sessions that are listed with it. -/
theorem deactivateUser_runs (h : Runs e) (hc : e.cmd = .deactivateUser userId reason now) :
    ⟨.user userId, .update⟩ ∈ e.held ∧
      ∀ user : User, e.before (.user userId) = some user → ∀ id ∈ user.sessionIds,
        ∀ s : Session, e.before (.session id) = some s → s.userId = userId →
          ∃ s' : Session, e.after (.session id) = some s' ∧ s'.revokedAt ≠ none := by
  rw [Runs, hc] at h
  simp only [statements, deactivateUser, steps, reduceCtorEq, false_and, exists_false,
    and_false, false_or, some.injEq, exists_eq_left'] at h
  obtain ⟨old, new, hold, rfl, hrest⟩ := h
  obtain ⟨_, _, _, hrevoke, -, hheld, hafter⟩ := runs_bind.mp hrest
  rw [← hheld, ← hafter] at hrevoke
  refine ⟨hrevoke.frame.1 mem_cons_self, fun user huser id hmem s hs hsuser => ?_⟩
  cases huser.symm.trans hold
  refine revokeSessions_runs hrevoke hmem ?_ hsuser
  rw [update_of_ne (by simp), hs]

/-- Where a login has locked the row of its user, a deactivation of that user commits only after the
login has ended. -/
theorem login_ended_of_deactivation {mid mid' : IdentityConfig}
    (hstart : runIdentity users es₁ = some start)
    {next pending rest}
    (hlogin : start.sessions[i]? = some (.running c next held pending rest))
    (hseed : c.seed = some seed) (hread : ⟨.user userId, .update⟩ ∈ held)
    (hmid : run prog start es₂ = some mid) (hstep : step prog mid ev = some mid')
    (hlog : mid'.log = e :: mid.log) (hdeactivates : e.cmd = .deactivateUser userId reason now) :
    ∃ outcome later, calls prog i start es₂ = (c, outcome) :: later := by
  refine (calls_head hlogin es₂).resolve_left fun hnil => ?_
  obtain ⟨held', pending', rest', hi, hle⟩ := running_of_calls_nil hlogin hmid hnil
  obtain ⟨j, next', pending'', -, -, -, hj⟩ := step_commit hstep hlog
  have hsound := sound_of_run (runIdentity_append hstart hmid)
  have hij : j ≠ i := by
    rintro rfl
    cases hi.symm.trans hj
    rw [hdeactivates] at hseed
    cases hseed
  have hvalid := (serial_of_run (runIdentity_step (runIdentity_append hstart hmid) hstep)).valid
    (e := e) (by rw [hlog]; exact mem_cons_self)
  have hlocked := (deactivateUser_runs (runs_of_valid hvalid) hdeactivates).1
  exact (hsound.compatible j i _ _ hij hj hi).not_locked hlocked .update (hle hread)

/-- **Deactivation.** Whatever else runs, a login that has locked the row of its user ends before a
deactivation of that user commits; and if it has started a session, no request that begins after the
deactivation is accepted with it, whether or not the user is reactivated. -/
theorem login_lost_by_deactivation {mid mid' : IdentityConfig} {ev : IdentityEvent} {e : Entry}
    (hstart : runIdentity users es₁ = some start) {i : Nat} {c : Cmd}
    {next : Outcome IdentityError Reply → IdentityClient} {held : List (Lock Key)}
    {pending : Db → Db} {rest : Txn Db Key IdentityError Reply} {seed : SessionSeed}
    (hlogin : start.sessions[i]? = some (.running c next held pending rest))
    (hseed : c.seed = some seed) {userId : Id} (hread : ⟨.user userId, .update⟩ ∈ held)
    (hmid : run prog start es₂ = some mid) (hstep : step prog mid ev = some mid')
    (hlog : mid'.log = e :: mid.log) {reason : String} {now : Time}
    (hdeactivates : e.cmd = .deactivateUser userId reason now) :
    (∃ outcome later, calls prog i start es₂ = (c, outcome) :: later) ∧
    ∀ reply later, calls prog i start es₂ = (c, .committed reply) :: later →
      ∀ es₃ k, mid'.Quiet k → ∀ secretHash now answers s,
        ¬ (authenticate seed.id secretHash now answers).Gives (calls prog k mid' es₃) s := by
  refine ⟨login_ended_of_deactivation hstart hlogin hseed hread hmid hstep hlog hdeactivates, ?_⟩
  intro reply later hcommitted es₃ k hquiet secretHash now' answers s
  have hmid' := runIdentity_step (runIdentity_append hstart hmid) hstep
  -- The login has committed, with the session of the user whose row it had locked.
  obtain ⟨es₄, es₅, before, after, held', pending', rfl, hbefore, hle, hi, hcommit, hafter⟩ :=
    calls_committed hlogin hmid hcommitted
  have hafterRun := runIdentity_step (runIdentity_append hstart hbefore) hcommit
  have hlogged : LoggedIn seed held' after.db userId := by
    simp only [step, hi, Config.statement, some.injEq] at hcommit
    have hvalid := (serial_of_run hafterRun).valid
      (e := ⟨c, reply, held', before.db, pending' before.db⟩) (by rw [← hcommit]; simp)
    obtain ⟨userId', hlogged⟩ := login_runs (runs_of_valid hvalid) hseed
    cases hlogged.2.2 userId (hle hread)
    rw [← hcommit]
    exact hlogged
  obtain ⟨row, hrow, huser, -⟩ :=
    evolves_of_run hafterRun hafter (.session seed.id) (by simp) _ hlogged.1
  have huser : row.userId = userId := huser
  -- So the deactivation finds the session with its user.
  obtain ⟨user, hlisted, hmem⟩ := listed_of_run (runIdentity_append hstart hmid) seed.id row hrow
  rw [huser] at hlisted
  have hvalid := (serial_of_run hmid').valid (e := e) (by rw [hlog]; exact mem_cons_self)
  obtain ⟨_, _, _, -, hbefore', hafter', -⟩ := step_commit hstep hlog
  rw [← hbefore'] at hlisted hrow
  obtain ⟨row', hrow', hrevoked⟩ := (deactivateUser_runs (runs_of_valid hvalid) hdeactivates).2
    user hlisted seed.id hmem row hrow huser
  rw [hafter'] at hrow'
  exact not_accepted_of_revoked hmid' hquiet hrow' hrevoked secretHash now' answers s es₃

/-! ### A login and a deactivation -/

/-- User 5 logs in a second time and has read its row. -/
def secondLogin : List IdentityEvent :=
  firstLogin ++ .connect (.script [.createSession 5 ⟨2, [9], [9], minute⟩]) ::
    replicate 3 (.advance 1)

/-- The login goes on to its end, and a deactivation of the user comes to its commit. -/
def deactivation : List IdentityEvent :=
  replicate 8 (.advance 1) ++ .connect (.script [.deactivateUser 5 "left" hour]) ::
    replicate 10 (.advance 2)

/-- The session that the second client is about to start, once it holds the row of user 5. -/
def isStarting (cfg : IdentityConfig) : Option SessionSeed :=
  match cfg.sessions[1]? with
  | some (ReadCommitted.Session.running c _ held _ _) =>
    if ⟨.user 5, .update⟩ ∈ held then c.seed else none
  | _ => none

/-- The session that its first call has started. -/
def hasStarted : List (Cmd × Outcome IdentityError Reply) → Option SessionSeed
  | (c, .committed _) :: _ => c.seed
  | _ => none

/-- The user that the last commit has deactivated. -/
def lastDeactivated (log : List Entry) : Option Id :=
  match log with
  | e :: _ => match e.cmd with
      | .deactivateUser userId _ _ => some userId
      | _ => none
  | [] => none

theorem login_lost_by_deactivation_second :
    ∃ start mid mid', runIdentity (fun _ => none) secondLogin = some start ∧
      run prog start deactivation = some mid ∧ step prog mid (.advance 2) = some mid' ∧
      hasStarted (calls prog 1 start deactivation) = some ⟨2, [9], [9], minute⟩ ∧
      lastDeactivated mid'.log = some 5 ∧
      ∀ es k, mid'.Quiet k → ∀ secretHash now answers s,
        ¬ (authenticate 2 secretHash now answers).Gives (calls prog k mid' es) s := by
  have hobserved : ((runIdentity (fun _ => none) secondLogin).bind fun start =>
      (run prog start deactivation).bind fun mid => (step prog mid (.advance 2)).map fun mid' =>
        ((isStarting start, hasStarted (calls prog 1 start deactivation)),
          lastDeactivated mid'.log, lastDeactivated mid.log)) =
      some ((some ⟨2, [9], [9], minute⟩, some ⟨2, [9], [9], minute⟩), some 5, none) := by
    decide +kernel
  obtain ⟨start, hstart, hobserved⟩ := bind_eq_some_iff.mp hobserved
  obtain ⟨mid, hmid, hobserved⟩ := bind_eq_some_iff.mp hobserved
  obtain ⟨mid', hstep, hobserved⟩ := map_eq_some_iff.mp hobserved
  simp only [Prod.mk.injEq] at hobserved
  obtain ⟨⟨hstarts, hstarted⟩, hdeactivated, hnone⟩ := hobserved
  refine ⟨start, mid, mid', hstart, hmid, hstep, hstarted, hdeactivated, ?_⟩
  intro es k hquiet secretHash now answers s
  unfold isStarting at hstarts
  split at hstarts
  case h_2 => cases hstarts
  case h_1 c next held pending rest hlogin =>
    rw [ite_none_right_eq_some] at hstarts
    obtain ⟨hread, hseed⟩ := hstarts
    rcases step_db hstep with ⟨-, hlog⟩ | ⟨e, hlog, -⟩
    · rw [hlog, hnone] at hdeactivated
      cases hdeactivated
    have hcmd : ∃ reason now, e.cmd = .deactivateUser 5 reason now := by
      rw [hlog] at hdeactivated
      simp only [lastDeactivated] at hdeactivated
      split at hdeactivated
      case h_1 userId reason now hc =>
        cases hdeactivated
        exact ⟨reason, now, hc⟩
      case h_2 => cases hdeactivated
    obtain ⟨reason, now', hcmd⟩ := hcmd
    obtain ⟨hended, hlost⟩ := login_lost_by_deactivation hstart hlogin hseed hread hmid hstep hlog
      hcmd
    obtain ⟨outcome, later, hcalls⟩ := hended
    cases outcome with
    | committed reply => exact hlost reply later hcalls es k hquiet secretHash now answers s
    | failed | aborted =>
      rw [hcalls] at hstarted
      cases hstarted

end Pactline.Identity
