import Pactline.Analysis.Claims
import Pactline.Analysis.Work
import Pactline.Concurrency.Clients
import Pactline.Model.ClaimHandlers

/-!
# What the handlers of the Claim-owned commands know of the deadline

A handler compares the deadline of its Claim with a reading of the clock, and others commit before
its command does. What remains true in between is that the Claim has ended or that the deadline
lies after that reading (`InTime`). So a command that records no later time than was compared is
in time when it commits.
-/

set_option autoImplicit false

namespace Pactline

open ReadCommitted TaskStageClaim

variable {e : Entry} {use : ClaimUse} {fresh : Nat → Id} {c : Cmd}
  {next : TaskStageClaim → ServiceClient} {client : ServiceClient}

/-- The Claim has ended, or its deadline lies after `now`. -/
def InTime (d : Db) (claimId : Id) (now : Time) : Prop :=
  ∃ t r k, d.task t = some r ∧ k ∈ r.claims ∧ k.id = claimId ∧
    (k.status = .active → now < k.expiresAt)

/-- The commit of a Claim-owned command records a time before the deadline of its Claim. -/
def CommitsInTime (_ : List Entry) (e : Entry) : Prop :=
  ∀ use ∈ e.cmd.claimUse, ∀ claim, e.before.claim use.claimId = some claim →
    use.now < claim.expiresAt

section InTime

variable {platform : Platform} {d d' : Db} {log newer : List Entry} {claimId : Id} {now : Time}

/-- No commit takes it away: deadlines stay, and an ended Claim does not come back. -/
theorem InTime.of_history (h : InTime d claimId now) (hlaw : Lawful d)
    (hhistory : History platform d newer d') : InTime d' claimId now := by
  obtain ⟨t, r, k, hr, hk, hid, htime⟩ := h
  obtain ⟨r', k', hr', hk', hkeeps⟩ := hhistory.claim_kept hlaw hr hk
  obtain ⟨hid', -, -, hexpires, -⟩ := fixed_eq hkeeps.fixed
  refine ⟨t, r', k', hr', hk', hid'.trans hid, fun hactive => ?_⟩
  rw [hexpires]
  exact htime (not_not.mp fun hended => hkeeps.ended hended hactive)

/-- A Claim-owned command finds its Claim active, so its time is before the deadline. -/
theorem InTime.commits (h : InTime e.before use.claimId use.now)
    (hhistory : History platform Db.empty log e.before)
    (hv : e.Valid (prog platform) fun _ => rely False) (huse : e.cmd.claimUse = some use) :
    CommitsInTime log e := by
  intro use' huse' claim hclaim
  rw [huse] at huse'
  cases huse'
  have hunique := hhistory.claimsUnique
  obtain ⟨t, r, k, hr, hk, hid, htime⟩ := h
  have hfound : e.before.claim use.claimId = some k := hid ▸ hunique.claim_eq hr hk
  obtain ⟨r₁, _, k₁, hon, hactive, hid₁, -⟩ := (step_of_valid hv).claimUse huse
  obtain ⟨hmem, hstatus⟩ := TaskRecord.mem_of_activeClaim hactive
  obtain ⟨-, hsame⟩ := hunique.eq hr hk hon.before hmem (hid₁.trans hid.symm)
  rw [hfound] at hclaim
  cases hclaim
  subst hsame
  exact htime hstatus

/-- The Claim that a read gives back is in the database, perhaps ended since. -/
theorem getClaim_reply (hv : e.Valid (prog platform) fun _ => rely False)
    (hc : e.cmd = .getClaim claimId) {claim : TaskStageClaim}
    (hreply : e.reply = .storedClaim claim) :
    ∃ t r k, e.after.task t = some r ∧ k ∈ r.claims ∧ k.id = claimId ∧ claim.Keeps k := by
  obtain ⟨c, reply, held, d, d'⟩ := e
  subst hc hreply
  simp only [Commit.Valid, prog] at hv
  obtain ⟨result, heq, h⟩ := Txn.commits_of_bind_pure hv
  cases heq
  obtain ⟨⟨d₀, hrel, hfound⟩, rfl⟩ := getClaim_commits h
  obtain ⟨hid, t, r, hr, hk⟩ := Db.exists_of_claim_eq_some hfound
  obtain ⟨r', hr', hkeeps⟩ := ((isolates_rely False).interferes hrel).keeps t r hr
  obtain ⟨k, hk', hclaim⟩ := hkeeps.claims _ hk
  exact ⟨t, r', k, hr', hk', (fixed_eq hclaim.fixed).1.trans hid, hclaim⟩

/-- `ExpireDueClaim` has left the Task alone, so none of its Claims is past its deadline. -/
theorem expireDueClaim_reply (hv : e.Valid (prog platform) fun _ => rely False)
    (hhistory : History platform Db.empty log e.before) {t operation}
    (hc : e.cmd = .expireDueClaim t operation now fresh) (hreply : e.reply = .expired false) :
    ∃ r, e.after.task t = some r ∧ ∀ k ∈ r.claims, k.status = .active → now < k.expiresAt := by
  obtain ⟨c, reply, held, d, d'⟩ := e
  subst hc hreply
  simp only [Commit.Valid, prog] at hv
  obtain ⟨result, heq, h⟩ := Txn.commits_of_bind_pure hv
  cases heq
  obtain ⟨r, r', hon, -, hkept⟩ := expireDueClaim_refines (isolates_rely False) h
  obtain ⟨rfl, hnotDue⟩ := hkept rfl
  refine ⟨r', hon.after, fun k hk hactive => ?_⟩
  obtain ⟨w, hw⟩ := hhistory.doing hon.before
  have hmem : k ∈ r'.activeClaims := List.mem_filter.mpr ⟨hk, decide_eq_true hactive⟩
  rw [hw.claims] at hmem
  cases w with
  | idle => cases hmem
  | blocked => cases hmem
  | claimed c =>
    rw [List.mem_singleton.mp hmem]
    obtain ⟨c', hc', htime⟩ := hnotDue (hw.working_iff.mpr ⟨c, rfl⟩)
    have hsame := hw.eq_claimed hc'
    cases hsame
    exact htime

end InTime

/-! ## The handlers -/

abbrev RespectsDeadlines (platform : Platform) (client : ServiceClient) (log : List Entry)
    (d : Db) : Prop :=
  client.Respects (prog platform) (fun _ => rely False) CommitsInTime log d

namespace ClaimRequest

variable {platform : Platform} {q : ClaimRequest} {log : List Entry} {d : Db}

theorem commitsInTime_of_none (hc : c.claimUse = none) (older : List Entry) (e : Entry)
    (he : e.cmd = c) : CommitsInTime older e := by
  intro use huse
  rw [he, hc] at huse
  cases huse

/-- What follows the look at the Claim may count on the deadline, up to the earlier of the two
times. -/
theorem currentClaim_respects {checkedAt expiringAt} (hlog : History platform Db.empty log d)
    (hnext : ∀ claim log d, History platform Db.empty log d →
      (∀ now, now ≤ checkedAt → now ≤ expiringAt → InTime d q.claimId now) →
      RespectsDeadlines platform (next claim) log d) :
    RespectsDeadlines platform (q.currentClaim checkedAt expiringAt fresh next) log d := by
  unfold currentClaim
  refine Client.respects_expect (fun older e _ => commitsInTime_of_none rfl older e)
    (fun _ => rfl) rfl fun newer e hhistory hv hc => ?_
  have hlog₁ : History platform Db.empty (e :: (newer ++ log)) e.after := hlog.append hhistory
  split
  case h_2 => trivial
  case h_1 claim hreply =>
    obtain ⟨t, r, k, hr, hk, hid, hkeeps⟩ := getClaim_reply hv hc (Outcome.committed.inj hreply)
    obtain ⟨-, htask, -, hexpires, -⟩ := fixed_eq hkeeps.fixed
    have hactive : k.status = .active → claim.status = .active := fun hk =>
      not_not.mp fun hended => hkeeps.ended hended hk
    split
    case isFalse hnot =>
      refine hnext claim _ _ hlog₁ fun now hchecked _ => ⟨t, r, k, hr, hk, hid, fun hk => ?_⟩
      have hlater : ¬ claim.expiresAt ≤ checkedAt := fun hdue => hnot ⟨hactive hk, hdue⟩
      rw [hexpires]
      exact lt_of_le_of_lt hchecked (not_le.mp hlater)
    case isTrue =>
      -- The Claim was past its deadline: only if it is not so for `ExpireDueClaim` do we go on.
      refine Client.respects_expect (fun older e _ => commitsInTime_of_none rfl older e)
        (fun _ => rfl) rfl fun newer₁ e₁ hhistory₁ hv₁ hc₁ => ?_
      have hlog₂ : History platform Db.empty (e₁ :: (newer₁ ++ (e :: (newer ++ log)))) e₁.after :=
        hlog₁.append hhistory₁
      split
      case h_2 => trivial
      case h_1 hreply₁ =>
        have hbefore₁ := hlog₂.2.2
        have hnumber : claim.taskNumber = t := htask.symm.trans (hlog₁.claim_task hr hk)
        rw [hnumber] at hc₁
        obtain ⟨r₁, hr₁, htimes⟩ :=
          expireDueClaim_reply hv₁ hbefore₁ hc₁ (Outcome.committed.inj hreply₁)
        obtain ⟨r₂, k₂, hr₂, hk₂, hkeeps₂⟩ :=
          History.claim_kept hhistory₁ (hlog₁.lawful lawful_empty) hr hk
        rw [hr₁] at hr₂
        cases hr₂
        have htime : ∀ now, now ≤ expiringAt → InTime e₁.after q.claimId now := by
          refine fun now hnow => ⟨t, r₁, k₂, hr₁, hk₂, ?_, fun hk => ?_⟩
          · exact (fixed_eq hkeeps₂.fixed).1.trans hid
          · exact lt_of_le_of_lt hnow (htimes k₂ hk₂ hk)
        refine Client.respects_expect (fun older e _ => commitsInTime_of_none rfl older e)
          (fun _ => rfl) rfl fun newer₂ e₂ hhistory₂ _ _ => ?_
        split
        case h_2 => trivial
        case h_1 claim₂ _ =>
          refine hnext claim₂ _ _ (hlog₂.append hhistory₂) fun now _ hexpiring => ?_
          exact (htime now hexpiring).of_history (hlog₂.lawful lawful_empty) hhistory₂

/-- The handlers that look again go on whatever the first look has shown. -/
theorem claimCommandContext_respects (hlog : History platform Db.empty log d)
    (hnext : ∀ claim log d, History platform Db.empty log d →
      RespectsDeadlines platform (next claim) log d) :
    RespectsDeadlines platform (q.claimCommandContext next) log d :=
  currentClaim_respects hlog fun claim log d hlog _ => hnext claim log d hlog

/-- The command itself. -/
theorem command_respects (hlog : History platform Db.empty log d) (hc : c.claimUse = some use)
    (htime : InTime d use.claimId use.now) :
    RespectsDeadlines platform (.call c fun _ => .stop) log d := by
  refine Client.respects_last fun newer e hhistory hv he => ?_
  refine InTime.commits (htime.of_history (hlog.lawful lawful_empty) hhistory)
    (hlog.append hhistory) hv ?_
  rw [he, hc]

theorem claimCommandTarget_respects {next : TaskStageClaim → Cmd}
    (hlog : History platform Db.empty log d)
    (hnext : ∀ claim, ∃ use, (next claim).claimUse = some use ∧ use.claimId = q.claimId ∧
      use.now = q.now) :
    RespectsDeadlines platform (q.claimCommandTarget fun claim => .call (next claim) fun _ => .stop)
      log d := by
  refine currentClaim_respects hlog fun claim log d hlog htime => ?_
  split
  · trivial
  · obtain ⟨use, huse, hid, hnow⟩ := hnext claim
    refine command_respects hlog huse ?_
    rw [hid, hnow]
    exact htime q.now le_rfl le_rfl

theorem byId_respects {command : ClaimCall → Cmd} (hlog : History platform Db.empty log d)
    (hcommand : ∀ call, (command call).claimUse = some call.use) :
    RespectsDeadlines platform (q.byId command) log d :=
  claimCommandTarget_respects hlog fun claim => ⟨_, hcommand (q.call claim), rfl, rfl⟩

theorem refreshLinks_respects {next}
    (hnext : ∀ log d, History platform Db.empty log d → RespectsDeadlines platform next log d)
    {observations} :
    ∀ {failed log d}, History platform Db.empty log d →
      RespectsDeadlines platform (refreshLinks next observations failed) log d := by
  induction observations with
  | nil =>
    intro failed log d hlog
    unfold refreshLinks
    split
    · trivial
    · exact hnext log d hlog
  | cons first rest ih =>
    intro failed log d hlog newer d' hhistory _
    refine ⟨fun e hc hd hv => ⟨commitsInTime_of_none rfl _ e hc, ih ?_⟩,
      fun err => ih (hlog.append hhistory), ih (hlog.append hhistory)⟩
    exact ⟨rfl, hv, hd ▸ hlog.append hhistory⟩

theorem HandledByWorkflow.respects (h : q.HandledByWorkflow client)
    (hlog : History platform Db.empty log d) : RespectsDeadlines platform client log d := by
  cases h with
  | release | workSubmission | changes | acceptance | resolution | check =>
    refine claimCommandContext_respects hlog fun _ _ _ hlog => ?_
    exact byId_respects hlog fun _ => rfl
  | completion =>
    refine claimCommandContext_respects hlog fun _ _ _ hlog => ?_
    refine refreshLinks_respects (fun _ _ hlog => ?_) hlog
    exact byId_respects hlog fun _ => rfl
  | progress =>
    refine claimCommandContext_respects hlog fun _ _ _ hlog => ?_
    split
    · trivial
    split
    · trivial
    · exact claimCommandTarget_respects hlog fun _ => ⟨_, rfl, rfl, rfl⟩

/-- No time passes between the look at the Claim and the command. -/
def Prompt (q : ClaimRequest) : Prop := q.now ≤ q.checkedAt ∧ q.now ≤ q.expiringAt

theorem HandledByDelivery.respects (h : q.HandledByDelivery client) (hprompt : q.Prompt)
    (hlog : History platform Db.empty log d) : RespectsDeadlines platform client log d := by
  cases h with
  | link | unlink =>
    refine currentClaim_respects hlog fun _ _ _ hlog htime => command_respects hlog rfl ?_
    exact htime q.now hprompt.1 hprompt.2

end ClaimRequest

/-! ## Runs of the handlers -/

/-- Claim-owned commands come from the handlers alone, and the requests that the delivery service
handles satisfy `P`. -/
def Schedule.HandlesClaims (P : ClaimRequest → Prop) (es : Schedule) : Prop :=
  ∀ client, .connect client ∈ es → client.Only (fun c => c.claimUse = none) ∨
    (∃ q : ClaimRequest, q.HandledByWorkflow client) ∨
      ∃ q : ClaimRequest, q.HandledByDelivery client ∧ P q

theorem commitsInTime_of_runFrom {platform} {es : Schedule} {cfg : SystemConfig}
    (hclients : es.HandlesClaims ClaimRequest.Prompt)
    (h : runFrom platform Db.empty es = some cfg) : Obeys CommitsInTime cfg.log := by
  refine (lockProtocol platform).obeys lawful_empty (fun client hmem log d hlog _ => ?_) h
  rcases hclients client hmem with honly | ⟨q, hhandles⟩ | ⟨q, hhandles, hprompt⟩
  · exact honly.respects
      (fun older e _ hc => ClaimRequest.commitsInTime_of_none hc older e rfl) log d
  · exact hhandles.respects hlog
  · exact hhandles.respects hprompt hlog

end Pactline
