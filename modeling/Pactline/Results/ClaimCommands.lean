import Pactline.Analysis.ClaimClients
import Pactline.Results.WorkflowState

/-!
# Commands through a Claim

A Claim-owned command commits only while its Claim is active, and only for the caller that the Claim
was made by (`claim_commands_owned`). It is in time as long as the delivery service takes no time
between its look at the Claim and its command (`claim_commands_before_deadline`); otherwise a link
may be made through a Claim that has run out (`link_after_deadline`).
-/

set_option autoImplicit false

namespace Pactline

open ReadCommitted

/-! ## Whose Claim it is -/

/-- The command makes the Claim `claimId` on the Task `t`, for this caller. -/
def Cmd.ClaimsFor (t : TaskId) (claimId : Id) (claimedBy : Actor) (operation : OperationActor)
    (c : Cmd) : Prop :=
  ∃ v clientKind clientSessionId now fresh,
    c = .claim t v claimedBy operation clientKind clientSessionId now fresh ∧ fresh 1 = claimId

/-- The caller of a command is the one for whom a Claim was made: the same subject, authenticated in
the same way, with the same token and the same Agent Run, as the same actor. -/
structure ClaimUse.SameCaller (use : ClaimUse) (claimedBy : Actor) (operation : OperationActor) :
    Prop where
  subject : use.operation.userId = operation.userId
  method : use.operation.authMethod = operation.authMethod
  token : use.operation.tokenId = operation.tokenId
  agentRun : use.operation.agentRunId = operation.agentRunId
  actor : use.actor = storedActor claimedBy

theorem TaskStageClaim.OwnedBy.sameCaller {k : TaskStageClaim} {use : ClaimUse}
    {claimedBy operation} (h : k.OwnedBy use.actor use.operation)
    (hmade : k.OwnedBy (storedActor claimedBy) operation) : use.SameCaller claimedBy operation := by
  obtain ⟨hsubject, hmethod, hactor, htoken, hrun⟩ := h
  obtain ⟨hsubject', hmethod', hactor', htoken', hrun'⟩ := hmade
  exact ⟨hsubject.symm.trans hsubject', hmethod.symm.trans hmethod', htoken.symm.trans htoken',
    hrun.symm.trans hrun', hactor.symm.trans hactor'⟩

/-- When a Claim-owned command commits, its Claim is active on the Task that it changes. The Claim
was made before, and every command that made it was of the same caller. -/
theorem claim_commands_owned {platform : Platform} {es : Schedule} {cfg : SystemConfig}
    (h : runFrom platform Db.empty es = some cfg) {e : Entry} (he : e ∈ cfg.log) {use : ClaimUse}
    (huse : e.cmd.claimUse = some use) :
    (∃ r claim, e.before.task use.taskNumber = some r ∧ claim ∈ r.claims ∧
      claim.id = use.claimId ∧ claim.status = .active) ∧
    (∀ t ≠ use.taskNumber, e.after.task t = e.before.task t) ∧
    ∃ newer older, cfg.log = newer ++ e :: older ∧
      (∃ e₀ ∈ older, ∃ claimedBy operation,
        e₀.cmd.ClaimsFor use.taskNumber use.claimId claimedBy operation) ∧
      ∀ e₀ ∈ older, ∀ t claimedBy operation,
        e₀.cmd.ClaimsFor t use.claimId claimedBy operation →
          t = use.taskNumber ∧ use.SameCaller claimedBy operation := by
  obtain ⟨newer, older, hlog, hbefore, -, hstep⟩ := commit_of_runFrom h he
  obtain ⟨r, _, k, hon, hactive, hid, howned⟩ := hstep.claimUse huse
  obtain ⟨hk, hstatus⟩ := TaskRecord.mem_of_activeClaim hactive
  refine ⟨⟨r, k, hon.before, hk, hid, hstatus⟩, hon.other, newer, older, hlog, ?_, ?_⟩
  · obtain ⟨e₀, he₀, claim, hmakes, hfixed⟩ := hbefore.claim_made hon.before hk
    obtain ⟨hsame, -⟩ := TaskStageClaim.fixed_eq hfixed
    refine ⟨e₀, he₀, ?_⟩
    generalize e₀.cmd = c at hmakes
    cases hmakes with
    | @claim v claimedBy operation clientKind clientSessionId now fresh id_eq =>
      exact ⟨claimedBy, operation, v, clientKind, clientSessionId, now, fresh, rfl,
        id_eq.symm.trans (hsame.symm.trans hid)⟩
  · -- Identities of Claims are unique, so what was made with this one is the Claim at hand.
    rintro e₀ he₀ t claimedBy operation ⟨v, clientKind, clientSessionId, now, fresh, hcmd, hfresh⟩
    obtain ⟨r₀, k₀, hr₀, hk₀, hid₀, howned₀⟩ := hbefore.made_claim he₀ hcmd
    obtain ⟨ht, hsame⟩ := hbefore.claimsUnique.eq hon.before hk hr₀ hk₀
      (hid₀.trans (hfresh.trans hid.symm))
    subst ht hsame
    exact ⟨rfl, howned.sameCaller howned₀⟩

/-! ## A link -/

def sampleCodeChange : CodeChange :=
  { provider := .gitLab, kind := .mergeRequest, providerChangeId := "41", changeNumber := 4
    webURL := "https://gitlab.example/team/app/-/merge_requests/4"
    observation :=
      { status := .confirmed, observedAt := 400, title := "Change", state := some .opened
        draft := false, sourceBranch := "topic", targetBranch := "main", headSHA := "abc"
        mergeCommitSHA := none, mergedAt := none, providerUpdatedAt := 400 } }

/-- A request through the Claim of `claimScript`, checked at 400. -/
def sampleRequest (now : Time) : ClaimRequest :=
  { claimId := 3001, expectedTaskVersion := 3, actor := sampleActor, operation := sampleOperation
    checkedAt := 400, expiringAt := 400, now, fresh := fun n m => 1000 * n + 4000 + m }

/-- A Task is claimed, its Project has a repository, and a code change is linked at `now`. -/
def linkSchedule (now : Time) : Schedule :=
  .connect (.script (claimScript ++ [.setRepository 6 ⟨5, 8, .gitLab, true, true⟩])) ::
    .connect ((sampleRequest now).linkTaskCodeChange 6 sampleCodeChange) ::
      (advances 0 37 ++ advances 1 17)

/-- The schedule's clients are a script without Claim-owned commands and a handler. -/
theorem linkSchedule_handlesClaims {P now}
    (h : P (sampleRequest now)) : (linkSchedule now).HandlesClaims P := by
  have hadvances : ∀ (client : ServiceClient) (i n : Nat), .connect client ∉ advances i n := by
    intro client i n hmem
    cases List.eq_of_mem_replicate hmem
  intro client hmem
  rcases List.mem_cons.mp hmem with heq | hmem
  · cases heq
    refine .inl (Client.only_script ?_)
    simp [claimScript, sampleCreate, Cmd.claimUse]
  rcases List.mem_cons.mp hmem with heq | hmem
  · cases heq
    exact .inr (.inr ⟨_, .link _ _, h⟩)
  · rcases List.mem_append.mp hmem with hmem | hmem
    · exact absurd hmem (hadvances client 0 37)
    · exact absurd hmem (hadvances client 1 17)

/-- The link commits for the maker of the Claim. -/
theorem claim_commands_owned_link :
    ∃ cfg e use, runFrom asciiPlatform Db.empty (linkSchedule 400) = some cfg ∧ e ∈ cfg.log ∧
      e.cmd.claimUse = some use ∧ use.claimId = 3001 ∧
      ∃ e₀ ∈ cfg.log, ∃ claimedBy operation,
        e₀.cmd.ClaimsFor use.taskNumber 3001 claimedBy operation ∧
          use.SameCaller claimedBy operation := by
  obtain ⟨cfg, hcfg, e, he, use, huse, hid⟩ : ∃ cfg,
      runFrom asciiPlatform Db.empty (linkSchedule 400) = some cfg ∧
      ∃ e ∈ cfg.log, ∃ use, e.cmd.claimUse = some use ∧ use.claimId = 3001 := by decide +kernel
  obtain ⟨-, -, newer, older, hsplit, ⟨e₀, he₀, claimedBy, operation, hclaims⟩, hall⟩ :=
    claim_commands_owned hcfg he huse
  refine ⟨cfg, e, use, hcfg, he, huse, hid, e₀, ?_, claimedBy, operation, hid ▸ hclaims,
    (hall e₀ he₀ _ _ _ hclaims).2⟩
  rw [hsplit]
  exact List.mem_append_right _ (List.mem_cons_of_mem e he₀)

/-! ## The deadline -/

/-- Claim-owned commands that come from the handlers record a time before the deadline of their
Claim, if no time passes in the delivery service between its look at the Claim and its command. -/
theorem claim_commands_before_deadline {platform : Platform} {es : Schedule} {cfg : SystemConfig}
    (hclients : es.HandlesClaims ClaimRequest.Prompt)
    (h : runFrom platform Db.empty es = some cfg) {e : Entry} (he : e ∈ cfg.log) {use : ClaimUse}
    (huse : e.cmd.claimUse = some use) :
    ∃ claim, e.before.claim use.claimId = some claim ∧ claim.status = .active ∧
      use.now < claim.expiresAt := by
  obtain ⟨newer, older, hlog, hbefore, -, hstep⟩ := commit_of_runFrom h he
  obtain ⟨r, _, k, hon, hactive, hid, -⟩ := hstep.claimUse huse
  obtain ⟨hk, hstatus⟩ := TaskRecord.mem_of_activeClaim hactive
  have hfound : e.before.claim use.claimId = some k :=
    hid ▸ hbefore.claimsUnique.claim_eq hon.before hk
  have hobeys := commitsInTime_of_runFrom hclients h
  rw [hlog] at hobeys
  exact ⟨k, hfound, hstatus, hobeys.split.1 use huse k hfound⟩

/-- A prompt link is made before the deadline. -/
theorem claim_commands_before_deadline_link :
    ∃ cfg e use claim, runFrom asciiPlatform Db.empty (linkSchedule 400) = some cfg ∧
      e ∈ cfg.log ∧ e.cmd.claimUse = some use ∧ e.before.claim use.claimId = some claim ∧
      use.now < claim.expiresAt := by
  obtain ⟨cfg, hcfg, e, he, huse⟩ : ∃ cfg,
      runFrom asciiPlatform Db.empty (linkSchedule 400) = some cfg ∧
      ∃ e ∈ cfg.log, e.cmd.claimUse.isSome := by decide +kernel
  obtain ⟨use, huse⟩ := Option.isSome_iff_exists.mp huse
  obtain ⟨claim, hfound, -, htime⟩ := claim_commands_before_deadline
    (linkSchedule_handlesClaims (P := ClaimRequest.Prompt) ⟨le_rfl, le_rfl⟩) hcfg he huse
  exact ⟨cfg, e, use, claim, hcfg, he, huse, hfound, htime⟩

/-- The Claim was checked long before its deadline; the provider takes until the deadline to answer,
and the link is made through the Claim all the same. -/
theorem link_after_deadline :
    ∃ es cfg e use claim, es.HandlesClaims (fun _ => True) ∧
      runFrom asciiPlatform Db.empty es = some cfg ∧ e ∈ cfg.log ∧ e.cmd.claimUse = some use ∧
      e.before.claim use.claimId = some claim ∧ claim.expiresAt ≤ use.now := by
  refine ⟨linkSchedule (300 + taskClaimActiveLifetime), ?_⟩
  simp only [exists_and_left]
  refine ⟨linkSchedule_handlesClaims (P := fun _ => True) trivial, ?_⟩
  decide +kernel

end Pactline
