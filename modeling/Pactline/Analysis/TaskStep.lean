import Pactline.Analysis.Lifecycle
import Pactline.Model.System

/-!
# The commands as steps of a Task

An abstract model of the commands that run under one Task's lock: what each of them finds in the
rows of its Task, and the rows it leaves. There are no statements, locks or errors here. That the
transactions of the stores do nothing else is proved in `Pactline.Analysis.WorkflowEffects` and
`Pactline.Analysis.DeliveryEffects`.
-/

set_option autoImplicit false

namespace Pactline

/-! ## Changes of a Task's rows -/

namespace TaskRecord

/-- The row after a workflow command has stored a lifecycle. -/
@[simps!] def advance (r : TaskRecord) (lifecycle : TaskLifecycle) (issue : Option Id)
    (now : Time) : TaskRecord :=
  r.setRow { r.row with
    lifecycle, activeIssueThreadId := issue, version := r.row.version + 1
    completedAt := if lifecycle.phase = .done then some now else none }

/-- The row after a command that only counts as a change of the Task. -/
@[simps!] def bump (r : TaskRecord) : TaskRecord :=
  r.setRow { r.row with version := r.row.version + 1 }

/-- The Claims after one of them has ended. -/
@[simps!] def endClaim (r : TaskRecord) (c : TaskStageClaim) (outcome : TaskClaimOutcome)
    (now : Time) : TaskRecord :=
  r.setClaim (c.ended outcome now) c.version

/-- The Threads after an Issue has been resolved. -/
@[simps!] def closeIssueThread (r : TaskRecord) (i : Thread) (actor : Actor) (now : Time) :
    TaskRecord :=
  r.setThread { i.resolved actor now with resolvedBy := some (storedActor actor) } i.version

/-- An Item may be inserted: its identity is new, and an Issue has one request and one
resolution. -/
def AcceptsItem (r : TaskRecord) (item : ThreadItem) : Prop :=
  (∀ i ∈ r.items, i.id ≠ item.id) ∧
    (item.kind = .resolutionRequest →
      ∀ i ∈ r.items, i.kind = .resolutionRequest → i.threadId ≠ item.threadId) ∧
    (item.kind = .resolution →
      ∀ i ∈ r.items, i.kind = .resolution → i.threadId ≠ item.threadId)

end TaskRecord

/-- An Item as it is kept. -/
@[simps] def ThreadItem.stored (i : ThreadItem) : ThreadItem :=
  { i with author := storedActor i.author }

/-- The event a workflow command writes into the Main Thread. -/
def systemEvent (id mainThreadId : Id) (body : String) (now : Time) : ThreadItem :=
  workflowItem id mainThreadId .systemEvent workflowSystemActor body none now

/-- The summary of a resolved Issue in the Main Thread. -/
def issueSummary (id mainThreadId : Id) (issue : Thread) (request resolution : String)
    (actor : Actor) (now : Instant) : ThreadItem :=
  workflowItem id mainThreadId .issueResolution workflowSystemActor ""
    (some { issueThreadId := issue.id, issueType := issue.issueType, request, resolution
            openedBy := issue.openedBy, resolvedBy := actor, openedAt := issue.createdAt.instant
            resolvedAt := now }) now.column

/-! ## What a command finds -/

/-- What a Claim-owned command has found: its Task at the expected version, and the active Claim
it names, which was made by the caller. -/
structure ClaimCall.Owns (call : ClaimCall) (r : TaskRecord) (main : Thread)
    (claim : TaskStageClaim) : Prop where
  mainThread : r.mainThread = some main
  valid : r.row.lifecycle.validate = .ok ()
  version : r.row.version = call.expectedTaskVersion
  active : r.activeClaim = some claim
  id_eq : claim.id = call.claimId
  claimVersion : claim.version = call.expectedClaimVersion
  owner : claim.OwnedBy call.actor call.operation

/-- No Claim of the Task is past its deadline: it is not worked on, or its Claim still runs. -/
def TaskRecord.NotDue (r : TaskRecord) (now : Time) : Prop :=
  r.row.lifecycle.activity = .working →
    ∃ claim, r.activeClaim = some claim ∧ now < claim.expiresAt

/-- Ending a Claim that is past its deadline, before anything else happens to its Task: the rows
it leaves and the lifecycle the command goes on with. -/
inductive Expiry (main : Thread) (now : Time) (itemId : Id) (r : TaskRecord) :
    TaskRecord → TaskLifecycle → Prop
  | notDue (h : r.NotDue now) : Expiry main now itemId r r r.row.lifecycle
  | due (claim : TaskStageClaim) (hactive : r.activeClaim = some claim)
      (hdue : claim.expiresAt ≤ now) (hwork : r.row.lifecycle.WorkingAt claim.stage) :
      Expiry main now itemId r
        ((r.endClaim claim .deadlineElapsed now).addItem
          (systemEvent itemId main.id (claim.stage.text ++ " Claim expired") now).stored)
        { r.row.lifecycle with activity := .available }

/-- The Item is the request of an Issue. -/
structure TaskRecord.Requests (r : TaskRecord) (issue : Thread) (request : ThreadItem) : Prop where
  stored : request ∈ r.items
  thread : request.threadId = issue.id
  kind : request.kind = .resolutionRequest

/-- Resolving an Issue: the resolution goes into the Issue, the Issue is closed, and the summary
goes into the Main Thread. -/
def TaskRecord.resolveThread (r : TaskRecord) (main issue : Thread) (request resolution : String)
    (actor : Actor) (now : Instant) (fresh : Nat → Id) : TaskRecord :=
  ((r.addItem (workflowItem (fresh 0) issue.id .resolution actor resolution none
    now.column).stored).closeIssueThread issue actor now.column).addItem
      (issueSummary (fresh 1) main.id issue request resolution actor now).stored

/-- What a cancellation does to the Claim or the Issue of its Task. -/
inductive Cleared (main : Thread) (reason : String) (actor : Actor) (now : Instant)
    (fresh : Nat → Id) (r : TaskRecord) : TaskRecord → Option Id → Prop
  | idle (h : r.row.lifecycle.activity ≠ .working)
      (h' : r.row.lifecycle.activity ≠ .needsResolution) :
      Cleared main reason actor now fresh r r r.row.activeIssueThreadId
  | claim (claim : TaskStageClaim) (h : r.row.lifecycle.activity = .working)
      (hactive : r.activeClaim = some claim) :
      Cleared main reason actor now fresh r (r.endClaim claim .taskCancelled now.column)
        r.row.activeIssueThreadId
  | issue (issue : Thread) (request : ThreadItem)
      (h : r.row.lifecycle.activity = .needsResolution)
      (hissue : r.row.activeIssueThreadId = some issue.id) (hmem : issue ∈ r.threads)
      (hopen : issue.OpenIssue) (hrequest : r.Requests issue request) :
      Cleared main reason actor now fresh r
        (r.resolveThread main issue request.body ("Task cancelled: " ++ reason) actor now fresh)
        none

/-- The payload of an execution completion: what the Task holds for the cycle. -/
@[simps] def TaskRecord.completionPayload (r : TaskRecord) (main : Thread) (cycle : Nat)
    (codeChanges : List CodeChangeSnapshot) : ExecutionCompletedPayload :=
  { reviewCycle := cycle, submissionItemIds := r.submissionItemIds main.id cycle
    executionCheckIds := r.executionCheckIds cycle, criterionRevisions := r.criterionRevisions
    codeChanges }

/-- The links of a Task that have not been ended. -/
def TaskRecord.activeLinks (r : TaskRecord) : List TaskCodeChange :=
  r.codeChanges.filter fun c => c.unlinkedAt = none

/-- The prepared snapshots are those of the active links, each once. -/
structure TaskRecord.Snapshots (r : TaskRecord) (codeChanges : List CodeChangeSnapshot) : Prop where
  length : (r.activeLinks.map (·.id)).length = codeChanges.length
  nodup : (codeChanges.map (·.taskCodeChangeId)).Nodup
  covers : ∀ id ∈ r.activeLinks.map (·.id), id ∈ codeChanges.map (·.taskCodeChangeId)

/-- The check `RecordAcceptanceCheck` stores. -/
@[simps] def recordedCheck (call : ClaimCall) (check : AcceptanceCheck) (claim : TaskStageClaim)
    (cycle : Nat) : AcceptanceCheck :=
  { check with
    id := call.fresh 0, checker := storedActor call.actor, taskClaimId := some claim.id
    taskReviewCycle := some cycle, checkedAt := call.now
    purpose := some (if claim.stage = .execution then .executionVerification else .acceptance) }

/-- Links are made and ended only in claimed execution. -/
structure TaskRecord.ClaimedExecution (r : TaskRecord) (claim : TaskStageClaim) : Prop where
  archived : r.row.archivedAt = none
  phase : r.row.lifecycle.phase = .inProgress
  activity : r.row.lifecycle.activity = .working
  stage : claim.stage = .execution

/-! ## The steps -/

/-- What the stores' commands do to the Task `t` they lock. `d` is the database the command
commits on; only the steps that depend on other Tasks look at it. -/
inductive TaskStep (d : Db) : TaskId → Cmd → TaskRecord → TaskRecord → Prop
  | markReady {t v operation now fresh} {r : TaskRecord} {main : Thread}
      (hmain : r.mainThread = some main)
      (hversion : r.row.version = v) (hphase : r.row.lifecycle.phase = .backlog)
      (hactivity : r.row.lifecycle.activity = .unset) (harchived : r.row.archivedAt = none)
      (hdependencies : ∀ p ∈ r.dependencyIds, d.unfinished p = false) :
      TaskStep d t (.markReady t v operation now fresh) r
        (((r.advance { r.row.lifecycle with phase := .ready } r.row.activeIssueThreadId
          now).addItem (systemEvent (fresh 0) main.id "Task marked ready" now).stored).addAudit
            ⟨now, operation, "task", t, "marked_ready"⟩)
  | withdrawReadiness {t v reason operation now fresh} {r : TaskRecord} {main : Thread}
      (hmain : r.mainThread = some main) (hversion : r.row.version = v)
      (hphase : r.row.lifecycle.phase = .ready) (hactivity : r.row.lifecycle.activity = .unset) :
      TaskStep d t (.withdrawReadiness t v reason operation now fresh) r
        (((r.advance { r.row.lifecycle with phase := .backlog } r.row.activeIssueThreadId
          now).addItem
            (systemEvent (fresh 0) main.id ("Readiness withdrawn: " ++ reason) now).stored).addAudit
              ⟨now, operation, "task", t, "readiness_withdrawn"⟩)
  | claim {t v claimedBy operation clientKind clientSessionId now fresh} {r r₁ : TaskRecord}
      {l₁ l₂ : TaskLifecycle} {stage : TaskClaimStage} {claim : TaskStageClaim} {main : Thread}
      (hmain : r.mainThread = some main) (hversion : r.row.version = v)
      (hexpiry : Expiry main now (fresh 0) r r₁ l₁)
      (hclaim : l₁.claim r.row.archivedAt.isSome = .ok (l₂, stage))
      (hnew : TaskStageClaim.new (fresh 1) t stage claimedBy operation clientKind clientSessionId
        now = .ok claim)
      (hid : d.claim claim.id = none) (hnone : ∀ x ∈ r₁.claims, x.status ≠ .active) :
      TaskStep d t (.claim t v claimedBy operation clientKind clientSessionId now fresh) r
        ((((r₁.addClaim { claim with claimedBy := storedActor claim.claimedBy }).advance l₂
          r.row.activeIssueThreadId now).addItem
            (systemEvent (fresh 2) main.id (stage.text ++ " Claim started") now).stored).addAudit
              ⟨now, operation, "task", t, "claimed"⟩)
  | keepClaim {t operation now fresh}
      {r : TaskRecord} (hkept : r.NotDue now) :
      TaskStep d t (.expireDueClaim t operation now fresh) r r
  | expireDueClaim {t operation now fresh}
      {r : TaskRecord} {claim : TaskStageClaim} {main : Thread}
      (hmain : r.mainThread = some main) (hactive : r.activeClaim = some claim)
      (hdue : claim.expiresAt ≤ now) (hwork : r.row.lifecycle.WorkingAt claim.stage) :
      TaskStep d t (.expireDueClaim t operation now fresh) r
        ((((r.endClaim claim .deadlineElapsed now).addItem
          (systemEvent (fresh 0) main.id (claim.stage.text ++ " Claim expired") now).stored).advance
            { r.row.lifecycle with activity := .available } r.row.activeIssueThreadId now).addAudit
              ⟨now, operation, "task", t, "claim_expired"⟩)
  | releaseClaim {call : ClaimCall} {handoff} {r : TaskRecord} {main : Thread}
      {claim : TaskStageClaim} (howns : call.Owns r main claim)
      (hwork : r.row.lifecycle.WorkingAt claim.stage) :
      TaskStep d call.taskNumber (.releaseClaim call handoff) r
        ((((r.endClaim claim .voluntarilyReleased call.now).advance
          { r.row.lifecycle with activity := .available } r.row.activeIssueThreadId
          call.now).addItem (workflowItem (call.fresh 0) main.id .handoff call.actor handoff none
            call.now).stored).addAudit
              ⟨call.now, call.operation, "task", call.taskNumber, "voluntarily_released"⟩)
  | recordWorkSubmission {call : ClaimCall} {summary} {r : TaskRecord} {main : Thread}
      {claim : TaskStageClaim} {item : ThreadItem} (howns : call.Owns r main claim)
      (hphase : r.row.lifecycle.phase = .inProgress)
      (hactivity : r.row.lifecycle.activity = .working) (hstage : claim.stage = .execution)
      (hitem : item = deliveryItem (call.fresh 0) main.id .workSubmission call.actor summary
        claim.id (r.row.lifecycle.reviewCycle + 1) none call.now)
      (haccepts : r.AcceptsItem item) :
      TaskStep d call.taskNumber (.recordWorkSubmission call summary) r
        ((r.addItem item.stored).addAudit
          ⟨call.now, call.operation, "task", call.taskNumber, "work_submission_recorded"⟩)
  | completeExecution {call : ClaimCall} {summary codeChanges} {r : TaskRecord} {main : Thread}
      {claim : TaskStageClaim} {item : ThreadItem} (howns : call.Owns r main claim)
      (hwork : r.row.lifecycle.WorkingAt .execution) (hsnapshots : r.Snapshots codeChanges)
      (hitem : item = deliveryItem (call.fresh 0) main.id .executionCompleted call.actor summary
        claim.id (r.row.lifecycle.reviewCycle + 1)
        (some (r.completionPayload main (r.row.lifecycle.reviewCycle + 1) codeChanges)) call.now)
      (haccepts : r.AcceptsItem item) :
      TaskStep d call.taskNumber (.completeExecution call summary codeChanges) r
        ((((r.endClaim claim .executionCompleted call.now).advance
          ⟨.inReview, .available, r.row.lifecycle.reviewCycle + 1⟩ r.row.activeIssueThreadId
          call.now).addItem item.stored).addAudit
            ⟨call.now, call.operation, "task", call.taskNumber, "execution_completed"⟩)
  | requestChanges {call : ClaimCall} {reason} {r : TaskRecord} {main : Thread}
      {claim} (howns : call.Owns r main claim)
      (hwork : r.row.lifecycle.WorkingAt .review) :
      TaskStep d call.taskNumber (.requestChanges call reason) r
        ((((r.endClaim claim .changesRequested call.now).advance
          { r.row.lifecycle with phase := .inProgress, activity := .available }
          r.row.activeIssueThreadId call.now).addItem
            (workflowItem (call.fresh 0) main.id .reviewOutcome call.actor reason none
              call.now).stored).addAudit
                ⟨call.now, call.operation, "task", call.taskNumber, "changes_requested"⟩)
  | requestResolution {call : ClaimCall} {issueType : IssueThreadType} {request}
      {r : TaskRecord} {main issue : Thread} {claim : TaskStageClaim}
      (howns : call.Owns r main claim) (hwork : r.row.lifecycle.WorkingAt claim.stage)
      (hissue : Thread.newIssue (call.fresh 0) issueType r.row.lifecycle.phase call.actor
        call.now = .ok issue)
      (hid : ∀ x ∈ r.threads, x.id ≠ issue.id) (hnone : ∀ x ∈ r.threads, ¬ x.OpenIssue) :
      TaskStep d call.taskNumber (.requestResolution call issueType request) r
        ((((((r.addThread { issue with openedBy := issue.openedBy.map storedActor }).addItem
          (workflowItem (call.fresh 1) issue.id .resolutionRequest call.actor request none
            call.now).stored).endClaim claim .needsResolution call.now).advance
              { r.row.lifecycle with activity := .needsResolution } (some issue.id)
              call.now).addItem (systemEvent (call.fresh 2) main.id
                ("Resolution requested in " ++ issueType.text ++ " Issue Thread")
                call.now).stored).addAudit
                  ⟨call.now, call.operation, "task", call.taskNumber, "resolution_requested"⟩)
  | resolveIssue {t v issueThreadId threadVersion resolution actor operation now fresh}
      {r : TaskRecord} {main issue : Thread} {request : ThreadItem}
      (hmain : r.mainThread = some main) (hversion : r.row.version = v)
      (hactive : r.row.activeIssueThreadId = some issue.id) (hid : issue.id = issueThreadId)
      (hthread : issue.version = threadVersion) (hmem : issue ∈ r.threads)
      (hopen : issue.OpenIssue) (hphase : r.row.lifecycle.phase.Active)
      (hactivity : r.row.lifecycle.activity = .needsResolution)
      (hrequest : r.Requests issue request) :
      TaskStep d t (.resolveIssue t v issueThreadId threadVersion resolution actor operation now
        fresh) r
        (((r.resolveThread main issue request.body resolution actor now fresh).advance
          { r.row.lifecycle with activity := .available } none (Instant.column now)).addAudit
            ⟨Instant.column now, operation, "task", t, "issue_resolved"⟩)
  | recordAcceptanceCheck {call : ClaimCall} {check : AcceptanceCheck} {r : TaskRecord}
      {main claim} {criterion : AcceptanceCriterion}
      (howns : call.Owns r main claim) (hactivity : r.row.lifecycle.activity = .working)
      (hcriterion : criterion ∈ r.activeCriteria) (hid : check.criterionId = criterion.id)
      (hrevision : check.criterionRevision = criterion.revision)
      (hfresh : ∀ x ∈ r.checks, x.id ≠ call.fresh 0) :
      TaskStep d call.taskNumber (.recordAcceptanceCheck call check) r
        ((r.addCheck (recordedCheck call check claim r.row.lifecycle.reviewCycle)).addAudit
          ⟨call.now, call.operation, "task", call.taskNumber, "acceptance_check_recorded"⟩)
  | acceptTask {call : ClaimCall} {summary} {r : TaskRecord} {main : Thread}
      {claim} (howns : call.Owns r main claim)
      (hwork : r.row.lifecycle.WorkingAt .review)
      (hcriteria : ∀ criterion ∈ r.activeCriteria,
        r.Satisfied r.row.lifecycle.reviewCycle criterion)
      (hchildren : ∀ c ∈ d.children call.taskNumber, d.unfinished c.1 = false)
      (hdependencies : ∀ p ∈ r.dependencyIds, d.unfinished p = false) :
      TaskStep d call.taskNumber (.acceptTask call summary) r
        ((((r.endClaim claim .taskAccepted call.now).advance
          { r.row.lifecycle with phase := .done, activity := .unset } r.row.activeIssueThreadId
          call.now).addItem (workflowItem (call.fresh 0) main.id .reviewOutcome call.actor summary
            none call.now).stored).addAudit
              ⟨call.now, call.operation, "task", call.taskNumber, "task_accepted"⟩)
  | cancelTask {t v reason actor operation now fresh} {r r₁ : TaskRecord}
      {issueId} {main : Thread} (hmain : r.mainThread = some main)
      (hversion : r.row.version = v) (hcleared : Cleared main reason actor now fresh r r₁ issueId)
      (hphase : ¬ r.row.lifecycle.phase.Terminal) :
      TaskStep d t (.cancelTask t v reason actor operation now fresh) r
        (((r₁.advance { r.row.lifecycle with phase := .cancelled, activity := .unset } issueId
          (Instant.column now)).addItem (systemEvent (fresh 2) main.id
            ("Task cancelled: " ++ reason) (Instant.column now)).stored).addAudit
              ⟨Instant.column now, operation, "task", t, "task_cancelled"⟩)
  | recordClaimProgress {t claimId body actor operation now fresh} {r : TaskRecord}
      {main : Thread} {claim : TaskStageClaim} (hmain : r.mainThread = some main)
      (hactive : r.activeClaim = some claim) (hid : claim.id = claimId)
      (howner : claim.OwnedBy actor operation)
      (hactivity : r.row.lifecycle.activity = .working) :
      TaskStep d t (.recordClaimProgress t claimId body actor operation now fresh) r
        ((r.addItem (deliveryItem (fresh 0) main.id .progress actor body claim.id
          (r.row.lifecycle.reviewCycle + executionCycleOffset claim.stage) none
          now).stored).addAudit ⟨now, operation, "task", t, "claim_progress_recorded"⟩)
  | createCriterion {t v criterion actor clock fresh} {r : TaskRecord}
      (hversion : r.row.version = v)
      (hid : ∀ c ∈ r.criteria, c.id ≠ (createdCriterion criterion fresh).id) :
      TaskStep d t (.createCriterion t v criterion actor clock fresh) r
        (((r.setCriteria (r.criteria ++ [createdCriterion criterion fresh])).bump.addAudit
          ⟨clock 0, actor, "acceptance_criterion", (createdCriterion criterion fresh).id,
            "created"⟩).addAudit ⟨clock 1, actor, "task", t, "criterion_created"⟩)
  | updateCriterion {t criterionId v} {text instructions : Option String}
      {position : Option Int} {actor clock} {r : TaskRecord}
      {current edited : AcceptanceCriterion} (hcurrent : current ∈ r.activeCriteria)
      (hid : current.id = criterionId) (hversion : current.version = v)
      (hedited : edited = current.edit (text.getD current.criterion)
        (instructions.getD current.verificationInstructions)) :
      TaskStep d t (.updateCriterion criterionId v text instructions position actor clock) r
        (((r.replaceCriterion { edited.move (position.getD edited.position) with
          version := current.version + 1 }).bump.addAudit
            ⟨clock 0, actor, "acceptance_criterion", criterionId, "updated"⟩).addAudit
              ⟨clock 1, actor, "task", t, "criterion_updated"⟩)
  | addCheck {t criterionId v} {check stored : AcceptanceCheck}
      {actor clock fresh} {r : TaskRecord}
      {criterion : AcceptanceCriterion} (hcriterion : criterion ∈ r.activeCriteria)
      (hid : criterion.id = criterionId) (hversion : criterion.version = v)
      (hfresh : ∀ x ∈ r.checks, x.id ≠ stored.id) (howner : stored.criterionId = criterionId)
      (hpurpose : stored.purpose = none) :
      TaskStep d t (.addCheck criterionId v check actor clock fresh) r
        ((((r.addCheck stored).replaceCriterion
          { criterion with version := criterion.version + 1 }).bump.addAudit
            ⟨clock 0, actor, "acceptance_check", stored.id, "created"⟩).addAudit
              ⟨clock 1, actor, "task", t, "acceptance_checked"⟩)
  | deleteCriterion {t criterionId v actor clock} {r : TaskRecord} {criterion : AcceptanceCriterion}
      (hcriterion : criterion ∈ r.activeCriteria) (hid : criterion.id = criterionId)
      (hversion : criterion.version = v) (hchecks : ∀ x ∈ r.checks, x.criterionId ≠ criterionId) :
      TaskStep d t (.removeCriterion criterionId v actor clock) r
        (((r.setCriteria (r.criteria.filter fun c => c.id ≠ criterionId)).bump.addAudit
          ⟨clock 0, actor, "acceptance_criterion", criterionId, "removed"⟩).addAudit
            ⟨clock 1, actor, "task", t, "criterion_removed"⟩)
  | archiveCriterion {t criterionId v actor clock} {r : TaskRecord}
      {criterion : AcceptanceCriterion}
      (hcriterion : criterion ∈ r.activeCriteria) (hid : criterion.id = criterionId)
      (hversion : criterion.version = v) (hchecks : ∃ x ∈ r.checks, x.criterionId = criterionId) :
      TaskStep d t (.removeCriterion criterionId v actor clock) r
        (((r.replaceCriterion { criterion with
          archivedAt := some (clock 2), version := criterion.version + 1 }).bump.addAudit
            ⟨clock 0, actor, "acceptance_criterion", criterionId, "removed"⟩).addAudit
              ⟨clock 1, actor, "task", t, "criterion_removed"⟩)
  | link {call : ClaimCall} {projectRepositoryId codeChange}
      {r : TaskRecord} {main claim} (howns : call.Owns r main claim)
      (hexecution : r.ClaimedExecution claim)
      (hid : ∀ l ∈ r.codeChanges, l.id ≠ call.fresh 0) :
      TaskStep d call.taskNumber (.link call projectRepositoryId codeChange) r
        (((r.setCodeChanges (r.codeChanges ++
          [newLink call claim projectRepositoryId codeChange])).advance r.row.lifecycle
            r.row.activeIssueThreadId call.now).addAudit
              ⟨call.now, call.operation, "task_code_change", call.fresh 0, "linked"⟩)
  | unlink {call : ClaimCall} {linkId} {r : TaskRecord} {main claim} {link : TaskCodeChange}
      (howns : call.Owns r main claim)
      (hexecution : r.ClaimedExecution claim) (hlink : link ∈ r.codeChanges)
      (hid : link.id = linkId) (hactive : link.Active) :
      TaskStep d call.taskNumber (.unlink call linkId) r
        (((r.setCodeChanges (r.codeChanges.map fun l =>
          if l.id = linkId then link.unlinked call claim else l)).advance r.row.lifecycle
            r.row.activeIssueThreadId call.now).addAudit
              ⟨call.now, call.operation, "task_code_change", linkId, "unlinked"⟩)
  | setArchived {t v archived actor clock} {r r₁ : TaskRecord}
      (hversion : ∀ n ∈ v, r.row.version = n)
      (hidle : archived = true → r.row.archivedAt = none →
        r.row.lifecycle.activity ≠ .working ∧ r.row.lifecycle.activity ≠ .needsResolution)
      (haudit : r₁ = if r.row.archivedAt.isSome ≠ archived then r.addAudit
        ⟨clock 0, actor, "task", t, if archived then "archived" else "restored"⟩ else r) :
      TaskStep d t (.setArchived t v archived actor clock) r
        (r₁.setRow { r.row with
          archivedAt := if archived then some (r.row.archivedAt.getD (clock 1)) else none
          version := r.row.version + 1 })

end Pactline
