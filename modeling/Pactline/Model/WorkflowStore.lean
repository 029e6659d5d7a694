import Mathlib.Data.List.Sort
import Pactline.Model.Database

/-!
# The workflow store

The commands that move a Task through its lifecycle
(`internal/store/task_workflow_store.go`). Each is one transaction that locks the Task's row
first and then runs statement by statement under that lock. A command takes the time it is made
at and the identifiers `uuid.New` draws for it, one index for each place that draws one.
-/

set_option autoImplicit false

namespace Pactline

open ReadCommitted Txn

/-! ## Reading and writing a locked Task -/

/-- `workflowTask`: what a workflow command knows of the Task it has locked. -/
structure WorkflowTask where
  taskNumber : TaskId
  version : Nat
  lifecycle : TaskLifecycle
  activeIssueThreadId : Option Id
  mainThreadId : Id
  archivedAt : Option Time
  projectId : Id
deriving DecidableEq, Repr

def TaskRecord.mainThread (r : TaskRecord) : Option Thread :=
  r.threads.find? fun t => t.role = .main

def TaskRecord.activeClaim (r : TaskRecord) : Option TaskStageClaim :=
  r.claims.find? fun c => c.status = .active

def scanWorkflowTask (t : TaskId) (r : TaskRecord) : Except DomainError WorkflowTask :=
  match r.mainThread with
  | none => .error (.migrationRequired
      ("Task " ++ toString t ++ " has not been classified into the target workflow"))
  | some main => do
      r.row.lifecycle.validate
      return { taskNumber := t, version := r.row.version, lifecycle := r.row.lifecycle
               activeIssueThreadId := r.row.activeIssueThreadId, mainThreadId := main.id
               archivedAt := r.row.archivedAt, projectId := r.row.projectId }

/-- The read of `lockWorkflowTask`; the lock itself is taken by `withTask`. -/
def lockWorkflowTask (t : TaskId) : TaskTx WorkflowTask := do
  let r ← Owned.rows id
  scanWorkflowTask t r

def requireVersion (task : WorkflowTask) (expectedVersion : Nat) : TaskTx Unit :=
  Owned.require (task.version = expectedVersion) (.versionConflict task.version)

/-- `persistWorkflowTask` (`task_workflow_store.go:1223-1258`). -/
def TaskRow.persist (row : TaskRow) (task : WorkflowTask) (expectedVersion : Nat) (now : Time) :
    TaskRow :=
  { row with
    lifecycle := task.lifecycle, activeIssueThreadId := task.activeIssueThreadId
    version := expectedVersion + 1
    completedAt := if task.lifecycle.phase = .done then some now else none }

def persistWorkflowTask (task : WorkflowTask) (expectedVersion : Nat) (now : Time) :
    TaskTx WorkflowTask := do
  task.lifecycle.validate
  let version ← Owned.rows (·.row.version)
  Owned.require (version = expectedVersion) (.conflict "Task version changed")
  Owned.update fun r => r.setRow (r.row.persist task expectedVersion now)
  return { task with version := expectedVersion + 1 }

/-- `SELECT … FROM task_stage_claims WHERE task_id=$1 AND status='active' FOR UPDATE`. -/
def lockActiveTaskStageClaim : TaskTx TaskStageClaim := do
  let found ← Owned.rows (·.activeClaim)
  let claim ← Owned.demand found (.conflict "working Task has no active Claim")
  Owned.acquire (.claim claim.id) .update
  return claim

/-- `insertTaskStageClaim`, with the primary key and `task_stage_claims_one_active_per_task`. Two
transactions that insert one key wait for each other, so the key is locked before it is looked
up. -/
def insertTaskStageClaim (claim : TaskStageClaim) : TaskTx Unit := do
  claim.validate
  Owned.acquire (.claim claim.id) .update
  let existing ← Owned.query (·.claim claim.id)
  Owned.require (existing = none) (uniqueViolation "task_stage_claims_pkey")
  let claims ← Owned.rows (·.claims)
  Owned.require (claim.status = .active → ∀ c ∈ claims, c.status ≠ .active) .activeClaim
  Owned.update (·.addClaim { claim with claimedBy := storedActor claim.claimedBy })

/-- `updateTaskStageClaim`: exactly one row has the identity and the version. -/
def updateTaskStageClaim (claim : TaskStageClaim) (expectedVersion : Nat) : TaskTx Unit := do
  let claims ← Owned.rows (·.claims)
  Owned.require
    ((claims.filter fun c => c.id = claim.id ∧ c.version = expectedVersion).length = 1)
    (.conflict "Task Claim version changed")
  Owned.update (·.setClaim claim expectedVersion)

/-- `insertTaskThreadItem`, with the primary key and the two indexes that allow an Issue one
request and one resolution. -/
def insertTaskThreadItem (item : ThreadItem) : TaskTx Unit := do
  item.validate
  let items ← Owned.rows (·.items)
  Owned.require (∀ i ∈ items, i.id ≠ item.id) (uniqueViolation "task_thread_items_pkey")
  Owned.require (item.kind = .resolutionRequest →
      ∀ i ∈ items, i.kind = .resolutionRequest → i.threadId ≠ item.threadId)
    (uniqueViolation "task_thread_items_one_issue_request")
  Owned.require (item.kind = .resolution →
      ∀ i ∈ items, i.kind = .resolution → i.threadId ≠ item.threadId)
    (uniqueViolation "task_thread_items_one_issue_resolution")
  Owned.update (·.addItem { item with author := storedActor item.author })

@[simps] def workflowItem (id threadId : Id) (kind : ThreadItemKind) (author : Actor)
    (body : String) (payload : Option IssueResolutionPayload) (now : Time) : ThreadItem :=
  { id, threadId, kind, author, body, issueResolution := payload, executionCompleted := none
    taskStageClaimId := none, taskReviewCycle := none, version := 1, createdAt := now
    updatedAt := now }

def insertWorkflowItem (id threadId : Id) (kind : ThreadItemKind) (author : Actor) (body : String)
    (payload : Option IssueResolutionPayload) (now : Time) : TaskTx Unit :=
  insertTaskThreadItem (workflowItem id threadId kind author body payload now)

@[simps] def deliveryItem (id threadId : Id) (kind : ThreadItemKind) (author : Actor)
    (body : String) (claimId : Id) (reviewCycle : Nat)
    (payload : Option ExecutionCompletedPayload) (now : Time) : ThreadItem :=
  { id, threadId, kind, author, body, issueResolution := none, executionCompleted := payload
    taskStageClaimId := some claimId, taskReviewCycle := some reviewCycle, version := 1
    createdAt := now, updatedAt := now }

def insertDeliveryWorkflowItem (id threadId : Id) (kind : ThreadItemKind) (author : Actor)
    (body : String) (claimId : Id) (reviewCycle : Nat) (payload : Option ExecutionCompletedPayload)
    (now : Time) : TaskTx Unit :=
  insertTaskThreadItem
    (deliveryItem id threadId kind author body claimId reviewCycle payload now)

/-- An event the workflow writes into the Main Thread by itself. -/
def insertSystemEvent (id : Id) (task : WorkflowTask) (body : String) (now : Time) : TaskTx Unit :=
  insertWorkflowItem id task.mainThreadId .systemEvent workflowSystemActor body none now

def insertWorkflowAudit (task : WorkflowTask) (operation : OperationActor) (action : String)
    (now : Time) : TaskTx Unit :=
  insertBusinessAudit ⟨now, operation, "task", task.taskNumber, action⟩

/-! ## Readiness -/

/-- The command that `simpleLifecycleCommand` makes of a change of the lifecycle. -/
def simpleLifecycleCommand (t : TaskId) (expectedVersion : Nat) (operation : OperationActor)
    (now : Time) (fresh : Nat → Id) (action eventBody : String)
    (mutate : WorkflowTask → TaskTx TaskLifecycle) : Tx WorkflowTask := do
  operation.validate
  withTask t do
    let task ← lockWorkflowTask t
    requireVersion task expectedVersion
    let lifecycle ← mutate task
    let task ← persistWorkflowTask { task with lifecycle } expectedVersion now
    insertSystemEvent (fresh 0) task eventBody now
    insertWorkflowAudit task operation action now
    return task

def markReady (t : TaskId) (expectedVersion : Nat) (operation : OperationActor) (now : Time)
    (fresh : Nat → Id) : Tx WorkflowTask := do
  operation.validate
  simpleLifecycleCommand t expectedVersion operation now fresh "marked_ready" "Task marked ready"
    fun task => do
      let unfinishedDependencies ← Owned.query fun d => (d.dependencies t).any d.unfinished
      task.lifecycle.markReady task.archivedAt.isSome unfinishedDependencies

def withdrawReadiness (t : TaskId) (expectedVersion : Nat) (reason : String)
    (operation : OperationActor) (now : Time) (fresh : Nat → Id) : Tx WorkflowTask := do
  require (¬ blank reason) (.invalidInput "withdrawal reason is required")
  simpleLifecycleCommand t expectedVersion operation now fresh "readiness_withdrawn"
    ("Readiness withdrawn: " ++ reason) fun task => task.lifecycle.withdrawReadiness

/-! ## Claims -/

/-- A Claim whose deadline has passed is ended before anything else happens to its Task
(`task_workflow_store.go:267-300`). -/
def expireDueWorkflowClaim (task : WorkflowTask) (now : Time) (itemId : Id) :
    TaskTx WorkflowTask :=
  if task.lifecycle.activity ≠ .working then return task
  else do
    let claim ← lockActiveTaskStageClaim
    if now < claim.expiresAt then return task
    else do
      let ended ← claim.complete .deadlineElapsed now
      updateTaskStageClaim ended claim.version
      let lifecycle ← task.lifecycle.release claim.stage
      insertSystemEvent itemId task (claim.stage.text ++ " Claim expired") now
      return { task with lifecycle }

/-- `Claim`: the caller starts the work that the Task's phase offers. -/
def claimTask (t : TaskId) (expectedVersion : Nat) (claimedBy : Actor) (operation : OperationActor)
    (clientKind clientSessionId : String) (now : Time) (fresh : Nat → Id) :
    Tx (WorkflowTask × TaskStageClaim) := do
  validateThreadOperationActor claimedBy operation
  withTask t do
    let task ← lockWorkflowTask t
    requireVersion task expectedVersion
    let task ← expireDueWorkflowClaim task now (fresh 0)
    let (lifecycle, stage) ← task.lifecycle.claim task.archivedAt.isSome
    let claim ← TaskStageClaim.new (fresh 1) t stage claimedBy operation clientKind
      clientSessionId now
    insertTaskStageClaim claim
    let task ← persistWorkflowTask { task with lifecycle } expectedVersion now
    insertSystemEvent (fresh 2) task (stage.text ++ " Claim started") now
    insertWorkflowAudit task operation "claimed" now
    return (task, claim)

/-- `ExpireDueClaim`: ends the Claim if it is due, and says whether it was. The source rolls back
where this returns `false`; nothing has been written on either of those paths. -/
def expireDueClaim (t : TaskId) (operation : OperationActor) (now : Time) (fresh : Nat → Id) :
    Tx Bool := do
  operation.validate
  withTask t do
    let task ← lockWorkflowTask t
    if task.lifecycle.activity ≠ .working then return false
    else do
      let expired ← expireDueWorkflowClaim task now (fresh 0)
      if expired.lifecycle.activity = task.lifecycle.activity then return false
      else do
        let expired ← persistWorkflowTask expired task.version now
        insertWorkflowAudit expired operation "claim_expired" now
        return true

/-- The arguments of the commands that only the owner of a Claim may make. -/
structure ClaimCall where
  taskNumber : TaskId
  claimId : Id
  expectedTaskVersion : Nat
  expectedClaimVersion : Nat
  actor : Actor
  operation : OperationActor
  now : Time
  fresh : Nat → Id

/-- `lockOwnedWorkflowClaim` (`task_workflow_store.go:617-644`); `finishClaim`,
`RequestResolution` and `AcceptTask` make the same checks in the same order. -/
def lockOwnedWorkflowClaim (call : ClaimCall) : TaskTx (WorkflowTask × TaskStageClaim) := do
  let task ← lockWorkflowTask call.taskNumber
  requireVersion task call.expectedTaskVersion
  let claim ← lockActiveTaskStageClaim
  Owned.require (claim.id = call.claimId ∧ claim.version = call.expectedClaimVersion)
    (.conflict "Task Claim version changed")
  validateClaimActor claim call.actor call.operation
  return (task, claim)

/-- The last statements of a command that ends the Claim it was made through. -/
def finishOwnedClaim (call : ClaimCall) (task : WorkflowTask) (claim : TaskStageClaim)
    (outcome : TaskClaimOutcome) : TaskTx (WorkflowTask × TaskStageClaim) := do
  let ended ← claim.complete outcome call.now
  updateTaskStageClaim ended claim.version
  let task ← persistWorkflowTask task call.expectedTaskVersion call.now
  return (task, ended)

def finishClaim (call : ClaimCall) (outcome : TaskClaimOutcome) (itemKind : ThreadItemKind)
    (body : String) (mutate : TaskLifecycle → TaskStageClaim → Except DomainError TaskLifecycle) :
    Tx (WorkflowTask × TaskStageClaim) := do
  validateThreadOperationActor call.actor call.operation
  withTask call.taskNumber do
    let (task, claim) ← lockOwnedWorkflowClaim call
    let lifecycle ← mutate task.lifecycle claim
    let (task, ended) ← finishOwnedClaim call { task with lifecycle } claim outcome
    insertWorkflowItem (call.fresh 0) task.mainThreadId itemKind call.actor body none call.now
    insertWorkflowAudit task call.operation outcome.text call.now
    return (task, ended)

def releaseClaim (call : ClaimCall) (handoff : String) : Tx (WorkflowTask × TaskStageClaim) := do
  require (¬ blank handoff) (.invalidInput "handoff is required")
  finishClaim call .voluntarilyReleased .handoff handoff fun lifecycle claim =>
    lifecycle.release claim.stage

def requestChanges (call : ClaimCall) (reason : String) : Tx (WorkflowTask × TaskStageClaim) := do
  require (¬ blank reason) (.invalidInput "review reason is required")
  finishClaim call .changesRequested .reviewOutcome reason fun lifecycle _ =>
    lifecycle.requestChanges

/-! ## Delivery -/

/-- Ids of rows in the order of a timestamp and then of the id. -/
def idsInOrder (rows : List (Time × Id)) : List Id :=
  (rows.insertionSort fun a b => a.1 < b.1 ∨ a.1 = b.1 ∧ a.2 ≤ b.2).map Prod.snd

def recordWorkSubmission (call : ClaimCall) (summary : String) :
    Tx (WorkflowTask × TaskStageClaim) := do
  require (¬ blank summary) (.invalidInput "submission summary is required")
  validateThreadOperationActor call.actor call.operation
  withTask call.taskNumber do
    let (task, claim) ← lockOwnedWorkflowClaim call
    Owned.require (task.lifecycle.phase = .inProgress ∧ task.lifecycle.activity = .working ∧
        claim.stage = .execution)
      (.conflict "work can only be submitted from an active execution Claim")
    insertDeliveryWorkflowItem (call.fresh 0) task.mainThreadId .workSubmission call.actor summary
      claim.id (task.lifecycle.reviewCycle + 1) none call.now
    insertWorkflowAudit task call.operation "work_submission_recorded" call.now
    return (task, claim)

/-- The loop over the prepared snapshots: each is valid, and none names a link twice. -/
def checkDeliverySnapshots : List Id → List CodeChangeSnapshot → Except DomainError Unit
  | _, [] => .ok ()
  | seen, s :: rest => do
      s.validate
      if s.taskCodeChangeId ∈ seen then
        throw (.invalidInput "duplicate code change delivery snapshot")
      checkDeliverySnapshots (s.taskCodeChangeId :: seen) rest

/-- Submissions of the cycle that is being completed. -/
def TaskRecord.submissionItemIds (r : TaskRecord) (mainThreadId : Id) (cycle : Nat) : List Id :=
  idsInOrder ((r.items.filter fun i => i.threadId = mainThreadId ∧ i.kind = .workSubmission ∧
    i.taskReviewCycle = some cycle).map fun i => (i.createdAt, i.id))

/-- Execution checks carry the cycle before its increment, so the query asks for one less. -/
def TaskRecord.executionCheckIds (r : TaskRecord) (cycle : Nat) : List Id :=
  idsInOrder ((r.checks.filter fun c => c.purpose = some .executionVerification ∧
    c.taskReviewCycle = some (cycle - 1) ∧ c.criterionId ∈ r.criteria.map (·.id)).map
      fun c => (c.checkedAt, c.id))

def TaskRecord.activeCriteria (r : TaskRecord) : List AcceptanceCriterion :=
  r.criteria.filter fun c => c.archivedAt = none

def TaskRecord.criterionRevisions (r : TaskRecord) : List CriterionRevisionSnapshot :=
  (r.activeCriteria.insertionSort fun a b =>
    a.position < b.position ∨ a.position = b.position ∧ a.id ≤ b.id).map fun c => ⟨c.id, c.revision⟩

/-- `executionCompletionPayload` (`task_workflow_store.go:646-776`). -/
def executionCompletionPayload (task : WorkflowTask) (reviewCycle : Nat)
    (codeChanges : List CodeChangeSnapshot) : TaskTx ExecutionCompletedPayload := do
  let activeIds ← Owned.rows fun r => (r.codeChanges.filter fun c => c.unlinkedAt = none).map (·.id)
  Owned.require (activeIds.length = codeChanges.length)
    (.conflict "Task code change delivery changed")
  checkDeliverySnapshots [] codeChanges
  Owned.require (∀ id ∈ activeIds, id ∈ codeChanges.map (·.taskCodeChangeId))
    (.conflict "Task code change delivery changed")
  let submissionItemIds ← Owned.rows (·.submissionItemIds task.mainThreadId reviewCycle)
  let executionCheckIds ← Owned.rows (·.executionCheckIds reviewCycle)
  let criterionRevisions ← Owned.rows (·.criterionRevisions)
  Owned.acquireAll .share (criterionRevisions.map fun c => Row.criterion c.criterionId)
  let payload : ExecutionCompletedPayload :=
    { reviewCycle, submissionItemIds, executionCheckIds, criterionRevisions, codeChanges }
  payload.validate
  return payload

def completeExecutionWithDelivery (call : ClaimCall) (summary : String)
    (codeChanges : List CodeChangeSnapshot) : Tx (WorkflowTask × TaskStageClaim) := do
  require (¬ blank summary) (.invalidInput "completion summary is required")
  validateThreadOperationActor call.actor call.operation
  withTask call.taskNumber do
    let (task, claim) ← lockOwnedWorkflowClaim call
    let lifecycle ← task.lifecycle.completeExecution
    let payload ← executionCompletionPayload task lifecycle.reviewCycle codeChanges
    let (task, ended) ←
      finishOwnedClaim call { task with lifecycle } claim .executionCompleted
    insertDeliveryWorkflowItem (call.fresh 0) task.mainThreadId .executionCompleted call.actor
      summary claim.id task.lifecycle.reviewCycle (some payload) call.now
    insertWorkflowAudit task call.operation "execution_completed" call.now
    return (task, ended)

/-! ## Issues -/

/-- `insertIssueThread`, with the primary key and `task_threads_one_open_issue_per_task`. -/
def insertIssueThread (issue : Thread) : TaskTx Unit := do
  let threads ← Owned.rows (·.threads)
  Owned.require (∀ t ∈ threads, t.id ≠ issue.id) (uniqueViolation "task_threads_pkey")
  Owned.require (issue.OpenIssue → ∀ t ∈ threads, ¬ t.OpenIssue) .activeIssue
  Owned.update (·.addThread { issue with openedBy := issue.openedBy.map storedActor })

def lockIssueThread (threadId : Id) : TaskTx Thread := do
  let found ← Owned.rows fun r => r.threads.find? fun t => t.id = threadId ∧ t.role = .issue
  let issue ← Owned.demand found .notFound
  Owned.acquire (.thread issue.id) .update
  return issue

def getIssueRequest (threadId : Id) : TaskTx ThreadItem := do
  let found ← Owned.rows fun r =>
    r.items.find? fun i => i.threadId = threadId ∧ i.kind = .resolutionRequest
  Owned.demand found (.conflict "Issue Thread has no resolution request")

/-- `persistResolvedIssue`; the resolver it asks for is always set by `Thread.resolve`. -/
def persistResolvedIssue (issue : Thread) (expectedVersion : Nat) : TaskTx Unit := do
  Owned.require issue.resolvedBy.isSome (.invalidInput "Issue resolver is required")
  let threads ← Owned.rows (·.threads)
  Owned.require ((threads.filter fun t => t.id = issue.id ∧ t.version = expectedVersion ∧
      t.issueStatus = some .open).length = 1)
    (.conflict "Issue Thread version changed")
  Owned.update (·.setThread { issue with resolvedBy := issue.resolvedBy.map storedActor }
    expectedVersion)

/-- What `ResolveIssue` and `CancelTask` do alike with the Issue they have locked: the resolution
goes into the Issue, the Issue is closed, and the summary goes into the Main Thread. All but the
payload of the summary has the time as its columns keep it, the checks that it is not zero too. -/
def closeIssue (task : WorkflowTask) (issue : Thread) (expectedThreadVersion : Nat)
    (request resolution : String) (actor : Actor) (now : Instant) (fresh : Nat → Id) :
    TaskTx Thread := do
  insertWorkflowItem (fresh 0) issue.id .resolution actor resolution none now.column
  let resolved ← issue.resolve actor now.column
  persistResolvedIssue resolved expectedThreadVersion
  insertWorkflowItem (fresh 1) task.mainThreadId .issueResolution workflowSystemActor ""
    (some { issueThreadId := issue.id, issueType := issue.issueType, request, resolution
            openedBy := issue.openedBy, resolvedBy := actor, openedAt := issue.createdAt.instant
            resolvedAt := now }) now.column
  return resolved

def requestResolution (call : ClaimCall) (issueType : IssueThreadType) (request : String) :
    Tx (WorkflowTask × TaskStageClaim × Thread) := do
  require (¬ blank request) (.invalidInput "resolution request is required")
  validateThreadOperationActor call.actor call.operation
  withTask call.taskNumber do
    let (task, claim) ← lockOwnedWorkflowClaim call
    let issue ← Thread.newIssue (call.fresh 0) issueType task.lifecycle.phase call.actor call.now
    let lifecycle ← task.lifecycle.requestResolution claim.stage
    insertIssueThread issue
    insertWorkflowItem (call.fresh 1) issue.id .resolutionRequest call.actor request none call.now
    let (task, ended) ← finishOwnedClaim call
      { task with lifecycle, activeIssueThreadId := some issue.id } claim .needsResolution
    insertSystemEvent (call.fresh 2) task
      ("Resolution requested in " ++ issueType.text ++ " Issue Thread") call.now
    insertWorkflowAudit task call.operation "resolution_requested" call.now
    return (task, ended, issue)

def resolveIssue (t : TaskId) (expectedTaskVersion : Nat) (issueThreadId : Id)
    (expectedThreadVersion : Nat) (resolution : String) (actor : Actor)
    (operation : OperationActor) (now : Instant) (fresh : Nat → Id) :
    Tx (WorkflowTask × Thread) := do
  require (¬ blank resolution) (.invalidInput "Issue resolution is required")
  validateThreadOperationActor actor operation
  withTask t do
    let task ← lockWorkflowTask t
    requireVersion task expectedTaskVersion
    Owned.require (task.activeIssueThreadId = some issueThreadId)
      (.conflict "active Issue or Task version changed")
    let issue ← lockIssueThread issueThreadId
    Owned.require (issue.version = expectedThreadVersion ∧
        issue.openedFromPhase = some task.lifecycle.phase)
      (.conflict "Issue Thread version or phase changed")
    let request ← getIssueRequest issue.id
    let resolved ← closeIssue task issue expectedThreadVersion request.body resolution actor now
      fresh
    let lifecycle ← task.lifecycle.resolveIssue
    let task ← persistWorkflowTask { task with lifecycle, activeIssueThreadId := none }
      expectedTaskVersion now.column
    insertWorkflowAudit task operation "issue_resolved" now.column
    return (task, resolved)

/-! ## Acceptance and cancellation -/

def lockTaskAcceptanceCriterion (criterionId : Id) : TaskTx AcceptanceCriterion := do
  let found ← Owned.rows fun r => r.activeCriteria.find? fun c => c.id = criterionId
  let criterion ← Owned.demand found .notFound
  Owned.acquire (.criterion criterion.id) .update
  return criterion

/-- `RecordAcceptanceCheck`. Unlike the other commands of a Claim it asks for a working Task
before it looks for the Claim, and it leaves the Task's version alone. -/
def recordAcceptanceCheck (call : ClaimCall) (check : AcceptanceCheck) : Tx AcceptanceCheck := do
  validateThreadOperationActor call.actor call.operation
  withTask call.taskNumber do
    let task ← lockWorkflowTask call.taskNumber
    requireVersion task call.expectedTaskVersion
    Owned.require (task.lifecycle.activity = .working)
      (.conflict "Task version or activity changed")
    let claim ← lockActiveTaskStageClaim
    Owned.require (claim.id = call.claimId ∧ claim.version = call.expectedClaimVersion)
      (.conflict "Task Claim version changed")
    validateClaimActor claim call.actor call.operation
    let checker := if check.checker.type = .unset then call.actor else check.checker
    Owned.require (checker = call.actor) (.forbidden "checker must match active Claim actor")
    let criterion ← lockTaskAcceptanceCriterion check.criterionId
    let cycle := task.lifecycle.reviewCycle
    let check := { check with
      id := call.fresh 0, checker, taskClaimId := some claim.id, taskReviewCycle := some cycle
      checkedAt := call.now
      purpose := some (if claim.stage = .execution then .executionVerification else .acceptance) }
    check.validateForTaskClaim criterion claim.id claim.stage cycle
    let checks ← Owned.rows (·.checks)
    Owned.require (∀ c ∈ checks, c.id ≠ call.fresh 0) (uniqueViolation "acceptance_checks_pkey")
    Owned.update (·.addCheck { check with checker := storedActor check.checker })
    insertWorkflowAudit task call.operation "acceptance_check_recorded" call.now
    return check

/-- A check that lets the criterion pass in the given cycle: the query asks for any such check,
not for the latest one. -/
def TaskRecord.Satisfied (r : TaskRecord) (cycle : Nat) (criterion : AcceptanceCriterion) : Prop :=
  ∃ c ∈ r.checks, c.criterionId = criterion.id ∧ c.criterionRevision = criterion.revision ∧
    c.purpose = some .acceptance ∧ c.taskReviewCycle = some cycle ∧ c.outcome.Satisfies
deriving Decidable

/-- `taskCompletionReadinessForCycle` (`task_workflow_store.go:1418-1460`): one
statement for the criteria and one for the relationships. -/
def taskCompletionReadinessForCycle (t : TaskId) (cycle : Nat) :
    TaskTx TaskCompletionReadiness := do
  let (active, unsatisfied) ← Owned.rows fun r => (r.activeCriteria.length,
    (r.activeCriteria.filter fun c => ¬ r.Satisfied cycle c).length)
  let (children, dependencies) ← Owned.query fun d =>
    (((d.children t).filter fun c => d.unfinished c.1).length,
      ((d.dependencies t).dedup.filter fun p => d.unfinished p).length)
  return { activeCriteria := active, unsatisfiedCriteria := unsatisfied
           unfinishedChildren := children, unfinishedDependencies := dependencies }

def acceptTask (call : ClaimCall) (summary : String) : Tx (WorkflowTask × TaskStageClaim) := do
  require (¬ blank summary) (.invalidInput "acceptance summary is required")
  validateThreadOperationActor call.actor call.operation
  withTask call.taskNumber do
    let (task, claim) ← lockOwnedWorkflowClaim call
    let readiness ← taskCompletionReadinessForCycle call.taskNumber task.lifecycle.reviewCycle
    let lifecycle ← task.lifecycle.accept readiness
    let (task, ended) ← finishOwnedClaim call { task with lifecycle } claim .taskAccepted
    insertWorkflowItem (call.fresh 0) task.mainThreadId .reviewOutcome call.actor summary none
      call.now
    insertWorkflowAudit task call.operation "task_accepted" call.now
    return (task, ended)

/-- The Claim of a working Task ends with the Task. -/
def cancelActiveClaim (task : WorkflowTask) (now : Time) : TaskTx (Option TaskStageClaim) :=
  if task.lifecycle.activity = .working then do
    let claim ← lockActiveTaskStageClaim
    let ended ← claim.complete .taskCancelled now
    updateTaskStageClaim ended claim.version
    return some ended
  else return none

/-- The Issue of a blocked Task is resolved by its cancellation. -/
def cancelActiveIssue (task : WorkflowTask) (reason : String) (actor : Actor) (now : Instant)
    (fresh : Nat → Id) : TaskTx (WorkflowTask × Option Thread) :=
  if task.lifecycle.activity = .needsResolution then do
    let issueId ← Owned.demand task.activeIssueThreadId
      (.conflict "blocked Task has no active Issue")
    let issue ← lockIssueThread issueId
    let request ← getIssueRequest issue.id
    let resolved ← closeIssue task issue issue.version request.body ("Task cancelled: " ++ reason)
      actor now fresh
    return ({ task with activeIssueThreadId := none }, some resolved)
  else return (task, none)

structure CancelTaskResult where
  task : WorkflowTask
  endedClaim : Option TaskStageClaim
  resolvedIssue : Option Thread
deriving DecidableEq, Repr

def cancelTask (t : TaskId) (expectedTaskVersion : Nat) (reason : String) (actor : Actor)
    (operation : OperationActor) (now : Instant) (fresh : Nat → Id) : Tx CancelTaskResult := do
  require (¬ blank reason) (.invalidInput "cancellation reason is required")
  validateThreadOperationActor actor operation
  withTask t do
    let task ← lockWorkflowTask t
    requireVersion task expectedTaskVersion
    let endedClaim ← cancelActiveClaim task now.column
    let (task, resolvedIssue) ← cancelActiveIssue task reason actor now fresh
    let lifecycle ← task.lifecycle.cancel
    let task ← persistWorkflowTask { task with lifecycle } expectedTaskVersion now.column
    insertSystemEvent (fresh 2) task ("Task cancelled: " ++ reason) now.column
    insertWorkflowAudit task operation "task_cancelled" now.column
    return { task, endedClaim, resolvedIssue }

end Pactline
