import Pactline.Model.TaskStore

/-!
# Criteria, checks and code changes

The versioned commands on a Task's acceptance criteria
(`internal/store/acceptance_versioned_store.go`), the links of a Task to code changes
(`internal/store/task_code_change_store.go`) and the progress of a Claim
(`internal/store/task_claim_commands.go`).

The criteria of Milestones are with the Projects.
-/

set_option autoImplicit false

namespace Pactline

open ReadCommitted Txn

/-! ## Criteria -/

/-- The Task that owns a criterion, found by a statement without a lock. -/
def Db.criterionOwner (d : Db) (criterionId : Id) : Option TaskId :=
  (d.tasks.entries.find? fun e => e.2.activeCriteria.any fun c => c.id = criterionId).map (·.1)

/-- `incrementVersion` on the locked Task. -/
def incrementTaskVersion (expectedVersion : Nat) : TaskTx Nat := do
  let row ← Owned.rows (·.row)
  Owned.require (row.version = expectedVersion) (.versionConflict expectedVersion)
  Owned.update (·.setRow { row with version := expectedVersion + 1 })
  return expectedVersion + 1

/-- The two events of a criterion command: one of the entity it changes, one of its Task. -/
def auditCriterion (t : TaskId) (actor : OperationActor) (entityType : String) (entityId : Id)
    (action ownerAction : String) (clock : Nat → Time) : TaskTx Unit := do
  insertBusinessAudit ⟨clock 0, actor, entityType, entityId, action⟩
  insertBusinessAudit ⟨clock 1, actor, "task", t, ownerAction⟩

/-- `CreateTaskCriterionVersioned`, by `createVersioned`
(`acceptance_versioned_store.go:72-135`). -/
def createTaskCriterion (t : TaskId) (expectedTaskVersion : Nat)
    (criterion : AcceptanceCriterion) (actor : OperationActor) (clock : Nat → Time)
    (fresh : Nat → Id) : Tx (AcceptanceCriterion × Nat) := do
  actor.validate
  let criterion := createdCriterion criterion fresh
  criterion.validate
  withTask t do
    let version ← Owned.rows (·.row.version)
    Owned.require (version = expectedTaskVersion) (.versionConflict version)
    let criteria ← Owned.rows (·.criteria)
    Owned.require (∀ c ∈ criteria, c.id ≠ criterion.id)
      (uniqueViolation "acceptance_criteria_pkey")
    Owned.update fun r => r.setCriteria (r.criteria ++ [criterion])
    let version ← incrementTaskVersion version
    auditCriterion t actor "acceptance_criterion" criterion.id "created" "criterion_created" clock
    return (criterion, version)

/-- The second half of `lockCriterionAndOwners`, under the lock of the Task. -/
def lockCriterion (criterionId : Id) (expectedVersion : Nat) :
    TaskTx (AcceptanceCriterion × Nat) := do
  let taskVersion ← Owned.rows (·.row.version)
  let criterion ← lockTaskAcceptanceCriterion criterionId
  Owned.require (criterion.version = expectedVersion) (.versionConflict criterion.version)
  return (criterion, taskVersion)

/-- `lockCriterionAndOwners` (`acceptance_versioned_store.go:540-591`): the owner
is looked up before anything is locked, and the criterion is looked up again under the lock. -/
def withCriterion {α : Type} (criterionId : Id) (body : TaskId → TaskTx α) : Tx α := do
  let found ← query (·.criterionOwner criterionId)
  let t ← demand found .notFound
  withTask t (body t)

def TaskRecord.replaceCriterion (r : TaskRecord) (criterion : AcceptanceCriterion) : TaskRecord :=
  r.setCriteria (r.criteria.map fun c => if c.id = criterion.id then criterion else c)

/-- `UpdateCriterionVersioned` (`acceptance_versioned_store.go:137-214`). -/
def updateCriterion (criterionId : Id) (expectedVersion : Nat)
    (text instructions : Option String) (position : Option Int) (actor : OperationActor)
    (clock : Nat → Time) : Tx (AcceptanceCriterion × Nat) := do
  actor.validate
  withCriterion criterionId fun t => do
    let (current, taskVersion) ← lockCriterion criterionId expectedVersion
    let edited := current.edit (text.getD current.criterion)
      (instructions.getD current.verificationInstructions)
    let moved := edited.move (position.getD edited.position)
    moved.validate
    let criterion := { moved with version := current.version + 1 }
    Owned.update (·.replaceCriterion criterion)
    let taskVersion ← incrementTaskVersion taskVersion
    auditCriterion t actor "acceptance_criterion" criterionId "updated" "criterion_updated" clock
    return (criterion, taskVersion)

/-- `AddCheckVersioned`, by `addCheckVersioned` (`acceptance_versioned_store.go:272-371`). -/
def addCheck (criterionId : Id) (expectedVersion : Nat) (check : AcceptanceCheck)
    (actor : OperationActor) (clock : Nat → Time) (fresh : Nat → Id) :
    Tx (AcceptanceCheck × Nat) := do
  actor.validate
  withCriterion criterionId fun t => do
    let (criterion, taskVersion) ← lockCriterion criterionId expectedVersion
    let check := check.unclaimed criterionId
    check.validateBase criterion
    let check := check.stored (clock 2) fresh
    let checks ← Owned.rows (·.checks)
    Owned.require (∀ c ∈ checks, c.id ≠ check.id) (uniqueViolation "acceptance_checks_pkey")
    Owned.update (·.addCheck check)
    Owned.update (·.replaceCriterion { criterion with version := criterion.version + 1 })
    let taskVersion ← incrementTaskVersion taskVersion
    auditCriterion t actor "acceptance_check" check.id "created" "acceptance_checked" clock
    return (check, taskVersion)

/-- `RemoveCriterionVersioned` (`acceptance_versioned_store.go:373-472`): a
criterion that was ever checked is archived and not deleted. -/
def removeCriterion (criterionId : Id) (expectedVersion : Nat) (actor : OperationActor)
    (clock : Nat → Time) : Tx Nat := do
  actor.validate
  withCriterion criterionId fun t => do
    let (criterion, taskVersion) ← lockCriterion criterionId expectedVersion
    let checkCount ← Owned.rows fun r =>
      (r.checks.filter fun c => c.criterionId = criterionId).length
    if checkCount = 0 then
      Owned.update fun r => r.setCriteria (r.criteria.filter fun c => c.id ≠ criterionId)
    else
      Owned.update (·.replaceCriterion
        { criterion with archivedAt := some (clock 2), version := criterion.version + 1 })
    let taskVersion ← incrementTaskVersion taskVersion
    auditCriterion t actor "acceptance_criterion" criterionId "removed" "criterion_removed" clock
    return taskVersion

/-! ## Code changes -/

/-- `lockActiveProjectRepository` (`task_code_change_store.go:330-353`). -/
def lockActiveProjectRepository (repositoryId projectId : Id) : TaskTx ProjectRepository := do
  Owned.acquire (.repository repositoryId) .share
  let found ← Owned.query fun d => d.repositories.lookup repositoryId
  let repository ← Owned.demand found .notFound
  Owned.require (repository.projectId = projectId ∧ repository.bound ∧
    repository.connectionActive) .notFound
  return repository

/-- Links are made and ended only in the claimed execution of a Task that is not archived. -/
def requireClaimedExecution (task : WorkflowTask) (claim : TaskStageClaim) (message : String) :
    TaskTx Unit :=
  Owned.require (task.archivedAt = none ∧ task.lifecycle.phase = .inProgress ∧
    task.lifecycle.activity = .working ∧ claim.stage = .execution) (.invalidTransition message)

/-- A binding of a repository, or its Connection, has changed: `Bind`, `Unbind` and the stores of
the Connections (`project_repository_store.go:83-253`, `repository_connection_store.go:75-346`) as
far as links depend on them, which is that the row of the binding gets other values. -/
def setRepository (repositoryId : Id) (repository : ProjectRepository) : Tx Unit := do
  acquire (.repository repositoryId) .update
  modify fun d => { d with repositories := d.repositories.insert repositoryId repository }

/-- The link `Link` stores. -/
@[simps] def newLink (call : ClaimCall) (claim : TaskStageClaim) (projectRepositoryId : Id)
    (codeChange : CodeChange) : TaskCodeChange :=
  { id := call.fresh 0, projectRepositoryId, kind := codeChange.kind
    changeNumber := codeChange.changeNumber, providerChangeId := codeChange.providerChangeId
    webURL := codeChange.webURL, linkedBy := call.actor, linkedThroughClaimId := claim.id
    linkedAt := call.now, unlinkedBy := none, unlinkedThroughClaimId := none, unlinkedAt := none }

/-- The link after `Unlink`. -/
@[simps] def TaskCodeChange.unlinked (link : TaskCodeChange) (call : ClaimCall)
    (claim : TaskStageClaim) : TaskCodeChange :=
  { link with
    unlinkedBy := some call.actor, unlinkedAt := some call.now
    unlinkedThroughClaimId := some claim.id }

/-- The part of `Link` under the lock of the Task: everything but the observation columns. -/
def linkUnderLock (call : ClaimCall) (projectRepositoryId : Id) (codeChange : CodeChange) :
    TaskTx (WorkflowTask × TaskCodeChange) := do
  let (task, claim) ← lockOwnedWorkflowClaim call
  requireClaimedExecution task claim
    "code changes can be linked only during claimed execution"
  let repository ← lockActiveProjectRepository projectRepositoryId task.projectId
  Owned.require (repository.provider = codeChange.provider)
    (.conflict "code change provider does not match Repository Connection")
  let link := newLink call claim projectRepositoryId codeChange
  link.validateNew task.projectId codeChange.provider codeChange.observation
  let links ← Owned.rows (·.codeChanges)
  Owned.require (∀ l ∈ links, l.id ≠ link.id) (uniqueViolation "task_code_changes_pkey")
  Owned.require (∀ l ∈ links, l.Active → ¬ (l.projectRepositoryId = projectRepositoryId ∧
      l.kind = link.kind ∧ l.changeNumber = link.changeNumber))
    (uniqueViolation "task_code_changes_active_reference")
  Owned.update fun r => r.setCodeChanges (r.codeChanges ++ [link])
  let task ← persistWorkflowTask task call.expectedTaskVersion call.now
  insertBusinessAudit ⟨call.now, call.operation, "task_code_change", link.id, "linked"⟩
  return (task, link)

/-- `Link` (`task_code_change_store.go:104-214`). It compares no deadline. The
observation columns of the new row come with the rest of it at the commit. -/
def linkCodeChange (call : ClaimCall) (projectRepositoryId : Id) (codeChange : CodeChange) :
    Tx (WorkflowTask × TaskCodeChange) := do
  codeChange.validate
  require (codeChange.observation.status = .confirmed)
    (.invalidInput "a code change must be confirmed before linking")
  let result ← withTask call.taskNumber (linkUnderLock call projectRepositoryId codeChange)
  modify fun d =>
    { d with observations := d.observations.insert result.2.id codeChange.observation }
  return result

/-- `Unlink` (`task_code_change_store.go:216-291`). It compares no deadline. -/
def unlinkCodeChange (call : ClaimCall) (linkId : Id) : Tx (WorkflowTask × TaskCodeChange) :=
  withTask call.taskNumber do
    let (task, claim) ← lockOwnedWorkflowClaim call
    requireClaimedExecution task claim
      "code changes can be unlinked only during claimed execution"
    let found ← Owned.rows fun r => r.codeChanges.find? fun l => l.id = linkId
    let link ← Owned.demand found .notFound
    Owned.acquire (.codeChange linkId) .update
    Owned.require link.Active (.conflict "code change is already unlinked")
    let ended := link.unlinked call claim
    Owned.update fun r => r.setCodeChanges
      (r.codeChanges.map fun l => if l.id = linkId then ended else l)
    let task ← persistWorkflowTask task call.expectedTaskVersion call.now
    insertBusinessAudit ⟨call.now, call.operation, "task_code_change", link.id, "unlinked"⟩
    return (task, ended)

/-- What an observation that is not confirmed leaves of the one before. -/
def CodeChangeObservation.supersede (old new : CodeChangeObservation) : CodeChangeObservation :=
  if new.status = .confirmed then new
  else { old with status := new.status, observedAt := new.observedAt }

/-- `UpdateObservation` (`task_code_change_store.go:293-328`): one statement, under
no lock but that of the link's own row. -/
def updateObservation (linkId : Id) (observation : CodeChangeObservation) : Tx Unit := do
  observation.validate
  acquire (.codeChange linkId) .update
  let found ← query fun d => d.observations.lookup linkId
  let old ← demand found .notFound
  modify fun d =>
    { d with observations := d.observations.insert linkId (old.supersede observation) }

/-! ## Progress of a Claim -/

def executionCycleOffset (stage : TaskClaimStage) : Nat := if stage = .execution then 1 else 0

/-- The transaction of `RecordClaimProgress` (`task_claim_commands.go:170-228`); the versions of the
Task and of the Claim are neither compared nor changed. -/
def recordClaimProgress (t : TaskId) (claimId : Id) (body : String) (actor : Actor)
    (operation : OperationActor) (now : Time) (fresh : Nat → Id) :
    Tx (WorkflowTask × TaskStageClaim) :=
  withTask t do
    let task ← lockWorkflowTask t
    let claim ← lockActiveTaskStageClaim
    Owned.require (claim.id = claimId) (.conflict "Task Claim is no longer active")
    validateClaimActor claim actor operation
    Owned.require (task.lifecycle.activity = .working)
      (.conflict "progress requires a working Task")
    insertDeliveryWorkflowItem (fresh 0) task.mainThreadId .progress actor body claim.id
      (task.lifecycle.reviewCycle + executionCycleOffset claim.stage) none now
    insertWorkflowAudit task operation "claim_progress_recorded" now
    return (task, claim)

end Pactline
