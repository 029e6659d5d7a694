import Mathlib.Data.Finset.Dedup
import Pactline.Graph.Closure
import Pactline.Model.WorkflowStore

/-!
# The Task store

Creating, updating and archiving Tasks (`internal/store/task_store.go`), with the deferred
constraint triggers of `migrations/0015_task_relationships_and_schedule.sql`. A trigger runs before
the writes of its transaction are visible to others, so it is modelled by the last statements of the
transaction.

An update may also write the rows of the Task's children. The several readings of the clock inside
one command are `clock 0`, `clock 1` and so on.
-/

set_option autoImplicit false

namespace Pactline

open ReadCommitted Txn

/-! ## Dependencies as a graph -/

namespace Db

/-- The Tasks one Task depends on. -/
def dependencySet (d : Db) (t : TaskId) : Finset TaskId := (d.dependencies t).toFinset

/-- Every Task that some row of `task_dependencies` points at. -/
def dependencyTargets (d : Db) : Finset TaskId :=
  (d.tasks.entries.flatMap fun e => e.2.dependencyIds).toFinset

/-- The recursive query `reachable`: the Tasks that `t` depends on, directly or not. -/
def reachable (d : Db) (t : TaskId) : Finset TaskId :=
  FiniteClosure.closure d.dependencySet d.dependencyTargets.card (d.dependencySet t)

end Db

/-! ## Checks of relationships -/

/-- `ValidateSchedule`: where both dates are set, they are in order. -/
def validateSchedule (startDate dueDate : Option Int) : Except DomainError Unit :=
  match startDate, dueDate with
  | some s, some e =>
    if e < s then .error (.invalidInput "task start date must not follow due date") else .ok ()
  | _, _ => .ok ()

/-- `SELECT … FROM tasks WHERE id=$1 FOR SHARE`. -/
def shareTask (t : TaskId) : Tx TaskRecord := do
  acquire (.task t) .share
  let found ← query (·.task t)
  demand found .notFound

/-- The body of `validateParentAssignment` where a parent is given. The guard on a completed
parent compares the status column and not the phase. -/
def validateParent (t p : TaskId) (projectId : Id) (milestoneId : Option Id)
    (status : TaskStatus) : Tx Unit := do
  require (p ≠ t) (.invalidInput "a task cannot be its own parent")
  let parent ← shareTask p
  require (parent.row.archivedAt = none)
    (.conflict "an archived task cannot become a parent")
  require (parent.row.parentTaskId = none)
    (.conflict "task relationships support exactly one parent-child level")
  require (parent.row.projectId = projectId ∧ parent.row.milestoneId = milestoneId)
    (.conflict "parent and child must share project and milestone")
  let children ← query (·.children t)
  require (children = []) (.conflict "a task with children cannot become a child")
  require (¬ (parent.row.status = .done ∧ status ≠ .done ∧ status ≠ .cancelled))
    (.conflict "a completed parent cannot receive an unfinished child")
  let related ← query fun d => decide (p ∈ d.dependencies t ∨ t ∈ d.dependencies p)
  require (related = false)
    (.conflict "direct parent and child cannot also be dependencies")

/-- `validateParentAssignment` (`task_store.go:1092-1176`). -/
def validateParentAssignment (t : TaskId) (parentId : Option TaskId) (projectId : Id)
    (milestoneId : Option Id) (status : TaskStatus) : Tx Unit :=
  match parentId with
  | none => return ()
  | some p => validateParent t p projectId milestoneId status

/-- One round of the loop of `validateDependencyAssignments`. -/
def validateDependency (t : TaskId) (projectId : Id) (parentId : Option TaskId)
    (seen : List TaskId) (dependencyId : TaskId) : Tx Unit := do
  require (dependencyId ≠ t) (.invalidInput "a task cannot depend on itself")
  require (dependencyId ∉ seen) (.invalidInput "duplicate task dependency")
  let dependency ← shareTask dependencyId
  require (dependency.row.archivedAt = none)
    (.conflict "archived tasks cannot be dependencies")
  require (dependency.row.projectId = projectId)
    (.conflict "task dependencies must stay within one project")
  require (parentId ≠ some dependencyId ∧ dependency.row.parentTaskId ≠ some t)
    (.conflict "direct parent and child cannot also be dependencies")
  let createsCycle ← query fun d => decide (t ∈ d.reachable dependencyId)
  require (createsCycle = false) (.conflict "task dependency cycle is not allowed")

/-- `validateDependencyAssignments` (`task_store.go:1178-1247`). -/
def validateDependencyAssignments (t : TaskId) (projectId : Id) (parentId : Option TaskId) :
    List TaskId → List TaskId → Tx Unit
  | _, [] => return ()
  | seen, dependencyId :: rest => do
      validateDependency t projectId parentId seen dependencyId
      validateDependencyAssignments t projectId parentId (dependencyId :: seen) rest

/-- `countUnfinishedTasks` (`task_store.go:1330-1349`). -/
def countUnfinishedTasks (ids : List TaskId) : Tx Nat :=
  query fun d => (ids.dedup.filter fun t => d.unfinished t).length

/-! ## The deferred triggers -/

/-- `validate_task_relationships`, for one inserted or updated row of `tasks`
(`migrations/0015_task_relationships_and_schedule.sql:26-99`). -/
def validateTaskRelationships (t : TaskId) (row : TaskRow) : Tx Unit := do
  match row.parentTaskId with
  | some p => do
      let found ← query (·.task p)
      let parent ← demand found (.constraint "task parent does not exist")
      require (parent.row.parentTaskId = none)
        (.constraint "task relationships support exactly one parent-child level")
      let children ← query (·.children t)
      require (children = []) (.constraint "a task with children cannot become a child")
      require (parent.row.projectId = row.projectId ∧
          parent.row.milestoneId = row.milestoneId)
        (.constraint "parent and child must share project and milestone")
  | none => do
      let children ← query (·.children t)
      require (∀ c ∈ children, c.2.row.projectId = row.projectId ∧
          c.2.row.milestoneId = row.milestoneId)
        (.constraint "parent and children must share project and milestone")
  let projects ← query fun d => (d.dependencies t).filterMap (fun p => (d.task p).map
    (·.row.projectId)) ++ (d.dependents t).map (·.2.row.projectId)
  require (∀ projectId ∈ projects, projectId = row.projectId)
    (.constraint "task dependencies must stay within one project")
  match row.parentTaskId with
  | some p => do
      let related ← query fun d => decide (p ∈ d.dependencies t ∨ t ∈ d.dependencies p)
      require (related = false)
        (.constraint "direct parent and child cannot also be dependencies")
  | none => return ()

/-- `validate_task_dependency`, for one inserted row of `task_dependencies`
(`migrations/0015_task_relationships_and_schedule.sql:108-152`). -/
def validateTaskDependency (t dependencyId : TaskId) : Tx Unit := do
  let task ← query (·.task t)
  let predecessor ← query (·.task dependencyId)
  -- A missing row leaves the variables NULL, and a comparison with NULL raises nothing.
  require (∀ r ∈ task, ∀ p ∈ predecessor, r.row.projectId = p.row.projectId)
    (.constraint "task dependencies must stay within one project")
  require ((∀ r ∈ task, r.row.parentTaskId ≠ some dependencyId) ∧
      ∀ p ∈ predecessor, p.row.parentTaskId ≠ some t)
    (.constraint "direct parent and child cannot also be dependencies")
  let createsCycle ← query fun d => decide (t ∈ d.reachable dependencyId)
  require (createsCycle = false) (.constraint "task dependency cycle is not allowed")

def validateTaskDependencies (t : TaskId) : List TaskId → Tx Unit
  | [] => return ()
  | dependencyId :: rest => do
      validateTaskDependency t dependencyId
      validateTaskDependencies t rest

/-! ## Creating a Task -/

/-- The Task a caller asks for; an absent status, priority or mode takes its default. -/
structure TaskDraft where
  title : String
  context : String
  expectedResult : String
  description : String
  status : Option TaskStatus
  priority : Option TaskPriority
  executionMode : Option TaskExecutionMode
  assigneeId : Option Id
  creatorId : Id
  startDate : Option Int
  dueDate : Option Int
  projectId : Id
  milestoneId : Option Id
  parentTaskId : Option TaskId
deriving DecidableEq, Repr

def TaskDraft.statusOrDefault (draft : TaskDraft) : TaskStatus := draft.status.getD .todo

def TaskDraft.validate (draft : TaskDraft) (actor : OperationActor) : Except DomainError Unit := do
  actor.validate
  if draft.creatorId ≠ actor.userId then
    throw (.forbidden "task creator must match operation actor")
  if blank draft.title then throw (.invalidInput "title is required")
  if blank draft.context then throw (.invalidInput "task context is required")
  if blank draft.expectedResult then throw (.invalidInput "task expected result is required")
  if draft.projectId = 0 then throw (.invalidInput "task project is required")
  validateSchedule draft.startDate draft.dueDate

/-- The inserted row: the lifecycle columns take the defaults of the schema, and `completed_at`
follows the status column. -/
def TaskDraft.row (draft : TaskDraft) (now : Time) : TaskRow :=
  { version := 1, title := draft.title, context := draft.context
    expectedResult := draft.expectedResult, description := draft.description
    status := draft.statusOrDefault, priority := draft.priority.getD .none
    executionMode := draft.executionMode.getD .humanOnly, assigneeId := draft.assigneeId
    creatorId := draft.creatorId, startDate := draft.startDate, dueDate := draft.dueDate
    projectId := draft.projectId, milestoneId := draft.milestoneId
    parentTaskId := draft.parentTaskId, lifecycle := .new, activeIssueThreadId := none
    completedAt := if draft.statusOrDefault = .done then some now else none, archivedAt := none }

/-- The rows of a new Task, with the Main Thread that the insert trigger adds. -/
def TaskDraft.record (draft : TaskDraft) (mainThreadId : Id) (now : Time) : TaskRecord :=
  { row := draft.row now, dependencyIds := [], labelIds := [], claims := []
    threads := [Thread.newMain mainThreadId now], items := [], criteria := [], checks := []
    codeChanges := [], audit := [], legacySubmittedAt := none }

/-- The check of a creation with status `done`: no dependency is unfinished. -/
def validateCreatedStatus (status : TaskStatus) (dependencyIds : List TaskId) : Tx Unit :=
  if status = .done then do
    let unfinished ← countUnfinishedTasks dependencyIds
    validateCompletion ⟨0, 0, 0, unfinished⟩
  else return ()

/-- `CreateWithOperation` (`task_store.go:336-485`). -/
def createTask (t : TaskId) (draft : TaskDraft) (labelIds : List Id)
    (dependencyIds : List TaskId) (actor : OperationActor) (mainThreadId : Id)
    (clock : Nat → Time) : Tx TaskRow := do
  draft.validate actor
  validateParentAssignment t draft.parentTaskId draft.projectId draft.milestoneId
    draft.statusOrDefault
  validateDependencyAssignments t draft.projectId draft.parentTaskId [] dependencyIds
  validateCreatedStatus draft.statusOrDefault dependencyIds
  acquire (.task t) .update
  let existing ← query (·.task t)
  require (existing = none) (uniqueViolation "tasks_pkey")
  modify (Db.setTask t (draft.record mainThreadId (clock 0)))
  modify (Db.modifyTask t (·.setLabels labelIds.dedup))
  modify (Db.modifyTask t (·.setDependencies dependencyIds))
  let event : BusinessAuditEvent := ⟨clock 1, actor, "task", t, "created"⟩
  event.validate
  modify (Db.modifyTask t (·.addAudit event))
  validateTaskRelationships t (draft.row (clock 0))
  validateTaskDependencies t dependencyIds
  return draft.row (clock 0)

/-! ## Updating a Task -/

/-- A partial update; for a nullable column the inner `none` clears it. -/
structure TaskPatch where
  title : Option String
  context : Option String
  expectedResult : Option String
  description : Option String
  status : Option TaskStatus
  priority : Option TaskPriority
  executionMode : Option TaskExecutionMode
  assigneeId : Option (Option Id)
  startDate : Option (Option Int)
  dueDate : Option (Option Int)
  labelIds : Option (List Id)
  projectSet : Bool
  milestoneId : Option (Option Id)
  parentTaskId : Option (Option TaskId)
  dependencyIds : Option (List TaskId)
  scheduleShiftDays : Option Int
deriving DecidableEq, Repr

/-- The columns a patch sets without looking at other rows. -/
def TaskPatch.applyFields (patch : TaskPatch) (row : TaskRow) : Except DomainError TaskRow := do
  if ∃ title ∈ patch.title, blank title then throw (.invalidInput "title is required")
  if ∃ context ∈ patch.context, blank context then
    throw (.invalidInput "task context is required")
  if ∃ result ∈ patch.expectedResult, blank result then
    throw (.invalidInput "task expected result is required")
  return { row with
    title := patch.title.getD row.title, context := patch.context.getD row.context
    expectedResult := patch.expectedResult.getD row.expectedResult
    description := patch.description.getD row.description
    status := patch.status.getD row.status, priority := patch.priority.getD row.priority
    executionMode := patch.executionMode.getD row.executionMode
    assigneeId := patch.assigneeId.getD row.assigneeId
    startDate := patch.startDate.getD row.startDate, dueDate := patch.dueDate.getD row.dueDate }

def TaskRow.shifted (row : TaskRow) (days : Int) : TaskRow :=
  { row with startDate := row.startDate.map (· + days), dueDate := row.dueDate.map (· + days) }

def TaskRow.Scheduled (row : TaskRow) : Prop := row.startDate.isSome ∨ row.dueDate.isSome
deriving Decidable

/-- `schedule_shift_days`: a Task without dates may be shifted only for the sake of a child. -/
def shiftSchedule (t : TaskId) (patch : TaskPatch) (row : TaskRow) : Tx TaskRow :=
  match patch.scheduleShiftDays with
  | none => return row
  | some days => do
      require (days ≠ 0) (.invalidInput "schedule_shift_days must not be zero")
      require (patch.startDate = none ∧ patch.dueDate = none)
        (.invalidInput "schedule_shift_days cannot be combined with explicit schedule dates")
      let row := row.shifted days
      if row.Scheduled then return row
      else do
        let children ← query (·.children t)
        require (∃ c ∈ children, c.2.row.Scheduled)
          (.conflict "an unscheduled task cannot be shifted")
        return row

/-- A Task that is ready gets no unfinished dependency. -/
def validateReadyDependencies (phase : TaskPhase) (ids : List TaskId) : Tx Unit :=
  if phase = .ready then do
    let unfinished ← countUnfinishedTasks ids
    require (unfinished = 0)
      (.invalidTransition "withdraw readiness before adding an unfinished dependency")
  else return ()

/-- The part of an update that replaces the dependencies. -/
def updateDependencies (t : TaskId) (patch : TaskPatch) (old : TaskRecord) (row : TaskRow) :
    Tx Unit :=
  match patch.dependencyIds with
  | none => return ()
  | some ids => do
      validateDependencyAssignments t row.projectId row.parentTaskId [] ids
      validateReadyDependencies old.row.lifecycle.phase ids
      modify (Db.modifyTask t (·.setDependencies ids))

/-- The check that counts for the status column: the latest one of the criterion's revision, and
after a submission in the older table only a person's. -/
def TaskRecord.latestCheck (r : TaskRecord) (criterion : AcceptanceCriterion) :
    Option AcceptanceCheck :=
  ((r.checks.filter fun c => c.criterionId = criterion.id ∧
      c.criterionRevision = criterion.revision ∧
      ∀ at_ ∈ r.legacySubmittedAt, c.checker.type = .user ∧ at_ ≤ c.checkedAt).insertionSort
    fun a b => b.checkedAt < a.checkedAt ∨ a.checkedAt = b.checkedAt ∧ b.id ≤ a.id).head?

/-- The readiness query of an update to status `done`. -/
def Db.statusReadiness (d : Db) (t : TaskId) (r : TaskRecord) : TaskCompletionReadiness :=
  { activeCriteria := r.activeCriteria.length
    unsatisfiedCriteria := (r.activeCriteria.filter fun c =>
      ¬ ∃ check ∈ r.latestCheck c, check.outcome.Satisfies).length
    unfinishedChildren := ((d.children t).filter fun c => d.unfinished c.1).length
    unfinishedDependencies := ((d.dependencies t).filter fun p => d.unfinished p).length }

/-- The new `completed_at`: it follows the status column and not the phase. -/
def updateCompletedAt (t : TaskId) (patch : TaskPatch) (old : TaskRecord) (status : TaskStatus)
    (now : Time) : Tx (Option Time) :=
  if status = .done ∧ (old.row.status ≠ .done ∨ patch.dependencyIds.isSome) then do
    let readiness ← query fun d => (d.task t).map (d.statusReadiness t)
    let readiness ← demand readiness .notFound
    validateCompletion readiness
    return if old.row.status ≠ .done then some now else old.row.completedAt
  else if old.row.status = .done ∧ status ≠ .done then return none
  else return old.row.completedAt

/-! ### Children that follow their parent -/

/-- `SELECT … WHERE parent_task_id=$1 AND … ORDER BY number FOR UPDATE`. The rows are found
first and locked then; after a wait the condition is tested again on the row as it has become. -/
def lockChildren (t : TaskId) (wanted : TaskRow → Bool) : Tx (List (TaskId × TaskRecord)) := do
  let found ← query fun d =>
    (((d.children t).filter fun c => wanted c.2.row).map (·.1)).insertionSort (· ≤ ·)
  acquireAll .update (found.map Row.task)
  query fun d => found.filterMap fun c => (d.task c).bind fun r =>
    if r.row.parentTaskId = some t ∧ wanted r.row then some (c, r) else none

/-- A change of each child's row, recorded under the given action. -/
def updateChildren (change : TaskRow → TaskRow) (action : String) (actor : OperationActor)
    (now : Time) : List (TaskId × TaskRecord) → Tx Unit
  | [] => return ()
  | (c, _) :: rest => do
      modify (Db.modifyTask c fun r =>
        r.setRow { change r.row with version := r.row.version + 1 })
      let event : BusinessAuditEvent := ⟨now, actor, "task", c, action⟩
      event.validate
      modify (Db.modifyTask c (·.addAudit event))
      updateChildren change action actor now rest

/-- A row of `task_dependencies` with one end inside the group and one outside. -/
def Db.externalDependency (d : Db) (group : List TaskId) : Bool :=
  d.tasks.entries.any fun e => e.2.dependencyIds.any fun p =>
    decide (e.1 ∈ group) != decide (p ∈ group)

/-- A group that changes its Project may have no dependency that leaves it; the Project is taken
from the first child. -/
def validateGroupMove (t : TaskId) (projectId : Id) (children : List (TaskId × TaskRecord)) :
    Tx Unit :=
  if ∃ first ∈ children.head?, first.2.row.projectId ≠ projectId then do
    let external ← query fun d => d.externalDependency (t :: children.map (·.1))
    require (external = false) (.conflict
      "detach external dependencies before moving the parent group to another project")
  else return ()

/-- `moveTaskChildren` (`task_store.go:1351-1468`); gives back the children it has written. -/
def moveTaskChildren (t : TaskId) (projectId : Id) (milestoneId : Option Id)
    (actor : OperationActor) (now : Time) : Tx (List TaskId) := do
  let children ← lockChildren t fun _ => true
  validateGroupMove t projectId children
  updateChildren (fun row => { row with projectId, milestoneId }) "moved_with_parent" actor now
    children
  return children.map (·.1)

/-- `shiftTaskChildrenSchedules` (`task_store.go:1470-1571`). -/
def shiftTaskChildrenSchedules (t : TaskId) (days : Int) (actor : OperationActor) (now : Time) :
    Tx Unit := do
  let children ← lockChildren t fun row => row.Scheduled
  updateChildren (·.shifted days) "schedule_shifted_with_parent" actor now children

/-- The deferred trigger on each child that was moved. -/
def validateChildRelationships : List TaskId → Tx Unit
  | [] => return ()
  | c :: rest => do
      let found ← query (·.task c)
      let child ← demand found .notFound
      validateTaskRelationships c child.row
      validateChildRelationships rest

/-- The children follow a Task to another Milestone, unless it was a child itself. -/
def moveWithParent (t : TaskId) (old row : TaskRow) (actor : OperationActor) (now : Time) :
    Tx (List TaskId) :=
  if old.parentTaskId = none ∧ old.milestoneId ≠ row.milestoneId then
    moveTaskChildren t row.projectId row.milestoneId actor now
  else return []

def shiftWithParent (t : TaskId) (patch : TaskPatch) (old : TaskRow) (actor : OperationActor)
    (now : Time) : Tx Unit :=
  match patch.scheduleShiftDays with
  | some days =>
    if old.parentTaskId = none then shiftTaskChildrenSchedules t days actor now else return ()
  | none => return ()

/-! ### The command -/

def updateLabels (t : TaskId) (patch : TaskPatch) : Tx Unit :=
  match patch.labelIds with
  | some ids => modify (Db.modifyTask t (·.setLabels ids.dedup))
  | none => return ()

/-- The new row of an update, with the checks that come before any other row is read for good. -/
def patchedRow (t : TaskId) (patch : TaskPatch) (old : TaskRow) : Tx TaskRow := do
  let row ← patch.applyFields old
  let row ← shiftSchedule t patch row
  require (patch.projectSet = false) (.conflict "Task Project is immutable")
  let row := { row with
    milestoneId := patch.milestoneId.getD row.milestoneId
    parentTaskId := patch.parentTaskId.getD row.parentTaskId }
  require (row.projectId ≠ 0) (.invalidInput "task project is required")
  validateSchedule row.startDate row.dueDate
  require (¬ (old.parentTaskId.isSome ∧ old.milestoneId ≠ row.milestoneId ∧
      patch.parentTaskId ≠ some none))
    (.conflict "detach a child before moving it to another project or milestone")
  return row

/-- The statements of an update from the `UPDATE` of the row on, with the deferred triggers in the
order of the statements that queued them: the rows of `task_dependencies` were inserted first. -/
def storeUpdate (t : TaskId) (patch : TaskPatch) (old row : TaskRow) (actor : OperationActor)
    (clock : Nat → Time) : Tx TaskRow := do
  modify (Db.modifyTask t (·.setRow row))
  let moved ← moveWithParent t old row actor (clock 1)
  shiftWithParent t patch old actor (clock 2)
  updateLabels t patch
  let event : BusinessAuditEvent := ⟨clock 3, actor, "task", t, "updated"⟩
  event.validate
  modify (Db.modifyTask t (·.addAudit event))
  validateTaskDependencies t (patch.dependencyIds.getD [])
  validateTaskRelationships t row
  validateChildRelationships moved
  return row

/-- `updateWithExpectedVersion` (`task_store.go:548-967`). The Project never
changes here, so the branches for a changed Project are left out. -/
def updateTask (t : TaskId) (expectedVersion : Option Nat) (patch : TaskPatch)
    (actor : OperationActor) (clock : Nat → Time) : Tx TaskRow := do
  actor.validate
  acquire (.task t) .update
  let found ← query (·.task t)
  let old ← demand found .notFound
  require (∀ version ∈ expectedVersion, old.row.version = version)
    (.versionConflict old.row.version)
  let row ← patchedRow t patch old.row
  validateParentAssignment t row.parentTaskId row.projectId row.milestoneId row.status
  acquireAll .update ((old.dependencyIds.insertionSort (· ≤ ·)).map (Row.dependency t))
  updateDependencies t patch old row
  let completedAt ← updateCompletedAt t patch old row.status (clock 0)
  storeUpdate t patch old.row { row with completedAt, version := old.row.version + 1 } actor clock

/-! ## Archiving -/

/-- `setArchivedWithExpectedVersion` (`task_store.go:1002-1088`). -/
def setArchived (t : TaskId) (expectedVersion : Option Nat) (archived : Bool)
    (actor : OperationActor) (clock : Nat → Time) : Tx TaskRow := do
  actor.validate
  withTask t do
    let row ← Owned.rows (·.row)
    Owned.require (∀ version ∈ expectedVersion, row.version = version)
      (.versionConflict row.version)
    Owned.require (¬ (archived = true ∧ row.archivedAt = none ∧
        (row.lifecycle.activity = .working ∨ row.lifecycle.activity = .needsResolution)))
      (.conflict "release, resolve, or cancel the active Task workflow before archiving")
    if row.archivedAt.isSome ≠ archived then
      insertBusinessAudit ⟨clock 0, actor, "task", t, if archived then "archived" else "restored"⟩
    let row := { row with
      archivedAt := if archived then some (row.archivedAt.getD (clock 1)) else none
      version := row.version + 1 }
    Owned.update (·.setRow row)
    return row

end Pactline
