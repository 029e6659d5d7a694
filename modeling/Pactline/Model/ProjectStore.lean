import Pactline.Model.Workspace

/-!
# The stores of Projects, members and Milestones

`internal/store/project_store.go`, `internal/store/project_membership_store.go`,
`internal/store/milestone_versioned_store.go` and the part of
`internal/store/acceptance_versioned_store.go` that is about Milestones. Every transaction locks
the Project's row `FOR UPDATE` before anything else, and owns the Project from then on.

The rows of `project_activity` are not modelled.
-/

set_option autoImplicit false

namespace Pactline

open ReadCommitted

/-! ## Projects -/

abbrev ProjectTx := RowTx ProjectRecord

def withProject {α : Type} (p : Id) (body : ProjectRecord → ProjectTx α) : WorkTx α :=
  withRow Workspace.projectTable .project p body

/-- `InsertBusinessAudit` in a transaction on a Project. -/
def auditProject (event : BusinessAuditEvent) : ProjectTx Unit := do
  event.validate
  Owned.update (·.addAudit event)

/-- `lockVersion` and `lockProjectVersion`, with the comparison that follows them. -/
def requireProjectVersion (r : ProjectRecord) (expectedVersion : Nat) : ProjectTx Unit :=
  Owned.require (r.row.version = expectedVersion) (.versionConflict r.row.version)

/-- `incrementVersion` and `bumpProjectVersion`: the row is locked, so the version it is asked for
is the one it has. -/
def incrementProjectVersion : ProjectTx Nat := do
  let row ← Owned.rows (·.row)
  Owned.update (·.setRow { row with version := row.version + 1 })
  return row.version + 1

/-- `ProjectStore.CreateWithOperation` (`project_store.go:61-121`): the Project and
its first administrator. -/
def createProject (p : Id) (name description : String) (creatorId : Id) (actor : OperationActor)
    (membershipId : Id) (now : Time) : WorkTx Project := do
  actor.validate
  Txn.require (creatorId = actor.userId) (.forbidden "project creator must match operation actor")
  let project : Project := { version := 1, name, description, creatorId, archivedAt := none }
  project.validate
  insertRow Workspace.projectTable .project p ⟨project, ∅, ∅, ∅, []⟩ "projects_pkey" do
    let creator ← Owned.query fun d => d.users.lookup creatorId
    Owned.require (creator ≠ none) (foreignKeyViolation "projects" "projects_creator_id_fkey")
    Owned.update (·.setMember creatorId ⟨membershipId, .admin⟩)
    auditProject ⟨now, actor, "project", p, "created"⟩
    return project

structure ProjectPatch where
  name : Option String
  description : Option String

/-- `ProjectStore.UpdateVersionedWithOperation` (`project_store.go:217-324`). -/
def updateProject (p : Id) (expectedVersion : Nat) (patch : ProjectPatch) (actor : OperationActor)
    (now : Time) : WorkTx Project := do
  actor.validate
  withProject p fun r => do
    requireProjectVersion r expectedVersion
    let project := { r.row with
      name := patch.name.getD r.row.name
      description := patch.description.getD r.row.description }
    project.validate
    let updated := { project with version := project.version + 1 }
    Owned.update (·.setRow updated)
    auditProject ⟨now, actor, "project", p, "updated"⟩
    return updated

/-- `count(*)` of the unfinished Tasks whose row satisfies the condition. -/
def Db.countUnfinished (d : Db) (of : TaskRow → Bool) : Nat :=
  (d.tasks.entries.filter fun e => of e.2.row && !decide e.2.row.lifecycle.phase.Terminal).length

/-- `projectArchiveReadiness` (`project_store.go:466-485`). -/
def projectArchiveReadiness (p : Id) : ProjectTx ProjectArchiveReadiness := do
  let openMilestones ← Owned.rows (·.openMilestones)
  let unfinishedTasks ← Owned.query fun d => d.tasks.countUnfinished fun t => t.projectId = p
  return { openMilestones, unfinishedTasks }

def applyProjectAction (p : Id) (project : Project) (now : Time) :
    ProjectLifecycleAction → ProjectTx Project
  | .archive => do
      let readiness ← projectArchiveReadiness p
      project.archive readiness now
  | .restore => return project.restore

/-- `applyLifecycleWithExpectedVersion` (`project_store.go:374-464`). -/
def applyProjectLifecycle (p : Id) (expectedVersion : Option Nat) (action : ProjectLifecycleAction)
    (actor : Actor) (operation : OperationActor) (clock : Nat → Time) : WorkTx Project := do
  Txn.require actor.IsHuman (.forbidden "Project archive actions require a human user")
  operation.validate
  Txn.require (actor.userId = some operation.userId)
    (.forbidden "lifecycle actor does not match operation actor")
  withProject p fun r => do
    Owned.require (∀ v ∈ expectedVersion, r.row.version = v) (.versionConflict r.row.version)
    let project ← applyProjectAction p r.row (clock 0) action
    let updated := { project with version := project.version + 1 }
    Owned.update (·.setRow updated)
    auditProject ⟨clock 1, operation, "project", p, action.text⟩
    return updated

/-! ## Members -/

/-- The two modes of `mutate`. -/
inductive MembershipMode
  | add
  | change
deriving DecidableEq, Repr

namespace MembershipMode

def text : MembershipMode → String
  | add => "add"
  | change => "change"

/-- The row `mutate` writes, or the error it ends with. -/
def next (mode : MembershipMode) (old : Option ProjectMembership) (role : ProjectRole)
    (membershipId : Id) : Except DomainError ProjectMembership :=
  match mode, old with
  | add, some _ => .error (.conflict "user is already a project member")
  | add, none => .ok ⟨membershipId, role⟩
  | change, none => .error .notFound
  | change, some m => .ok { m with role }

end MembershipMode

/-- The administrators of a Project other than `excluded` whose users are active. -/
def Workspace.activeAdmins (d : Workspace) (members : Table ProjectMembership) (excluded : Id) :
    List Id :=
  (members.entries.filter fun e =>
    decide (e.2.role = .admin) && decide (e.1 ≠ excluded) && decide (d.Active e.1)).map (·.1)

/-- `requireAnotherActiveProjectAdmin` (`project_membership_store.go:249-270`): the
users are read without a lock. -/
def requireAnotherActiveProjectAdmin (members : Table ProjectMembership) (excluded : Id) :
    ProjectTx Unit := do
  let admins ← Owned.query fun d => d.activeAdmins members excluded
  Owned.require (admins ≠ []) (.conflict "project must retain an active administrator")

/-- `mutate` (`project_membership_store.go:114-187`), behind `Add` and `ChangeRole`. -/
def mutateMember (p userId : Id) (role : ProjectRole) (expectedVersion : Nat)
    (actor : OperationActor) (mode : MembershipMode) (membershipId : Id) (now : Time) :
    WorkTx (ProjectMembership × Nat) := do
  actor.validate
  withProject p fun r => do
    requireProjectVersion r expectedVersion
    let found ← Owned.query fun d => d.users.lookup userId
    let user ← Owned.demand found .notFound
    Owned.require (user.active = true)
      (.invalidInput "inactive users cannot be added to projects")
    let membership ← mode.next (r.members.lookup userId) role membershipId
    if mode = .change ∧ (∃ m ∈ r.members.lookup userId, m.role = .admin) ∧ role ≠ .admin then
      requireAnotherActiveProjectAdmin r.members userId
    Owned.update (·.setMember userId membership)
    let version ← incrementProjectVersion
    auditProject ⟨now, actor, "project_membership", membership.id, mode.text⟩
    return (membership, version)

/-- `Remove` (`project_membership_store.go:189-231`). -/
def removeMember (p userId : Id) (expectedVersion : Nat) (actor : OperationActor) (now : Time) :
    WorkTx Nat := do
  actor.validate
  withProject p fun r => do
    requireProjectVersion r expectedVersion
    let membership ← Owned.demand (r.members.lookup userId) .notFound
    if membership.role = .admin then
      requireAnotherActiveProjectAdmin r.members userId
    Owned.update (·.removeMember userId)
    let version ← incrementProjectVersion
    auditProject ⟨now, actor, "project_membership", membership.id, "remove"⟩
    return version

/-! ## Milestones -/

/-- What a caller gives of a new Milestone; `status` is empty in every call of the API. -/
structure MilestoneDraft where
  name : String
  outcome : String
  description : String
  ownerId : Id
  status : Option MilestoneStatus
  targetDate : Option Int
  position : Int
deriving DecidableEq, Repr

/-- The row of a new Milestone. -/
def MilestoneDraft.row (draft : MilestoneDraft) : Milestone :=
  { version := 1, name := draft.name, outcome := draft.outcome, description := draft.description
    ownerId := draft.ownerId, status := draft.status.getD .planned
    targetDate := draft.targetDate, position := draft.position, completedAt := none
    cancelledAt := none }

/-- `CreateVersionedWithOperation` (`milestone_versioned_store.go:21-83`). Whether
the Project is archived is not looked at. -/
def createMilestone (p : Id) (expectedVersion : Nat) (m : Id) (draft : MilestoneDraft)
    (actor : OperationActor) (now : Time) : WorkTx (Milestone × Nat) := do
  actor.validate
  draft.row.validate p
  withProject p fun r => do
    requireProjectVersion r expectedVersion
    Owned.require (r.milestones.lookup m).isNone (uniqueViolation "milestones_pkey")
    Owned.update (·.setMilestone m ⟨draft.row, ∅, []⟩)
    let version ← incrementProjectVersion
    auditProject ⟨now, actor, "milestone", m, "created"⟩
    return (draft.row, version)

/-- The Milestone of the locked Project at the expected version. -/
def lockMilestone (r : ProjectRecord) (expectedProjectVersion : Nat) (m : Id)
    (expectedVersion : Nat) : ProjectTx MilestoneRecord := do
  requireProjectVersion r expectedProjectVersion
  let record ← Owned.demand (r.milestones.lookup m) .notFound
  Owned.require (record.row.version = expectedVersion) (.versionConflict record.row.version)
  return record

structure MilestonePatch where
  name : Option String
  outcome : Option String
  description : Option String
  ownerId : Option Id
  targetDate : Option (Option Int)
  position : Option Int

def MilestonePatch.apply (patch : MilestonePatch) (m : Milestone) : Milestone :=
  { m with
    name := patch.name.getD m.name, outcome := patch.outcome.getD m.outcome
    description := patch.description.getD m.description, ownerId := patch.ownerId.getD m.ownerId
    targetDate := patch.targetDate.getD m.targetDate, position := patch.position.getD m.position }

/-- `UpdateVersionedWithOperation` (`milestone_versioned_store.go:85-191`). -/
def updateMilestone (p : Id) (expectedProjectVersion : Nat) (m : Id) (expectedVersion : Nat)
    (patch : MilestonePatch) (actor : OperationActor) (now : Time) :
    WorkTx (Milestone × Nat) := do
  actor.validate
  withProject p fun r => do
    let record ← lockMilestone r expectedProjectVersion m expectedVersion
    let row := patch.apply record.row
    row.validate p
    let updated := { row with version := row.version + 1 }
    Owned.update (·.setMilestone m (record.setRow updated))
    let version ← incrementProjectVersion
    auditProject ⟨now, actor, "milestone", m, "updated"⟩
    return (updated, version)

/-- The counts of `ApplyLifecycleVersionedWithOperation`. -/
def milestoneReadiness (m : Id) (record : MilestoneRecord) : ProjectTx MilestoneReadiness := do
  let unfinishedTasks ← Owned.query fun d =>
    d.tasks.countUnfinished fun t => t.milestoneId = some m
  return { activeCriteria := record.activeCriteria.length
           unsatisfiedCriteria :=
             (record.activeCriteria.filter fun c => ¬ record.Satisfied c).length
           unfinishedTasks }

/-- `ApplyLifecycleVersionedWithOperation` (`milestone_versioned_store.go:193-308`). -/
def applyMilestoneLifecycle (p : Id) (expectedProjectVersion : Nat) (m : Id)
    (expectedVersion : Nat) (action : MilestoneLifecycleAction) (actor : OperationActor)
    (reason : String) (clock : Nat → Time) : WorkTx (Milestone × Nat) := do
  actor.validate
  withProject p fun r => do
    let record ← lockMilestone r expectedProjectVersion m expectedVersion
    let readiness ← milestoneReadiness m record
    let row ← record.row.apply action readiness ⟨.user, some actor.userId, ""⟩ reason (clock 0)
    let updated := { row with version := row.version + 1 }
    Owned.update (·.setMilestone m (record.setRow updated))
    let version ← incrementProjectVersion
    auditProject ⟨clock 1, actor, "milestone", m, action.text⟩
    return (updated, version)

/-! ## Criteria of Milestones -/

/-- The events of a criterion command: one of the entity it changes, one of its Milestone and one
of its Project. -/
def auditMilestoneCriterion (p m : Id) (actor : OperationActor) (entityType : String)
    (entityId : Id) (action ownerAction : String) (clock : Nat → Time) : ProjectTx Unit := do
  auditProject ⟨clock 0, actor, entityType, entityId, action⟩
  auditProject ⟨clock 1, actor, "milestone", m, ownerAction⟩
  auditProject ⟨clock 2, actor, "project", p, ownerAction⟩

/-- `incrementCriterionOwners`, with the change of the criterion or of its checks before it. -/
def changeMilestoneCriteria (m : Id) (record : MilestoneRecord)
    (criteria : Table AcceptanceCriterion) (checks : List AcceptanceCheck) : ProjectTx Unit := do
  Owned.update (·.setMilestone m { record with criteria, checks })
  let _ ← incrementProjectVersion
  Owned.update (·.setMilestone m
    ⟨{ record.row with version := record.row.version + 1 }, criteria, checks⟩)

/-- `CreateMilestoneCriterionVersioned` by `createVersioned`
(`acceptance_versioned_store.go:72-135`). -/
def createMilestoneCriterion (p : Id) (expectedProjectVersion : Nat) (m : Id)
    (expectedVersion : Nat) (criterion : AcceptanceCriterion) (actor : OperationActor)
    (clock : Nat → Time) (fresh : Nat → Id) : WorkTx AcceptanceCriterion := do
  actor.validate
  let criterion := createdCriterion criterion fresh
  criterion.validate
  withProject p fun r => do
    let record ← lockMilestone r expectedProjectVersion m expectedVersion
    Owned.require ((record.criteria.lookup criterion.id).isNone)
      (uniqueViolation "acceptance_criteria_pkey")
    changeMilestoneCriteria m record (record.criteria.insert criterion.id criterion) record.checks
    auditMilestoneCriterion p m actor "acceptance_criterion" criterion.id "created"
      "criterion_created" clock
    return criterion

/-- The Project and the Milestone of a criterion that is not archived. -/
def Workspace.criterionOwner (d : Workspace) (criterionId : Id) : Option (Id × Id) :=
  d.projects.entries.findSome? fun e => (e.2.criterionOwner criterionId).map fun m => (e.1, m)

/-- The second half of `lockCriterionAndOwners`, under the lock of the Project. -/
def lockMilestoneCriterion (r : ProjectRecord) (m criterionId : Id) (expectedVersion : Nat) :
    ProjectTx (MilestoneRecord × AcceptanceCriterion) := do
  let record ← Owned.demand (r.milestones.lookup m) .notFound
  let criterion ← Owned.demand
    ((record.criteria.lookup criterionId).filter fun c => c.archivedAt = none) .notFound
  Owned.require (criterion.version = expectedVersion) (.versionConflict criterion.version)
  return (record, criterion)

/-- `lockCriterionAndOwners` (`acceptance_versioned_store.go:540-591`) on a criterion
of a Milestone: the owners, which never change, are looked up before anything is locked, and the
criterion is looked up again under the lock. -/
def withMilestoneCriterion {α : Type} (criterionId : Id)
    (body : Id → Id → ProjectRecord → ProjectTx α) :
    WorkTx α := do
  let found ← Txn.query (·.criterionOwner criterionId)
  let (p, m) ← Txn.demand found .notFound
  withProject p (body p m)

/-- `UpdateCriterionVersioned` (`acceptance_versioned_store.go:137-214`). -/
def updateMilestoneCriterion (criterionId : Id) (expectedVersion : Nat)
    (text instructions : Option String) (position : Option Int) (actor : OperationActor)
    (clock : Nat → Time) : WorkTx AcceptanceCriterion := do
  actor.validate
  withMilestoneCriterion criterionId fun p m r => do
    let (record, current) ← lockMilestoneCriterion r m criterionId expectedVersion
    let edited := current.edit (text.getD current.criterion)
      (instructions.getD current.verificationInstructions)
    let moved := edited.move (position.getD edited.position)
    moved.validate
    let criterion := { moved with version := current.version + 1 }
    changeMilestoneCriteria m record (record.criteria.insert criterionId criterion) record.checks
    auditMilestoneCriterion p m actor "acceptance_criterion" criterionId "updated"
      "criterion_updated" clock
    return criterion

/-- `AddCheckVersioned` (`acceptance_versioned_store.go:272-371`). -/
def addMilestoneCheck (criterionId : Id) (expectedVersion : Nat) (check : AcceptanceCheck)
    (actor : OperationActor) (clock : Nat → Time) (fresh : Nat → Id) :
    WorkTx AcceptanceCheck := do
  actor.validate
  withMilestoneCriterion criterionId fun p m r => do
    let (record, criterion) ← lockMilestoneCriterion r m criterionId expectedVersion
    let check := check.unclaimed criterionId
    check.validateBase criterion
    let check := check.stored (clock 3) fresh
    Owned.require (record.checks.all (fun c => c.id ≠ check.id) = true)
      (uniqueViolation "acceptance_checks_pkey")
    changeMilestoneCriteria m record
      (record.criteria.insert criterionId { criterion with version := criterion.version + 1 })
      (record.checks ++ [check])
    auditMilestoneCriterion p m actor "acceptance_check" check.id "created" "acceptance_checked"
      clock
    return check

/-- What an active Milestone asks of a removal. -/
def requireScopeChange (record : MilestoneRecord) (reason : String) : Except DomainError Unit := do
  if record.row.status = .active then
    if blank reason then
      throw (.invalidInput "a reason is required to change active Milestone scope")
    if record.activeCriteria.length ≤ 1 then
      throw (.conflict "an active Milestone requires an acceptance criterion")

/-- `RemoveCriterionVersioned` (`acceptance_versioned_store.go:373-472`): a
criterion that was ever checked is archived and not deleted. -/
def removeMilestoneCriterion (criterionId : Id) (expectedVersion : Nat) (actor : OperationActor)
    (reason : String) (clock : Nat → Time) : WorkTx Unit := do
  actor.validate
  withMilestoneCriterion criterionId fun p m r => do
    let (record, criterion) ← lockMilestoneCriterion r m criterionId expectedVersion
    requireScopeChange record reason
    changeMilestoneCriteria m record
      (if record.checks.all (fun c => c.criterionId ≠ criterionId) = true then
        record.criteria.erase criterionId
      else record.criteria.insert criterionId
        { criterion with archivedAt := some (clock 3), version := criterion.version + 1 })
      record.checks
    auditMilestoneCriterion p m actor "acceptance_criterion" criterionId "removed"
      "criterion_removed" clock

end Pactline
