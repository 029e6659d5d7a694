import Pactline.Model.Database

/-!
# Projects and Milestones

`internal/domain/project.go` and `internal/domain/project_membership.go`, and a Project with the
rows that belong to it: its members, its Milestones with their acceptance criteria and checks, and
its repositories. All of these are written only under the lock of the Project's row, as the
transactions of `Pactline.Model.ProjectStore` show.
-/

set_option autoImplicit false

namespace Pactline

/-! ## Projects -/

/-- The columns of `projects`. -/
structure Project where
  version : Nat
  name : String
  description : String
  creatorId : Id
  archivedAt : Option Time
deriving DecidableEq, Repr

structure ProjectArchiveReadiness where
  openMilestones : Nat
  unfinishedTasks : Nat

namespace Project

def validate (p : Project) : Except DomainError Unit := do
  if blank p.name then
    throw (.invalidInput "project name is required")
  if p.creatorId = 0 then
    throw (.invalidInput "project creator is required")

def archive (p : Project) (readiness : ProjectArchiveReadiness) (now : Time) :
    Except DomainError Project := do
  if readiness.openMilestones > 0 then
    throw (.conflict "project has planned or active milestones")
  if readiness.unfinishedTasks > 0 then
    throw (.conflict "project has unfinished tasks")
  return { p with archivedAt := some now }

def restore (p : Project) : Project := { p with archivedAt := none }

end Project

inductive ProjectLifecycleAction
  | archive
  | restore
deriving DecidableEq, Repr

def ProjectLifecycleAction.text : ProjectLifecycleAction → String
  | archive => "archived"
  | restore => "restored"

inductive ProjectRole
  | admin
  | member
deriving DecidableEq, Repr

/-- A row of `project_memberships`, without the Project and the user it is kept under. -/
structure ProjectMembership where
  id : Id
  role : ProjectRole
deriving DecidableEq, Repr

/-! ## Milestones -/

inductive MilestoneStatus
  | planned
  | active
  | completed
  | cancelled
deriving DecidableEq, Repr

namespace MilestoneStatus

def text : MilestoneStatus → String
  | planned => "planned"
  | active => "active"
  | completed => "completed"
  | cancelled => "cancelled"

/-- A Milestone that keeps its Project from being archived. -/
def Open (s : MilestoneStatus) : Prop := s = planned ∨ s = active
deriving Decidable

end MilestoneStatus

/-- The columns of `milestones`; `targetDate` is a day. -/
structure Milestone where
  version : Nat
  name : String
  outcome : String
  description : String
  ownerId : Id
  status : MilestoneStatus
  targetDate : Option Int
  position : Int
  completedAt : Option Time
  cancelledAt : Option Time
deriving DecidableEq, Repr

structure MilestoneReadiness where
  activeCriteria : Nat
  unsatisfiedCriteria : Nat
  unfinishedTasks : Nat

inductive MilestoneLifecycleAction
  | activate
  | complete
  | cancel
  | reopen
deriving DecidableEq, Repr

def MilestoneLifecycleAction.text : MilestoneLifecycleAction → String
  | activate => "milestone_activated"
  | complete => "milestone_completed"
  | cancel => "milestone_cancelled"
  | reopen => "milestone_reopened"

namespace Milestone

def validate (m : Milestone) (projectId : Id) : Except DomainError Unit := do
  if projectId = 0 ∨ blank m.name ∨ blank m.outcome ∨ m.ownerId = 0 then
    throw (.invalidInput "milestone project, name, outcome, and owner are required")
  if m.position < 0 then
    throw (.invalidInput "invalid milestone status or position")

def activate (m : Milestone) (readiness : MilestoneReadiness) : Except DomainError Milestone := do
  if m.status ≠ .planned then
    throw (.conflict ("milestone cannot activate from " ++ m.status.text))
  if readiness.activeCriteria = 0 then
    throw (.conflict "milestone requires an active acceptance criterion")
  return { m with status := .active }

def complete (m : Milestone) (readiness : MilestoneReadiness) (now : Time) :
    Except DomainError Milestone := do
  if m.status ≠ .active then
    throw (.conflict ("milestone cannot complete from " ++ m.status.text))
  if readiness.activeCriteria = 0 ∨ readiness.unsatisfiedCriteria > 0 then
    throw (.conflict "milestone acceptance is not satisfied")
  if readiness.unfinishedTasks > 0 then
    throw (.conflict "milestone has unfinished tasks")
  return { m with status := .completed, completedAt := some now, cancelledAt := none }

def cancel (m : Milestone) (readiness : MilestoneReadiness) (now : Time) :
    Except DomainError Milestone := do
  if ¬ m.status.Open then
    throw (.conflict ("milestone cannot cancel from " ++ m.status.text))
  if readiness.unfinishedTasks > 0 then
    throw (.conflict "milestone has unfinished tasks")
  return { m with status := .cancelled, cancelledAt := some now, completedAt := none }

/-- The readiness of the Milestone plays no part. -/
def reopen (m : Milestone) (actor : Actor) (reason : String) : Except DomainError Milestone := do
  if ¬ actor.IsHuman then
    throw (.forbidden "only a human user may reopen a milestone")
  if blank reason then
    throw (.invalidInput "reopen reason is required")
  if m.status.Open then
    throw (.conflict ("milestone cannot reopen from " ++ m.status.text))
  return { m with status := .active, completedAt := none, cancelledAt := none }

/-- The switch of `ApplyLifecycleVersionedWithOperation`. -/
def apply (m : Milestone) (action : MilestoneLifecycleAction) (readiness : MilestoneReadiness)
    (actor : Actor) (reason : String) (now : Time) : Except DomainError Milestone :=
  match action with
  | .activate => m.activate readiness
  | .complete => m.complete readiness now
  | .cancel => m.cancel readiness now
  | .reopen => m.reopen actor reason

end Milestone

/-! ## A Project and its rows -/

/-- A Milestone, its criteria and the checks of these. -/
structure MilestoneRecord where
  row : Milestone
  criteria : Table AcceptanceCriterion
  checks : List AcceptanceCheck

namespace MilestoneRecord

/-- The criteria that are not archived. -/
def activeCriteria (m : MilestoneRecord) : List AcceptanceCriterion :=
  (m.criteria.entries.map (·.2)).filter fun c => c.archivedAt = none

/-- Of two checks of a criterion the later one counts, and of two at one time the one with the
greater identity. -/
def laterCheck (a b : AcceptanceCheck) : AcceptanceCheck :=
  if a.checkedAt < b.checkedAt ∨ a.checkedAt = b.checkedAt ∧ a.id ≤ b.id then b else a

/-- `ORDER BY checked_at DESC, id DESC LIMIT 1` over the checks of the current revision. -/
def currentCheck (m : MilestoneRecord) (criterion : AcceptanceCriterion) :
    Option AcceptanceCheck :=
  (m.checks.filter fun c => c.criterionId = criterion.id ∧
    c.criterionRevision = criterion.revision).foldl
      (fun best c => some (best.elim c fun b => laterCheck b c)) none

/-- The latest check of the current revision has passed or was waived. -/
def Satisfied (m : MilestoneRecord) (criterion : AcceptanceCriterion) : Prop :=
  ∃ c ∈ m.currentCheck criterion, c.outcome.Satisfies
deriving Decidable

def setRow (m : MilestoneRecord) (row : Milestone) : MilestoneRecord := { m with row }

end MilestoneRecord

/-- A row of `project_repositories`. -/
structure RepositoryBinding where
  connectionId : Id
  boundBy : Id
  boundAt : Time
  unboundBy : Option Id
  unboundAt : Option Time
deriving DecidableEq, Repr

/-- A Project with the rows that name it. A member is kept under the user, of whom a Project has
at most one row (`UNIQUE (project_id, user_id)`). -/
structure ProjectRecord where
  row : Project
  members : Table ProjectMembership
  milestones : Table MilestoneRecord
  repositories : Table RepositoryBinding
  audit : List BusinessAuditEvent

namespace ProjectRecord

def setRow (r : ProjectRecord) (row : Project) : ProjectRecord := { r with row }

def setMember (r : ProjectRecord) (userId : Id) (m : ProjectMembership) : ProjectRecord :=
  { r with members := r.members.insert userId m }

def removeMember (r : ProjectRecord) (userId : Id) : ProjectRecord :=
  { r with members := r.members.erase userId }

def setMilestone (r : ProjectRecord) (id : Id) (m : MilestoneRecord) : ProjectRecord :=
  { r with milestones := r.milestones.insert id m }

def setRepository (r : ProjectRecord) (id : Id) (b : RepositoryBinding) : ProjectRecord :=
  { r with repositories := r.repositories.insert id b }

def addAudit (r : ProjectRecord) (e : BusinessAuditEvent) : ProjectRecord :=
  { r with audit := r.audit ++ [e] }

/-- The Milestones that are planned or active. -/
def openMilestones (r : ProjectRecord) : Nat :=
  (r.milestones.entries.filter fun e => e.2.row.status.Open).length

/-- The Milestone of a criterion that is not archived. -/
def criterionOwner (r : ProjectRecord) (criterionId : Id) : Option Id :=
  (r.milestones.entries.find? fun e =>
    ((e.2.criteria.lookup criterionId).any fun c => c.archivedAt = none)).map (·.1)

end ProjectRecord

end Pactline
