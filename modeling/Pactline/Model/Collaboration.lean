import Mathlib.Tactic.Simps.Basic
import Pactline.Model.StageClaim

/-!
# Threads, acceptance and code changes

What work on a Task leaves behind: the Threads with their Items (`internal/domain/thread.go`),
the acceptance criteria with their checks (`internal/domain/acceptance.go`) and the linked code
changes (`internal/domain/repository_delivery.go`).
-/

set_option autoImplicit false

namespace Pactline

/-! ## Code changes -/

inductive RepositoryProvider
  | gitLab
  | gitHub
deriving DecidableEq, Repr

inductive CodeChangeKind
  | mergeRequest
  | pullRequest
deriving DecidableEq, Repr

def CodeChangeKind.CompatibleWith (k : CodeChangeKind) (p : RepositoryProvider) : Prop :=
  p = .gitLab ∧ k = .mergeRequest ∨ p = .gitHub ∧ k = .pullRequest
deriving Decidable

inductive CodeChangeObservationStatus
  | confirmed
  | missing
  | unauthorized
  | unreachable
  | disconnected
deriving DecidableEq, Repr

inductive CodeChangeState
  | opened
  | closed
  | merged
  | locked
deriving DecidableEq, Repr

/-- What the provider last said of a code change; an unknown `state` is the empty string. -/
structure CodeChangeObservation where
  status : CodeChangeObservationStatus
  observedAt : Time
  title : String
  state : Option CodeChangeState
  draft : Bool
  sourceBranch : String
  targetBranch : String
  headSHA : String
  mergeCommitSHA : Option String
  mergedAt : Option Time
  providerUpdatedAt : Time
deriving DecidableEq, Repr

def CodeChangeObservation.validate (o : CodeChangeObservation) : Except DomainError Unit := do
  if o.observedAt = 0 then
    throw (.invalidInput "code change observation is incomplete")
  if o.status = .confirmed then
    if blank o.title ∨ o.state = none ∨ blank o.sourceBranch ∨ blank o.targetBranch ∨
        blank o.headSHA ∨ o.providerUpdatedAt = 0 then
      throw (.invalidInput "confirmed code change metadata is incomplete")

/-- A code change as the provider describes it. -/
structure CodeChange where
  provider : RepositoryProvider
  kind : CodeChangeKind
  providerChangeId : String
  changeNumber : Nat
  webURL : String
  observation : CodeChangeObservation
deriving DecidableEq, Repr

def CodeChange.validate (c : CodeChange) : Except DomainError Unit := do
  if ¬ c.kind.CompatibleWith c.provider ∨ blank c.providerChangeId ∨ c.changeNumber < 1 ∨
      blank c.webURL then
    throw (.invalidInput "code change identity is incomplete or incompatible")
  c.observation.validate

/-- A row of `task_code_changes` without its observation columns, which are written without
the Task's lock and kept in a table of their own (`Db.observations`). -/
structure TaskCodeChange where
  id : Id
  projectRepositoryId : Id
  kind : CodeChangeKind
  changeNumber : Nat
  providerChangeId : String
  webURL : String
  linkedBy : Actor
  linkedThroughClaimId : Id
  linkedAt : Time
  unlinkedBy : Option Actor
  unlinkedThroughClaimId : Option Id
  unlinkedAt : Option Time
deriving DecidableEq, Repr

def TaskCodeChange.Active (c : TaskCodeChange) : Prop := c.unlinkedAt = none
deriving Decidable

def validDeliveryActor (a : Actor) : Bool :=
  (a.type = .user && (match a.userId with | some u => u != 0 | none => false) && a.ref = "") ||
    (a.type = .agent && a.userId = none && !blank a.ref)

/-- The checks of `TaskCodeChange.Validate` on a link that is being made. -/
def TaskCodeChange.validateNew (c : TaskCodeChange) (projectId : Id)
    (provider : RepositoryProvider) (observation : CodeChangeObservation) :
    Except DomainError Unit := do
  if c.id = 0 ∨ projectId = 0 ∨ c.projectRepositoryId = 0 ∨ ¬ c.kind.CompatibleWith provider ∨
      c.changeNumber < 1 ∨ blank c.providerChangeId ∨ blank c.webURL ∨
      ¬ validDeliveryActor c.linkedBy ∨ c.linkedThroughClaimId = 0 ∨ c.linkedAt = 0 then
    throw (.invalidInput "Task code change link is incomplete")
  observation.validate

/-- The copy of a link that an execution completion keeps. -/
structure CodeChangeSnapshot where
  taskCodeChangeId : Id
  projectRepositoryId : Id
  connectionId : Id
  provider : RepositoryProvider
  providerRepositoryId : String
  kind : CodeChangeKind
  changeNumber : Nat
  providerChangeId : String
  webURL : String
  title : String
  state : Option CodeChangeState
  draft : Bool
  sourceBranch : String
  targetBranch : String
  headSHA : String
  mergeCommitSHA : Option String
  mergedAt : Option Time
  observationStatus : CodeChangeObservationStatus
  observedAt : Time
deriving DecidableEq, Repr

def CodeChangeSnapshot.validate (s : CodeChangeSnapshot) : Except DomainError Unit := do
  if s.taskCodeChangeId = 0 ∨ s.projectRepositoryId = 0 ∨ s.connectionId = 0 ∨
      ¬ s.kind.CompatibleWith s.provider ∨ blank s.providerRepositoryId ∨ s.changeNumber < 1 ∨
      blank s.providerChangeId ∨ blank s.webURL ∨ s.observedAt = 0 then
    throw (.invalidInput "code change snapshot is incomplete")
  if s.observationStatus = .confirmed then
    if blank s.title ∨ s.state = none ∨ blank s.headSHA then
      throw (.invalidInput "confirmed code change snapshot is incomplete")

/-! ## Acceptance -/

/-- A row of `acceptance_criteria` that belongs to a Task. -/
structure AcceptanceCriterion where
  id : Id
  version : Nat
  criterion : String
  verificationInstructions : String
  revision : Nat
  position : Int
  archivedAt : Option Time
deriving DecidableEq, Repr

/-- `Validate` on a criterion whose one owner is its Task. -/
def AcceptanceCriterion.validate (c : AcceptanceCriterion) : Except DomainError Unit := do
  if blank c.criterion ∨ blank c.verificationInstructions then
    throw (.invalidInput "criterion and verification instructions are required")
  if c.revision < 1 ∨ c.position < 0 then
    throw (.invalidInput "criterion revision and position are invalid")

/-- A change of the text or of the instructions makes a new revision. -/
def AcceptanceCriterion.edit (c : AcceptanceCriterion)
    (criterion verificationInstructions : String) : AcceptanceCriterion :=
  if c.criterion ≠ criterion ∨ c.verificationInstructions ≠ verificationInstructions then
    { c with criterion, verificationInstructions, revision := c.revision + 1 }
  else c

def AcceptanceCriterion.move (c : AcceptanceCriterion) (position : Int) : AcceptanceCriterion :=
  { c with position }

/-- The criterion `createVersioned` stores. -/
@[simps] def createdCriterion (criterion : AcceptanceCriterion) (fresh : Nat → Id) :
    AcceptanceCriterion :=
  { criterion with
    id := if criterion.id = 0 then fresh 0 else criterion.id
    revision := if criterion.revision = 0 then 1 else criterion.revision
    version := 1, archivedAt := none }

inductive AcceptanceOutcome
  | passed
  | failed
  | unable
  | waived
deriving DecidableEq, Repr

def AcceptanceOutcome.Satisfies (o : AcceptanceOutcome) : Prop := o = .passed ∨ o = .waived
deriving Decidable

inductive AcceptanceCheckPurpose
  | executionVerification
  | acceptance
deriving DecidableEq, Repr

/-- A row of `acceptance_checks`. The last three columns are set together, and only for
checks that were recorded through a Claim. -/
structure AcceptanceCheck where
  id : Id
  criterionId : Id
  criterionRevision : Nat
  outcome : AcceptanceOutcome
  evidence : String
  checker : Actor
  checkedAt : Time
  purpose : Option AcceptanceCheckPurpose
  taskClaimId : Option Id
  taskReviewCycle : Option Nat
deriving DecidableEq, Repr

def AcceptanceCheck.validateBase (c : AcceptanceCheck) (criterion : AcceptanceCriterion) :
    Except DomainError Unit := do
  if c.criterionId ≠ criterion.id ∨ c.criterionRevision ≠ criterion.revision then
    throw (.conflict "acceptance criterion revision changed")
  if blank c.evidence then
    throw (.invalidInput "valid outcome and evidence are required")
  match c.checker.type with
  | .user => if ¬ c.checker.IsHuman then throw (.invalidInput "checker user is required")
  | .agent | .system =>
    if blank c.checker.ref then throw (.invalidInput "checker reference is required")
  | .unset => throw (.invalidInput "invalid checker type")

def AcceptanceCheck.validateForTaskClaim (c : AcceptanceCheck) (criterion : AcceptanceCriterion)
    (claimId : Id) (stage : TaskClaimStage) (reviewCycle : Nat) : Except DomainError Unit := do
  c.validateBase criterion
  if claimId = 0 ∨ c.taskClaimId ≠ some claimId ∨ c.taskReviewCycle ≠ some reviewCycle then
    throw (.conflict "Task check Claim and review cycle do not match")
  if c.purpose = none ∨ (stage = .execution ∧ c.purpose ≠ some .executionVerification) ∨
      (stage = .review ∧ c.purpose ≠ some .acceptance) then
    throw (.conflict "check purpose does not match Claim stage")

/-- The check `AddCheckVersioned` looks at: it names no purpose, no Claim and no review cycle. -/
def AcceptanceCheck.unclaimed (c : AcceptanceCheck) (criterionId : Id) : AcceptanceCheck :=
  { c with criterionId, purpose := none, taskClaimId := none, taskReviewCycle := none }

/-- The check it stores. -/
def AcceptanceCheck.stored (c : AcceptanceCheck) (now : Time) (fresh : Nat → Id) :
    AcceptanceCheck :=
  { c with
    id := if c.id = 0 then fresh 0 else c.id
    checkedAt := if c.checkedAt = 0 then now else c.checkedAt
    checker := if c.checker.type = .user then storedActor c.checker
      else { storedActor c.checker with ref := trimSpace c.checker.ref } }

/-! ## Threads and Items -/

inductive ThreadRole
  | main
  | issue
deriving DecidableEq, Repr

inductive IssueThreadType
  | decisionRequired
  | dependencyRequired
deriving DecidableEq, Repr

def IssueThreadType.text : IssueThreadType → String
  | decisionRequired => "decision_required"
  | dependencyRequired => "dependency_required"

inductive IssueThreadStatus
  | «open»
  | resolved
deriving DecidableEq, Repr

/-- A row of `task_threads`; the Issue columns of a Main Thread are empty. -/
structure Thread where
  id : Id
  role : ThreadRole
  issueType : Option IssueThreadType
  issueStatus : Option IssueThreadStatus
  openedFromPhase : Option TaskPhase
  openedBy : Option Actor
  resolvedBy : Option Actor
  version : Nat
  createdAt : Time
  updatedAt : Time
  resolvedAt : Option Time
deriving DecidableEq, Repr

namespace Thread

/-- The Main Thread that the insert trigger of `tasks` makes with the row. -/
def newMain (id : Id) (now : Time) : Thread :=
  { id, role := .main, issueType := none, issueStatus := none, openedFromPhase := none
    openedBy := none, resolvedBy := none, version := 1, createdAt := now, updatedAt := now
    resolvedAt := none }

/-- `NewIssueThread` with the checks of `Thread.Validate` on an open Issue. -/
def newIssue (id : Id) (issueType : IssueThreadType) (phase : TaskPhase) (openedBy : Actor)
    (now : Time) : Except DomainError Thread := do
  if id = 0 ∨ now = 0 then
    throw (.invalidInput "Thread identity, version, and timestamps are required")
  if ¬ phase.Active ∨ ¬ validThreadActor openedBy then
    throw (.invalidInput "Issue Thread type, phase, and opener are required")
  return { id, role := .issue, issueType := some issueType, issueStatus := some .open
           openedFromPhase := some phase, openedBy := some openedBy, resolvedBy := none
           version := 1, createdAt := now, updatedAt := now, resolvedAt := none }

def OpenIssue (t : Thread) : Prop := t.role = .issue ∧ t.issueStatus = some .open
deriving Decidable

def resolve (t : Thread) (resolvedBy : Actor) (now : Time) : Except DomainError Thread :=
  if ¬ t.OpenIssue then .error (.conflict "only an open Issue Thread may be resolved")
  else if ¬ validThreadActor resolvedBy then .error (.invalidInput "Issue resolver is required")
  else .ok { t with
    issueStatus := some .resolved, resolvedBy := some resolvedBy, resolvedAt := some now
    updatedAt := now, version := t.version + 1 }

end Thread

inductive ThreadItemKind
  | message
  | progress
  | handoff
  | workSubmission
  | executionCompleted
  | reviewOutcome
  | resolutionRequest
  | resolution
  | issueResolution
  | systemEvent
deriving DecidableEq, Repr

/-- The payload of an `issue_resolution` Item. It is kept as JSON, with its times whole. -/
structure IssueResolutionPayload where
  issueThreadId : Id
  issueType : Option IssueThreadType
  request : String
  resolution : String
  openedBy : Option Actor
  resolvedBy : Actor
  openedAt : Instant
  resolvedAt : Instant
deriving DecidableEq, Repr

def IssueResolutionPayload.validate (p : IssueResolutionPayload) : Except DomainError Unit :=
  if p.issueThreadId = 0 ∨ p.issueType = none ∨ blank p.request ∨ blank p.resolution ∨
      ¬ (p.openedBy.any validThreadActor) ∨ ¬ validThreadActor p.resolvedBy ∨ p.openedAt = 0 ∨
      p.resolvedAt = 0 ∨ p.resolvedAt < p.openedAt then
    .error (.invalidInput "Issue resolution summary is incomplete")
  else .ok ()

structure CriterionRevisionSnapshot where
  criterionId : Id
  revision : Nat
deriving DecidableEq, Repr

/-- The record of one completed execution: what was submitted, checked, asked for and linked. -/
structure ExecutionCompletedPayload where
  reviewCycle : Nat
  submissionItemIds : List Id
  executionCheckIds : List Id
  criterionRevisions : List CriterionRevisionSnapshot
  codeChanges : List CodeChangeSnapshot
deriving DecidableEq, Repr

def ExecutionCompletedPayload.validate (p : ExecutionCompletedPayload) :
    Except DomainError Unit := do
  if p.reviewCycle < 1 then
    throw (.invalidInput "execution completion review cycle is required")
  if 0 ∈ p.submissionItemIds ++ p.executionCheckIds then
    throw (.invalidInput "execution completion references are invalid")
  if ∃ r ∈ p.criterionRevisions, r.criterionId = 0 ∨ r.revision < 1 then
    throw (.invalidInput "execution completion criterion snapshot is invalid")
  p.codeChanges.forM CodeChangeSnapshot.validate

/-- A row of `task_thread_items`. -/
structure ThreadItem where
  id : Id
  threadId : Id
  kind : ThreadItemKind
  author : Actor
  body : String
  issueResolution : Option IssueResolutionPayload
  executionCompleted : Option ExecutionCompletedPayload
  taskStageClaimId : Option Id
  taskReviewCycle : Option Nat
  version : Nat
  createdAt : Time
  updatedAt : Time
deriving DecidableEq, Repr

namespace ThreadItem

def validatePayloads (i : ThreadItem) : Except DomainError Unit := do
  match i.issueResolution with
  | none =>
    if i.kind = .issueResolution then
      throw (.invalidInput "issue_resolution Item requires a typed payload")
  | some p =>
    if i.kind ≠ .issueResolution then
      throw (.invalidInput "only issue_resolution Item accepts that payload")
    p.validate
  match i.executionCompleted with
  | none =>
    if i.kind = .executionCompleted then
      throw (.invalidInput "execution_completed Item requires a typed payload")
  | some p =>
    if i.kind ≠ .executionCompleted then
      throw (.invalidInput "only execution_completed Item accepts that payload")
    p.validate

/-- The Claim and the review cycle an Item may or must carry, by its kind. -/
def validateContext (i : ThreadItem) : Except DomainError Unit := do
  if i.kind = .workSubmission ∨ i.kind = .executionCompleted then
    if i.taskStageClaimId = none ∨ i.taskStageClaimId = some 0 ∨ i.taskReviewCycle = none ∨
        i.taskReviewCycle = some 0 then
      throw (.invalidInput "delivery Item requires Claim and review-cycle context")
    if ∃ p ∈ i.executionCompleted, some p.reviewCycle ≠ i.taskReviewCycle then
      throw (.invalidInput "execution completion review cycle does not match Item context")
  else if i.kind = .progress ∧ i.taskStageClaimId ≠ none then
    if i.taskStageClaimId = some 0 ∨ i.taskReviewCycle = none ∨ i.taskReviewCycle = some 0 then
      throw (.invalidInput "claimed progress requires Claim and review-cycle context")
  else if i.taskStageClaimId ≠ none ∨ i.taskReviewCycle ≠ none then
    throw (.invalidInput
      "only claimed progress and delivery Items accept Claim and review-cycle context")

def validate (i : ThreadItem) : Except DomainError Unit := do
  if i.id = 0 ∨ i.threadId = 0 ∨ ¬ validThreadActor i.author ∨ i.version < 1 ∨
      i.createdAt = 0 ∨ i.updatedAt = 0 then
    throw (.invalidInput "Thread Item identity, author, kind, and timestamps are required")
  i.validatePayloads
  i.validateContext
  if blank i.body ∧ i.kind ≠ .issueResolution then
    throw (.invalidInput "Thread Item body is required")

end ThreadItem

end Pactline
