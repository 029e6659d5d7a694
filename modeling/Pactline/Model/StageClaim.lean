import Pactline.Model.Lifecycle

/-!
# Actors and Task Claims

Who performs an operation (`internal/domain/operation.go`, `internal/domain/acceptance.go`)
and the Claim through which an actor works on a Task (`internal/domain/task_stage_claim.go`).
A Claim records the authenticated principal that made it; the store compares that record
with the caller of every later command (`internal/store/task_workflow_store.go:599-615`).
-/

set_option autoImplicit false

namespace Pactline

/-! ## Actors -/

/-- The kind of an actor; `unset` is the empty string. -/
inductive ActorType
  | user
  | agent
  | system
  | unset
deriving DecidableEq, Repr

structure Actor where
  type : ActorType
  userId : Option Id
  ref : String
deriving DecidableEq, Repr

def Actor.IsHuman (a : Actor) : Prop := a.type = .user ∧ ∃ u ∈ a.userId, u ≠ 0
deriving Decidable

def validThreadActor (a : Actor) : Bool :=
  match a.type with
  | .user => a.IsHuman
  | .agent | .system => !blank a.ref
  | .unset => false

/-- What a row gives back of an actor that was written to it: `actorColumns` keeps the user
of a human actor and the reference of any other, and `actorFromColumns` reads them again
(`task_thread_store.go:374-387`). -/
def storedActor (a : Actor) : Actor :=
  if a.type = .user then { a with ref := "" } else { a with userId := none }

inductive AuthenticationMethod
  | session
  | apiToken
  | agentDelegate
deriving DecidableEq, Repr

/-- The authenticated principal behind a request. -/
structure OperationActor where
  userId : Id
  authMethod : AuthenticationMethod
  tokenId : Option Id
  tokenName : String
  agentRunId : Option Id
  requestId : String
deriving DecidableEq, Repr

def OperationActor.validate (a : OperationActor) : Except DomainError Unit :=
  if a.userId = 0 ∨ blank a.requestId then .error .invalidOperationActor
  else match a.authMethod with
    | .session =>
      if a.tokenId ≠ none ∨ a.tokenName ≠ "" ∨ a.agentRunId ≠ none then
        .error .invalidOperationActor
      else .ok ()
    | .apiToken =>
      if a.tokenId = none ∨ a.tokenId = some 0 ∨ a.agentRunId ≠ none then
        .error .invalidOperationActor
      else .ok ()
    | .agentDelegate =>
      if a.tokenId ≠ none ∨ a.tokenName ≠ "" ∨ a.agentRunId = none ∨ a.agentRunId = some 0 then
        .error .invalidOperationActor
      else .ok ()

/-- The acting person or Agent must be the one the request was authenticated as
(`task_thread_store.go:628-647`). -/
def validateThreadOperationActor (actor : Actor) (operation : OperationActor) :
    Except DomainError Unit := do
  operation.validate
  match actor.type with
  | .user =>
    if operation.authMethod ≠ .session ∨ actor.userId ≠ some operation.userId then
      throw (.forbidden "Thread actor does not match session subject")
  | .agent =>
    if operation.authMethod = .session ∨ blank actor.ref then
      throw (.forbidden "Thread Agent provenance does not match authentication")
  | _ => throw (.forbidden "callers cannot impersonate a system actor")

/-- The actor of the events the workflow itself writes. -/
def workflowSystemActor : Actor := ⟨.system, none, "pactline"⟩

/-! ## Claims -/

inductive StageClaimStatus
  | active
  | completed
  | released
  | expired
  | cancelled
deriving DecidableEq, Repr

def StageClaimStatus.text : StageClaimStatus → String
  | active => "active"
  | completed => "completed"
  | released => "released"
  | expired => "expired"
  | cancelled => "cancelled"

inductive TaskClaimOutcome
  | executionCompleted
  | taskAccepted
  | changesRequested
  | needsResolution
  | voluntarilyReleased
  | deadlineElapsed
  | taskCancelled
deriving DecidableEq, Repr

def TaskClaimOutcome.text : TaskClaimOutcome → String
  | executionCompleted => "execution_completed"
  | taskAccepted => "task_accepted"
  | changesRequested => "changes_requested"
  | needsResolution => "needs_resolution"
  | voluntarilyReleased => "voluntarily_released"
  | deadlineElapsed => "deadline_elapsed"
  | taskCancelled => "task_cancelled"

/-- A row of `task_stage_claims`; the Task it belongs to is the one that holds it. -/
structure TaskStageClaim where
  id : Id
  taskNumber : TaskId
  stage : TaskClaimStage
  claimedBy : Actor
  subjectUserId : Id
  authMethod : AuthenticationMethod
  apiTokenId : Option Id
  tokenName : String
  agentRunId : Option Id
  clientKind : String
  clientSessionId : String
  status : StageClaimStatus
  outcome : Option TaskClaimOutcome
  version : Nat
  expiresAt : Time
  createdAt : Time
  updatedAt : Time
  completedAt : Option Time
deriving DecidableEq, Repr

/-- Seven days. -/
def taskClaimActiveLifetime : Time := 7 * 24 * 3600 * 1000000

/-- `strings.TrimSpace`. -/
def trimSpace (s : String) : String :=
  String.ofList ((s.toList.dropWhile isSpace).reverse.dropWhile isSpace).reverse

def stageAcceptsOutcome (stage : TaskClaimStage) : TaskClaimOutcome → Bool
  | .needsResolution | .voluntarilyReleased | .deadlineElapsed | .taskCancelled => true
  | .executionCompleted => stage = .execution
  | .taskAccepted | .changesRequested => stage = .review

def claimStatusAcceptsOutcome : StageClaimStatus → TaskClaimOutcome → Bool
  | .completed, .executionCompleted | .completed, .taskAccepted
  | .completed, .changesRequested | .released, .needsResolution
  | .released, .voluntarilyReleased | .expired, .deadlineElapsed
  | .cancelled, .taskCancelled => true
  | _, _ => false

/-- The status an outcome leaves a Claim in. -/
def TaskClaimOutcome.endStatus : TaskClaimOutcome → StageClaimStatus
  | executionCompleted | taskAccepted | changesRequested => .completed
  | needsResolution | voluntarilyReleased => .released
  | deadlineElapsed => .expired
  | taskCancelled => .cancelled

namespace TaskStageClaim

def validateTaskClaimAuthentication (c : TaskStageClaim) : Except DomainError Unit :=
  match c.authMethod with
  | .session =>
    if c.claimedBy.type ≠ .user ∨ c.apiTokenId ≠ none ∨ c.agentRunId ≠ none then
      .error (.invalidInput "session Claim provenance is invalid")
    else if c.claimedBy.userId ≠ some c.subjectUserId then
      .error (.invalidInput "session Claim subject does not match actor")
    else .ok ()
  | .apiToken =>
    if c.apiTokenId = none ∨ c.apiTokenId = some 0 ∨ blank c.tokenName ∨ c.agentRunId ≠ none ∨
        c.claimedBy.type ≠ .agent then
      .error (.invalidInput "API Token Claim provenance is invalid")
    else .ok ()
  | .agentDelegate =>
    if c.agentRunId = none ∨ c.agentRunId = some 0 ∨ c.apiTokenId ≠ none ∨
        c.claimedBy.type ≠ .agent then
      .error (.invalidInput "delegated Agent Claim provenance is invalid")
    else .ok ()

def validate (c : TaskStageClaim) : Except DomainError Unit := do
  if c.id = 0 ∨ c.taskNumber < 1 ∨ c.subjectUserId = 0 ∨ ¬ validThreadActor c.claimedBy ∨
      c.version < 1 ∨ c.expiresAt = 0 ∨ c.createdAt = 0 ∨ c.updatedAt = 0 then
    throw (.invalidInput "Task Claim identity, stage, actor, and lifecycle are required")
  c.validateTaskClaimAuthentication
  if c.status = .active then
    if c.outcome ≠ none ∨ c.completedAt ≠ none then
      throw (.invalidInput "active Task Claim cannot have a terminal outcome")
  else
    match c.outcome with
    | none => throw (.invalidInput "terminal Task Claim requires outcome and completion time")
    | some outcome =>
      if c.completedAt = none then
        throw (.invalidInput "terminal Task Claim requires outcome and completion time")
      if ¬ claimStatusAcceptsOutcome c.status outcome then
        throw (.invalidInput ("Task Claim status " ++ quoted c.status.text ++
          " does not accept outcome " ++ quoted outcome.text))

/-- `NewTaskStageClaim`: an active Claim of the caller that runs for the fixed lifetime. -/
def new (id : Id) (taskNumber : TaskId) (stage : TaskClaimStage) (claimedBy : Actor)
    (operation : OperationActor) (clientKind clientSessionId : String) (now : Time) :
    Except DomainError TaskStageClaim := do
  operation.validate
  let claim : TaskStageClaim :=
    { id, taskNumber, stage, claimedBy
      subjectUserId := operation.userId, authMethod := operation.authMethod
      apiTokenId := operation.tokenId, tokenName := operation.tokenName
      agentRunId := operation.agentRunId, clientKind := trimSpace clientKind
      clientSessionId := trimSpace clientSessionId, status := .active, outcome := none
      version := 1, expiresAt := now + taskClaimActiveLifetime, createdAt := now
      updatedAt := now, completedAt := none }
  claim.validate
  return claim

/-- `Complete`: an active Claim ends with an outcome its stage accepts. -/
def complete (c : TaskStageClaim) (outcome : TaskClaimOutcome) (now : Time) :
    Except DomainError TaskStageClaim :=
  if c.status ≠ .active then .error (.conflict "Task Claim is already terminal")
  else if ¬ stageAcceptsOutcome c.stage outcome then
    .error (.conflict
      (c.stage.text ++ " Claim cannot finish with outcome " ++ quoted outcome.text))
  else .ok { c with
    status := outcome.endStatus, outcome := some outcome, completedAt := some now
    updatedAt := now, version := c.version + 1 }

/-- The columns of a Claim that say who made it. -/
def OwnedBy (c : TaskStageClaim) (actor : Actor) (operation : OperationActor) : Prop :=
  c.subjectUserId = operation.userId ∧ c.authMethod = operation.authMethod ∧
    c.claimedBy = actor ∧ c.apiTokenId = operation.tokenId ∧ c.agentRunId = operation.agentRunId

end TaskStageClaim

/-- The caller must be the principal the Claim records (`task_workflow_store.go:599-615`). -/
def validateClaimActor (claim : TaskStageClaim) (actor : Actor) (operation : OperationActor) :
    Except DomainError Unit := do
  validateThreadOperationActor actor operation
  if claim.subjectUserId ≠ operation.userId ∨ claim.authMethod ≠ operation.authMethod ∨
      claim.claimedBy.type ≠ actor.type ∨ claim.claimedBy.ref ≠ actor.ref ∨
      claim.claimedBy.userId ≠ actor.userId ∨ claim.apiTokenId ≠ operation.tokenId ∨
      claim.agentRunId ≠ operation.agentRunId then
    throw (.forbidden "caller does not own this Task Claim")

end Pactline
