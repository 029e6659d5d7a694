import Pactline.Model.System

/-!
# The handlers of the Claim-owned commands

The handlers of `internal/api/v1/task_workflow.go` and `internal/api/v1/task_delivery.go` that act
through a Claim, with the store functions that take a Claim by its identity
(`internal/store/task_claim_commands.go`). Each handler runs several transactions: it reads the
Claim, ends it if its deadline has passed, and goes on to the command itself.

The checks of access and of the headers are left out; they only stop a handler. What the provider of
a repository answers and the times at which the clock is read are arguments.
-/

set_option autoImplicit false

namespace Pactline

open ReadCommitted

/-- What a handler works with. -/
structure ClaimRequest where
  claimId : Id
  expectedTaskVersion : Nat
  actor : Actor
  operation : OperationActor
  /-- The time with which `claimCommandContext` compares the deadline. -/
  checkedAt : Time
  /-- The time it gives to `ExpireDueClaim`. -/
  expiringAt : Time
  /-- The time the command is given. -/
  now : Time
  /-- The identities that each of the transactions draws. -/
  fresh : Nat → Nat → Id

namespace ClaimRequest

/-- The part that `claimCommandContext` and `claimCommandTarget` share: read the Claim, and if it is
active and past its deadline, end it or read it again. -/
def currentClaim (q : ClaimRequest) (checkedAt expiringAt : Time) (fresh : Nat → Id)
    (next : TaskStageClaim → ServiceClient) : ServiceClient :=
  .call (.getClaim q.claimId) fun
    | .committed (.storedClaim claim) =>
      if claim.status = .active ∧ claim.expiresAt ≤ checkedAt then
        .call (.expireDueClaim claim.taskNumber q.operation expiringAt fresh) fun
          | .committed (.expired false) => .call (.getClaim q.claimId) fun
              | .committed (.storedClaim claim) => next claim
              | _ => .stop
          | _ => .stop
      else next claim
    | _ => .stop

/-- `Handler.claimCommandContext` (`task_workflow.go:658-701`). -/
def claimCommandContext (q : ClaimRequest) (next : TaskStageClaim → ServiceClient) :
    ServiceClient :=
  q.currentClaim q.checkedAt q.expiringAt (q.fresh 0) next

/-- `claimCommandTarget` (`task_claim_commands.go:17-47`). -/
def claimCommandTarget (q : ClaimRequest) (next : TaskStageClaim → ServiceClient) :
    ServiceClient :=
  q.currentClaim q.now q.now (q.fresh 1) fun claim =>
    if claim.status ≠ .active then .stop else next claim

/-- The arguments of the command for the Claim that was found. -/
def call (q : ClaimRequest) (claim : TaskStageClaim) : ClaimCall :=
  { taskNumber := claim.taskNumber, claimId := q.claimId
    expectedTaskVersion := q.expectedTaskVersion, expectedClaimVersion := claim.version
    actor := q.actor, operation := q.operation, now := q.now, fresh := q.fresh 2 }

/-- A handler around one of the `ByID` functions. -/
def byId (q : ClaimRequest) (command : ClaimCall → Cmd) : ServiceClient :=
  q.claimCommandTarget fun claim => .call (command (q.call claim)) fun _ => .stop

def releaseTaskStageClaim (q : ClaimRequest) (body : String) : ServiceClient :=
  q.claimCommandContext fun _ => q.byId fun call => .releaseClaim call body

def recordTaskWorkSubmission (q : ClaimRequest) (body : String) : ServiceClient :=
  q.claimCommandContext fun _ => q.byId fun call => .recordWorkSubmission call body

/-- `RecordClaimProgress` looks at the text and the actor before it looks for the Claim. -/
def recordTaskClaimProgress (q : ClaimRequest) (body : String) : ServiceClient :=
  q.claimCommandContext fun _ =>
    if blank body then .stop
    else match validateThreadOperationActor q.actor q.operation with
      | .error _ => .stop
      | .ok () => q.claimCommandTarget fun claim =>
        .call (.recordClaimProgress claim.taskNumber q.claimId body q.actor q.operation q.now
          (q.fresh 2)) fun _ => .stop

/-- `refreshLinks` (`task_delivery_service.go:106-160`): what the provider says
of the links is written, in the order in which its answers come, and one failure fails the call. -/
def refreshLinks (next : ServiceClient) :
    List (Id × CodeChangeObservation) → Bool → ServiceClient
  | [], failed => if failed then .stop else next
  | (linkId, observation) :: rest, failed =>
    .call (.updateObservation linkId observation) fun
      | .committed _ => refreshLinks next rest failed
      | _ => refreshLinks next rest true

def completeTaskExecution (q : ClaimRequest) (body : String)
    (observations : List (Id × CodeChangeObservation)) (codeChanges : List CodeChangeSnapshot) :
    ServiceClient :=
  q.claimCommandContext fun _ =>
    refreshLinks (q.byId fun call => .completeExecution call body codeChanges) observations false

def requestTaskChanges (q : ClaimRequest) (body : String) : ServiceClient :=
  q.claimCommandContext fun _ => q.byId fun call => .requestChanges call body

def acceptTask (q : ClaimRequest) (body : String) : ServiceClient :=
  q.claimCommandContext fun _ => q.byId fun call => .acceptTask call body

def requestTaskResolution (q : ClaimRequest) (issueType : IssueThreadType) (request : String) :
    ServiceClient :=
  q.claimCommandContext fun _ => q.byId fun call => .requestResolution call issueType request

def recordTaskStageAcceptanceCheck (q : ClaimRequest) (check : AcceptanceCheck) : ServiceClient :=
  q.claimCommandContext fun _ => q.byId fun call => .recordAcceptanceCheck call check

/-- `LinkTaskCodeChange` with `TaskDeliveryService.LinkCodeChange`
(`task_delivery_service.go:240-316`): the Claim is not looked for again, and the
clock is read once the provider has answered. -/
def linkTaskCodeChange (q : ClaimRequest) (projectRepositoryId : Id) (codeChange : CodeChange) :
    ServiceClient :=
  q.claimCommandContext fun claim =>
    .call (.link (q.call claim) projectRepositoryId codeChange) fun _ => .stop

/-- `UnlinkTaskCodeChange` with `TaskDeliveryService.UnlinkCodeChange`
(`task_delivery_service.go:318-336`). -/
def unlinkTaskCodeChange (q : ClaimRequest) (linkId : Id) : ServiceClient :=
  q.claimCommandContext fun claim => .call (.unlink (q.call claim) linkId) fun _ => .stop

/-- The handlers that look for the Claim with the time they give to the command. -/
inductive HandledByWorkflow (q : ClaimRequest) : ServiceClient → Prop
  | release (body : String) : HandledByWorkflow q (q.releaseTaskStageClaim body)
  | workSubmission (body : String) : HandledByWorkflow q (q.recordTaskWorkSubmission body)
  | progress (body : String) : HandledByWorkflow q (q.recordTaskClaimProgress body)
  | completion (body : String) (observations : List (Id × CodeChangeObservation))
      (codeChanges : List CodeChangeSnapshot) :
      HandledByWorkflow q (q.completeTaskExecution body observations codeChanges)
  | changes (body : String) : HandledByWorkflow q (q.requestTaskChanges body)
  | acceptance (body : String) : HandledByWorkflow q (q.acceptTask body)
  | resolution (issueType : IssueThreadType) (request : String) :
      HandledByWorkflow q (q.requestTaskResolution issueType request)
  | check (check : AcceptanceCheck) : HandledByWorkflow q (q.recordTaskStageAcceptanceCheck check)

/-- The handlers of the delivery service, which do not. -/
inductive HandledByDelivery (q : ClaimRequest) : ServiceClient → Prop
  | link (projectRepositoryId : Id) (codeChange : CodeChange) :
      HandledByDelivery q (q.linkTaskCodeChange projectRepositoryId codeChange)
  | unlink (linkId : Id) : HandledByDelivery q (q.unlinkTaskCodeChange linkId)

end ClaimRequest

end Pactline
