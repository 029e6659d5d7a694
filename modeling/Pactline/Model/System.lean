import Pactline.Concurrency.Interleaving
import Pactline.Model.AttachmentCleanup

/-!
# The system

Every transaction of the modelled stores as one command, and the callers of the API as clients
that run one command after the other. A schedule of such clients is a run of the system.
-/

set_option autoImplicit false

namespace Pactline

open ReadCommitted

/-! ## Commands -/

inductive Cmd
  | create (t : TaskId) (draft : TaskDraft) (labelIds : List Id) (dependencyIds : List TaskId)
      (actor : OperationActor) (mainThreadId : Id) (clock : Nat → Time)
  | update (t : TaskId) (expectedVersion : Option Nat) (patch : TaskPatch)
      (actor : OperationActor) (clock : Nat → Time)
  | setArchived (t : TaskId) (expectedVersion : Option Nat) (archived : Bool)
      (actor : OperationActor) (clock : Nat → Time)
  | markReady (t : TaskId) (expectedVersion : Nat) (operation : OperationActor) (now : Time)
      (fresh : Nat → Id)
  | withdrawReadiness (t : TaskId) (expectedVersion : Nat) (reason : String)
      (operation : OperationActor) (now : Time) (fresh : Nat → Id)
  | claim (t : TaskId) (expectedVersion : Nat) (claimedBy : Actor) (operation : OperationActor)
      (clientKind clientSessionId : String) (now : Time) (fresh : Nat → Id)
  | expireDueClaim (t : TaskId) (operation : OperationActor) (now : Time) (fresh : Nat → Id)
  | releaseClaim (call : ClaimCall) (handoff : String)
  | recordWorkSubmission (call : ClaimCall) (summary : String)
  | completeExecution (call : ClaimCall) (summary : String)
      (codeChanges : List CodeChangeSnapshot)
  | requestChanges (call : ClaimCall) (reason : String)
  | requestResolution (call : ClaimCall) (issueType : IssueThreadType) (request : String)
  | resolveIssue (t : TaskId) (expectedTaskVersion : Nat) (issueThreadId : Id)
      (expectedThreadVersion : Nat) (resolution : String) (actor : Actor)
      (operation : OperationActor) (now : Instant) (fresh : Nat → Id)
  | recordAcceptanceCheck (call : ClaimCall) (check : AcceptanceCheck)
  | acceptTask (call : ClaimCall) (summary : String)
  | cancelTask (t : TaskId) (expectedTaskVersion : Nat) (reason : String) (actor : Actor)
      (operation : OperationActor) (now : Instant) (fresh : Nat → Id)
  | recordClaimProgress (t : TaskId) (claimId : Id) (body : String) (actor : Actor)
      (operation : OperationActor) (now : Time) (fresh : Nat → Id)
  | createCriterion (t : TaskId) (expectedTaskVersion : Nat) (criterion : AcceptanceCriterion)
      (actor : OperationActor) (clock : Nat → Time) (fresh : Nat → Id)
  | updateCriterion (criterionId : Id) (expectedVersion : Nat) (text instructions : Option String)
      (position : Option Int) (actor : OperationActor) (clock : Nat → Time)
  | addCheck (criterionId : Id) (expectedVersion : Nat) (check : AcceptanceCheck)
      (actor : OperationActor) (clock : Nat → Time) (fresh : Nat → Id)
  | removeCriterion (criterionId : Id) (expectedVersion : Nat) (actor : OperationActor)
      (clock : Nat → Time)
  | link (call : ClaimCall) (projectRepositoryId : Id) (codeChange : CodeChange)
  | unlink (call : ClaimCall) (linkId : Id)
  | updateObservation (linkId : Id) (observation : CodeChangeObservation)
  | setRepository (repositoryId : Id) (repository : ProjectRepository)
  | createUpload (id : Id) (session : AttachmentUploadSession) (now : Time)
  /-- `inspected` is the content the caller has looked at; the transaction does not. -/
  | completeUpload (id uploaderId : Id) (info : ObjectInfo) (expectedTaskVersion : Nat)
      (actor : OperationActor) (attachmentId : Id) (now : Time) (inspected : Bytes)
  | softDelete (taskId : TaskId) (id : Id) (expectedVersion : Nat) (now : Time)
  | claimCleanupBatch (limit : Int) (ids : List Id) (now : Time)
  | markCleaned (id : Id) (now : Time)
  | markCleanupFailed (id : Id) (message : String)
  | claimExpiredUploads (limit : Int) (ids : List Id) (now : Time)
  | putObject (key : String) (content : Bytes)
  | statObject (key : String)
  | openObject (key : String)
  | deleteObject (key : String) (reason : Deletion)
  /-- `TaskStageClaimStore.Get`. -/
  | getClaim (claimId : Id)
  /-- `GetUploadSession`. -/
  | getUpload (id : Id)

/-- What a committed command gives back. -/
inductive Reply
  | row (row : TaskRow)
  | task (task : WorkflowTask)
  | claim (task : WorkflowTask) (claim : TaskStageClaim)
  | expired (expired : Bool)
  | issue (task : WorkflowTask) (thread : Thread)
  | blocked (task : WorkflowTask) (claim : TaskStageClaim) (thread : Thread)
  | check (check : AcceptanceCheck)
  | checkAdded (check : AcceptanceCheck) (taskVersion : Nat)
  | cancelled (result : CancelTaskResult)
  | criterion (criterion : AcceptanceCriterion) (taskVersion : Nat)
  | version (taskVersion : Nat)
  | link (task : WorkflowTask) (link : TaskCodeChange)
  | upload (session : AttachmentUploadSession)
  | completion (completion : UploadCompletion)
  | storedClaim (claim : TaskStageClaim)
  | attachment (attachment : TaskAttachment)
  | cleanup (claimed : List (Id × TaskAttachment))
  | expiredUploads (claimed : List (Id × AttachmentUploadSession))
  | objectInfo (info : ObjectInfo)
  | content (content : Bytes)
  | done
deriving DecidableEq, Repr

/-- What one call of a service does, transaction by transaction. -/
abbrev ServiceClient := Client Cmd DomainError Reply

/-- `TaskStageClaimStore.Get` (`task_stage_claim_store.go:56-71`): one statement without a lock. -/
def getClaim (claimId : Id) : Tx TaskStageClaim := do
  let found ← Txn.query (·.claim claimId)
  Txn.demand found .notFound

/-- `GetUploadSession` (`attachment_store.go:81-95`): one statement without a lock. -/
def getUploadSession (id : Id) : Tx AttachmentUploadSession := do
  let found ← Txn.query fun d => (d.uploads.lookup id).filter fun s => s.status = .pending
  Txn.demand found .notFound

/-- The program of each command. -/
def prog (platform : Platform) : Cmd → Tx Reply
  | .create t draft labelIds dependencyIds actor mainThreadId clock => do
      return .row (← createTask t draft labelIds dependencyIds actor mainThreadId clock)
  | .update t expectedVersion patch actor clock => do
      return .row (← updateTask t expectedVersion patch actor clock)
  | .setArchived t expectedVersion archived actor clock => do
      return .row (← setArchived t expectedVersion archived actor clock)
  | .markReady t expectedVersion operation now fresh => do
      return .task (← markReady t expectedVersion operation now fresh)
  | .withdrawReadiness t expectedVersion reason operation now fresh => do
      return .task (← withdrawReadiness t expectedVersion reason operation now fresh)
  | .claim t expectedVersion claimedBy operation clientKind clientSessionId now fresh => do
      let r ← claimTask t expectedVersion claimedBy operation clientKind clientSessionId now fresh
      return .claim r.1 r.2
  | .expireDueClaim t operation now fresh => do
      return .expired (← expireDueClaim t operation now fresh)
  | .releaseClaim call handoff => do
      let r ← releaseClaim call handoff
      return .claim r.1 r.2
  | .recordWorkSubmission call summary => do
      let r ← recordWorkSubmission call summary
      return .claim r.1 r.2
  | .completeExecution call summary codeChanges => do
      let r ← completeExecutionWithDelivery call summary codeChanges
      return .claim r.1 r.2
  | .requestChanges call reason => do
      let r ← requestChanges call reason
      return .claim r.1 r.2
  | .requestResolution call issueType request => do
      let r ← requestResolution call issueType request
      return .blocked r.1 r.2.1 r.2.2
  | .resolveIssue t expectedTaskVersion issueThreadId expectedThreadVersion resolution actor
      operation now fresh => do
      let r ← resolveIssue t expectedTaskVersion issueThreadId expectedThreadVersion resolution
        actor operation now fresh
      return .issue r.1 r.2
  | .recordAcceptanceCheck call check => do
      return .check (← recordAcceptanceCheck call check)
  | .acceptTask call summary => do
      let r ← acceptTask call summary
      return .claim r.1 r.2
  | .cancelTask t expectedTaskVersion reason actor operation now fresh => do
      return .cancelled (← cancelTask t expectedTaskVersion reason actor operation now fresh)
  | .recordClaimProgress t claimId body actor operation now fresh => do
      let r ← recordClaimProgress t claimId body actor operation now fresh
      return .claim r.1 r.2
  | .createCriterion t expectedTaskVersion criterion actor clock fresh => do
      let r ← createTaskCriterion t expectedTaskVersion criterion actor clock fresh
      return .criterion r.1 r.2
  | .updateCriterion criterionId expectedVersion text instructions position actor clock => do
      let r ← updateCriterion criterionId expectedVersion text instructions position actor clock
      return .criterion r.1 r.2
  | .addCheck criterionId expectedVersion check actor clock fresh => do
      let r ← addCheck criterionId expectedVersion check actor clock fresh
      return .checkAdded r.1 r.2
  | .removeCriterion criterionId expectedVersion actor clock => do
      return .version (← removeCriterion criterionId expectedVersion actor clock)
  | .link call projectRepositoryId codeChange => do
      let r ← linkCodeChange call projectRepositoryId codeChange
      return .link r.1 r.2
  | .unlink call linkId => do
      let r ← unlinkCodeChange call linkId
      return .link r.1 r.2
  | .updateObservation linkId observation => do
      updateObservation linkId observation
      return .done
  | .setRepository repositoryId repository => do
      setRepository repositoryId repository
      return .done
  | .createUpload id session now => do
      return .upload (← createUploadSession platform id session now)
  | .completeUpload id uploaderId info expectedTaskVersion actor attachmentId now _ => do
      return .completion (← completeUploadSession platform id uploaderId info expectedTaskVersion
        actor attachmentId now)
  | .softDelete taskId id expectedVersion now => do
      return .attachment (← softDelete taskId id expectedVersion now)
  | .claimCleanupBatch limit ids now => do
      return .cleanup (← claimCleanupBatch limit ids now)
  | .markCleaned id now => do
      markCleaned id now
      return .done
  | .markCleanupFailed id message => do
      markCleanupFailed id message
      return .done
  | .claimExpiredUploads limit ids now => do
      return .expiredUploads (← claimExpiredUploadSessions limit ids now)
  | .putObject key content => do
      putObject key content
      return .done
  | .statObject key => do
      return .objectInfo (← statObject platform key)
  | .openObject key => do
      return .content (← openObject key)
  | .deleteObject key _ => do
      deleteObject key
      return .done
  | .getClaim claimId => do
      return .storedClaim (← getClaim claimId)
  | .getUpload id => do
      return .upload (← getUploadSession id)

end Pactline
