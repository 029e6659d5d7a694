import Mathlib.Algebra.Group.Int.Defs
import Mathlib.Algebra.Group.Nat.Defs
import Pactline.Concurrency.Rowwise
import Pactline.Model.Attachment

/-!
# Agent runs

The store of the first-party Agent (`internal/store/agent_store.go`): the runs a worker can claim
under a lease, the messages they leave in an outbox, and the encrypted inputs. Every operation is
one transaction of a few statements, each of which names its row.

The columns that may be `NULL` are options here; `scanAgentRun` reads an empty string from a text
that is missing (`stringValue`). The columns have their times in microseconds, and the commands and
the methods of the domain in nanoseconds. Where the source reads a row again to find out why a
statement has changed nothing, that read is a transaction of its own (`getRun`).
-/

set_option autoImplicit false

namespace Pactline.Agent

open ReadCommitted Rowwise

/-! ## Types -/

/-- The sentinels of `internal/agent/domain.go:80-97` that the store returns, and the constraints of
the tables. -/
inductive AgentError
  | invalidRun
  | invalidTransition
  | clarificationLimit
  | contextLimit
  | runNotFound
  | leaseLost
  | deliveryClaimed
  | constraint (name : String)
deriving DecidableEq, Repr

inductive RunStatus
  | queued
  | running
  | waitingUser
  | succeeded
  | failed
  | cancelled
deriving DecidableEq, Repr

inductive CommandKind
  | direct
  | discussion
deriving DecidableEq, Repr

inductive OutboxKind
  | clarification
  | success
  | permissionFailure
  | terminalFailure
  | retrying
  | expired
deriving DecidableEq, Repr

inductive OutboxState
  | pending
  | delivering
  | delivered
  | failed
deriving DecidableEq, Repr

def maxClarificationRounds : Int := 3

def maxContextMessages : Int := 100

/-- A day. -/
def clarificationLifetime : Instant := 24 * 3600 * 1000000000

/-- Two minutes. -/
def defaultLeaseDuration : Instant := 2 * 60 * 1000000000

/-- The largest `integer` of a column. -/
def maxInteger : Int := 2147483647

/-- Arithmetic on `int` wraps. -/
def goInt (x : Int) : Int := x.bmod (2 ^ 64)

/-- `Run` (`internal/agent/domain.go:99-132`), as a row of `agent_runs`. -/
structure Run where
  id : Id
  provider : String
  tenantId : String
  conversationId : String
  triggerMessageId : String
  providerEventId : String
  threadRootMessageId : Option String
  replyParentMessageId : Option String
  conversationRevisionId : Option Id
  triggerOccurredAt : Time
  initiatingUserId : Id
  initiatingSubjectId : String
  status : RunStatus
  commandKind : CommandKind
  model : String
  promptVersion : String
  attemptCount : Int
  clarificationRounds : Int
  clarificationMessageId : Option String
  clarificationInterruptId : Option String
  clarificationExpiresAt : Option Time
  contextMessagesUsed : Int
  leaseOwner : Option String
  leaseExpiresAt : Option Time
  availableAt : Time
  createdTaskId : Option Id
  createdTaskNumber : Option Int
  terminalErrorCategory : Option String
  terminalErrorDetail : Option String
  createdAt : Time
  updatedAt : Time
  completedAt : Option Time
deriving DecidableEq, Repr

/-- `OutboxMessage`, as a row of `agent_message_outbox`. -/
structure OutboxMessage where
  id : Id
  runId : Id
  deduplicationKey : String
  kind : OutboxKind
  targetMessageId : String
  body : String
  state : OutboxState
  attemptCount : Nat
  availableAt : Time
  leaseOwner : Option String
  leaseExpiresAt : Option Time
  providerMessageId : Option String
  providerErrorCode : Option String
  createdAt : Time
  updatedAt : Time
  deliveredAt : Option Time
deriving DecidableEq, Repr

/-- `RunInput`, as a row of `agent_run_inputs`. -/
structure RunInput where
  runId : Id
  encryptionKeyId : String
  commandCiphertext : Bytes
  pendingResumeCiphertext : Option Bytes
deriving DecidableEq, Repr

def stringValue (value : Option String) : String := value.getD ""

def nullIfEmpty (value : String) : Option String := if value = "" then none else some value

/-- `btrim(text) = ''`: only spaces. -/
def onlySpaces (text : String) : Prop := ∀ c ∈ text.toList, c = ' '

instance (text : String) : Decidable (onlySpaces text) :=
  List.decidableBAll (· = ' ') text.toList

/-! ## Runs -/

def RunStatus.IsTerminal (status : RunStatus) : Prop :=
  status = .succeeded ∨ status = .failed ∨ status = .cancelled
deriving Decidable

/-- The times of `scanAgentRun` (`agent_store.go:1024-1057`): the run that is read. -/
def Run.scan (row : Run) : Run :=
  { row with
    triggerOccurredAt := row.triggerOccurredAt.instant
    clarificationExpiresAt := row.clarificationExpiresAt.map Time.instant
    leaseExpiresAt := row.leaseExpiresAt.map Time.instant, availableAt := row.availableAt.instant
    createdAt := row.createdAt.instant, updatedAt := row.updatedAt.instant
    completedAt := row.completedAt.map Time.instant }

/-- `Run.Validate` (`internal/agent/domain.go:179-236`). The kind of the command and the status are
among the constants by their types. -/
def Run.validate (r : Run) : Except AgentError Unit :=
  if r.id = 0 ∨ blank r.provider ∨ blank r.tenantId ∨ blank r.conversationId ∨
      blank r.triggerMessageId ∨ blank r.providerEventId ∨ r.triggerOccurredAt = 0 ∨
      r.initiatingUserId = 0 ∨ blank r.initiatingSubjectId ∨ blank r.model ∨
      blank r.promptVersion ∨ r.createdAt = 0 ∨ r.updatedAt = 0 ∨ r.availableAt = 0 then
    .error .invalidRun
  else if r.provider ≠ "lark" then .error .invalidRun
  else if r.conversationRevisionId = some 0 then .error .invalidRun
  else if r.attemptCount < 0 ∨ r.clarificationRounds < 0 ∨
      maxClarificationRounds < r.clarificationRounds ∨ r.contextMessagesUsed < 0 ∨
      maxContextMessages < r.contextMessagesUsed then
    .error .invalidRun
  else if r.createdTaskId.isNone ≠ r.createdTaskNumber.isNone then .error .invalidRun
  else if r.createdTaskId = some 0 ∨ ∃ number ∈ r.createdTaskNumber, number ≤ 0 then
    .error .invalidRun
  else if r.status.IsTerminal ↔ r.completedAt = none then .error .invalidRun
  else if r.status = .running ∧ (blank (stringValue r.leaseOwner) ∨ r.leaseExpiresAt = none) then
    .error .invalidRun
  else if r.status ≠ .running ∧ (stringValue r.leaseOwner ≠ "" ∨ r.leaseExpiresAt ≠ none) then
    .error .invalidRun
  else if r.status = .waitingUser ∧ (blank (stringValue r.clarificationMessageId) ∨
      blank (stringValue r.clarificationInterruptId) ∨ r.clarificationExpiresAt = none) then
    .error .invalidRun
  else .ok ()

/-- `Run.WaitForUser` (`internal/agent/domain.go:274-297`). -/
def Run.waitForUser (r : Run) (messageId interruptId : String) (now : Instant) :
    Except AgentError Run :=
  if r.status ≠ .running then .error .invalidTransition
  else if maxClarificationRounds ≤ r.clarificationRounds then .error .clarificationLimit
  else if blank messageId ∨ blank interruptId then .error .invalidTransition
  else .ok { r with
    status := .waitingUser, clarificationRounds := r.clarificationRounds + 1
    clarificationMessageId := some (trimSpace messageId)
    clarificationInterruptId := some (trimSpace interruptId)
    clarificationExpiresAt := some (now + clarificationLifetime)
    leaseOwner := none, leaseExpiresAt := none, updatedAt := now }

/-! The other methods of the domain, which the store does not call. -/

/-- The sentinels they return. -/
inductive MethodError
  | runTerminal
  | invalidTransition
  | leaseLost
  | runNotWaiting
  | clarificationUserMismatch
  | clarificationExpired
  | contextLimit
  | taskAlreadyCreated
deriving DecidableEq, Repr

/-- The expiry of a lease that is taken now. -/
def leaseExpiry (now : Instant) (leaseDuration : Int) (default : Instant) : Instant :=
  now + if leaseDuration ≤ 0 then default else leaseDuration.toNat

/-- `Run.Claim` (`internal/agent/domain.go:242-259`). -/
def Run.claim (r : Run) (workerId : String) (now : Instant) (leaseDuration : Int) :
    Except MethodError Run :=
  if r.status.IsTerminal then .error .runTerminal
  else if r.status ≠ .queued ∨ blank workerId ∨ now < r.availableAt then .error .invalidTransition
  else .ok { r with
    status := .running, leaseOwner := some (trimSpace workerId)
    leaseExpiresAt := some (leaseExpiry now leaseDuration defaultLeaseDuration)
    attemptCount := goInt (r.attemptCount + 1), updatedAt := now }

/-- `Run.RenewLease` (`internal/agent/domain.go:261-273`). -/
def Run.renewLease (r : Run) (workerId : String) (now : Instant) (leaseDuration : Int) :
    Except MethodError Run :=
  if r.status ≠ .running ∨ stringValue r.leaseOwner ≠ workerId ∨
      ¬ ∃ expiry ∈ r.leaseExpiresAt, now ≤ expiry then .error .leaseLost
  else .ok { r with
    leaseExpiresAt := some (leaseExpiry now leaseDuration defaultLeaseDuration), updatedAt := now }

/-- `Run.Resume` (`internal/agent/domain.go:298-314`). -/
def Run.resume (r : Run) (userId : Id) (now : Instant) : Except MethodError Run :=
  if r.status ≠ .waitingUser then .error .runNotWaiting
  else if userId ≠ r.initiatingUserId then .error .clarificationUserMismatch
  else if ¬ ∃ expiry ∈ r.clarificationExpiresAt, now < expiry then .error .clarificationExpired
  else .ok { r with
    status := .queued, availableAt := now, clarificationMessageId := none
    clarificationExpiresAt := none, updatedAt := now }

/-- `Run.AddContextMessages` (`internal/agent/domain.go:316-323`). -/
def Run.addContextMessages (r : Run) (count : Int) (now : Instant) : Except MethodError Run :=
  if count < 0 ∨ maxContextMessages < goInt (r.contextMessagesUsed + count) then
    .error .contextLimit
  else .ok { r with contextMessagesUsed := goInt (r.contextMessagesUsed + count), updatedAt := now }

/-- `Run.AttachTask` (`internal/agent/domain.go:325-339`). -/
def Run.attachTask (r : Run) (taskId : Id) (taskNumber : Int) (now : Instant) :
    Except MethodError Run :=
  if r.createdTaskId ≠ none then
    if r.createdTaskId = some taskId ∧ r.createdTaskNumber = some taskNumber then .ok r
    else .error .taskAlreadyCreated
  else if r.status ≠ .running ∨ taskId = 0 ∨ taskNumber ≤ 0 then .error .invalidTransition
  else .ok { r with
    createdTaskId := some taskId, createdTaskNumber := some taskNumber, updatedAt := now }

/-- `Run.terminal` (`internal/agent/domain.go:373-388`). -/
def Run.terminal (r : Run) (status : RunStatus) (category detail : String) (now : Instant) :
    Except MethodError Run :=
  if ¬ status.IsTerminal then .error .invalidTransition
  else .ok { r with
    status, terminalErrorCategory := nullIfEmpty (trimSpace category)
    terminalErrorDetail := nullIfEmpty (trimSpace detail), completedAt := some now
    clarificationMessageId := none, clarificationInterruptId := none
    clarificationExpiresAt := none, leaseOwner := none, leaseExpiresAt := none, updatedAt := now }

/-- `Run.Succeed` (`internal/agent/domain.go:341-346`). -/
def Run.succeed (r : Run) (now : Instant) : Except MethodError Run :=
  if r.status ≠ .running ∨ r.createdTaskId = none then .error .invalidTransition
  else r.terminal .succeeded "" "" now

/-- `Run.Fail` (`internal/agent/domain.go:348-353`). -/
def Run.fail (r : Run) (category detail : String) (now : Instant) : Except MethodError Run :=
  if r.status ≠ .running ∧ r.status ≠ .queued then .error .invalidTransition
  else r.terminal .failed category detail now

/-- `Run.Cancel` (`internal/agent/domain.go:355-360`). -/
def Run.cancel (r : Run) (category detail : String) (now : Instant) : Except MethodError Run :=
  if r.status.IsTerminal then .error .runTerminal
  else r.terminal .cancelled category detail now

/-- `Run.Retry` (`internal/agent/domain.go:362-371`). -/
def Run.retry (r : Run) (availableAt now : Instant) : Except MethodError Run :=
  if r.status ≠ .running then .error .invalidTransition
  else .ok { r with
    status := .queued, availableAt, leaseOwner := none, leaseExpiresAt := none, updatedAt := now }

/-! The rows. -/

/-- What an `INSERT` of the run stores: the columns it does not name are `NULL`. -/
def Run.inserted (r : Run) : Run :=
  { r with
    threadRootMessageId := nullIfEmpty (stringValue r.threadRootMessageId)
    replyParentMessageId := nullIfEmpty (stringValue r.replyParentMessageId)
    triggerOccurredAt := Instant.column r.triggerOccurredAt
    availableAt := Instant.column r.availableAt, createdAt := Instant.column r.createdAt
    updatedAt := Instant.column r.updatedAt
    clarificationMessageId := none, clarificationInterruptId := none
    clarificationExpiresAt := none, leaseOwner := none, leaseExpiresAt := none
    createdTaskId := none, createdTaskNumber := none, terminalErrorCategory := none
    terminalErrorDetail := none, completedAt := none }

/-- The `CHECK` constraints of `agent_runs` over several columns
(`migrations/0016_first_party_agent_harness.sql:48-70`). -/
def Run.Checked (r : Run) : Prop :=
  (r.status = .running ↔ r.leaseOwner.isSome) ∧ (r.status = .running ↔ r.leaseExpiresAt.isSome) ∧
    (r.status = .waitingUser → r.clarificationMessageId.isSome ∧
      r.clarificationInterruptId.isSome ∧ r.clarificationExpiresAt.isSome) ∧
    (r.createdTaskId.isSome ↔ r.createdTaskNumber.isSome) ∧
    (r.status.IsTerminal ↔ r.completedAt.isSome)
deriving Decidable

/-- The run can be claimed: it is queued and its time has come, or its lease has lapsed. -/
def Run.Claimable (r : Run) (now : Time) : Prop :=
  r.status = .queued ∧ r.availableAt ≤ now ∨
    r.status = .running ∧ ∃ expiry ∈ r.leaseExpiresAt, expiry ≤ now
deriving Decidable

/-- The run is running under the lease of the worker. -/
def Run.HeldBy (r : Run) (workerId : String) : Prop :=
  r.status = .running ∧ r.leaseOwner = some workerId
deriving Decidable

/-! What the statements make of a row. -/

def Run.claimed (r : Run) (workerId : String) (now expiry : Time) : Run :=
  { r with
    status := .running, leaseOwner := some workerId, leaseExpiresAt := some expiry
    attemptCount := r.attemptCount + 1, updatedAt := now }

def Run.renewed (r : Run) (now expiry : Time) : Run :=
  { r with leaseExpiresAt := some expiry, updatedAt := now }

def Run.usedContext (r : Run) (count : Int) (now : Time) : Run :=
  { r with contextMessagesUsed := r.contextMessagesUsed + count, updatedAt := now }

def Run.attached (r : Run) (taskId : Id) (taskNumber : Int) (now : Time) : Run :=
  { r with createdTaskId := some taskId, createdTaskNumber := some taskNumber, updatedAt := now }

/-- The columns of the waiting run. -/
def Run.waiting (r waiting : Run) : Run :=
  { r with
    status := waiting.status, clarificationRounds := waiting.clarificationRounds
    clarificationMessageId := waiting.clarificationMessageId
    clarificationInterruptId := waiting.clarificationInterruptId
    clarificationExpiresAt := waiting.clarificationExpiresAt.map Instant.column
    leaseOwner := none, leaseExpiresAt := none, updatedAt := Instant.column waiting.updatedAt }

def Run.resumed (r : Run) (now : Time) : Run :=
  { r with
    status := .queued, availableAt := now, clarificationMessageId := none
    clarificationExpiresAt := none, updatedAt := now }

def Run.finished (r : Run) (status : RunStatus) (errorCategory errorDetail : String) (now : Time) :
    Run :=
  { r with
    status, terminalErrorCategory := nullIfEmpty errorCategory
    terminalErrorDetail := nullIfEmpty errorDetail, leaseOwner := none, leaseExpiresAt := none
    clarificationMessageId := none, clarificationInterruptId := none
    clarificationExpiresAt := none, completedAt := some now, updatedAt := now }

def Run.retried (r : Run) (availableAt now : Time) : Run :=
  { r with status := .queued, availableAt, leaseOwner := none, leaseExpiresAt := none
           updatedAt := now }

def Run.answeredBy (r : Run) (providerMessageId : String) (now : Time) : Run :=
  { r with clarificationMessageId := some providerMessageId, updatedAt := now }

def Run.expired (r : Run) (now : Time) : Run :=
  { r with
    status := .cancelled, terminalErrorCategory := some "clarification_expired"
    terminalErrorDetail := some "clarification expired", clarificationMessageId := none
    clarificationInterruptId := none, clarificationExpiresAt := none
    completedAt := some now, updatedAt := now }

/-- The run waits for an answer to this message, and the time for it has not passed. -/
def Run.Answerable (r : Run) (userId : Id) (clarificationMessageId : String) (now : Time) : Prop :=
  r.status = .waitingUser ∧ r.initiatingUserId = userId ∧
    r.clarificationMessageId = some clarificationMessageId ∧
    ∃ expiry ∈ r.clarificationExpiresAt, now < expiry
deriving Decidable

/-- The run waits, and the time for an answer has passed. -/
def Run.Unanswered (r : Run) (now : Time) : Prop :=
  r.status = .waitingUser ∧ ∃ expiry ∈ r.clarificationExpiresAt, expiry ≤ now
deriving Decidable

/-! ## Tables -/

/-- The rows that can be locked: those of the tables, and the entries of the unique indexes. -/
inductive Key
  | run (id : Id)
  | providerEvent (provider tenantId eventId : String)
  | triggerMessage (provider tenantId messageId : String)
  | createdTask (id : Id)
  | createdTaskNumber (number : Int)
  | input (runId : Id)
  | message (id : Id)
  | deduplicationKey (key : String)
  | task (id : Id)
deriving DecidableEq, Repr

/-- An entry of an index holds the row that has the key. Of a Task only its existence matters. -/
abbrev Columns : Key → Type
  | .run _ => Run
  | .input _ => RunInput
  | .message _ => OutboxMessage
  | .task _ => Unit
  | _ => Id

abbrev Db := Rows Columns

abbrev Program := Rowwise Columns AgentError

/-! ## The store -/

/-- `CreateRunWithInput` (`agent_store.go:67-139`). An `INSERT` that any unique
index refuses does nothing. -/
def createRunWithInput (run : Run) (input : RunInput) : Program (Option Run) := do
  run.validate
  require (input.runId = run.id ∧ input.encryptionKeyId ≠ "" ∧ input.commandCiphertext ≠ [])
    .invalidRun
  require run.inserted.Checked (.constraint "agent_runs_check")
  let sameId ← selectForUpdate (.run run.id)
  let sameEvent ← selectForUpdate
    (.providerEvent run.provider run.tenantId run.providerEventId)
  let sameMessage ← selectForUpdate
    (.triggerMessage run.provider run.tenantId run.triggerMessageId)
  if sameId.isSome ∨ sameEvent.isSome ∨ sameMessage.isSome then return none
  else
    let _ ← insert (.run run.id) run.inserted
    let _ ← insert (.providerEvent run.provider run.tenantId run.providerEventId) run.id
    let _ ← insert (.triggerMessage run.provider run.tenantId run.triggerMessageId) run.id
    let fresh ← insert (.input run.id)
      { input with pendingResumeCiphertext := none : RunInput }
    require fresh (.constraint "agent_run_inputs_pkey")
    return some run

/-- `findRunByProviderIdentity` (`agent_store.go:989-1002`): the older one of the run
with this event and the run with this message. -/
def findRunByProviderIdentity (provider tenantId eventId messageId : String) : Program Run := do
  let found ← query fun d : Db =>
    let byEvent : Option Run :=
      (d (.providerEvent provider tenantId eventId) : Option Id).bind fun id => d (.run id)
    let byMessage : Option Run :=
      (d (.triggerMessage provider tenantId messageId) : Option Id).bind fun id => d (.run id)
    match byEvent, byMessage with
    | some r, some r' => some (if r'.createdAt < r.createdAt then r' else r)
    | some r, none => some r
    | none, found => found
  demand found .runNotFound

/-- `GetRun` (`agent_store.go:141-144`). -/
def getRun (id : Id) : Program Run := do
  let run ← query fun d : Db => (d (.run id) : Option Run)
  demand run .runNotFound

def outOfRange : String := "integer out of range"

/-- `ClaimRun` (`agent_store.go:250-302`). Which of the rows it comes to lock depends
on the locks of the others, so it is an argument. -/
def claimRun (workerId : String) (candidate : Option Id) (now : Instant) (leaseDuration : Int) :
    Program (Option Run) := do
  require (workerId ≠ "") .invalidRun
  match candidate with
  | none => return none
  | some id =>
    let row ← update (Key.run id) fun row : Run =>
      if row.Claimable now.column then
        some (row.claimed workerId now.column
          (leaseExpiry now leaseDuration defaultLeaseDuration).column)
      else none
    require (∀ run ∈ row, run.attemptCount ≤ maxInteger) (.constraint outOfRange)
    return row

/-- `RenewRunLease` (`agent_store.go:304-329`). -/
def renewRunLease (runId : Id) (workerId : String) (now : Instant) (leaseDuration : Int) :
    Program Unit := do
  let row ← update (.run runId) fun row : Run =>
    if row.HeldBy workerId ∧ (∃ expiry ∈ row.leaseExpiresAt, now.column < expiry) then
      some (row.renewed now.column (leaseExpiry now leaseDuration defaultLeaseDuration).column)
    else none
  require row.isSome .leaseLost

/-- `AddContextMessages` (`agent_store.go:331-358`). A sum that is not an `integer`
is an error as well, here that of the limit. -/
def addContextMessages (runId : Id) (workerId : String) (count : Int) (now : Instant) :
    Program Int := do
  require (0 ≤ count) .contextLimit
  require (count ≤ maxInteger) (.constraint outOfRange)
  let row ← update (.run runId) fun row : Run =>
    if row.HeldBy workerId ∧ row.contextMessagesUsed + count ≤ maxContextMessages then
      some (row.usedContext count now.column)
    else none
  let row : Run ← demand row .contextLimit
  return row.contextMessagesUsed

/-- The `UPDATE` of `AttachTask` (`agent_store.go:517-537`), and whether it has changed a row. -/
def attachTask (runId : Id) (workerId : String) (taskId : Id) (taskNumber : Int) (now : Instant) :
    Program Bool := do
  let row ← update (.run runId) fun row : Run =>
    if row.HeldBy workerId ∧ row.createdTaskId = none then
      some (row.attached taskId taskNumber now.column)
    else none
  if row.isSome then
    let freshId ← insert (.createdTask taskId) runId
    require freshId (.constraint "agent_runs_created_task_id_key")
    let freshNumber ← insert (.createdTaskNumber taskNumber) runId
    require freshNumber (.constraint "agent_runs_created_task_number_key")
    let task ← selectForShare (.task taskId)
    require task.isSome (.constraint "agent_runs_created_task_id_fkey")
    return true
  else return false

/-- What an `INSERT` of the message stores. -/
def OutboxMessage.inserted (m : OutboxMessage) : OutboxMessage :=
  { m with
    availableAt := Instant.column m.availableAt, leaseOwner := none, leaseExpiresAt := none
    providerMessageId := none, providerErrorCode := none, createdAt := Instant.column m.createdAt
    updatedAt := Instant.column m.updatedAt, deliveredAt := none }

/-- The `CHECK` constraints of `agent_message_outbox`
(`migrations/0016_first_party_agent_harness.sql:140-176`) on a message that is inserted. -/
def OutboxMessage.Checked (m : OutboxMessage) : Prop :=
  (¬ onlySpaces m.deduplicationKey ∧ ¬ onlySpaces m.targetMessageId ∧ ¬ onlySpaces m.body) ∧
    m.attemptCount ≤ maxInteger ∧ m.state ≠ .delivering ∧ m.state ≠ .delivered
deriving Decidable

/-- `insertOutbox` (`agent_store.go:1059-1081`). -/
def insertOutbox (message : OutboxMessage) : Program Unit := do
  require message.Checked (.constraint "agent_message_outbox_check")
  let fresh ← insert (.deduplicationKey message.deduplicationKey) message.id
  if fresh then
    let new ← insert (.message message.id) message.inserted
    require new (.constraint "agent_message_outbox_pkey")
    let run ← selectForShare (.run message.runId)
    require run.isSome (.constraint "agent_message_outbox_run_id_fkey")
  else pure ()

/-- The identifier a clarification has until it is delivered. -/
def pendingMessageId (outboxId : Id) : String := "pending:" ++ toString outboxId

/-- `MarkRunWaiting` (`agent_store.go:557-607`). -/
def markRunWaiting (runId : Id) (workerId interruptId : String) (outbox : OutboxMessage)
    (now : Instant) : Program Unit := do
  let row ← selectForUpdate (.run runId)
  let run : Run ← demand row .runNotFound
  require (stringValue run.leaseOwner = workerId) .leaseLost
  let waiting ← run.scan.waitForUser (pendingMessageId outbox.id) interruptId now
  let updated ← update (.run runId) fun row : Run =>
    if row.HeldBy workerId then some (row.waiting waiting) else none
  require updated.isSome .leaseLost
  insertOutbox outbox

/-- The `UPDATE` of both `ResumeWaitingRun` and `ResumeWaitingRunWithInput`, and whether it has
changed a row. -/
def resumeRun (runId userId : Id) (clarificationMessageId : String) (now : Instant) :
    Program Bool := do
  let row ← update (.run runId) fun row : Run =>
    if row.Answerable userId clarificationMessageId now.column then some (row.resumed now.column)
    else none
  return row.isSome

/-- `ResumeWaitingRun` (`agent_store.go:609-648`), up to the read that looks for the
reason where no row has been changed. -/
def resumeWaitingRun (runId userId : Id) (clarificationMessageId : String) (now : Instant) :
    Program Bool :=
  resumeRun runId userId clarificationMessageId now

def RunInput.withResume (input : RunInput) (ciphertext : Option Bytes) : RunInput :=
  { input with pendingResumeCiphertext := ciphertext }

/-- `ResumeWaitingRunWithInput` (`agent_store.go:650-701`). -/
def resumeWaitingRunWithInput (runId userId : Id) (clarificationMessageId : String)
    (ciphertext : Bytes) (now : Instant) : Program Unit := do
  require (ciphertext ≠ []) .invalidRun
  let resumed ← resumeRun runId userId clarificationMessageId now
  require resumed .invalidTransition
  let input ← update (.input runId) fun row : RunInput => some (row.withResume ciphertext)
  require input.isSome .runNotFound

/-- `ClearPendingResumeInput` (`agent_store.go:210-221`). -/
def clearPendingResumeInput (runId : Id) : Program Unit := do
  let _ ← update (.input runId) fun row : RunInput => some (row.withResume none)

/-- `FinishRun` (`agent_store.go:703-757`). -/
def finishRun (runId : Id) (workerId : String) (status : RunStatus)
    (errorCategory errorDetail : String) (outbox : Option OutboxMessage) (now : Instant) :
    Program Unit := do
  require status.IsTerminal .invalidTransition
  let row ← update (.run runId) fun row : Run =>
    if row.HeldBy workerId then some (row.finished status errorCategory errorDetail now.column)
    else none
  require row.isSome .leaseLost
  delete (.input runId)
  match outbox with
  | some message => insertOutbox message
  | none => pure ()

/-- `RetryRun` (`agent_store.go:759-781`). -/
def retryRun (runId : Id) (workerId : String) (availableAt now : Instant) : Program Unit := do
  let row ← update (.run runId) fun row : Run =>
    if row.HeldBy workerId then some (row.retried availableAt.column now.column) else none
  require row.isSome .leaseLost

/-- The message can be claimed. -/
def OutboxMessage.Claimable (m : OutboxMessage) (now : Time) : Prop :=
  (m.state = .pending ∨ m.state = .failed) ∧ m.availableAt ≤ now ∨
    m.state = .delivering ∧ ∃ expiry ∈ m.leaseExpiresAt, expiry ≤ now
deriving Decidable

/-- The message is being delivered under the lease of the worker. -/
def OutboxMessage.HeldBy (m : OutboxMessage) (workerId : String) : Prop :=
  m.state = .delivering ∧ m.leaseOwner = some workerId
deriving Decidable

def OutboxMessage.claimed (m : OutboxMessage) (workerId : String) (now expiry : Time) :
    OutboxMessage :=
  { m with
    state := .delivering, leaseOwner := some workerId, leaseExpiresAt := some expiry
    attemptCount := m.attemptCount + 1, updatedAt := now }

def OutboxMessage.delivered (m : OutboxMessage) (providerMessageId : String) (now : Time) :
    OutboxMessage :=
  { m with
    state := .delivered, providerMessageId := some providerMessageId, deliveredAt := some now
    leaseOwner := none, leaseExpiresAt := none, updatedAt := now }

def OutboxMessage.undelivered (m : OutboxMessage) (providerErrorCode : String)
    (availableAt now : Time) : OutboxMessage :=
  { m with
    state := .failed, providerErrorCode := nullIfEmpty providerErrorCode, availableAt
    leaseOwner := none, leaseExpiresAt := none, updatedAt := now }

/-- `ClaimOutbox` (`agent_store.go:790-829`). -/
def claimOutbox (workerId : String) (candidate : Option Id) (now : Instant) (leaseDuration : Int) :
    Program (Option OutboxMessage) :=
  match candidate with
  | none => pure none
  | some id => do
    let row ← update (Key.message id) fun row : OutboxMessage =>
      if row.Claimable now.column then
        some (row.claimed workerId now.column
          (leaseExpiry now leaseDuration (60 * 1000000000)).column)
      else none
    require (∀ message ∈ row, (message.attemptCount : Int) ≤ maxInteger)
      (.constraint outOfRange)
    return row

/-- `MarkOutboxDelivered` (`agent_store.go:831-880`). A clarification that has been
delivered gives the waiting run the identifier of the message to be answered. -/
def markOutboxDelivered (id : Id) (workerId providerMessageId : String) (now : Instant) :
    Program Unit := do
  let row ← update (.message id) fun row : OutboxMessage =>
    if row.HeldBy workerId then some (row.delivered providerMessageId now.column) else none
  let message : OutboxMessage ← demand row .deliveryClaimed
  if message.kind = .clarification then
    let _ ← update (.run message.runId) fun row : Run =>
      if row.status = .waitingUser ∧ row.clarificationMessageId = some (pendingMessageId id) then
        some (row.answeredBy providerMessageId now.column)
      else none
  else pure ()

/-- `MarkOutboxFailed` (`agent_store.go:882-904`). -/
def markOutboxFailed (id : Id) (workerId providerErrorCode : String) (availableAt now : Instant) :
    Program Unit := do
  let row ← update (.message id) fun row : OutboxMessage =>
    if row.HeldBy workerId then
      some (row.undelivered providerErrorCode availableAt.column now.column)
    else none
  require row.isSome .deliveryClaimed

/-- `ListExpiredClarifications` (`agent_store.go:906-936`), of the given runs. -/
def listExpiredClarifications (ids : List Id) (now : Instant) : Program (List Run) :=
  query fun d : Db =>
    ids.filterMap fun id => (d (.run id) : Option Run).filter fun row => row.Unanswered now.column

/-- `CancelExpiredClarification` (`agent_store.go:938-987`). -/
def cancelExpiredClarification (runId : Id) (outbox : OutboxMessage) (now : Instant) :
    Program Bool := do
  require (outbox.runId = runId ∧ outbox.kind = .expired) .invalidRun
  let row ← update (.run runId) fun row : Run =>
    if row.Unanswered now.column then some (row.expired now.column) else none
  if row.isSome then
    delete (.input runId)
    insertOutbox outbox
    return true
  else return false

/-- Someone creates a Task, under a new identifier. -/
def createTask (id : Id) : Program Unit := do
  require (id ≠ 0) (.constraint "tasks_pkey")
  let fresh ← insert (.task id) ()
  require fresh (.constraint "tasks_pkey")

/-! ## The system -/

inductive Cmd
  | createRunWithInput (run : Run) (input : RunInput)
  | findRunByProviderIdentity (provider tenantId eventId messageId : String)
  | getRun (id : Id)
  | claimRun (workerId : String) (candidate : Option Id) (now : Instant) (leaseDuration : Int)
  | renewRunLease (runId : Id) (workerId : String) (now : Instant) (leaseDuration : Int)
  | addContextMessages (runId : Id) (workerId : String) (count : Int) (now : Instant)
  | attachTask (runId : Id) (workerId : String) (taskId : Id) (taskNumber : Int) (now : Instant)
  | markRunWaiting (runId : Id) (workerId interruptId : String) (outbox : OutboxMessage)
      (now : Instant)
  | resumeWaitingRun (runId userId : Id) (clarificationMessageId : String) (now : Instant)
  | resumeWaitingRunWithInput (runId userId : Id) (clarificationMessageId : String)
      (ciphertext : Bytes) (now : Instant)
  | clearPendingResumeInput (runId : Id)
  | finishRun (runId : Id) (workerId : String) (status : RunStatus)
      (errorCategory errorDetail : String) (outbox : Option OutboxMessage) (now : Instant)
  | retryRun (runId : Id) (workerId : String) (availableAt now : Instant)
  | claimOutbox (workerId : String) (candidate : Option Id) (now : Instant) (leaseDuration : Int)
  | markOutboxDelivered (id : Id) (workerId providerMessageId : String) (now : Instant)
  | markOutboxFailed (id : Id) (workerId providerErrorCode : String) (availableAt now : Instant)
  | listExpiredClarifications (ids : List Id) (now : Instant)
  | cancelExpiredClarification (runId : Id) (outbox : OutboxMessage) (now : Instant)
  | createTask (id : Id)

inductive Reply
  | done
  | run (run : Option Run)
  | runs (runs : List Run)
  | message (message : Option OutboxMessage)
  | changed (changed : Bool)
  | used (count : Int)

def statements : Cmd → Program Reply
  | .createRunWithInput run input => do return .run (← createRunWithInput run input)
  | .findRunByProviderIdentity provider tenantId eventId messageId => do
      return .run (some (← findRunByProviderIdentity provider tenantId eventId messageId))
  | .getRun id => do return .run (some (← getRun id))
  | .claimRun workerId candidate now leaseDuration => do
      return .run (← claimRun workerId candidate now leaseDuration)
  | .renewRunLease runId workerId now leaseDuration => do
      renewRunLease runId workerId now leaseDuration
      return .done
  | .addContextMessages runId workerId count now => do
      return .used (← addContextMessages runId workerId count now)
  | .attachTask runId workerId taskId taskNumber now => do
      return .changed (← attachTask runId workerId taskId taskNumber now)
  | .markRunWaiting runId workerId interruptId outbox now => do
      markRunWaiting runId workerId interruptId outbox now
      return .done
  | .resumeWaitingRun runId userId clarificationMessageId now => do
      return .changed (← resumeWaitingRun runId userId clarificationMessageId now)
  | .resumeWaitingRunWithInput runId userId clarificationMessageId ciphertext now => do
      resumeWaitingRunWithInput runId userId clarificationMessageId ciphertext now
      return .done
  | .clearPendingResumeInput runId => do
      clearPendingResumeInput runId
      return .done
  | .finishRun runId workerId status errorCategory errorDetail outbox now => do
      finishRun runId workerId status errorCategory errorDetail outbox now
      return .done
  | .retryRun runId workerId availableAt now => do
      retryRun runId workerId availableAt now
      return .done
  | .claimOutbox workerId candidate now leaseDuration => do
      return .message (← claimOutbox workerId candidate now leaseDuration)
  | .markOutboxDelivered id workerId providerMessageId now => do
      markOutboxDelivered id workerId providerMessageId now
      return .done
  | .markOutboxFailed id workerId providerErrorCode availableAt now => do
      markOutboxFailed id workerId providerErrorCode availableAt now
      return .done
  | .listExpiredClarifications ids now => do return .runs (← listExpiredClarifications ids now)
  | .cancelExpiredClarification runId outbox now => do
      return .changed (← cancelExpiredClarification runId outbox now)
  | .createTask id => do
      createTask id
      return .done

/-- A transaction that is called, and the worker on whose behalf it is. -/
structure Call where
  worker : Option Nat
  cmd : Cmd

def prog (call : Call) : Txn Db Key AgentError Reply := (statements call.cmd).toTxn

end Pactline.Agent
