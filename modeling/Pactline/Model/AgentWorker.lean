import Mathlib.Algebra.Ring.Nat
import Pactline.Model.Agent

/-!
# The Agent worker

The loops of `internal/agent/runtime/worker.go` as clients of the store. An agent loop claims one
run after the other and executes each of them to its end, while a second goroutine renews the lease.
What the model, the tools and the channel say is given with each turn of the loop, and so is the
clock; how long any of it takes is left to the schedule, so that a lease can lapse at any point.
-/

set_option autoImplicit false

namespace Pactline.Agent

open ReadCommitted

abbrev AgentClient := Client Call AgentError Reply

/-! ## Failures -/

/-- The errors that the worker tells apart. -/
inductive Sentinel
  | permission
  | toolInput
  | openAPI
  | taskAlreadyCreated
  | toolCallProtocol
  | clarificationLimit
  | runInputDecrypt
  | contextBoundary
  | noAgentOutcome
  | deadlineExceeded
  | canceled
  | retryable
  | responseEvidence
  | responseSummary
  | invalidResponseSelection
deriving DecidableEq, Repr

/-- An error, as the sentinels that `errors.Is` finds in it. -/
abbrev RunError := List Sentinel

def RunError.is (err : RunError) (sentinels : List Sentinel) : Prop := ∃ s ∈ sentinels, s ∈ err
deriving Decidable

/-- The category of an error, and whether the run may be tried again (`worker.go:733-753`). -/
def classifyRunError (err : RunError) : String × Bool :=
  if err.is [.permission, .toolInput, .openAPI, .taskAlreadyCreated, .toolCallProtocol,
      .clarificationLimit, .runInputDecrypt, .contextBoundary, .noAgentOutcome] then
    ("non_retryable", false)
  else if err.is [.deadlineExceeded, .canceled] then ("timeout", true)
  else if err.is [.retryable] then ("upstream_retryable", true)
  else ("execution", true)

structure RunFailure where
  code : String
  message : String

/-- The cases of `describeRunFailure` in their order. -/
def runFailures : List (List Sentinel × RunFailure) :=
  [([.responseEvidence], "response_evidence_invalid", "Agent 生成回复时未能正确引用查询结果。"),
    ([.responseSummary], "response_summary_missing", "Agent 生成的结构化回复缺少 Markdown 总结。"),
    ([.permission], "permission_denied", "当前用户无权执行该操作。"),
    ([.toolInput], "tool_input_invalid", "Agent 生成的工具参数不符合要求。"),
    ([.openAPI], "openapi_operation_failed", "Pactline 数据服务未能完成该操作。"),
    ([.taskAlreadyCreated], "duplicate_task_prevented", "系统阻止了同一请求重复创建 Task。"),
    ([.toolCallProtocol], "tool_protocol_invalid", "Agent 的工具调用顺序或证据协议不符合要求。"),
    ([.clarificationLimit], "clarification_limit_reached", "该请求已达到允许的澄清次数上限。"),
    ([.runInputDecrypt], "request_context_unavailable", "该请求的安全上下文已失效。"),
    ([.contextBoundary], "context_boundary_exceeded", "请求需要的群聊上下文超出了允许范围。"),
    ([.noAgentOutcome], "response_not_selected", "Agent 未能选择有效的最终回复。"),
    ([.deadlineExceeded, .canceled], "execution_timeout", "处理请求超时或被中断。"),
    ([.retryable], "upstream_unavailable", "上游服务暂时不可用，自动重试仍未成功。"),
    ([.invalidResponseSelection], "response_render_invalid", "Agent 生成的回复不符合平台模板要求。")]
    |>.map fun (sentinels, code, message) => (sentinels, ⟨code, message⟩)

/-- `describeRunFailure` (`worker.go:760-829`). -/
def describeRunFailure (err : RunError) : RunFailure :=
  ((runFailures.find? fun entry => err.is entry.1).map Prod.snd).getD
    ⟨"internal_execution_error", "执行过程中发生内部错误。"⟩

/-- What `errors.Is` finds in an error of the store. -/
def AgentError.toRunError : AgentError → RunError
  | .clarificationLimit => [.clarificationLimit]
  | _ => []

/-! ## Messages -/

def OutboxKind.text : OutboxKind → String
  | .clarification => "clarification"
  | .success => "success"
  | .permissionFailure => "permission_failure"
  | .terminalFailure => "terminal_failure"
  | .retrying => "retrying"
  | .expired => "expired"

/-- `newOutbox` (`worker.go:869-887`), under the identifier `id`. -/
def newOutbox (id : Id) (run : Run) (kind : OutboxKind) (deduplicationKey body : String)
    (now : Instant) : OutboxMessage :=
  { id, runId := run.id, deduplicationKey, kind, targetMessageId := run.triggerMessageId, body
    state := .pending, attemptCount := 0, availableAt := now, leaseOwner := none
    leaseExpiresAt := none, providerMessageId := none, providerErrorCode := none
    createdAt := now, updatedAt := now, deliveredAt := none }

def runKey (run : Run) (suffix : String) : String :=
  "agent-run:" ++ toString run.id ++ ":" ++ suffix

/-- `reply.Renderer`: the texts of the messages. -/
structure Renderer where
  clarification : Id → String → List String → String
  response : Id → String → Except RunError String
  failure : Id → String → String
  permissionFailure : Id → String → String
  expired : Id → String

/-! ## One run -/

/-- What a run does to the store while the model is at work. -/
inductive ToolUse
  | addContextMessages (count : Int) (now : Instant)
  | attachTask (taskId : Id) (taskNumber : Int) (now : Instant)
  | clearPendingResumeInput
  | getRun

inductive RunOutcome
  | waiting (interruptId question : String) (candidates : List String)
  | succeeded (response : String)
  | other

/-- One turn of an agent loop: the row its claim comes to lock, what comes of the run, and the
identifiers of the messages it may leave. -/
structure Turn where
  candidate : Option Id
  claimedAt : Instant
  uses : List ToolUse
  invoked : Except RunError RunOutcome
  leaseLost : Option RunError
  now : Instant
  outboxId : Id
  failureId : Id
  jitter : Instant

/-- What `invoke` has returned, joined with the loss of the lease. -/
def Turn.result (turn : Turn) : Except RunError RunOutcome :=
  match turn.invoked, turn.leaseLost with
  | .error err, some lost => .error (err ++ lost)
  | .ok _, some lost => .error lost
  | invoked, none => invoked

/-- The configuration of a worker, and which one of them it is. -/
structure Worker where
  index : Nat
  workerId : String
  leaseDuration : Int
  renderer : Renderer

def maxRunAttempts : Int := 5

/-- `retryDelay` (`worker.go:832-837`). -/
def retryDelay (attempt : Int) (jitter : Instant) : Instant :=
  let base : Instant := 2 ^ ((min (max attempt 1) 6).toNat - 1) * 1000000000
  base + min jitter (base / 2)

namespace Worker

variable (w : Worker)

/-- A transaction on behalf of this worker. -/
def call (cmd : Cmd) (next : Outcome AgentError Reply → AgentClient) : AgentClient :=
  .call ⟨some w.index, cmd⟩ next

/-- `handleRunError` (`worker.go:676-731`). -/
def handleRunError (turn : Turn) (run : Run) (err : RunError) (rest : AgentClient) : AgentClient :=
  let (category, retryable) := classifyRunError err
  if retryable ∧ run.attemptCount < maxRunAttempts then
    w.call (.retryRun run.id w.workerId (turn.now + retryDelay run.attemptCount turn.jitter)
      turn.now) fun _ => rest
  else
    let failure := describeRunFailure err
    let message :=
      if err.is [.permission] then
        newOutbox turn.failureId run .permissionFailure
          (runKey run (OutboxKind.text .permissionFailure))
          (w.renderer.permissionFailure run.id "该操作") turn.now
      else
        newOutbox turn.failureId run .terminalFailure
          (runKey run (OutboxKind.text .terminalFailure))
          (w.renderer.failure run.id failure.message) turn.now
    w.call (.finishRun run.id w.workerId .failed category failure.code (some message) turn.now)
      fun _ => rest

/-- `executeRun` after `invoke` (`worker.go:203-274`). -/
def settle (turn : Turn) (run : Run) (rest : AgentClient) : AgentClient :=
  match turn.result with
  | .error err => w.handleRunError turn run err rest
  | .ok (.waiting interruptId question candidates) =>
    let message := newOutbox turn.outboxId run .clarification
      (runKey run ("clarification:" ++ toString (run.clarificationRounds + 1)))
      (w.renderer.clarification run.id question candidates) turn.now
    w.call (.markRunWaiting run.id w.workerId interruptId message turn.now) fun
      | .committed _ => rest
      | .failed err => w.handleRunError turn run err.toRunError rest
      | .aborted => w.handleRunError turn run [] rest
  | .ok (.succeeded response) =>
    match w.renderer.response run.id response with
    | .error err => w.handleRunError turn run err rest
    | .ok body =>
      let message := newOutbox turn.outboxId run .success (runKey run "success") body turn.now
      w.call (.finishRun run.id w.workerId .succeeded "" "" (some message) turn.now)
        fun _ => rest
  | .ok .other => w.handleRunError turn run [.noAgentOutcome] rest

/-- The transaction of a tool. -/
def toolUse (run : Run) : ToolUse → Cmd
  | .addContextMessages count now => .addContextMessages run.id w.workerId count now
  | .attachTask taskId taskNumber now => .attachTask run.id w.workerId taskId taskNumber now
  | .clearPendingResumeInput => .clearPendingResumeInput run.id
  | .getRun => .getRun run.id

/-- `executeRun`: the tools, one after the other, and then what comes of it. -/
def executeRun (turn : Turn) (run : Run) (rest : AgentClient) : List ToolUse → AgentClient
  | [] => w.settle turn run rest
  | use :: uses => w.call (w.toolUse run use) fun _ => executeRun turn run rest uses

/-- `runAgentLoop` (`worker.go:166-189`), for the given turns. -/
def runAgentLoop : List Turn → AgentClient
  | [] => .stop
  | turn :: turns =>
    w.call (.claimRun w.workerId turn.candidate turn.claimedAt w.leaseDuration) fun
      | .committed (.run (some run)) =>
        w.executeRun turn run (runAgentLoop turns) turn.uses
      | _ => runAgentLoop turns

/-- `renewLease` (`worker.go:839-867`), at the given times. -/
def renewLease (runId : Id) : List Instant → AgentClient
  | [] => .stop
  | now :: times => w.call (.renewRunLease runId w.workerId now w.leaseDuration) fun
      | .committed _ => renewLease runId times
      | _ => .stop

end Worker

/-! ## The other loops -/

/-- A transaction that is not about a lease on a run. -/
def service (cmd : Cmd) (next : Outcome AgentError Reply → AgentClient) : AgentClient :=
  .call ⟨none, cmd⟩ next

/-- What the delivery of a message meets: the row its claim comes to lock, what the channel says,
and the clock. -/
structure Delivery where
  candidate : Option Id
  claimedAt : Instant
  reply : Except String String
  now : Instant
  jitter : Instant

/-- `failOutbox` (`worker.go:956-980`). -/
def failOutbox (workerId : String) (delivery : Delivery) (message : OutboxMessage)
    (category : String) (rest : AgentClient) : AgentClient :=
  service (.markOutboxFailed message.id workerId category
    (delivery.now + retryDelay message.attemptCount delivery.jitter) delivery.now) fun _ => rest

/-- `deliverOutbox` (`worker.go:914-954`); the category is that of the channel where it refuses. -/
def deliverOutbox (workerId : String) (delivery : Delivery) (message : OutboxMessage)
    (rest : AgentClient) : AgentClient :=
  service (.getRun message.runId) fun
    | .committed _ =>
      match delivery.reply with
      | .error category => failOutbox workerId delivery message category rest
      | .ok providerId =>
        service (.markOutboxDelivered message.id workerId providerId delivery.now) fun _ => rest
    | _ => failOutbox workerId delivery message "run_lookup" rest

/-- `runOutboxLoop` (`worker.go:889-912`). -/
def runOutboxLoop (workerId : String) : List Delivery → AgentClient
  | [] => .stop
  | delivery :: deliveries =>
    service (.claimOutbox workerId delivery.candidate delivery.claimedAt (60 * 1000000000)) fun
      | .committed (.message (some message)) =>
        deliverOutbox workerId delivery message (runOutboxLoop workerId deliveries)
      | _ => runOutboxLoop workerId deliveries

/-- The loop of `expireClarifications` over the runs, with the identifiers of the messages. -/
def cancelRuns (renderer : Renderer) (newId : Id → Id) (now : Instant) : List Run → AgentClient
  | [] => .stop
  | run :: runs =>
    service (.cancelExpiredClarification run.id
      (newOutbox (newId run.id) run .expired (runKey run "expired") (renderer.expired run.id) now)
      now) fun
      | .committed _ => cancelRuns renderer newId now runs
      | _ => .stop

/-- `expireClarifications` (`worker.go:997-1025`). -/
def expireClarifications (renderer : Renderer) (newId : Id → Id) (ids : List Id) (now : Instant) :
    AgentClient :=
  service (.listExpiredClarifications ids now) fun
    | .committed (.runs runs) => cancelRuns renderer newId now runs
    | _ => .stop

end Pactline.Agent
