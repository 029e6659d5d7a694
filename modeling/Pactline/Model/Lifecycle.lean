import Mathlib.Data.List.Basic

/-!
# The Task lifecycle

Phase, activity and review cycle of a Task, and the transitions between them. Every
business command changes these three fields through one of the functions below and never
by direct assignment (`internal/domain/task_lifecycle.go`).
-/

set_option autoImplicit false

namespace Pactline

/-! ## Errors and common data -/

/-- The errors of the domain layer, with the text that follows the wrapped sentinel. -/
inductive DomainError
  | invalidInput (message : String)
  | conflict (message : String)
  | invalidTransition (message : String)
  | forbidden (message : String)
  | wrongIssueType (message : String)
  | migrationRequired (message : String)
  | notFound
  | activeClaim
  | activeIssue
  | invalidOperationActor
  | versionConflict (currentVersion : Nat)
  /-- A constraint of the schema refused the statement. -/
  | constraint (name : String)
  /-- An error that wraps no sentinel. -/
  | unclassified (message : String)
deriving DecidableEq, Repr

/-- An identifier drawn by `uuid.New`; `0` is `uuid.Nil`. -/
abbrev Id := Nat

/-- A Task's identity. Its `id` and its `number` are both unique and never change, and the
model uses one value for the two. -/
abbrev TaskId := Nat

/-- A point in time, in microseconds as the `timestamptz` columns keep them; `0` is the
zero time. -/
abbrev Time := Nat

/-- A point in time as the process has it, in nanoseconds. -/
abbrev Instant := Nat

/-- What a column keeps of it: the driver sends microseconds. -/
def Instant.column (t : Instant) : Time := t / 1000

/-- A column that is read. -/
def Time.instant (t : Time) : Instant := 1000 * t

/-- The code points `unicode.IsSpace` accepts. -/
def isSpace (c : Char) : Bool :=
  [0x09, 0x0A, 0x0B, 0x0C, 0x0D, 0x20, 0x85, 0xA0, 0x1680, 0x2028, 0x2029, 0x202F, 0x205F,
    0x3000].contains c.toNat || (0x2000 ≤ c.toNat && c.toNat ≤ 0x200A)

/-- `strings.TrimSpace(s) == ""`. -/
def blank (s : String) : Bool := s.toList.all isSpace

/-- The text of `%q` for the plain names it is used with. -/
def quoted (s : String) : String := "\"" ++ s ++ "\""

/-! ## Phase, activity and stage -/

inductive TaskPhase
  | backlog
  | ready
  | inProgress
  | inReview
  | done
  | cancelled
deriving DecidableEq, Repr

/-- Activity inside an active phase; `unset` is the empty string of the other phases. -/
inductive TaskActivityState
  | unset
  | available
  | working
  | needsResolution
deriving DecidableEq, Repr

inductive TaskClaimStage
  | execution
  | review
deriving DecidableEq, Repr

namespace TaskPhase

def text : TaskPhase → String
  | backlog => "backlog"
  | ready => "ready"
  | inProgress => "in_progress"
  | inReview => "in_review"
  | done => "done"
  | cancelled => "cancelled"

def Active (p : TaskPhase) : Prop := p = inProgress ∨ p = inReview
deriving Decidable

def Terminal (p : TaskPhase) : Prop := p = done ∨ p = cancelled
deriving Decidable

end TaskPhase

def TaskActivityState.text : TaskActivityState → String
  | unset => ""
  | available => "available"
  | working => "working"
  | needsResolution => "needs_resolution"

/-- An activity is valid when it is not the empty string. -/
def TaskActivityState.Valid (s : TaskActivityState) : Prop := s ≠ .unset
deriving Decidable

def TaskClaimStage.text : TaskClaimStage → String
  | execution => "execution"
  | review => "review"

/-! ## Completion readiness -/

/-- What a locked Task's completion depends on (`task.go:117-122`). -/
structure TaskCompletionReadiness where
  activeCriteria : Nat
  unsatisfiedCriteria : Nat
  unfinishedChildren : Nat
  unfinishedDependencies : Nat
deriving DecidableEq, Repr

def TaskCompletionReadiness.validateAcceptance (r : TaskCompletionReadiness) :
    Except DomainError Unit :=
  if 0 < r.activeCriteria ∧ 0 < r.unsatisfiedCriteria then
    .error (.conflict "task acceptance is not satisfied")
  else .ok ()

/-- `Task.ValidateCompletion`: the criteria first, then the children, then the dependencies. -/
def validateCompletion (r : TaskCompletionReadiness) : Except DomainError Unit := do
  r.validateAcceptance
  if 0 < r.unfinishedChildren then
    throw (.conflict "task has unfinished children")
  if 0 < r.unfinishedDependencies then
    throw (.conflict "task has unfinished dependencies")

/-! ## The lifecycle and its transitions -/

/-- The consistency boundary of a Task's phase, activity and review cycle. -/
structure TaskLifecycle where
  phase : TaskPhase
  activity : TaskActivityState
  reviewCycle : Nat
deriving DecidableEq, Repr

def invalidTaskTransition (action : String) (s : TaskLifecycle) : DomainError :=
  .invalidTransition
    ("cannot " ++ action ++ " from Task state " ++ s.phase.text ++ "." ++ s.activity.text)

namespace TaskLifecycle

def new : TaskLifecycle := ⟨.backlog, .unset, 0⟩

/-- An active phase carries an activity, and no other phase does. -/
def validate (s : TaskLifecycle) : Except DomainError Unit :=
  if s.phase.Active then
    if s.activity.Valid then .ok ()
    else .error (.invalidInput
      ("active Task phase " ++ quoted s.phase.text ++ " requires an activity state"))
  else if s.activity = .unset then .ok ()
  else .error (.invalidInput
    ("Task phase " ++ quoted s.phase.text ++ " cannot carry activity " ++ quoted s.activity.text))

def markReady (s : TaskLifecycle) (archived hasUnfinishedDependencies : Bool) :
    Except DomainError TaskLifecycle :=
  if s.phase ≠ .backlog ∨ s.activity ≠ .unset then .error (invalidTaskTransition "mark ready" s)
  else if archived then .error (.conflict "an archived Task cannot become ready")
  else if hasUnfinishedDependencies then
    .error (.conflict "a Task with unfinished dependencies cannot become ready")
  else .ok { s with phase := .ready }

def withdrawReadiness (s : TaskLifecycle) : Except DomainError TaskLifecycle :=
  if s.phase ≠ .ready ∨ s.activity ≠ .unset then
    .error (invalidTaskTransition "withdraw readiness" s)
  else .ok { s with phase := .backlog }

/-- Claiming starts the work of the phase and says at which stage. -/
def claim (s : TaskLifecycle) (archived : Bool) :
    Except DomainError (TaskLifecycle × TaskClaimStage) :=
  if archived then .error (.conflict "an archived Task cannot be claimed")
  else if s.phase.Active ∧ s.activity = .working then .error .activeClaim
  else if s.phase = .ready ∧ s.activity = .unset then
    .ok ({ s with phase := .inProgress, activity := .working }, .execution)
  else if s.phase = .inProgress ∧ s.activity = .available then
    .ok ({ s with activity := .working }, .execution)
  else if s.phase = .inReview ∧ s.activity = .available then
    .ok ({ s with activity := .working }, .review)
  else .error (invalidTaskTransition "claim" s)

/-- The Task is being worked on, at the stage its phase asks for. -/
def requireWorkingStage (s : TaskLifecycle) (action : String) (stage : TaskClaimStage) :
    Except DomainError Unit :=
  if s.activity ≠ .working then .error (invalidTaskTransition action s)
  else if s.phase ≠ .inReview ∧ s.phase ≠ .inProgress then .error (invalidTaskTransition action s)
  else if stage ≠ (if s.phase = .inReview then .review else .execution) then
    .error (.conflict (stage.text ++ " Claim cannot act in Task phase " ++ quoted s.phase.text))
  else .ok ()

def release (s : TaskLifecycle) (stage : TaskClaimStage) : Except DomainError TaskLifecycle := do
  s.requireWorkingStage "release" stage
  return { s with activity := .available }

def requestResolution (s : TaskLifecycle) (stage : TaskClaimStage) :
    Except DomainError TaskLifecycle := do
  s.requireWorkingStage "request resolution" stage
  return { s with activity := .needsResolution }

def resolveIssue (s : TaskLifecycle) : Except DomainError TaskLifecycle :=
  if ¬ s.phase.Active ∨ s.activity ≠ .needsResolution then
    .error (invalidTaskTransition "resolve issue" s)
  else .ok { s with activity := .available }

/-- Completing the execution opens the next review cycle. -/
def completeExecution (s : TaskLifecycle) : Except DomainError TaskLifecycle := do
  s.requireWorkingStage "complete execution" .execution
  return { phase := .inReview, activity := .available, reviewCycle := s.reviewCycle + 1 }

def requestChanges (s : TaskLifecycle) : Except DomainError TaskLifecycle := do
  s.requireWorkingStage "request changes" .review
  return { s with phase := .inProgress, activity := .available }

def accept (s : TaskLifecycle) (readiness : TaskCompletionReadiness) :
    Except DomainError TaskLifecycle := do
  s.requireWorkingStage "accept" .review
  validateCompletion readiness
  return { s with phase := .done, activity := .unset }

def cancel (s : TaskLifecycle) : Except DomainError TaskLifecycle := do
  if s.phase.Terminal then
    throw (invalidTaskTransition "cancel" s)
  s.validate
  return { s with phase := .cancelled, activity := .unset }

end TaskLifecycle

end Pactline
