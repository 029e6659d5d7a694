import Pactline.Concurrency.Service
import Pactline.Model.WorkspaceSystem

/-!
# Handlers of the workspace

The services that check a caller's access before they start the transaction that changes something:
`internal/application/project_access.go` and `internal/application/task_service.go` with the handler
`CreateTask` of `internal/api/v1/tasks.go`. The subject and the actor of a request are arguments, as
the middleware has found them.
-/

set_option autoImplicit false

namespace Pactline

open ReadCommitted

abbrev Handler := Service Command DomainError WorkReply

structure ProjectAccessSubject where
  userId : Id
  platformRole : PlatformRole
deriving DecidableEq, Repr

inductive ProjectPermission
  | read
  | write
  | admin
deriving DecidableEq, Repr

namespace Handler

/-- One call of a store; a lost connection is an error of its own. -/
def send {β : Type} (pick : WorkReply → Option β) (c : Command) : Handler β :=
  Service.send (.unclassified "connection lost") pick c

def getProject (p : Id) : Handler Project :=
  send (fun | .project project => some project | _ => none) (.getProject p)

def getMembership (p userId : Id) : Handler ProjectMembership :=
  send (fun | .membership membership => some membership | _ => none) (.getMembership p userId)

def getTask (t : TaskId) : Handler TaskRow :=
  send (fun | .taskRow row => some row | _ => none) (.getTask t)

def belongsToProject (m p : Id) : Handler Bool :=
  send (fun | .belongs belongs => some belongs | _ => none) (.milestoneBelongs m p)

/-! ## Access -/

/-- `RequireProject` (`project_access.go:58-92`). -/
def requireProject (p : Id) (project : Project) (subject : ProjectAccessSubject)
    (permission : ProjectPermission) : Handler Unit := do
  if subject.userId = 0 then Service.fail (.forbidden "")
  if subject.platformRole ≠ .admin then do
    let membership ← getMembership p subject.userId
    if permission = .admin ∧ membership.role ≠ .admin then Service.fail (.forbidden "")
  if permission = .write ∧ project.archivedAt ≠ none then
    Service.fail (.conflict "archived projects are read-only")

/-- `RequireProjectByNumber` and `RequireProjectByID`. -/
def requireProjectByNumber (p : Id) (subject : ProjectAccessSubject)
    (permission : ProjectPermission) : Handler Project := do
  let project ← getProject p
  requireProject p project subject permission
  return project

/-! ## Tasks -/

/-- `ResolveTaskAssociation` (`project_service.go:79-105`). -/
def resolveTaskAssociation (projectNumber : Id) (milestoneId : Option Id) : Handler Unit := do
  let project ← getProject projectNumber
  if project.archivedAt ≠ none then
    Service.fail (.conflict "archived Projects cannot accept task associations")
  match milestoneId with
  | none => return ()
  | some m => do
      let belongs ← belongsToProject m projectNumber
      if belongs = false then
        Service.fail (.invalidInput "milestone does not belong to project")

/-- A number that may be absent names a Task. -/
def resolveTaskNumber : Option TaskId → Handler Unit
  | none => return ()
  | some number => do
      let _ ← getTask number

/-- `resolveTaskNumbers` (`task_service.go:125-147`), with the numbers seen so far. -/
def resolveTaskNumbers : List TaskId → List TaskId → Handler Unit
  | _, [] => return ()
  | seen, number :: rest => do
      if number ∈ seen then
        Service.fail (.invalidInput ("duplicate task number " ++ toString number))
      let _ ← getTask number
      resolveTaskNumbers (number :: seen) rest

/-- A command on Tasks, as the last call of a handler. -/
def sendTask (c : Cmd) : Handler Reply :=
  send (fun | .task reply => some reply | _ => none) (.task c)

/-- `CreateTask` (`tasks.go:18-78`). A request has neither a status nor a mode. -/
def createTask (subject : ProjectAccessSubject) (t : TaskId) (draft : TaskDraft)
    (labelIds : List Id) (dependencyNumbers : List TaskId) (actor : OperationActor)
    (mainThreadId : Id) (clock : Nat → Time) : Handler Reply := do
  let _ ← requireProjectByNumber draft.projectId subject .write
  resolveTaskAssociation draft.projectId draft.milestoneId
  resolveTaskNumber draft.parentTaskId
  resolveTaskNumbers [] dependencyNumbers
  sendTask (.create t
    { draft with status := none, executionMode := none, creatorId := subject.userId }
    labelIds dependencyNumbers actor mainThreadId clock)

end Handler

end Pactline
