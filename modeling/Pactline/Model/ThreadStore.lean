import Pactline.Model.Workspace

/-!
# The Items callers add to Threads

`AddItem`, `EditMessage` and `DeleteMessage` of `internal/store/task_thread_store.go`. Adding an
Item locks its Thread; editing or deleting a message locks the message alone, and reads the status
of the Thread without a lock.
-/

set_option autoImplicit false

namespace Pactline

open ReadCommitted Txn

/-- The rows of `task_threads` with the given identity; its primary key lets there be one at
most. -/
def Db.threads (d : Db) (threadId : Id) : List (TaskId × Thread) :=
  d.tasks.entries.flatMap fun e =>
    (e.2.threads.filter fun x => x.id = threadId).map fun x => (e.1, x)

/-- `issue_status='resolved'` of the Thread. -/
def Db.resolved (d : Db) (threadId : Id) : Bool :=
  (d.threads threadId).any fun x => x.2.issueStatus = some .resolved

namespace ThreadMessage

/-- The Item that `ThreadItem.Validate` looks at. -/
def asItem (m : ThreadMessage) (id : Id) : ThreadItem :=
  { id, threadId := m.threadId, kind := m.kind, author := m.author, body := m.body
    issueResolution := none, executionCompleted := none, taskStageClaimId := none
    taskReviewCycle := none, version := m.version, createdAt := m.createdAt
    updatedAt := m.updatedAt }

/-- `ThreadItem.Edit` (`thread.go:296-308`). -/
def edit (m : ThreadMessage) (body : String) (mentionedUserIds : List Id) (now : Time) :
    Except DomainError ThreadMessage := do
  if m.kind ≠ .message ∨ m.deletedAt ≠ none then
    throw (.conflict "this Thread Item is immutable")
  if blank body then
    throw (.invalidInput "Thread Item body is required")
  return { m with body, mentionedUserIds, updatedAt := now, version := m.version + 1 }

/-- `ThreadItem.Delete` (`thread.go:310-321`). -/
def delete (m : ThreadMessage) (now : Time) : Except DomainError ThreadMessage := do
  if m.kind ≠ .message ∨ m.deletedAt ≠ none then
    throw (.conflict "this Thread Item cannot be deleted")
  return { m with
    deletedAt := some now, body := "", mentionedUserIds := [], updatedAt := now
    version := m.version + 1 }

end ThreadMessage

/-- The Item is one of the Thread, added by a caller or written by the workflow. -/
def Workspace.hasItem (d : Workspace) (itemId threadId : Id) : Bool :=
  (d.messages.lookup itemId).any (fun m => m.item.threadId = threadId) ||
    d.tasks.tasks.entries.any fun e =>
      e.2.items.any fun i => i.id = itemId && i.threadId = threadId

abbrev MessageTx := RowTx MessageRecord

/-- `replaceThreadItemMentions` (`task_thread_store.go:690-719`), on the Item's own
row: each user once, in the order of the request. -/
def replaceThreadItemMentions (userIds : List Id) : MessageTx Unit := do
  Owned.require (0 ∉ userIds) (.invalidInput "mentioned user is required")
  Owned.update fun m => { m with item := { m.item with mentionedUserIds := userIds.dedup } }

def auditMessage (event : BusinessAuditEvent) : MessageTx Unit := do
  event.validate
  Owned.update fun m => { m with audit := m.audit ++ [event] }

/-- `AddItem` (`task_thread_store.go:389-483`). -/
def addItem (id threadId : Id) (kind : ThreadItemKind) (body : String)
    (replyToItemId : Option Id) (mentionedUserIds : List Id) (author : Actor)
    (operation : OperationActor) (now : Time) : WorkTx ThreadMessage := do
  validateThreadOperationActor author operation
  require (kind = .message ∨ kind = .progress)
    (.invalidInput "callers may only add message or progress Items")
  require (kind = .progress → replyToItemId = none)
    (.invalidInput "progress Items cannot be replies")
  let item : ThreadMessage :=
    { threadId, kind, author, body, replyToItemId, mentionedUserIds, version := 1
      createdAt := now, updatedAt := now, deletedAt := none }
  (item.asItem id).validate
  acquire (.task (.thread threadId)) .update
  let found ← query fun d => d.tasks.threads threadId
  require (found ≠ []) .notFound
  require (found.all (fun x => x.2.issueStatus ≠ some .resolved) = true)
    (.conflict "resolved Issue Thread is immutable")
  require (kind = .progress → found.all (fun x => x.2.role = .main) = true)
    (.invalidInput "progress Items belong only in the Main Thread")
  let replyBelongs ← query fun d => replyToItemId.all fun r => d.hasItem r threadId
  require (replyBelongs = true) (.invalidInput "reply Item is not in this Thread")
  insertRow Workspace.messageTable .message id
      ⟨{ item with author := storedActor author, mentionedUserIds := [] }, []⟩
      "task_thread_items_pkey" do
    replaceThreadItemMentions mentionedUserIds
    auditMessage ⟨now, operation, "task_thread_item", id,
      if kind = .message then "message_added" else "progress_added"⟩
    return item

/-- `mutateMessage` (`task_thread_store.go:521-585`) with `lockTaskThreadItem`,
which locks the Item and then reads the status of its Thread. -/
def mutateMessage (itemId : Id) (expectedVersion : Nat) (author : Actor)
    (operation : OperationActor) (now : Time)
    (mutate : ThreadMessage → Except DomainError ThreadMessage) (action : String) :
    WorkTx ThreadMessage := do
  validateThreadOperationActor author operation
  withRow Workspace.messageTable .message itemId fun m => do
    let resolved ← Owned.query fun d => d.tasks.resolved m.item.threadId
    Owned.require (m.item.version = expectedVersion) (.versionConflict m.item.version)
    Owned.require (resolved = false) (.conflict "resolved Issue Thread is immutable")
    Owned.require (m.item.author = author) (.forbidden "only the message author may modify it")
    let item ← mutate m.item
    Owned.update fun m => { m with item }
    replaceThreadItemMentions item.mentionedUserIds
    auditMessage ⟨now, operation, "task_thread_item", itemId, action⟩
    return item

def editMessage (itemId : Id) (expectedVersion : Nat) (body : String) (mentionedUserIds : List Id)
    (author : Actor) (operation : OperationActor) (now : Time) : WorkTx ThreadMessage :=
  mutateMessage itemId expectedVersion author operation now
    (fun m => m.edit body mentionedUserIds now) "message_edited"

def deleteMessage (itemId : Id) (expectedVersion : Nat) (author : Actor)
    (operation : OperationActor) (now : Time) : WorkTx ThreadMessage :=
  mutateMessage itemId expectedVersion author operation now (fun m => m.delete now)
    "message_deleted"

end Pactline
