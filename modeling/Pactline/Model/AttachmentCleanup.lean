import Pactline.Model.AttachmentStore

/-!
# Deleting attachments and their objects

An attachment is deleted in two stages: a request marks its row, and a worker later takes marked
rows and expired upload sessions in batches and removes their objects
(`internal/store/attachment_store.go`, `internal/application/attachment_cleanup.go`). The objects
are in the local object store (`internal/blob/local.go`), which knows no transactions.
-/

set_option autoImplicit false

namespace Pactline

open ReadCommitted Txn

/-! ## Rows -/

namespace Db

/-- A statement that writes the given attachments. -/
def setAttachments (rows : List (Id × TaskAttachment)) (d : Db) : Db :=
  { d with attachments := d.attachments.insertAll rows }

/-- A statement that writes the given upload sessions. -/
def setUploads (rows : List (Id × AttachmentUploadSession)) (d : Db) : Db :=
  { d with uploads := d.uploads.insertAll rows }

end Db

/-- `SoftDelete` (`attachment_store.go:236-258`): one statement for the deletion,
and one that finds out why there was nothing to delete. -/
def softDelete (taskId : TaskId) (id : Id) (expectedVersion : Nat) (now : Time) :
    Tx TaskAttachment := do
  acquire (.attachment id) .update
  let found ← query fun d => (d.attachments.lookup id).filter fun a =>
    a.taskId = taskId ∧ a.deletedAt = none ∧ a.version = expectedVersion
  match found with
  | some a => do
      let deleted := { a with deletedAt := some now, version := a.version + 1 }
      modify (Db.setAttachments [(id, deleted)])
      return deleted
  | none => do
      let current ← query fun d => (d.attachments.lookup id).filter fun a => a.taskId = taskId
      let current ← demand current .notFound
      fail (.versionConflict current.version)

/-! ## Batches

`FOR UPDATE SKIP LOCKED` takes candidates that nobody else has locked. Which of them these are
depends on the moment, so a batch is given the rows that it comes to lock; it takes those of them
that are candidates.
-/

/-- The size of a batch. -/
def cleanupLimit (limit : Int) : Nat := if limit < 1 ∨ 200 < limit then 50 else limit.toNat

/-- The rows of a batch that comes to lock `ids`. -/
def batchIds (limit : Int) (ids : List Id) : List Id := ids.dedup.take (cleanupLimit limit)

def cleanupRetryInterval : Time := 5 * 60 * 1000000

/-- The attachment is deleted, its object is not known to be gone, and nobody has tried to remove
it lately. -/
def TaskAttachment.AwaitsCleanup (a : TaskAttachment) (now : Time) : Prop :=
  a.deletedAt ≠ none ∧ a.cleanedAt = none ∧
    ∀ attempt ∈ a.cleanupAttemptedAt, attempt + cleanupRetryInterval < now
deriving Decidable

/-- The row of an attachment that a batch has taken. -/
def TaskAttachment.claimed (a : TaskAttachment) (now : Time) : TaskAttachment :=
  { a with cleanupAttemptedAt := some now, cleanupError := none }

/-- `ClaimCleanupBatch` (`attachment_store.go:260-296`). -/
def claimCleanupBatch (limit : Int) (ids : List Id) (now : Time) :
    Tx (List (Id × TaskAttachment)) := do
  acquireAll .update ((batchIds limit ids).map Row.attachment)
  let claimed ← query fun d => (batchIds limit ids).filterMap fun id =>
    ((d.attachments.lookup id).filter fun a => a.AwaitsCleanup now).map fun a => (id, a.claimed now)
  modify (Db.setAttachments claimed)
  return claimed

/-- A statement that changes one attachment, if it is there. -/
def updateAttachment (id : Id) (f : TaskAttachment → TaskAttachment) : Tx Unit := do
  acquire (.attachment id) .update
  let found ← query fun d => d.attachments.lookup id
  modify (Db.setAttachments (found.toList.map fun a => (id, f a)))

/-- `MarkCleaned` (`attachment_store.go:298-305`). -/
def markCleaned (id : Id) (now : Time) : Tx Unit :=
  updateAttachment id fun a => { a with cleanedAt := some now, cleanupError := none }

/-- `text[:n]`, unless that ends within a character. -/
def cutBytes : Nat → List Char → Option (List Char)
  | _, [] => some []
  | n, c :: rest =>
    if n = 0 then some []
    else if n < c.utf8Size then none
    else (cutBytes (n - c.utf8Size) rest).map (c :: ·)

/-- `MarkCleanupFailed` (`attachment_store.go:307-317`). The message is cut to 2000 bytes, and the
database refuses what is no text then. -/
def markCleanupFailed (id : Id) (message : String) : Tx Unit := do
  let text ← demand (cutBytes 2000 message.toList) (.unclassified "invalid byte sequence")
  updateAttachment id fun a => { a with cleanupError := some (.ofList text) }

/-- The row of a session that is past its deadline. -/
def AttachmentUploadSession.expired (session : AttachmentUploadSession) :
    AttachmentUploadSession :=
  { session with status := .expired }

/-- `ClaimExpiredUploadSessions` (`attachment_store.go:319-345`). -/
def claimExpiredUploadSessions (limit : Int) (ids : List Id) (now : Time) :
    Tx (List (Id × AttachmentUploadSession)) := do
  acquireAll .update ((batchIds limit ids).map Row.upload)
  let claimed ← query fun d => (batchIds limit ids).filterMap fun id =>
    ((d.uploads.lookup id).filter fun s => s.status = .pending ∧ s.expiresAt ≤ now).map
      fun s => (id, s.expired)
  modify (Db.setUploads claimed)
  return claimed

/-! ## Objects

`Put` writes a temporary file and renames it, and a file that has been opened stays readable, so
each operation on an object is atomic: nothing else happens to the object while it is held.
-/

/-- What `LocalStore` answers when there is no such file. -/
def objectMissing : DomainError := .unclassified "file does not exist"

/-- On whose behalf an object is deleted: a completion that refuses the content, or the cleanup of
an attachment or of an upload session. -/
inductive Deletion
  | refused
  | attachment (id : Id)
  | upload (id : Id)
deriving DecidableEq, Repr

/-- The rename at the end of `Put` (`local.go:43-79`). -/
def putObject (key : String) (content : Bytes) : Tx Unit := do
  acquire (.object key) .update
  modify fun d => { d with objects := d.objects.insert key content }

/-- `Stat` (`local.go:81-91`). -/
def statObject (platform : Platform) (key : String) : Tx ObjectInfo := do
  acquire (.object key) .share
  let found ← query fun d => d.objects.lookup key
  let content ← demand found objectMissing
  return { size := content.length, mediaType := platform.typeByExtension (filepathExt key) }

/-- `Open` (`local.go:93-108`), with all that is read from the file. -/
def openObject (key : String) : Tx Bytes := do
  acquire (.object key) .share
  let found ← query fun d => d.objects.lookup key
  demand found objectMissing

/-- `Delete` (`local.go:114-124`): an object that is gone is no error. -/
def deleteObject (key : String) : Tx Unit := do
  acquire (.object key) .update
  modify fun d => { d with objects := d.objects.erase key }

end Pactline
