import Pactline.Model.DeliveryStore

/-!
# Uploading and serving attachments

An upload is started (`internal/application/attachment_service.go`), its content is put into an
object store, and it is completed, which settles the media type from what the caller declared,
what the object store reports and what the first bytes look like. Later the content is served
with that type (`internal/api/v1/server.go`).

The object store is outside: what it reports about an object is an argument.
-/

set_option autoImplicit false

namespace Pactline

open ReadCommitted Txn

/-! ## Starting an upload -/

def attachmentUploadLifetime : Time := 30 * 60 * 1000000

/-- `StartUpload` up to the store (`attachment_service.go:34-66`): the type
is settled once before it is stored. -/
def startUpload (platform : Platform) (taskId : TaskId) (uploaderId : Id)
    (provider : AttachmentProvider) (objectKey filename mediaType : String) (size : Int)
    (now : Time) : Except DomainError AttachmentUploadSession := do
  let mediaType := normalizeAttachmentMediaType platform filename mediaType
  validateAttachmentMetadata platform filename mediaType size
  return { taskId, uploaderId, provider, objectKey, filename, mediaType, expectedSize := size
           status := .pending, expiresAt := now + attachmentUploadLifetime, attachmentId := none }

/-- The attachments of a Task that are not deleted. -/
def Db.activeAttachments (d : Db) (t : TaskId) : Nat :=
  (d.attachments.entries.filter fun e => e.2.taskId = t ∧ e.2.deletedAt = none).length

/-- `CreateUploadSession` (`attachment_store.go:33-79`). -/
def createUploadSession (platform : Platform) (id : Id) (session : AttachmentUploadSession)
    (now : Time) : Tx AttachmentUploadSession := do
  validateAttachmentMetadata platform session.filename session.mediaType session.expectedSize
  require (session.taskId ≠ 0 ∧ session.uploaderId ≠ 0 ∧ session.objectKey ≠ "")
    (.invalidInput "attachment upload session is incomplete")
  require (session.expiresAt ≠ 0 ∧ now < session.expiresAt)
    (.invalidInput "upload session expiry must be in the future")
  let active ← query (·.activeAttachments session.taskId)
  require (active < maxActiveTaskAttachments)
    (.conflict "task already has 100 active attachments")
  acquire (.upload id) .update
  let existing ← query fun d => d.uploads.lookup id
  require (existing = none) (uniqueViolation "attachment_upload_sessions_pkey")
  let session := { session with status := .pending, attachmentId := none }
  modify fun d => { d with uploads := d.uploads.insert id session }
  return session

/-! ## Completing an upload -/

/-- What an object store reports about an object. -/
structure ObjectInfo where
  size : Int
  mediaType : String
deriving DecidableEq, Repr

/-- `bytes.TrimSpace` on a header: white space at its end never matters for a prefix. -/
def signatureHeader (header : Bytes) : Bytes := trimLeftSpace header

/-- The inspection of `CompleteUpload` (`attachment_service.go:96-150`): a
detected HTML page or image overrules what the object store reports. -/
def inspectUpload (platform : Platform) (session : AttachmentUploadSession) (info : ObjectInfo)
    (content : Bytes) : Except DomainError ObjectInfo := do
  let header := content.take 512
  validateAttachmentContentSignature (signatureHeader header)
  let detected := normalizeAttachmentMediaType platform session.filename (detectContentType header)
  if detected = "text/html" ∨ detected.toList.take 6 = "image/".toList then
    return { info with mediaType := detected }
  return info

/-- The type a completed attachment is stored with. -/
def settledMediaType (platform : Platform) (session : AttachmentUploadSession)
    (reported : String) : String :=
  let actual := normalizeAttachmentMediaType platform session.filename reported
  if actual = octetStream then session.mediaType else actual

/-- How `CompleteUploadSession` ends when it commits: a session past its deadline is marked, and
the caller gets an error all the same. -/
inductive UploadCompletion
  | expired
  | completed (attachment : TaskAttachment) (taskVersion : Nat)
deriving DecidableEq, Repr

/-- The row of a completed attachment. -/
def AttachmentUploadSession.attachment (session : AttachmentUploadSession) (mediaType : String) :
    TaskAttachment :=
  { taskId := session.taskId, uploaderId := session.uploaderId, filename := session.filename
    mediaType, sizeBytes := session.expectedSize, provider := session.provider
    objectKey := session.objectKey, version := 1, deletedAt := none, cleanupAttemptedAt := none
    cleanupError := none, cleanedAt := none }

/-- Some attachment has the object key. -/
def Db.hasObjectKey (d : Db) (key : String) : Bool :=
  d.attachments.entries.any fun e => e.2.objectKey = key

/-- The statements of `CompleteUploadSession` on a session that is not past its deadline. -/
def storeAttachment (platform : Platform) (id : Id) (session : AttachmentUploadSession)
    (info : ObjectInfo) (expectedTaskVersion : Nat) (actor : OperationActor) (attachmentId : Id)
    (now : Time) : Tx UploadCompletion := do
  let mediaType := settledMediaType platform session info.mediaType
  require (info.size = session.expectedSize)
    (.invalidInput "uploaded attachment size does not match the upload session")
  validateAttachmentMetadata platform session.filename mediaType info.size
  acquire (.task session.taskId) .update
  let found ← query (·.task session.taskId)
  let task ← demand found (.unclassified "query: no rows in result set")
  require (task.row.version = expectedTaskVersion) (.versionConflict task.row.version)
  let active ← query (·.activeAttachments session.taskId)
  require (active < maxActiveTaskAttachments)
    (.conflict "task already has 100 active attachments")
  acquire (.attachment attachmentId) .update
  let existing ← query fun d => d.attachments.lookup attachmentId
  require (existing = none) (uniqueViolation "task_attachments_pkey")
  acquire (.objectKey session.objectKey) .update
  let taken ← query (·.hasObjectKey session.objectKey)
  require (taken = false) (uniqueViolation "task_attachments_object_key_key")
  let attachment := session.attachment mediaType
  modify fun d => { d with attachments := d.attachments.insert attachmentId attachment }
  let completed := { session with status := .completed, attachmentId := some attachmentId }
  modify fun d => { d with uploads := d.uploads.insert id completed }
  modify (Db.modifyTask session.taskId fun r =>
    r.setRow { r.row with version := r.row.version + 1 })
  let event : BusinessAuditEvent := ⟨now, actor, "attachment", attachmentId, "created"⟩
  event.validate
  modify (Db.modifyTask session.taskId (·.addAudit event))
  return .completed attachment (task.row.version + 1)

/-- `CompleteUploadSession` (`attachment_store.go:102-203`). The deadline is looked
at before the Task's version. -/
def completeUploadSession (platform : Platform) (id uploaderId : Id) (info : ObjectInfo)
    (expectedTaskVersion : Nat) (actor : OperationActor) (attachmentId : Id) (now : Time) :
    Tx UploadCompletion := do
  actor.validate
  require (actor.userId = uploaderId) (.forbidden "")
  acquire (.upload id) .update
  let found ← query fun d => d.uploads.lookup id
  let session ← demand (found.filter fun s => s.status = .pending) .notFound
  require (session.uploaderId = uploaderId) (.forbidden "")
  if session.expiresAt < now then do
    let expired := { session with status := .expired }
    modify fun d => { d with uploads := d.uploads.insert id expired }
    return .expired
  else storeAttachment platform id session info expectedTaskVersion actor attachmentId now

/-! ## Serving the content -/

/-- The headers of a served attachment that decide how a browser treats it. -/
structure ContentResponse where
  inline : Bool
  contentType : String
  contentSecurityPolicy : Option String
deriving DecidableEq, Repr

/-- `serveAttachmentContent` on a `GET` (`server.go:101-210`); `disposition` is the
query parameter of that name. -/
def serveAttachmentContent (platform : Platform) (attachment : TaskAttachment)
    (disposition : String) : ContentResponse :=
  let kind := attachmentPreview platform attachment.filename attachment.mediaType
  let inline := ¬ (disposition = "attachment" ∨ kind = .download)
  { inline, contentType := attachment.mediaType
    contentSecurityPolicy := if kind = .html ∧ inline then some "sandbox allow-scripts" else none }

end Pactline
