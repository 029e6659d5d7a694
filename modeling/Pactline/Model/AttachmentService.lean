import Pactline.Concurrency.Clients
import Pactline.Model.System

/-!
# The services around attachments

Each call of the attachment service (`internal/application/attachment_service.go`) and each round of
the cleanup worker (`internal/application/attachment_cleanup.go`) runs several transactions and
operations of the local object store (`internal/blob/local.go`), one after the other, with nothing
that holds them together. Here each of them is a client.

The keys that `StartUpload` makes are relative and clean, so `LocalStore.path` accepts them.
-/

set_option autoImplicit false

namespace Pactline

open ReadCommitted

namespace AttachmentService

/-- The key of a session's object: `path.Join("tasks", taskID, sessionID)`. -/
def objectKey (taskId : TaskId) (sessionId : Id) : String :=
  "tasks/" ++ toString taskId ++ "/" ++ toString sessionId

/-- `StartUpload` (`attachment_service.go:34-66`). -/
def startUpload (platform : Platform) (taskId : TaskId) (uploaderId sessionId : Id)
    (filename mediaType : String) (size : Int) (clock : Nat → Time) : ServiceClient :=
  match Pactline.startUpload platform taskId uploaderId .localDisk (objectKey taskId sessionId)
      filename mediaType size (clock 0) with
  | .error _ => .stop
  | .ok session => .call (.createUpload sessionId session (clock 1)) fun _ => .stop

/-- The checks of `UploadLocal` and of `LocalStore.Put` before the file is in its place
(`attachment_service.go:68-94`, `local.go:43-79`). -/
def checkContent (session : AttachmentUploadSession) (uploaderId : Id) (body : Bytes)
    (contentLength : Int) (now : Time) : Except DomainError Unit :=
  -- One byte more than declared is read, to notice a body that is too long.
  let written := min (body.length : Int) (contentLength + 1)
  if session.uploaderId ≠ uploaderId then .error (.forbidden "")
  else if session.provider ≠ .localDisk then
    .error (.conflict "direct cloud uploads do not accept proxied content")
  else if session.expiresAt < now then .error (.conflict "attachment upload session expired")
  else if contentLength ≠ session.expectedSize then
    .error (.invalidInput "Content-Length does not match the upload session")
  else if contentLength ≤ 0 ∨ maxAttachmentBytes < contentLength then
    .error (.unclassified ("invalid local attachment size " ++ toString contentLength))
  else if written ≠ contentLength then
    .error (.unclassified ("attachment body size " ++ toString written ++
      " does not match declared size " ++ toString contentLength))
  else .ok ()

/-- The `PUT` of an upload's content: the handler reads the session
(`server.go:137-164`) and passes it to `UploadLocal`. -/
def uploadLocal (taskId : TaskId) (sessionId uploaderId : Id) (body : Bytes)
    (contentLength : Int) (now : Time) : ServiceClient :=
  .call (.getUpload sessionId) fun
    | .committed (.upload session) =>
      if session.taskId ≠ taskId then .stop
      else match checkContent session uploaderId body contentLength now with
        | .error _ => .stop
        | .ok () => .call (.putObject session.objectKey body) fun _ => .stop
    | _ => .stop

/-- `CompleteUpload` (`attachment_service.go:96-150`). -/
def completeUpload (platform : Platform) (sessionId uploaderId : Id) (expectedTaskVersion : Nat)
    (actor : OperationActor) (attachmentId : Id) (now : Time) : ServiceClient :=
  .call (.getUpload sessionId) fun
    | .committed (.upload session) =>
      if session.uploaderId ≠ uploaderId then .stop
      else .call (.statObject session.objectKey) fun
        | .committed (.objectInfo info) => .call (.openObject session.objectKey) fun
            | .committed (.content content) =>
              match inspectUpload platform session info content with
              | .error _ => .call (.deleteObject session.objectKey .refused) fun _ => .stop
              | .ok info => .call (.completeUpload sessionId uploaderId info
                  expectedTaskVersion actor attachmentId now content) fun _ => .stop
            | _ => .stop
        | _ => .stop
    | _ => .stop

end AttachmentService

namespace AttachmentCleanup

def providerText : AttachmentProvider → String
  | .localDisk => "local"
  | .oss => "oss"
  | .cos => "cos"

/-- The loop over a batch of deleted attachments (`attachment_cleanup.go:43-61`).
It goes on as long as the marks can be written; `failure` is what a failed deletion says. -/
def cleanAttachments (failure : String) (now : Time) (rest : ServiceClient) :
    List (Id × TaskAttachment) → ServiceClient
  | [] => rest
  | (id, attachment) :: batch =>
    let proceed : Outcome DomainError Reply → ServiceClient
      | .committed _ => cleanAttachments failure now rest batch
      | _ => .stop
    if attachment.provider ≠ .localDisk then
      .call (.markCleanupFailed id ("configured provider local cannot clean historical " ++
        providerText attachment.provider ++ " object")) proceed
    else .call (.deleteObject attachment.objectKey (.attachment id)) fun
      | .committed _ => .call (.markCleaned id now) proceed
      | _ => .call (.markCleanupFailed id failure) proceed

/-- The loop over a batch of expired sessions (`attachment_cleanup.go:66-73`). -/
def cleanUploads : List (Id × AttachmentUploadSession) → ServiceClient
  | [] => .stop
  | (id, session) :: batch =>
    if session.provider ≠ .localDisk then cleanUploads batch
    else .call (.deleteObject session.objectKey (.upload id)) fun _ => cleanUploads batch

/-- `RunOnce` (`attachment_cleanup.go:38-75`). Which rows its two batches come
to lock is not its choice. -/
def runOnce (attachmentIds sessionIds : List Id) (failure : String) (clock : Nat → Time) :
    ServiceClient :=
  .call (.claimCleanupBatch 50 attachmentIds (clock 0)) fun
    | .committed (.cleanup claimed) =>
      cleanAttachments failure (clock 1)
        (.call (.claimExpiredUploads 50 sessionIds (clock 2)) fun
          | .committed (.expiredUploads expired) => cleanUploads expired
          | _ => .stop) claimed
    | _ => .stop

end AttachmentCleanup

/-- The command belongs to the services: they alone start and complete uploads and touch objects. -/
def Cmd.ofService : Cmd → Bool
  | .createUpload _ _ _ | .completeUpload _ _ _ _ _ _ _ _ | .putObject _ _
  | .deleteObject _ _ => true
  | _ => false

/-- The clients of the system: the calls of the services, and clients that run other commands. -/
inductive Serves (platform : Platform) : ServiceClient → Prop
  | startUpload (taskId : TaskId) (uploaderId sessionId : Id) (filename mediaType : String)
      (size : Int) (clock : Nat → Time) :
      Serves platform (AttachmentService.startUpload platform taskId uploaderId sessionId filename
        mediaType size clock)
  | uploadLocal (taskId : TaskId) (sessionId uploaderId : Id) (body : Bytes)
      (contentLength : Int) (now : Time) :
      Serves platform (AttachmentService.uploadLocal taskId sessionId uploaderId body contentLength
        now)
  | completeUpload (sessionId uploaderId : Id) (expectedTaskVersion : Nat)
      (actor : OperationActor) (attachmentId : Id) (now : Time) :
      Serves platform (AttachmentService.completeUpload platform sessionId uploaderId
        expectedTaskVersion actor attachmentId now)
  | runOnce (attachmentIds sessionIds : List Id) (failure : String) (clock : Nat → Time) :
      Serves platform (AttachmentCleanup.runOnce attachmentIds sessionIds failure clock)
  | other (client : ServiceClient) (h : client.Only fun c => c.ofService = false) :
      Serves platform client

end Pactline
