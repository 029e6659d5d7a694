import Pactline.Analysis.TaskStoreEffects

/-!
# The steps beside the Tasks

What the commands on upload sessions, attachments, objects and observations do. Only the
completion of an upload writes a Task; the others leave all Tasks alone (`SideStep`).
-/

set_option autoImplicit false

namespace Pactline

open ReadCommitted Txn List

variable {content : Bytes} {result : UploadCompletion} {uploaderId : Id}

variable {id attachmentId : Id} {session : AttachmentUploadSession} {u : Unit} {key : String}
  {info : ObjectInfo} {now : Time} {expectedTaskVersion : Nat} {actor : OperationActor}
  {ids : List Id} {limit : Int}

/-! ## Uploads -/

/-- The row of a new session. -/
def AttachmentUploadSession.started (session : AttachmentUploadSession) :
    AttachmentUploadSession :=
  { session with status := .pending, attachmentId := none }

/-- The row of a completed session. -/
def AttachmentUploadSession.completed (session : AttachmentUploadSession) (attachmentId : Id) :
    AttachmentUploadSession :=
  { session with status := .completed, attachmentId := some attachmentId }

/-- A commit that has started an upload. -/
structure UploadStarted (platform : Platform) (held : List (Lock Row)) (d d' : Db) (id : Id)
    (session : AttachmentUploadSession) : Prop where
  valid : validateAttachmentMetadata platform session.filename session.mediaType
    session.expectedSize = .ok ()
  locked : ⟨.upload id, .update⟩ ∈ held
  absent : d.uploads.lookup id = none
  after : d' = { d with uploads := d.uploads.insert id session.started }

/-- A commit that has found the session of an upload pending. -/
structure UploadPending (held : List (Lock Row)) (d : Db) (id uploaderId : Id)
    (actor : OperationActor) (session : AttachmentUploadSession) : Prop where
  locked : ⟨.upload id, .update⟩ ∈ held
  found : d.uploads.lookup id = some session
  pending : session.status = .pending
  uploader : session.uploaderId = uploaderId
  actor : actor.userId = uploaderId

/-- The rows that the completion of an upload leaves of the Task. -/
def TaskRecord.attached (r : TaskRecord) (actor : OperationActor) (attachmentId : Id) (now : Time) :
    TaskRecord :=
  (r.setRow { r.row with version := r.row.version + 1 }).addAudit
    ⟨now, actor, "attachment", attachmentId, "created"⟩

/-- The completion has stored an attachment. -/
def UploadCompletion.stored : UploadCompletion → Bool
  | .expired => false
  | .completed _ _ => true

/-- A commit that has stored an attachment. -/
structure UploadCompleted (platform : Platform) (held : List (Lock Row)) (d d' : Db) (id : Id)
    (session : AttachmentUploadSession) (info : ObjectInfo) (expectedTaskVersion : Nat)
    (actor : OperationActor) (attachmentId : Id) (now : Time) (r : TaskRecord) : Prop where
  deadline : now ≤ session.expiresAt
  size : info.size = session.expectedSize
  valid : validateAttachmentMetadata platform session.filename
    (settledMediaType platform session info.mediaType) info.size = .ok ()
  locked : ⟨.task session.taskId, .update⟩ ∈ held
  before : d.task session.taskId = some r
  expected : r.row.version = expectedTaskVersion
  after : d'.task session.taskId = some (r.attached actor attachmentId now)
  other : ∀ t ≠ session.taskId, d'.task t = d.task t
  rowLocked : ⟨.attachment attachmentId, .update⟩ ∈ held
  absent : d.attachments.lookup attachmentId = none
  room : ∃ d₀, Undisturbed [⟨.task session.taskId, .update⟩] d₀ d ∧
    d₀.activeAttachments session.taskId < maxActiveTaskAttachments
  uploads : d'.uploads = d.uploads.insert id (session.completed attachmentId)
  attachments : d'.attachments = d.attachments.insert attachmentId
    (session.attachment (settledMediaType platform session info.mediaType))
  objects : d'.objects = d.objects

/-- The command only reads. -/
def Cmd.reads : Cmd → Bool
  | .getClaim _ | .getUpload _ | .statObject _ | .openObject _ => true
  | _ => false

/-- The command writes rows of attachments that are there. -/
def Cmd.rewrites : Cmd → Bool
  | .softDelete _ _ _ _ | .claimCleanupBatch _ _ _ | .markCleaned _ _
  | .markCleanupFailed _ _ => true
  | _ => false

/-- The command writes what the provider says of links, or the bindings of repositories. -/
def Cmd.provides : Cmd → Bool
  | .updateObservation _ _ | .setRepository _ _ => true
  | _ => false

/-- The command may leave all Tasks alone. -/
def Cmd.aside (c : Cmd) : Bool :=
  c.reads || c.rewrites || c.provides || match c with
    | .createUpload .. | .completeUpload .. | .claimExpiredUploads .. | .putObject ..
    | .deleteObject .. => true
    | _ => false

/-- What the commands do that leave all Tasks alone. -/
inductive SideStep (platform : Platform) (held : List (Lock Row)) (d d' : Db) : Cmd → Prop
  | provide {c : Cmd} (provides : c.provides = true) (tasks : d'.tasks = d.tasks)
      (aside : SameAside d d') : SideStep platform held d d' c
  | startUpload {id : Id} {session : AttachmentUploadSession} {now : Time}
      (started : UploadStarted platform held d d' id session) :
      SideStep platform held d d' (.createUpload id session now)
  | expireUpload {id uploaderId info expectedTaskVersion actor attachmentId now inspected}
      {session : AttachmentUploadSession}
      (pending : UploadPending held d id uploaderId actor session)
      (late : session.expiresAt < now) (after : d' = d.setUploads [(id, session.expired)]) :
      SideStep platform held d d'
        (.completeUpload id uploaderId info expectedTaskVersion actor attachmentId now inspected)
  | claimExpired {limit ids now claimed}
      (locked : ∀ e ∈ claimed, ⟨.upload e.1, .update⟩ ∈ held)
      (found : ∀ e ∈ claimed, ∃ s, d.uploads.lookup e.1 = some s ∧ s.status = .pending ∧
        s.expiresAt ≤ now ∧ e.2 = s.expired)
      (after : d' = d.setUploads claimed) :
      SideStep platform held d d' (.claimExpiredUploads limit ids now)
  | rewrite {c : Cmd} {rows} (rewrites : c.rewrites = true)
      (locked : ∀ e ∈ rows, ⟨.attachment e.1, .update⟩ ∈ held)
      (found : ∀ e ∈ rows, ∃ a, d.attachments.lookup e.1 = some a ∧ a.Keeps e.2)
      (after : d' = d.setAttachments rows) : SideStep platform held d d' c
  | put {key : String} {content : Bytes} (locked : ⟨.object key, .update⟩ ∈ held)
      (after : d' = { d with objects := d.objects.insert key content }) :
      SideStep platform held d d' (.putObject key content)
  | delete {key reason} (locked : ⟨.object key, .update⟩ ∈ held)
      (after : d' = { d with objects := d.objects.erase key }) :
      SideStep platform held d d' (.deleteObject key reason)
  | read {c : Cmd} (reads : c.reads = true) (same : d' = d) : SideStep platform held d d' c

section Reads

variable {R : Rely Db Row} {held held' : List (Lock Row)} {d d' : Db}

/-- The Claim that is given back was stored at some moment since which only others have acted. -/
theorem getClaim_commits {claimId claim}
    (h : (getClaim claimId).Commits R held d claim held' d') :
    (∃ d₀, R.rel held d₀ d ∧ d₀.claim claimId = some claim) ∧ d' = d := by
  simp only [getClaim, rules, peel] at h
  obtain ⟨found, ⟨d₀, hrel, rfl⟩, hclaim, -, rfl⟩ := h
  exact ⟨⟨d₀, hrel, hclaim⟩, rfl⟩

theorem getUploadSession_commits (h : (getUploadSession id).Commits R held d session held' d') :
    (∃ d₀, R.rel held d₀ d ∧ d₀.uploads.lookup id = some session ∧ session.status = .pending) ∧
      d' = d := by
  simp only [getUploadSession, rules, peel] at h
  obtain ⟨found, ⟨d₀, hrel, rfl⟩, hsession, -, rfl⟩ := h
  obtain ⟨hlookup, hpending⟩ := Option.filter_eq_some_iff.mp hsession
  exact ⟨⟨d₀, hrel, hlookup, of_decide_eq_true hpending⟩, rfl⟩

theorem updateObservation_commits {linkId observation}
    (h : (updateObservation linkId observation).Commits R held d u held' d') :
    d'.tasks = d.tasks ∧ SameAside d d' := by
  simp only [updateObservation, rules, peel] at h
  obtain ⟨-, _, -, _, -, -, rfl⟩ := h
  exact ⟨rfl, ⟨rfl, rfl, rfl⟩⟩

theorem setRepository_commits {repositoryId repository}
    (h : (setRepository repositoryId repository).Commits R held d u held' d') :
    d'.tasks = d.tasks ∧ SameAside d d' := by
  simp only [setRepository, rules, peel] at h
  obtain ⟨-, rfl⟩ := h
  exact ⟨rfl, ⟨rfl, rfl, rfl⟩⟩

end Reads

section Objects

variable {platform : Platform} {R : Rely Db Row} (hR : Isolates R) {held held' : List (Lock Row)}
  {d d' : Db}

include hR

theorem statObject_commits (h : (statObject platform key).Commits R held d info held' d') :
    (∃ content, d.objects.lookup key = some content ∧ info.size = content.length) ∧ d' = d := by
  simp only [statObject, rules, peel] at h
  obtain ⟨found, ⟨d₀, hrel, rfl⟩, content, hfound, rfl, -, rfl⟩ := h
  have hsame := (hR.interferes hrel).objects key .share mem_cons_self
  exact ⟨⟨content, hsame.trans hfound, rfl⟩, rfl⟩

theorem openObject_commits (h : (openObject key).Commits R held d content held' d') :
    d.objects.lookup key = some content ∧ d' = d := by
  simp only [openObject, rules, peel] at h
  obtain ⟨found, ⟨d₀, hrel, rfl⟩, hfound, -, rfl⟩ := h
  have hsame := (hR.interferes hrel).objects key .share mem_cons_self
  exact ⟨hsame.trans hfound, rfl⟩

omit hR in
theorem putObject_commits (h : (putObject key content).Commits R held d u held' d') :
    ⟨.object key, .update⟩ ∈ held' ∧ d' = { d with objects := d.objects.insert key content } := by
  simp only [putObject, rules, peel] at h
  obtain ⟨rfl, rfl⟩ := h
  exact ⟨mem_cons_self, rfl⟩

omit hR in
theorem deleteObject_commits (h : (deleteObject key).Commits R held d u held' d') :
    ⟨.object key, .update⟩ ∈ held' ∧ d' = { d with objects := d.objects.erase key } := by
  simp only [deleteObject, rules, peel] at h
  obtain ⟨rfl, rfl⟩ := h
  exact ⟨mem_cons_self, rfl⟩

end Objects

section Uploads

variable {platform : Platform} {R : Rely Db Row} (hR : Isolates R) {held held' : List (Lock Row)}
  {d d' : Db}

include hR

theorem createUploadSession_commits {result}
    (h : (createUploadSession platform id session now).Commits R held d result held' d') :
    UploadStarted platform held' d d' id session := by
  simp only [createUploadSession, rules, peel] at h
  obtain ⟨hvalid, -, -, -, -, -, _, -, -, existing, ⟨d₀, hrel, rfl⟩, hnone, -, rfl, rfl⟩ := h
  have hsame := (hR.interferes hrel).uploads id .update mem_cons_self
  exact ⟨hvalid, mem_cons_self, hsame.trans hnone, rfl⟩

theorem storeAttachment_commits (hdeadline : now ≤ session.expiresAt)
    (h : (storeAttachment platform id session info expectedTaskVersion actor attachmentId
      now).Commits R held d result held' d') :
    held ⊆ held' ∧ result.stored = true ∧ ∃ r, UploadCompleted platform held' d d' id session info
      expectedTaskVersion actor attachmentId now r := by
  simp only [storeAttachment, rules, peel] at h
  obtain ⟨hsize, hvalid, found, ⟨d₀, hrel, rfl⟩, r, hr, hversion, active, ⟨d₁, hrel₁, rfl⟩, hroom,
    existing, ⟨d₂, hrel₂, rfl⟩, habsent, taken, -, -, -, rfl, rfl, rfl⟩ := h
  have hbefore := ((hR.interferes hrel).locked session.taskId .update mem_cons_self).trans hr
  have hfree := (hR.interferes hrel₂).attachments attachmentId .update mem_cons_self
  have hundisturbed : Undisturbed [⟨.task session.taskId, .update⟩] d₁ d :=
    (hR.interferes hrel₁).toUndisturbed.weaken (cons_subset_cons _ (nil_subset _))
  have hlocks : ∀ l ∈ ⟨.task session.taskId, .update⟩ :: held,
      l ∈ ⟨.objectKey session.objectKey, .update⟩ :: ⟨.attachment attachmentId, .update⟩ ::
        ⟨.task session.taskId, .update⟩ :: held :=
    fun l hl => mem_cons_of_mem _ (mem_cons_of_mem _ hl)
  refine ⟨fun l hl => hlocks l (mem_cons_of_mem _ hl), rfl, r, {
    deadline := hdeadline
    size := hsize
    valid := hvalid
    locked := hlocks _ mem_cons_self
    before := hbefore
    expected := hversion
    after := ?_
    other := ?_
    rowLocked := mem_cons_of_mem _ mem_cons_self
    absent := hfree.trans habsent
    room := ⟨d₁, hundisturbed, hroom⟩
    uploads := ?_
    attachments := ?_
    objects := ?_ }⟩
  · rw [Db.task_modifyTask_self, Db.task_modifyTask_self, Option.map_map]
    exact congrArg (Option.map _) hbefore
  · intro t ht
    rw [Db.task_modifyTask, if_neg ht, Db.task_modifyTask, if_neg ht]
    rfl
  · rw [Db.modifyTask_uploads, Db.modifyTask_uploads]
    rfl
  · rw [Db.modifyTask_attachments, Db.modifyTask_attachments]
  · rw [(Db.sameAside_modifyTask _ _ _).objects, (Db.sameAside_modifyTask _ _ _).objects]

theorem completeUploadSession_commits
    (h : (completeUploadSession platform id uploaderId info expectedTaskVersion actor attachmentId
      now).Commits R held d result held' d') :
    ∃ session, UploadPending held' d id uploaderId actor session ∧
      ((session.expiresAt < now ∧ result = .expired ∧
          d' = d.setUploads [(id, session.expired)]) ∨
        (result.stored = true ∧ ∃ r, UploadCompleted platform held' d d' id session info
          expectedTaskVersion actor attachmentId now r)) := by
  simp only [completeUploadSession, rules, commits_ite, peel] at h
  obtain ⟨-, hactor, found, ⟨d₀, hrel, rfl⟩, session, hsession, huploader, hrest⟩ := h
  obtain ⟨hlookup, hpending⟩ := Option.filter_eq_some_iff.mp hsession
  have hfound := ((hR.interferes hrel).uploads id .update mem_cons_self).trans hlookup
  have hstatus := of_decide_eq_true hpending
  rcases hrest with ⟨hlate, rfl, rfl, rfl⟩ | ⟨hdeadline, hstore⟩
  · exact ⟨session, ⟨mem_cons_self, hfound, hstatus, huploader, hactor⟩,
      .inl ⟨hlate, rfl, rfl⟩⟩
  · obtain ⟨hle, hstored, r, hcompleted⟩ := storeAttachment_commits hR (not_lt.mp hdeadline) hstore
    exact ⟨session, ⟨hle mem_cons_self, hfound, hstatus, huploader, hactor⟩,
      .inr ⟨hstored, r, hcompleted⟩⟩

end Uploads

section Batches

variable {platform : Platform} {R : Rely Db Row} (hR : Isolates R) {held held' : List (Lock Row)}
  {d d' : Db}

include hR

theorem softDelete_commits {taskId expectedVersion result}
    (h : (softDelete taskId id expectedVersion now).Commits R held d result held' d') :
    SideStep platform held' d d' (.softDelete taskId id expectedVersion now) := by
  simp only [softDelete, rules, peel] at h
  obtain ⟨found, ⟨d₀, hrel, hfound⟩, h⟩ := h
  cases found with
  | none =>
    simp only [rules, commits_fail] at h
    obtain ⟨_, _, _, _, _, _, _, _, hfalse⟩ := h
    exact hfalse.elim
  | some a =>
    simp only [rules, peel] at h
    obtain ⟨-, rfl, rfl⟩ := h
    obtain ⟨hlookup, hcandidate⟩ := Option.filter_eq_some_iff.mp hfound.symm
    have hsame := (hR.interferes hrel).attachments id .update mem_cons_self
    refine .rewrite rfl ?_ ?_ rfl
    · intro e he
      rw [mem_singleton.mp he]
      exact mem_cons_self
    · intro e he
      rw [mem_singleton.mp he]
      exact ⟨a, hsame.trans hlookup, rfl, fun _ => Option.some_ne_none now⟩

omit hR in
/-- The rows a batch comes to lock are held at its end. -/
theorem mem_batch_locks {row} (hid : id ∈ ids) :
    ⟨row id, .update⟩ ∈ ((ids.map row).map fun r => (⟨r, .update⟩ : Lock Row)).reverse ++ held := by
  apply mem_append_left
  rw [mem_reverse, map_map]
  exact mem_map.mpr ⟨id, hid, rfl⟩

theorem claimCleanupBatch_commits {claimed}
    (h : (claimCleanupBatch limit ids now).Commits R held d claimed held' d') :
    (∀ e ∈ claimed, ⟨.attachment e.1, .update⟩ ∈ held') ∧
      (∀ e ∈ claimed, ∃ a, d.attachments.lookup e.1 = some a ∧ a.AwaitsCleanup now ∧
        e.2 = a.claimed now) ∧ d' = d.setAttachments claimed := by
  simp only [claimCleanupBatch, rules, peel] at h
  obtain ⟨rows, ⟨d₀, hrel, rfl⟩, rfl, rfl, rfl⟩ := h
  refine ⟨fun e he => ?_, fun e he => ?_, rfl⟩
  · obtain ⟨id, hid, hrow⟩ := mem_filterMap.mp he
    obtain ⟨a, -, rfl⟩ := Option.map_eq_some_iff.mp hrow
    exact mem_batch_locks hid
  · obtain ⟨id, hid, hrow⟩ := mem_filterMap.mp he
    obtain ⟨a, hfound, rfl⟩ := Option.map_eq_some_iff.mp hrow
    obtain ⟨hlookup, hawaits⟩ := Option.filter_eq_some_iff.mp hfound
    have hsame := (hR.interferes hrel).attachments id .update (mem_batch_locks hid)
    exact ⟨a, hsame.trans hlookup, of_decide_eq_true hawaits, rfl⟩

omit hR in
/-- A batch takes no row twice. -/
theorem nodup_batch {V : Type} {f : Id → Option (Id × V)} (hf : ∀ id, ∀ e ∈ f id, e.1 = id) :
    (((batchIds limit ids).filterMap f).map fun e => e.1).Nodup := by
  rw [map_filterMap]
  refine List.Nodup.filterMap ?_ ((nodup_dedup ids).sublist (take_sublist _ _))
  intro a a' b ha ha'
  obtain ⟨e, he, rfl⟩ := Option.mem_map.mp ha
  obtain ⟨e', he', heq⟩ := Option.mem_map.mp ha'
  rw [← hf a e he, ← hf a' e' he', heq]

theorem claimExpiredUploadSessions_commits {claimed : List (Id × AttachmentUploadSession)}
    (h : (claimExpiredUploadSessions limit ids now).Commits R held d claimed held' d') :
    (claimed.map fun e => e.1).Nodup ∧ (∀ e ∈ claimed, ⟨.upload e.1, .update⟩ ∈ held') ∧
      (∀ e ∈ claimed, ∃ s, d.uploads.lookup e.1 = some s ∧ s.status = .pending ∧
        s.expiresAt ≤ now ∧ e.2 = s.expired) ∧ d' = d.setUploads claimed := by
  simp only [claimExpiredUploadSessions, rules, peel] at h
  obtain ⟨rows, ⟨d₀, hrel, rfl⟩, rfl, rfl, rfl⟩ := h
  refine ⟨?_, fun e he => ?_, fun e he => ?_, rfl⟩
  · refine nodup_batch fun id e he => ?_
    obtain ⟨s, -, rfl⟩ := Option.mem_map.mp he
    rfl
  · obtain ⟨id, hid, hrow⟩ := mem_filterMap.mp he
    obtain ⟨s, -, rfl⟩ := Option.map_eq_some_iff.mp hrow
    exact mem_batch_locks hid
  · obtain ⟨id, hid, hrow⟩ := mem_filterMap.mp he
    obtain ⟨s, hfound, rfl⟩ := Option.map_eq_some_iff.mp hrow
    obtain ⟨hlookup, hdue⟩ := Option.filter_eq_some_iff.mp hfound
    obtain ⟨hpending, hdeadline⟩ := of_decide_eq_true hdue
    have hsame := (hR.interferes hrel).uploads id .update (mem_batch_locks hid)
    exact ⟨s, hsame.trans hlookup, hpending, hdeadline, rfl⟩

/-- The two marks that a cleanup leaves in an attachment. -/
theorem updateAttachment_commits {f} {c : Cmd}
    (hc : c.rewrites = true) (hf : ∀ a : TaskAttachment, a.Keeps (f a))
    (h : (updateAttachment id f).Commits R held d u held' d') : SideStep platform held' d d' c := by
  simp only [updateAttachment, rules, peel] at h
  obtain ⟨found, ⟨d₀, hrel, rfl⟩, rfl, rfl⟩ := h
  have hsame := (hR.interferes hrel).attachments id .update mem_cons_self
  refine .rewrite hc ?_ ?_ rfl
  · intro e he
    obtain ⟨a, -, rfl⟩ := mem_map.mp he
    exact mem_cons_self
  · intro e he
    obtain ⟨a, ha, rfl⟩ := mem_map.mp he
    exact ⟨a, hsame.trans (Option.mem_toList.mp ha), hf a⟩

end Batches

/-! ## Frames -/

section Frames

variable {platform : Platform} {held : List (Lock Row)} {d d' : Db} {c : Cmd}

theorem SideStep.tasks (h : SideStep platform held d d' c) : d'.tasks = d.tasks := by
  cases h with
  | provide _ tasks => exact tasks
  | startUpload started => rw [started.after]
  | expireUpload _ _ after | claimExpired _ _ after | rewrite _ _ _ after =>
    rw [after]
    rfl
  | put _ after | delete _ after => rw [after]
  | read _ same => rw [same]

theorem SideStep.aside (h : SideStep platform held d d' c) : c.aside = true := by
  unfold Cmd.aside
  cases h with
  | rewrite rewrites => rw [rewrites, Bool.or_true, Bool.true_or, Bool.true_or]
  | read reads => rw [reads, Bool.true_or, Bool.true_or, Bool.true_or]
  | provide provides => rw [provides, Bool.or_true, Bool.true_or]
  | startUpload | expireUpload | claimExpired | put | delete => rfl

/-- Sessions that are held are written, each from the one it replaces. -/
theorem sideFootprint_setUploads {rows}
    (hlocked : ∀ e ∈ rows, ⟨.upload e.1, .update⟩ ∈ held)
    (hkeeps : ∀ e ∈ rows, ∀ s, d.uploads.lookup e.1 = some s → s.Keeps e.2) :
    SideFootprint held d (d.setUploads rows) where
  keptUploads := .of_rows .refl hkeeps
  keptAttachments := .refl .refl _
  uploads id hl := by
    refine Table.lookup_insertAll_of_notMem fun e he heq => hl ?_
    exact heq ▸ hlocked e he
  attachments _ _ := rfl
  attached _ _ h := .inl h
  objects _ _ := rfl

/-- Attachments that are held are written, and no attachment comes back. -/
theorem sideFootprint_setAttachments {rows}
    (hlocked : ∀ e ∈ rows, ⟨.attachment e.1, .update⟩ ∈ held)
    (hfound : ∀ e ∈ rows, ∃ a, d.attachments.lookup e.1 = some a ∧ a.Keeps e.2) :
    SideFootprint held d (d.setAttachments rows) where
  keptUploads := .refl .refl _
  keptAttachments := .of_rows .refl fun e he a ha => by
    obtain ⟨a₀, ha₀, hkeeps⟩ := hfound e he
    rw [ha] at ha₀
    exact Option.some.inj ha₀ ▸ hkeeps
  uploads _ _ := rfl
  attachments id hl := by
    refine Table.lookup_insertAll_of_notMem fun e he heq => hl ?_
    exact heq ▸ hlocked e he
  attached t id := by
    rintro ⟨a, ha, htask, hactive⟩
    left
    rcases Table.lookup_insertAll_cases rows d.attachments id with ⟨v, hv, hlookup⟩ | ⟨-, hlookup⟩
    · obtain ⟨a₀, ha₀, hkeeps⟩ := hfound _ hv
      have heq : v = a := Option.some.inj (hlookup.symm.trans ha)
      subst heq
      refine ⟨a₀, ha₀, (TaskAttachment.fixed_eq hkeeps.fixed).1.symm.trans htask, ?_⟩
      by_contra hdeleted
      exact hkeeps.deleted hdeleted hactive
    · exact ⟨a, hlookup.symm.trans ha, htask, hactive⟩
  objects _ _ := rfl

/-- A session that is found pending may be given any outcome. -/
theorem AttachmentUploadSession.Keeps.of_pending {s s' : AttachmentUploadSession}
    (hpending : s.status = .pending) (hfixed : s'.fixed = s.fixed) : s.Keeps s' :=
  ⟨hfixed, fun hsettled => absurd hpending hsettled⟩

theorem SideStep.sideFootprint (h : SideStep platform held d d' c) : SideFootprint held d d' := by
  cases h with
  | provide _ _ aside => exact aside.sideFootprint
  | startUpload started =>
    rw [started.after]
    refine @sideFootprint_setUploads _ _ [(_, _)] (fun e he => ?_) fun e he s hs => ?_
    · rw [mem_singleton.mp he]
      exact started.locked
    · rw [mem_singleton.mp he, started.absent] at hs
      cases hs
  | expireUpload pending _ after =>
    rw [after]
    refine sideFootprint_setUploads (fun e he => ?_) fun e he s hs => ?_
    · rw [mem_singleton.mp he]
      exact pending.locked
    · rw [mem_singleton.mp he] at hs ⊢
      rw [pending.found] at hs
      cases hs
      exact .of_pending pending.pending rfl
  | claimExpired locked found after =>
    rw [after]
    refine sideFootprint_setUploads locked fun e he s hs => ?_
    obtain ⟨s₀, hs₀, hpending, -, heq⟩ := found e he
    rw [hs] at hs₀
    cases hs₀
    rw [heq]
    exact .of_pending hpending rfl
  | rewrite _ locked found after =>
    rw [after]
    exact sideFootprint_setAttachments locked found
  | put locked after =>
    rw [after]
    exact .of_eq rfl rfl fun key' hl => AList.lookup_insert_ne fun heq => hl (heq ▸ locked)
  | delete locked after =>
    rw [after]
    exact .of_eq rfl rfl fun key' hl => AList.lookup_erase_ne fun heq => hl (heq ▸ locked)
  | read _ same =>
    rw [same]
    exact (SameAside.refl d).sideFootprint

/-- The completion of an upload adds one attachment to a Task it holds. -/
theorem UploadCompleted.sideFootprint {r}
    (h : UploadCompleted platform held d d' id session info expectedTaskVersion actor attachmentId
      now r) (hpending : UploadPending held d id uploaderId actor session) :
    SideFootprint held d d' where
  keptUploads := by
    rw [h.uploads]
    refine @Table.Kept.of_rows _ _ _ .refl [(_, _)] fun e he s hs => ?_
    rw [mem_singleton.mp he] at hs ⊢
    rw [hpending.found] at hs
    cases hs
    exact .of_pending hpending.pending rfl
  keptAttachments := by
    rw [h.attachments]
    refine @Table.Kept.of_rows _ _ _ .refl [(_, _)] fun e he s hs => ?_
    rw [mem_singleton.mp he, h.absent] at hs
    cases hs
  objects _ _ := by rw [h.objects]
  uploads id' hl := by
    rw [h.uploads]
    exact AList.lookup_insert_ne fun heq => hl (heq ▸ hpending.locked)
  attachments id' hl := by
    rw [h.attachments]
    exact AList.lookup_insert_ne fun heq => hl (heq ▸ h.rowLocked)
  attached t id' := by
    rintro ⟨a, ha, htask, hactive⟩
    rw [h.attachments] at ha
    by_cases hid : id' = attachmentId
    · subst hid
      rw [AList.lookup_insert] at ha
      cases ha
      exact .inr (htask ▸ h.locked)
    · rw [AList.lookup_insert_ne hid] at ha
      exact .inl ⟨a, ha, htask, hactive⟩

end Frames

end Pactline
