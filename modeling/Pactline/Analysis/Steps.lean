import Pactline.Analysis.AttachmentSteps

/-!
# The steps of the system

`Step` says what a commit of a command has found and what it has left. Every commit is such a step
(`step_of_commits`), whatever the rely is, as long as it respects the locks. The properties of the
system are proved from this relation alone.
-/

set_option autoImplicit false

namespace Pactline

open ReadCommitted

variable {platform : Platform} {R : Rely Db Row} {held : List (Lock Row)} {d d' : Db} {c : Cmd}

/-- What a commit of a command does. -/
inductive Step (platform : Platform) (R : Rely Db Row) (held : List (Lock Row)) (d d' : Db) :
    Cmd → Prop
  | onTask {t} {c : Cmd} {r r'} (on : OnTask t held d d' r r')
      (step : TaskStep d t c r r') (keys : ∀ id ∈ c.newClaimId, ⟨.claim id, .update⟩ ∈ held) :
      Step platform R held d d' c
  | create {t} {draft : TaskDraft} {labelIds dependencyIds actor mainThreadId clock}
      (created : Created R held d d' t draft dependencyIds
        (draft.created t labelIds dependencyIds actor mainThreadId clock)) :
      Step platform R held d d' (.create t draft labelIds dependencyIds actor mainThreadId clock)
  | update {t expectedVersion patch actor clock old r'}
      (updated : Updated R held d d' t expectedVersion patch old r') :
      Step platform R held d d' (.update t expectedVersion patch actor clock)
  | completeUpload
      {id uploaderId info expectedTaskVersion actor attachmentId now inspected session r}
      (pending : UploadPending held d id uploaderId actor session)
      (completed : UploadCompleted platform held d d' id session info expectedTaskVersion actor
        attachmentId now r) :
      Step platform R held d d'
        (.completeUpload id uploaderId info expectedTaskVersion actor attachmentId now inspected)
  | side {c : Cmd} (side : SideStep platform held d d' c) : Step platform R held d d' c

theorem Step.of_refines {t} (hkeys : c.newClaimId = none)
    (h : Refines t held d d' c) : Step platform R held d d' c := by
  obtain ⟨r, r', hon, hstep⟩ := h
  refine .onTask hon hstep fun id hid => ?_
  rw [hkeys] at hid
  cases hid

/-- Every commit is a step. -/
theorem step_of_commits (hR : Isolates R) {reply}
    (h : (prog platform c).Commits R [] d reply held d') : Step platform R held d d' c := by
  cases c <;> simp only [prog] at h <;> obtain ⟨_, -, h⟩ := Txn.commits_of_bind_pure h
  case create => exact .create (createTask_commits hR h)
  case update =>
    obtain ⟨old, r', hupdated⟩ := updateTask_commits hR h
    exact .update hupdated
  case setArchived => exact .of_refines rfl (setArchived_refines hR h)
  case markReady => exact .of_refines rfl (markReady_refines hR h)
  case withdrawReadiness => exact .of_refines rfl (withdrawReadiness_refines hR h)
  case claim =>
    obtain ⟨hkey, r, r', hon, hstep⟩ := claimTask_refines hR h
    exact .onTask hon hstep fun id hid => Option.some.inj hid ▸ hkey
  case expireDueClaim =>
    obtain ⟨r, r', hon, hstep, -⟩ := expireDueClaim_refines hR h
    exact .of_refines rfl ⟨r, r', hon, hstep⟩
  case releaseClaim => exact .of_refines rfl (releaseClaim_refines hR h)
  case recordWorkSubmission => exact .of_refines rfl (recordWorkSubmission_refines hR h)
  case completeExecution => exact .of_refines rfl (completeExecution_refines hR h)
  case requestChanges => exact .of_refines rfl (requestChanges_refines hR h)
  case requestResolution => exact .of_refines rfl (requestResolution_refines hR h)
  case resolveIssue => exact .of_refines rfl (resolveIssue_refines hR h).2
  case recordAcceptanceCheck => exact .of_refines rfl (recordAcceptanceCheck_refines hR h)
  case acceptTask => exact .of_refines rfl (acceptTask_refines hR h)
  case cancelTask =>
    obtain ⟨r, r', hon, hstep, -⟩ := cancelTask_refines hR h
    exact .of_refines rfl ⟨r, r', hon, hstep⟩
  case recordClaimProgress => exact .of_refines rfl (recordClaimProgress_refines hR h)
  case createCriterion => exact .of_refines rfl (createTaskCriterion_refines hR h)
  case updateCriterion =>
    obtain ⟨t, h⟩ := updateCriterion_refines hR h
    exact .of_refines rfl h
  case addCheck =>
    obtain ⟨t, h⟩ := addCheck_refines hR h
    exact .of_refines rfl h
  case removeCriterion =>
    obtain ⟨t, h⟩ := removeCriterion_refines hR h
    exact .of_refines rfl h
  case link => exact .of_refines rfl (linkCodeChange_refines hR h)
  case unlink => exact .of_refines rfl (unlinkCodeChange_refines hR h)
  case updateObservation =>
    obtain ⟨htasks, haside⟩ := updateObservation_commits h
    exact .side (.provide rfl htasks haside)
  case setRepository =>
    obtain ⟨htasks, haside⟩ := setRepository_commits h
    exact .side (.provide rfl htasks haside)
  case createUpload => exact .side (.startUpload (createUploadSession_commits hR h))
  case completeUpload =>
    obtain ⟨session, hpending, ⟨hlate, -, hafter⟩ | ⟨-, r, hcompleted⟩⟩ :=
      completeUploadSession_commits hR h
    · exact .side (.expireUpload hpending hlate hafter)
    · exact .completeUpload hpending hcompleted
  case softDelete => exact .side (softDelete_commits hR h)
  case claimCleanupBatch =>
    obtain ⟨hlocked, hfound, hafter⟩ := claimCleanupBatch_commits hR h
    refine .side (.rewrite rfl hlocked (fun e he => ?_) hafter)
    obtain ⟨a, ha, -, heq⟩ := hfound e he
    exact ⟨a, ha, heq ▸ ⟨rfl, fun hdeleted => hdeleted⟩⟩
  case markCleaned =>
    refine .side (updateAttachment_commits hR rfl ?_ h)
    exact fun _ => ⟨rfl, fun hdeleted => hdeleted⟩
  case markCleanupFailed =>
    obtain ⟨_, _, _, hcut, hupdate⟩ := Txn.commits_bind.mp h
    obtain ⟨-, rfl, rfl⟩ := Txn.commits_demand.mp hcut
    refine .side (updateAttachment_commits hR rfl ?_ hupdate)
    exact fun _ => ⟨rfl, fun hdeleted => hdeleted⟩
  case claimExpiredUploads =>
    obtain ⟨-, hlocked, hfound, hafter⟩ := claimExpiredUploadSessions_commits hR h
    exact .side (.claimExpired hlocked hfound hafter)
  case putObject =>
    obtain ⟨hlocked, hafter⟩ := putObject_commits h
    exact .side (.put hlocked hafter)
  case statObject => exact .side (.read rfl (statObject_commits hR h).2)
  case openObject => exact .side (.read rfl (openObject_commits hR h).2)
  case deleteObject =>
    obtain ⟨hlocked, hafter⟩ := deleteObject_commits h
    exact .side (.delete hlocked hafter)
  case getClaim => exact .side (.read rfl (getClaim_commits h).2)
  case getUpload => exact .side (.read rfl (getUploadSession_commits h).2)

end Pactline
