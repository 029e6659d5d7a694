import Pactline.Analysis.Steps

/-!
# The writes of the programs are guarded

Every write of every program is made under a lock that protects it. For the commands on one Task
that is a property of their type (`Isolates.guarded_withTask`); the programs that write several
Tasks are gone through here.
-/

set_option autoImplicit false

namespace Pactline

open ReadCommitted Txn List

/-! ## Programs that write nothing -/

section ReadOnly

/-- The checks of a parent write nothing. -/
theorem readOnly_validateParentAssignment {t parentId projectId milestoneId status} :
    (validateParentAssignment t parentId projectId milestoneId status).ReadOnly fun _ => True := by
  cases parentId with
  | none => trivial
  | some p => simp [validateParentAssignment, validateParent, shareTask]

/-- The checks of dependencies write nothing. -/
theorem readOnly_validateDependencyAssignments {t projectId parentId seen ids} :
    (validateDependencyAssignments t projectId parentId seen ids).ReadOnly fun _ => True := by
  induction ids generalizing seen with
  | nil => trivial
  | cons p rest ih => simp [validateDependencyAssignments, validateDependency, shareTask, ih]

/-- The check of the first status writes nothing. -/
theorem readOnly_validateCreatedStatus {status ids} :
    (validateCreatedStatus status ids).ReadOnly fun _ => True := by
  simp [validateCreatedStatus, countUnfinishedTasks]

/-- The look at the dependencies of a ready Task writes nothing. -/
theorem readOnly_validateReadyDependencies {phase ids} :
    (validateReadyDependencies phase ids).ReadOnly fun _ => True := by
  simp [validateReadyDependencies, countUnfinishedTasks]

/-- The trigger on a row writes nothing. -/
theorem readOnly_validateTaskRelationships {t row} :
    (validateTaskRelationships t row).ReadOnly fun _ => True := by
  unfold validateTaskRelationships
  cases row.parentTaskId <;> simp

/-- The trigger on dependencies writes nothing. -/
theorem readOnly_validateTaskDependencies {t ids} :
    (validateTaskDependencies t ids).ReadOnly fun _ => True := by
  induction ids with
  | nil => trivial
  | cons p rest ih => simp [validateTaskDependencies, validateTaskDependency, ih]

/-- The trigger on the children writes nothing. -/
theorem readOnly_validateChildRelationships {ids} :
    (validateChildRelationships ids).ReadOnly fun _ => True := by
  induction ids with
  | nil => trivial
  | cons c rest ih =>
    have hrow : ∀ row, (validateTaskRelationships c row).ReadOnly
        fun _ => (validateChildRelationships rest).ReadOnly fun _ => True := by
      intro row
      simpa only [ih] using readOnly_validateTaskRelationships
    simp [validateChildRelationships, hrow]

/-- The row of an update is made without a write. -/
theorem readOnly_patchedRow {t patch old} :
    (patchedRow t patch old).ReadOnly fun _ => True := by
  unfold patchedRow shiftSchedule
  cases patch.scheduleShiftDays <;> simp

/-- So is its time of completion. -/
theorem readOnly_updateCompletedAt {t patch old status now} :
    (updateCompletedAt t patch old status now).ReadOnly fun _ => True := by
  simp [updateCompletedAt]

/-- The checks of a move with children write nothing. -/
theorem readOnly_validateGroupMove {t projectId children} :
    (validateGroupMove t projectId children).ReadOnly fun _ => True := by
  simp [validateGroupMove]

end ReadOnly

/-! ## Programs that write several Tasks -/

section Guarded

variable {R : Rely Db Row} (hR : Isolates R) {held : List (Lock Row)}

include hR

/-- A new Task is written under its own lock. -/
theorem guarded_createTask {t draft labelIds dependencyIds actor mainThreadId clock} :
    (createTask t draft labelIds dependencyIds actor mainThreadId clock).Guarded R held
      fun _ _ => True := by
  unfold createTask
  rw [guarded_bind, guarded_liftM]
  intro _ _
  -- The checks only read; from the insert on, every write is to the new row.
  refine Txn.Guarded.bind readOnly_validateParentAssignment.guarded fun _ _ _ _ => ?_
  refine Txn.Guarded.bind readOnly_validateDependencyAssignments.guarded fun _ _ _ _ => ?_
  refine Txn.Guarded.bind readOnly_validateCreatedStatus.guarded fun _ ls _ _ => ?_
  have hl : ⟨.task t, .update⟩ ∈ (⟨.task t, .update⟩ :: ls : List (Lock Row)) :=
    mem_cons_self
  simp only [guarded_bind, guarded_acquire, guarded_query, guarded_require,
    guarded_modify, guarded_liftM]
  intro _ _
  refine ⟨hR.safe_setTask t _, hR.safe_modifyTask hl _, hR.safe_modifyTask hl _, fun _ _ =>
    ⟨hR.safe_modifyTask hl _, ?_⟩⟩
  refine readOnly_validateTaskRelationships.guarded.mono fun _ _ _ _ => ?_
  exact readOnly_validateTaskDependencies.guarded.mono fun _ _ _ _ => trivial

/-! ### Children -/

omit hR in
/-- The children that are given back are locked. -/
theorem guarded_lockChildren {t wanted} :
    (lockChildren t wanted).Guarded R held fun children ls =>
      ∀ c ∈ children, ⟨.task c.1, .update⟩ ∈ ls := by
  simp only [lockChildren, guarded_bind, guarded_query, guarded_acquireAll]
  intro d₀ d₁ c hc
  obtain ⟨c', hc', hfind⟩ := mem_filterMap.mp hc
  obtain ⟨r, -, hcond⟩ := Option.bind_eq_some_iff.mp hfind
  rw [Option.ite_none_right_eq_some, Option.some.injEq] at hcond
  rw [← hcond.2, mem_append, mem_reverse, mem_map]
  exact .inl ⟨.task c', mem_map_of_mem hc', rfl⟩

/-- The children are written under their locks. -/
theorem guarded_updateChildren {change action actor now children}
    (hl : ∀ c ∈ children, ⟨.task c.1, .update⟩ ∈ held) :
    (updateChildren change action actor now children).Guarded R held fun _ _ => True := by
  induction children with
  | nil => trivial
  | cons child rest ih =>
    obtain ⟨c, r⟩ := child
    have hc : ⟨.task c, .update⟩ ∈ held := hl (c, r) mem_cons_self
    simp only [updateChildren, guarded_bind, guarded_modify, guarded_liftM]
    refine ⟨hR.safe_modifyTask hc _, fun _ _ => ⟨hR.safe_modifyTask hc _, ?_⟩⟩
    exact ih fun c' hc' => hl c' (mem_cons_of_mem _ hc')

/-- They are locked before they are moved. -/
theorem guarded_moveWithParent {t old row actor now} :
    (moveWithParent t old row actor now).Guarded R held fun _ _ => True := by
  unfold moveWithParent
  rw [guarded_ite]
  refine ⟨fun _ => ?_, fun _ => trivial⟩
  unfold moveTaskChildren
  refine Txn.Guarded.bind guarded_lockChildren fun children _ _ hl => ?_
  refine Txn.Guarded.bind readOnly_validateGroupMove.guarded fun _ _ hle _ => ?_
  refine Txn.Guarded.bind (guarded_updateChildren hR fun c hc => hle (hl c hc))
    fun _ _ _ _ => trivial

/-- They are locked before they are shifted. -/
theorem guarded_shiftWithParent {t patch old actor now} :
    (shiftWithParent t patch old actor now).Guarded R held fun _ _ => True := by
  unfold shiftWithParent
  cases patch.scheduleShiftDays with
  | none => trivial
  | some days =>
    simp only [guarded_ite]
    refine ⟨fun _ => ?_, fun _ => trivial⟩
    unfold shiftTaskChildrenSchedules
    refine Txn.Guarded.bind guarded_lockChildren fun children _ _ hl => ?_
    exact guarded_updateChildren hR hl

/-! ### Updates -/

/-- Labels are written under the lock of the Task. -/
theorem guarded_updateLabels {t patch} (hl : ⟨.task t, .update⟩ ∈ held) :
    (updateLabels t patch).Guarded R held fun _ _ => True := by
  unfold updateLabels
  cases patch.labelIds with
  | none => trivial
  | some ids => exact ⟨hR.safe_modifyTask hl _, trivial⟩

/-- So are dependencies. -/
theorem guarded_updateDependencies {t patch old row} (hl : ⟨.task t, .update⟩ ∈ held) :
    (updateDependencies t patch old row).Guarded R held fun _ _ => True := by
  unfold updateDependencies
  cases patch.dependencyIds with
  | none => trivial
  | some ids =>
    refine Txn.Guarded.bind readOnly_validateDependencyAssignments.guarded
      fun _ _ hle₁ _ => ?_
    refine Txn.Guarded.bind readOnly_validateReadyDependencies.guarded
      fun _ _ hle₂ _ => ?_
    exact ⟨hR.safe_modifyTask (hle₂ (hle₁ hl)) _, trivial⟩

/-- So is the row, and then its children under theirs. -/
theorem guarded_storeUpdate {t patch old row actor clock} (hl : ⟨.task t, .update⟩ ∈ held) :
    (storeUpdate t patch old row actor clock).Guarded R held fun _ _ => True := by
  unfold storeUpdate
  rw [guarded_bind, guarded_modify]
  refine ⟨hR.safe_modifyTask hl _, ?_⟩
  refine Txn.Guarded.bind (guarded_moveWithParent hR) fun _ _ hle₁ _ => ?_
  refine Txn.Guarded.bind (guarded_shiftWithParent hR) fun _ _ hle₂ _ => ?_
  have hl₂ := hle₂ (hle₁ hl)
  refine Txn.Guarded.bind (guarded_updateLabels hR hl₂) fun _ _ hle₃ _ => ?_
  simp only [guarded_bind, guarded_liftM, guarded_modify, guarded_pure]
  refine fun _ _ => ⟨hR.safe_modifyTask (hle₃ hl₂) _, ?_⟩
  refine readOnly_validateTaskDependencies.guarded.mono fun _ _ _ _ => ?_
  refine readOnly_validateTaskRelationships.guarded.mono fun _ _ _ _ => ?_
  exact readOnly_validateChildRelationships.guarded.mono fun _ _ _ _ => trivial

/-- An update locks the Task before all of this. -/
theorem guarded_updateTask {t expectedVersion patch actor clock} :
    (updateTask t expectedVersion patch actor clock).Guarded R held fun _ _ => True := by
  unfold updateTask
  simp only [guarded_bind, guarded_liftM, guarded_acquire, guarded_query,
    guarded_demand, guarded_require]
  intro _ _ _ old _ _
  refine readOnly_patchedRow.guarded.mono fun row _ _ hle₁ => ?_
  refine readOnly_validateParentAssignment.guarded.mono fun _ ls _ hle₂ => ?_
  rw [guarded_acquireAll]
  have hl : ⟨.task t, .update⟩ ∈ ls := hle₂ (hle₁ mem_cons_self)
  refine (guarded_updateDependencies hR (mem_append_right _ hl)).mono
    fun _ _ hle₃ _ => ?_
  refine readOnly_updateCompletedAt.guarded.mono fun _ _ _ hle₄ => ?_
  exact guarded_storeUpdate hR (hle₄ (hle₃ (mem_append_right _ hl)))

/-! ### Uploads -/

/-- A completed upload is stored under its four locks. -/
theorem guarded_storeAttachment
    {platform id session info expectedTaskVersion actor attachmentId now} :
    (storeAttachment platform id session info expectedTaskVersion actor attachmentId now).Guarded R
      held fun _ _ => True := by
  simp only [storeAttachment, guarded_bind, guarded_require, guarded_liftM, guarded_acquire,
    guarded_query, guarded_demand, guarded_modify, guarded_pure]
  have hl : ⟨.task session.taskId, .update⟩ ∈ (⟨.objectKey session.objectKey, .update⟩ ::
      ⟨.attachment attachmentId, .update⟩ :: ⟨.task session.taskId, .update⟩ :: held :
        List (Lock Row)) := mem_cons_of_mem _ (mem_cons_of_mem _ mem_cons_self)
  intro _ _ _ _ _ _ _ _ _ _ _ _ _
  exact ⟨hR.safe_attachment attachmentId _, hR.safe_upload id _, hR.safe_modifyTask hl _,
    fun _ _ => ⟨hR.safe_modifyTask hl _, trivial⟩⟩

/-- A deletion is written under the lock of the attachment. -/
theorem guarded_softDelete {taskId id expectedVersion now} :
    (softDelete taskId id expectedVersion now).Guarded R held fun _ _ => True := by
  simp only [softDelete, guarded_bind, guarded_acquire, guarded_query]
  intro d
  cases (d.attachments.lookup id).filter _ with
  | none => simp
  | some a => exact ⟨hR.safe_setAttachments _, trivial⟩

/-! ## All programs -/

/-- Every program of the system is guarded. -/
theorem guarded_prog (platform : Platform) (c : Cmd) :
    (prog platform c).Guarded R [] fun _ _ => True := by
  have htask {α : Type} (t : TaskId) (body : TaskTx α) (held : List (Lock Row)) :
      (withTask t body).Guarded R held fun _ _ => True := hR.guarded_withTask t body
  cases c with
  | create => exact Txn.Guarded.bind (guarded_createTask hR) fun _ _ _ _ => trivial
  | update => exact Txn.Guarded.bind (guarded_updateTask hR) fun _ _ _ _ => trivial
  -- The commands on one Task, which hold its lock.
  | setArchived | markReady | withdrawReadiness | claim | expireDueClaim | releaseClaim
  | recordWorkSubmission | completeExecution | requestChanges | requestResolution | resolveIssue
  | recordAcceptanceCheck | acceptTask | cancelTask | recordClaimProgress | createCriterion
  | updateCriterion | addCheck | removeCriterion | link | unlink =>
    simp [prog, setArchived, markReady, withdrawReadiness, simpleLifecycleCommand, claimTask,
      expireDueClaim, releaseClaim, finishClaim, recordWorkSubmission,
      completeExecutionWithDelivery, requestChanges, requestResolution, resolveIssue,
      recordAcceptanceCheck, acceptTask, cancelTask, recordClaimProgress, createTaskCriterion,
      updateCriterion, addCheck, removeCriterion, withCriterion, linkCodeChange, unlinkCodeChange,
      htask, hR.safe_observations]
  | updateObservation => simp [prog, updateObservation, hR.safe_observations]
  | setRepository => simp [prog, setRepository, hR.safe_repositories]
  | createUpload => simp [prog, createUploadSession, hR.safe_upload]
  | completeUpload =>
    simp [prog, completeUploadSession, hR.safe_upload, guarded_storeAttachment hR]
  | softDelete => simp [prog, guarded_softDelete hR]
  | claimCleanupBatch => simp [prog, claimCleanupBatch, hR.safe_setAttachments]
  | markCleaned => simp [prog, markCleaned, updateAttachment, hR.safe_setAttachments]
  | markCleanupFailed => simp [prog, markCleanupFailed, updateAttachment, hR.safe_setAttachments]
  | claimExpiredUploads => simp [prog, claimExpiredUploadSessions, hR.safe_setUploads]
  | putObject => simp [prog, putObject, hR.safe_putObject]
  | statObject => simp [prog, statObject]
  | openObject => simp [prog, openObject]
  | deleteObject => simp [prog, deleteObject, hR.safe_deleteObject]
  | getClaim => simp [prog, getClaim]
  | getUpload => simp [prog, getUploadSession]

end Guarded

end Pactline
