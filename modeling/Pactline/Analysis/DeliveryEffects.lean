import Pactline.Analysis.WorkflowEffects

/-!
# The other commands on one Task refine its steps

Criteria, checks, code changes, progress and archiving: like the workflow commands they run under
the lock of one Task, and a committed run of them is one step of `TaskStep`.
-/

set_option autoImplicit false

namespace Pactline

open ReadCommitted Owned

variable {u : Unit} {call : ClaimCall}

variable {v : Nat} {t : TaskId} {actor : OperationActor} {clock : Nat → Time} {criterionId : Id}
  {x : AcceptanceCriterion × Nat} {fresh : Nat → Id}

/-! ## Single statements -/

section Statements

variable {R : Rely Db Row} {c : Cell Db TaskRecord} {held held' : List (Lock Row)} {d : Db}
  {r r' : TaskRecord}

@[simp] theorem runs_incrementTaskVersion {version} :
    (incrementTaskVersion v).Runs R c held d r version held' r' ↔
      r.row.version = v ∧ version = v + 1 ∧ held' = held ∧ r' = r.bump := by
  simp only [incrementTaskVersion, rules, peel]
  constructor
  · rintro ⟨rfl, hversion, hheld, rfl⟩
    exact ⟨rfl, hversion, hheld, rfl⟩
  · rintro ⟨rfl, hversion, hheld, rfl⟩
    exact ⟨rfl, hversion, hheld, rfl⟩

@[simp] theorem runs_auditCriterion {entityType entityId action ownerAction} :
    (auditCriterion t actor entityType entityId action ownerAction clock).Runs R c held d r u held'
        r' ↔
      (⟨clock 0, actor, entityType, entityId, action⟩ : BusinessAuditEvent).validate = .ok () ∧
        (⟨clock 1, actor, "task", t, ownerAction⟩ : BusinessAuditEvent).validate = .ok () ∧
        held' = held ∧
        r' = (r.addAudit ⟨clock 0, actor, entityType, entityId, action⟩).addAudit
          ⟨clock 1, actor, "task", t, ownerAction⟩ := by
  simp [auditCriterion, and_assoc, Unique.exists_iff]

theorem lockCriterion_runs (h : (lockCriterion criterionId v).Runs R c held d r x held' r') :
    x.1 ∈ r.activeCriteria ∧ x.1.id = criterionId ∧ x.1.version = v ∧ x.2 = r.row.version ∧
      r' = r := by
  simp only [lockCriterion, rules, peel] at h
  obtain ⟨criterion, _, _, hlock, hversion, rfl, -, rfl⟩ := h
  obtain ⟨hmem, hid, rfl⟩ := lockTaskAcceptanceCriterion_runs hlock
  exact ⟨hmem, hid, hversion, rfl, rfl⟩

theorem lockActiveProjectRepository_runs {repositoryId projectId repository}
    (h : (lockActiveProjectRepository repositoryId projectId).Runs R c held d r repository held'
      r') : r' = r := by
  simp only [lockActiveProjectRepository, rules, peel] at h
  obtain ⟨_, -, _, -, -, -, -, -, -, rfl⟩ := h
  rfl

@[simp] theorem runs_requireClaimedExecution {main claim message} {r₀ : TaskRecord} :
    (requireClaimedExecution (r₀.asWorkflowTask t main) claim message).Runs R c held d r u held'
        r' ↔ r₀.ClaimedExecution claim ∧ held' = held ∧ r' = r := by
  simp only [requireClaimedExecution, runs_require]
  refine and_congr_left fun _ => ⟨?_, ?_⟩
  · rintro ⟨harchived, hphase, hactivity, hstage⟩
    exact ⟨harchived, hphase, hactivity, hstage⟩
  · rintro ⟨harchived, hphase, hactivity, hstage⟩
    exact ⟨harchived, hphase, hactivity, hstage⟩

end Statements

/-! ## Criteria and checks -/

section Commands

variable {R : Rely Db Row} (hR : Isolates R) {held : List (Lock Row)} {d d' : Db}

include hR

theorem createTaskCriterion_refines {criterion}
    (h : (createTaskCriterion t v criterion actor clock fresh).Commits R [] d x held d') :
    Refines t held d d' (.createCriterion t v criterion actor clock fresh) := by
  simp only [createTaskCriterion, Txn.rules, peel] at h
  obtain ⟨-, -, h⟩ := h
  obtain ⟨r, r', hon, h⟩ := hR.commits_withTask h ⟨_, rfl⟩
  simp only [rules, runs_incrementTaskVersion, runs_auditCriterion, peel] at h
  obtain ⟨hversion, hid, -, -, -, -, -, rfl⟩ := h
  exact ⟨_, _, hon, .createCriterion hversion hid⟩

/-- The commands that find the owner of a criterion first and lock it then. -/
theorem commits_withCriterion {α : Type} {body : TaskId → TaskTx α} {a : α}
    (h : (withCriterion criterionId body).Commits R [] d a held d')
    (hbody : ∀ t, ∃ k, body t = .own k) :
    ∃ t r r', OnTask t held d d' r r' ∧
      (body t).Runs R (taskCell t) [⟨.task t, .update⟩] d r a held r' := by
  simp only [withCriterion, Txn.rules, peel] at h
  obtain ⟨_, -, t, -, h⟩ := h
  exact ⟨t, hR.commits_withTask h (hbody t)⟩

theorem updateCriterion_refines {text instructions position}
    (h : (updateCriterion criterionId v text instructions position actor clock).Commits R [] d x
      held d') :
    ∃ t, Refines t held d d'
      (.updateCriterion criterionId v text instructions position actor clock) := by
  simp only [updateCriterion, Txn.rules, peel] at h
  obtain ⟨t, r, r', hon, h⟩ := commits_withCriterion hR h.2 fun _ => ⟨_, rfl⟩
  simp only [rules, Prod.exists, runs_incrementTaskVersion, runs_auditCriterion, peel] at h
  obtain ⟨current, taskVersion, _, _, hlock, -, -, -, -, -, -, rfl⟩ := h
  obtain ⟨hmem, hid, hversion, -, rfl⟩ := lockCriterion_runs hlock
  exact ⟨t, _, _, hon, .updateCriterion hmem hid hversion rfl⟩

theorem addCheck_refines {check x}
    (h : (addCheck criterionId v check actor clock fresh).Commits R [] d x held d') :
    ∃ t, Refines t held d d' (.addCheck criterionId v check actor clock fresh) := by
  simp only [addCheck, Txn.rules, peel] at h
  obtain ⟨t, r, r', hon, h⟩ := commits_withCriterion hR h.2 fun _ => ⟨_, rfl⟩
  simp only [rules, Prod.exists, runs_incrementTaskVersion, runs_auditCriterion, peel] at h
  obtain ⟨criterion, taskVersion, _, _, hlock, -, hfresh, -, -, -, -, -, rfl⟩ := h
  obtain ⟨hmem, hid, hversion, -, rfl⟩ := lockCriterion_runs hlock
  exact ⟨t, _, _, hon, .addCheck hmem hid hversion hfresh rfl rfl⟩

theorem removeCriterion_refines {x}
    (h : (removeCriterion criterionId v actor clock).Commits R [] d x held d') :
    ∃ t, Refines t held d d' (.removeCriterion criterionId v actor clock) := by
  simp only [removeCriterion, Txn.rules, peel] at h
  obtain ⟨t, r, r', hon, h⟩ := commits_withCriterion hR h.2 fun _ => ⟨_, rfl⟩
  simp only [rules, Prod.exists, runs_ite, runs_incrementTaskVersion,
    runs_auditCriterion, peel] at h
  obtain ⟨criterion, taskVersion, _, _, hlock, h⟩ := h
  obtain ⟨hmem, hid, hversion, -, rfl⟩ := lockCriterion_runs hlock
  rcases h with ⟨hcount, -, -, -, -, -, rfl⟩ | ⟨hcount, -, -, -, -, -, rfl⟩
  · refine ⟨t, _, _, hon, .deleteCriterion hmem hid hversion ?_⟩
    intro x hx heq
    have hnone := List.filter_eq_nil_iff.mp (List.eq_nil_of_length_eq_zero hcount)
    exact hnone x hx (decide_eq_true heq)
  · refine ⟨t, _, _, hon, .archiveCriterion hmem hid hversion ?_⟩
    obtain ⟨x, hx⟩ := List.exists_mem_of_length_pos (Nat.pos_of_ne_zero hcount)
    obtain ⟨hx, heq⟩ := List.mem_filter.mp hx
    exact ⟨x, hx, of_decide_eq_true heq⟩

/-! ## Code changes, progress and archiving -/

theorem linkCodeChange_refines {projectRepositoryId codeChange x}
    (h : (linkCodeChange call projectRepositoryId codeChange).Commits R [] d x held d') :
    Refines call.taskNumber held d d' (.link call projectRepositoryId codeChange) := by
  simp only [linkCodeChange, Txn.rules, peel] at h
  obtain ⟨-, -, result, _, d₁, h, -, rfl, rfl⟩ := h
  obtain ⟨r, r', hon, h⟩ := hR.commits_withTask h ⟨_, rfl⟩
  simp only [linkUnderLock, rules, Prod.exists, runs_persistWorkflowTask,
    runs_insertBusinessAudit, peel] at h
  obtain ⟨task, claim, _, _, hlock, h⟩ := h
  obtain ⟨main, claim, howns, heq, rfl⟩ := lockOwnedWorkflowClaim_runs hlock
  cases heq
  simp only [runs_requireClaimedExecution, peel] at h
  obtain ⟨hexecution, repository, _, _, hrepository, -, -, hid, -, -, -, -, -, -, rfl⟩ := h
  cases lockActiveProjectRepository_runs hrepository
  -- The observation is in a table of its own, which `OnTask` does not speak of.
  exact ⟨_, _, ⟨hon.locked, hon.before, hon.after, hon.other, hon.aside.trans ⟨rfl, rfl, rfl⟩⟩,
    .link howns hexecution hid⟩

theorem unlinkCodeChange_refines {linkId x}
    (h : (unlinkCodeChange call linkId).Commits R [] d x held d') :
    Refines call.taskNumber held d d' (.unlink call linkId) := by
  unfold unlinkCodeChange at h
  obtain ⟨r, r', hon, h⟩ := hR.commits_withTask h ⟨_, rfl⟩
  simp only [rules, Prod.exists, runs_persistWorkflowTask, runs_insertBusinessAudit, peel] at h
  obtain ⟨task, claim, _, _, hlock, h⟩ := h
  obtain ⟨main, claim, howns, heq, rfl⟩ := lockOwnedWorkflowClaim_runs hlock
  cases heq
  simp only [runs_requireClaimedExecution, peel] at h
  obtain ⟨hexecution, link, hfind, hactive, -, -, -, -, -, rfl⟩ := h
  have hmatch := List.find?_some hfind
  obtain rfl : link.id = linkId := of_decide_eq_true hmatch
  exact ⟨_, _, hon, .unlink howns hexecution (List.mem_of_find?_eq_some hfind) rfl hactive⟩

theorem recordClaimProgress_refines {claimId body actor operation now x}
    (h : (recordClaimProgress t claimId body actor operation now fresh).Commits R [] d x held d') :
    Refines t held d d' (.recordClaimProgress t claimId body actor operation now fresh) := by
  unfold recordClaimProgress at h
  obtain ⟨r, r', hon, h⟩ := hR.commits_withTask h ⟨_, rfl⟩
  simp only [rules, workflow_rules, peel] at h
  obtain ⟨task, hscan, claim, hactive, hid, hactor, hactivity, -, -, -, -, -, rfl⟩ := h
  obtain ⟨main, hmain, -, rfl⟩ := scanWorkflowTask_ok hscan
  exact ⟨_, _, hon,
    .recordClaimProgress hmain hactive hid (validateClaimActor_ok hactor) hactivity⟩

theorem setArchived_refines {v archived row}
    (h : (setArchived t v archived actor clock).Commits R [] d row held d') :
    Refines t held d d' (.setArchived t v archived actor clock) := by
  simp only [setArchived, Txn.rules, peel] at h
  obtain ⟨r, r', hon, h⟩ := hR.commits_withTask h.2 ⟨_, rfl⟩
  simp only [rules, runs_ite, runs_insertBusinessAudit, peel] at h
  obtain ⟨hversion, hidle, h⟩ := h
  have hidle' : archived = true → r.row.archivedAt = none →
      r.row.lifecycle.activity ≠ .working ∧ r.row.lifecycle.activity ≠ .needsResolution :=
    fun h₁ h₂ => ⟨fun hw => hidle ⟨h₁, h₂, Or.inl hw⟩, fun hn => hidle ⟨h₁, h₂, Or.inr hn⟩⟩
  rcases h with ⟨hchanged, -, -, -, rfl⟩ | ⟨hsame, -, -, rfl⟩
  · exact ⟨_, _, hon, .setArchived hversion hidle' (by rw [if_pos hchanged])⟩
  · exact ⟨_, _, hon, .setArchived hversion hidle' (by rw [if_neg hsame])⟩

end Commands

end Pactline
