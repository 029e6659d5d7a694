import Pactline.Analysis.DependencyGraph
import Pactline.Concurrency.Alone

/-!
# What an update is refused for

An update makes many checks before it comes to the dependencies, and some after. None of the others
answers that there is a cycle; so an update that is refused for a cycle names a dependency from
which the Task is reached (`LeadsBack`), in the graph as it is when the question is asked.
-/

set_option autoImplicit false

namespace Pactline

open ReadCommitted Txn

variable {p : TaskId} {seen : List TaskId} {status : TaskStatus}

variable {ids : List TaskId} {e : DomainError} {actor : OperationActor} {patch : TaskPatch}
  {row old : TaskRow} {now : Time}

/-- The errors of the check and of the trigger for a cycle. -/
def DomainError.RejectsCycle (e : DomainError) : Prop :=
  e = .conflict "task dependency cycle is not allowed" ∨
    e = .constraint "task dependency cycle is not allowed"
deriving Decidable

variable {d : Db} {t : TaskId} {projectId : Id} {parentId : Option TaskId}

/-- An error that is not about a cycle. -/
def DomainError.Other (e : DomainError) : Prop := ¬ e.RejectsCycle
deriving Decidable

theorem shareTask_errors : (shareTask p).Errors DomainError.Other := by
  refine .bind trivial fun _ => .bind errors_query fun _ => ?_
  exact errors_demand (by decide)

/-- An error for a cycle tells that a new dependency leads back to the Task. -/
def LeadsBack (d : Db) (t : TaskId) (ids : List TaskId) (e : DomainError) : Prop :=
  e.RejectsCycle → ∃ p ∈ ids, t ∈ d.reachable p

theorem leadsBack_of_other (he : e.Other) : LeadsBack d t ids e :=
  fun hcycle => absurd hcycle he

/-- The check of one dependency asks about a cycle at its end. -/
theorem validateDependency_errors :
    (validateDependency t projectId parentId seen p).ErrorsOn (LeadsBack d t [p]) d := by
  unfold validateDependency
  refine .require_bind (fun _ => leadsBack_of_other (by decide)) fun _ => ?_
  refine .require_bind (fun _ => leadsBack_of_other (by decide)) fun _ => ?_
  refine .bind (shareTask_errors.on fun _ => leadsBack_of_other) fun dependency d' hshare => ?_
  obtain ⟨_, hrun⟩ := commits_under (rely True) [] hshare
  obtain ⟨-, rfl, -⟩ := shareTask_commits (isolates_rely True) hrun
  refine .require_bind (fun _ => leadsBack_of_other (by decide)) fun _ => ?_
  refine .require_bind (fun _ => leadsBack_of_other (by decide)) fun _ => ?_
  refine .require_bind (fun _ => leadsBack_of_other (by decide)) fun _ => ?_
  refine .query_bind ?_
  intro e he _
  rw [exec_require] at he
  split at he
  · cases he
  · simp_all

theorem LeadsBack.mono {ids'} (h : LeadsBack d t ids e) (hle : ids ⊆ ids') :
    LeadsBack d t ids' e := by
  intro hcycle
  obtain ⟨p, hp, hreach⟩ := h hcycle
  exact ⟨p, hle hp, hreach⟩

theorem validateDependencyAssignments_errors :
    (validateDependencyAssignments t projectId parentId seen ids).ErrorsOn
      (LeadsBack d t ids) d := by
  induction ids generalizing seen with
  | nil =>
    intro e he
    cases he
  | cons p rest ih =>
    unfold validateDependencyAssignments
    refine .bind ?_ fun u d' hfirst => ?_
    · intro e he
      exact (validateDependency_errors e he).mono (by simp)
    · obtain ⟨_, hrun⟩ := commits_under (rely True) [] hfirst
      obtain ⟨-, rfl, -⟩ := validateDependency_commits (isolates_rely True) hrun
      intro e he
      exact (ih e he).mono (List.subset_cons_self p rest)

theorem validateTaskDependencies_errors :
    (validateTaskDependencies t ids).ErrorsOn (LeadsBack d t ids) d := by
  induction ids with
  | nil =>
    intro e he
    cases he
  | cons p rest ih =>
    unfold validateTaskDependencies
    refine .bind ?_ fun u d' hfirst => ?_
    · unfold validateTaskDependency
      refine .query_bind (.query_bind ?_)
      refine .require_bind (fun _ => leadsBack_of_other (by decide)) fun _ => ?_
      refine .require_bind (fun _ => leadsBack_of_other (by decide)) fun _ => ?_
      refine .query_bind ?_
      intro e he _
      rw [exec_require] at he
      split at he
      · cases he
      · exact ⟨p, List.mem_cons_self, by simp_all⟩
    · have hnil : (validateTaskDependencies t [p]).exec d = .ok ((), d') := by
        unfold validateTaskDependencies
        rw [exec_bind_ok hfirst]
        rfl
      obtain ⟨_, hrun⟩ := commits_under (rely True) [] hnil
      obtain ⟨-, rfl, -⟩ := validateTaskDependencies_commits hrun
      intro e he
      exact (ih e he).mono (List.subset_cons_self p rest)

theorem actor_errors (h : actor.validate = .error e) : e.Other := by
  unfold OperationActor.validate at h
  split at h
  · cases h
    decide
  · split at h <;> split at h <;> cases h <;> decide

theorem audit_errors {event : BusinessAuditEvent} (h : event.validate = .error e) : e.Other := by
  simp only [BusinessAuditEvent.validate, ok_rules, bind_eq_error, guard_eq_error]
    at h
  rcases h with h | ⟨_, -, ⟨-, rfl⟩ | ⟨-, ⟨-, rfl⟩ | ⟨-, h⟩⟩⟩
  · exact actor_errors h
  · decide
  · decide
  · cases h

theorem validateSchedule_errors {startDate dueDate}
    (h : validateSchedule startDate dueDate = .error e) : e.Other := by
  unfold validateSchedule at h
  split at h
  · split at h
    · cases h
      decide
    · cases h
  · cases h

theorem applyFields_errors (h : patch.applyFields row = .error e) : e.Other := by
  simp only [TaskPatch.applyFields, ok_rules, guard_eq_error, pure_eq_error] at h
  rcases h with ⟨-, rfl⟩ | ⟨-, ⟨-, rfl⟩ | ⟨-, ⟨-, rfl⟩ | ⟨-, h⟩⟩⟩
  · decide
  · decide
  · decide
  · exact h.elim

theorem patchedRow_errors : (patchedRow t patch old).Errors DomainError.Other := by
  have hshift : ∀ row, (shiftSchedule t patch row).Errors DomainError.Other := by
    intro row
    unfold shiftSchedule
    split
    · trivial
    · refine .bind (errors_require (by decide)) fun _ => ?_
      refine .bind (errors_require (by decide)) fun _ => ?_
      refine errors_ite trivial (.bind errors_query fun _ => ?_)
      exact .bind (errors_require (by decide)) fun _ => trivial
  unfold patchedRow
  refine .bind (errors_liftM fun _ => applyFields_errors) fun row => ?_
  refine .bind (hshift row) fun row => ?_
  refine .bind (errors_require (by decide)) fun _ => ?_
  refine .bind (errors_require (by decide)) fun _ => ?_
  refine .bind (errors_liftM fun _ => validateSchedule_errors) fun _ => ?_
  exact .bind (errors_require (by decide)) fun _ => trivial

theorem validateParentAssignment_errors {parentId milestoneId} :
    (validateParentAssignment t parentId projectId milestoneId status).Errors
      DomainError.Other := by
  cases parentId with
  | none => trivial
  | some p =>
    refine .bind (errors_require (by decide)) fun _ => ?_
    refine .bind shareTask_errors fun parent => ?_
    refine .bind (errors_require (by decide)) fun _ => ?_
    refine .bind (errors_require (by decide)) fun _ => ?_
    refine .bind (errors_require (by decide)) fun _ => ?_
    refine .bind errors_query fun _ => ?_
    refine .bind (errors_require (by decide)) fun _ => ?_
    refine .bind (errors_require (by decide)) fun _ => ?_
    exact .bind errors_query fun _ => errors_require (by decide)

theorem validateCompletion_errors {readiness}
    (h : validateCompletion readiness = .error e) : e.Other := by
  simp only [validateCompletion, TaskCompletionReadiness.validateAcceptance, ok_rules,
    bind_eq_error, guard_eq_error] at h
  rcases h with (⟨-, rfl⟩ | ⟨-, h⟩) | ⟨_, -, ⟨-, rfl⟩ | ⟨-, ⟨-, rfl⟩ | ⟨-, h⟩⟩⟩
  · decide
  · cases h
  · decide
  · decide
  · cases h

theorem validateReadyDependencies_errors {phase} :
    (validateReadyDependencies phase ids).Errors DomainError.Other := by
  refine errors_ite (.bind errors_query fun _ => ?_) trivial
  exact errors_require (by decide)

theorem updateCompletedAt_errors {old} :
    (updateCompletedAt t patch old status now).Errors DomainError.Other := by
  refine errors_ite (.bind errors_query fun _ => ?_) (errors_ite trivial trivial)
  refine .bind (errors_demand (by decide)) fun _ => ?_
  exact .bind (errors_liftM fun _ => validateCompletion_errors) fun _ => trivial

theorem lockChildren_errors {wanted} :
    (lockChildren t wanted).Errors DomainError.Other := by
  refine .bind errors_query fun _ => .bind errors_acquireAll fun _ => ?_
  exact errors_query

theorem updateChildren_errors {change action children} :
    (updateChildren change action actor now children).Errors DomainError.Other := by
  induction children with
  | nil => trivial
  | cons child rest ih =>
    refine .bind trivial fun _ => .bind (errors_liftM fun _ => audit_errors) fun _ => ?_
    exact .bind trivial fun _ => ih

theorem moveWithParent_errors : (moveWithParent t old row actor now).Errors DomainError.Other := by
  refine errors_ite (.bind lockChildren_errors fun children => ?_) trivial
  refine .bind ?_ fun _ => .bind updateChildren_errors fun _ => trivial
  refine errors_ite (.bind errors_query fun _ => ?_) trivial
  exact errors_require (by decide)

theorem shiftWithParent_errors :
    (shiftWithParent t patch old actor now).Errors DomainError.Other := by
  unfold shiftWithParent
  split
  · refine errors_ite (.bind lockChildren_errors fun children => ?_) trivial
    exact updateChildren_errors
  · trivial

theorem updateLabels_errors : (updateLabels t patch).Errors DomainError.Other := by
  unfold updateLabels
  split <;> trivial

theorem validateTaskRelationships_errors :
    (validateTaskRelationships t row).Errors DomainError.Other := by
  unfold validateTaskRelationships
  cases row.parentTaskId with
  | none =>
    refine .bind errors_query fun _ => .bind (errors_require (by decide)) fun _ => ?_
    refine .bind errors_query fun _ => .bind (errors_require (by decide)) fun _ => ?_
    trivial
  | some p =>
    refine .bind errors_query fun _ => .bind (errors_demand (by decide)) fun _ => ?_
    refine .bind (errors_require (by decide)) fun _ => ?_
    refine .bind errors_query fun _ => .bind (errors_require (by decide)) fun _ => ?_
    refine .bind (errors_require (by decide)) fun _ => ?_
    refine .bind errors_query fun _ => .bind (errors_require (by decide)) fun _ => ?_
    exact .bind errors_query fun _ => errors_require (by decide)

theorem validateChildRelationships_errors :
    (validateChildRelationships ids).Errors DomainError.Other := by
  induction ids with
  | nil => trivial
  | cons c rest ih =>
    refine .bind errors_query fun _ => .bind (errors_demand (by decide)) fun _ => ?_
    exact .bind validateTaskRelationships_errors fun _ => ih

theorem LeadsBack.congr {d' : Db} (h : LeadsBack d' t ids e)
    (hsame : ∀ x, d'.dependencies x = d.dependencies x) : LeadsBack d t ids e := by
  have hgraph : d'.DependsOn = d.DependsOn := by
    funext x y
    unfold Db.DependsOn
    rw [hsame x]
  intro hcycle
  obtain ⟨p, hp, hreach⟩ := h hcycle
  refine ⟨p, hp, ?_⟩
  rw [Db.mem_reachable] at hreach ⊢
  rwa [← hgraph]

/-- The statements after the dependencies are replaced: those before the trigger leave the graph
alone. -/
theorem storeUpdate_errors {clock task} (ht : d.task t = some task)
    (hne : row.parentTaskId ≠ some t) :
    (storeUpdate t patch old row actor clock).ErrorsOn
      (LeadsBack d t (patch.dependencyIds.getD [])) d := by
  unfold storeUpdate
  refine .modify_bind (.bind (moveWithParent_errors.on fun _ => leadsBack_of_other) ?_)
  intro moved d₁ hmove
  refine .bind (shiftWithParent_errors.on fun _ => leadsBack_of_other) fun _ d₂ hshift => ?_
  refine .bind (updateLabels_errors.on fun _ => leadsBack_of_other) fun _ d₃ hlabels => ?_
  refine .liftM_bind (fun _ he => leadsBack_of_other (audit_errors he)) fun _ _ => .modify_bind ?_
  have hgraph : ∀ x, (Db.modifyTask t (·.addAudit ⟨clock 3, actor, "task", t, "updated"⟩)
      d₃).dependencies x = d.dependencies x := by
    obtain ⟨_, hmove⟩ := commits_under (rely True) [⟨.task t, .update⟩] hmove
    obtain ⟨_, hshift⟩ := commits_of_exec (R := rely True) hshift
    obtain ⟨_, hlabels⟩ := commits_under (rely True) [] hlabels
    obtain ⟨-, hon, -, -⟩ := childrenFollow (isolates_rely True) List.mem_cons_self hmove hshift
    obtain ⟨-, hmod⟩ := updateLabels_commits hlabels
    intro x
    unfold Db.dependencies
    by_cases hx : x = t
    · subst hx
      have hself := hon.self (by rw [Db.task_modifyTask_self, ht]; rfl) hne
      rw [Db.task_modifyTask_self, hmod.self, hself, ht]
      rfl
    · rw [Db.task_modifyTask, if_neg hx, hmod.other x hx]
      have hbefore : (d.modifyTask t (·.setRow row)).task x = d.task x := by
        rw [Db.task_modifyTask, if_neg hx]
      rcases hon.tasks x with heq | ⟨r, r', -, hr, -, hr', hfollows⟩
      · rw [heq, hbefore]
      · rw [hbefore] at hr
        rw [hr', hr, Option.map_some, Option.map_some, hfollows.dependencies]
  refine .bind (fun e he => (validateTaskDependencies_errors e he).congr hgraph) fun _ _ _ => ?_
  refine .bind (validateTaskRelationships_errors.on fun _ => leadsBack_of_other) fun _ _ _ => ?_
  refine .bind (validateChildRelationships_errors.on fun _ => leadsBack_of_other) fun _ _ _ => ?_
  exact errors_pure.on fun _ => leadsBack_of_other

theorem updateDependencies_errors {old} :
    (updateDependencies t patch old row).ErrorsOn
      (LeadsBack d t (patch.dependencyIds.getD [])) d := by
  unfold updateDependencies
  cases patch.dependencyIds with
  | none => exact errors_pure.on fun _ => leadsBack_of_other
  | some ids =>
    refine .bind validateDependencyAssignments_errors fun _ _ _ => ?_
    refine .bind (validateReadyDependencies_errors.on fun _ => leadsBack_of_other) fun _ _ _ => ?_
    exact Txn.Errors.on (p := DomainError.Other) trivial fun _ => leadsBack_of_other

end Pactline
