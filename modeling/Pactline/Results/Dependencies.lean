import Pactline.Analysis.UpdateErrors
import Pactline.Results.TaskStructure

/-!
# Replacing the dependencies of a Task

`validateDependencyAssignments` asks of every new dependency whether the Task can be reached from
it, and asks it of the graph that still has the old dependencies of the Task; the trigger asks again
for each inserted row. The two together are right: a path back to the Task need not go through the
Task itself, so that the old edges out of it do not matter.
-/

set_option autoImplicit false

namespace Pactline

open ReadCommitted Relation Txn List

variable {seen : List TaskId} {expectedVersion : Option Nat} {patch : TaskPatch}
  {actor : OperationActor} {clock : Nat → Time}

variable {p : TaskId} {dependency task : TaskRecord} {ids : List TaskId}

/-- The statements of an update that replace the dependencies: the checks, `replaceTaskDependencies`
(`task_store.go:1279-1299`), and the trigger on each inserted row. -/
def replaceDependencies (t : TaskId) (projectId : Id) (parentId : Option TaskId)
    (ids : List TaskId) : Tx Unit := do
  validateDependencyAssignments t projectId parentId [] ids
  modify (Db.modifyTask t (·.setDependencies ids))
  validateTaskDependencies t ids

/-- The graph with `ids` in place of the dependencies of `t`. -/
def Db.withDependencies (d : Db) (t : TaskId) (ids : List TaskId) : Db :=
  d.modifyTask t (·.setDependencies ids)

namespace Db

variable {d : Db} {t : TaskId} {r : TaskRecord}

theorem task_withDependencies (ht : d.task t = some r) :
    (d.withDependencies t ids).task t = some (r.setDependencies ids) := by
  unfold withDependencies
  rw [task_modifyTask_self, ht]
  rfl

theorem task_withDependencies_ne {t'} (h : t' ≠ t) :
    (d.withDependencies t ids).task t' = d.task t' := by
  unfold withDependencies
  rw [task_modifyTask, if_neg h]

theorem dependencies_withDependencies (ht : d.task t = some r) :
    (d.withDependencies t ids).dependencies t = ids := by
  unfold dependencies
  rw [task_withDependencies ht]
  rfl

theorem dependsOn_withDependencies {x y} (h : x ≠ t) :
    (d.withDependencies t ids).DependsOn x y ↔ d.DependsOn x y := by
  unfold DependsOn dependencies
  rw [task_withDependencies_ne h]

/-- The check of the new dependencies on the old graph is that of the new graph. -/
theorem acyclic_withDependencies (hacyclic : d.Acyclic) (ht : d.task t = some r)
    (hne : ∀ p ∈ ids, p ≠ t) :
    (d.withDependencies t ids).Acyclic ↔ ∀ p ∈ ids, t ∉ d.reachable p := by
  have hoff : ∀ x y, x ≠ t → ((d.withDependencies t ids).DependsOn x y ↔ d.DependsOn x y) :=
    fun x y hx => dependsOn_withDependencies hx
  have hiff := Acyclicity.Acyclic.replace_iff hacyclic hoff
  refine hiff.trans (forall_congr' fun p => ?_)
  rw [DependsOn, dependencies_withDependencies ht, mem_reachable]
  refine imp_congr_right fun hp => not_congr ?_
  rw [reflTransGen_iff_eq_or_transGen]
  exact or_iff_right fun heq => hne p hp heq.symm

/-- The trigger asks on the new graph what the check has asked on the old one. -/
theorem mem_reachable_withDependencies (hne : p ≠ t) :
    t ∈ (d.withDependencies t ids).reachable p ↔ t ∈ d.reachable p := by
  have hreaches : ∀ {r r' : TaskId → TaskId → Prop}, (∀ x y, x ≠ t → r x y → r' x y) →
      TransGen r p t → TransGen r' p t := by
    intro r r' hoff hpath
    have hpath' := Acyclicity.reaches_congr hoff hpath.to_reflTransGen
    exact (reflTransGen_iff_eq_or_transGen.mp hpath').resolve_left fun heq => hne heq.symm
  rw [mem_reachable, mem_reachable]
  constructor
  · exact hreaches fun x y hx => (dependsOn_withDependencies hx).mp
  · exact hreaches fun x y hx => (dependsOn_withDependencies hx).mpr

end Db

section Alone

variable {d : Db} {t : TaskId} {r : TaskRecord} {projectId : Id} {parentId : Option TaskId}

theorem shareTask_exec (h : d.task p = some dependency) :
    (shareTask p).exec d = .ok (dependency, d) := by
  change (demand (d.task p) .notFound : Tx TaskRecord).exec d = _
  rw [h]
  rfl

/-- A dependency that fits is refused for a cycle or accepted. -/
theorem validateDependency_exec (hfits : DependencyFits d t p projectId parentId dependency)
    (hseen : p ∉ seen) :
    (validateDependency t projectId parentId seen p).exec d =
      if t ∈ d.reachable p then .error (.conflict "task dependency cycle is not allowed")
      else .ok ((), d) := by
  have hrelated : parentId ≠ some p ∧ dependency.row.parentTaskId ≠ some t :=
    ⟨hfits.notParent, hfits.notChild⟩
  unfold validateDependency
  rw [exec_bind_ok (exec_require_pos hfits.ne), exec_bind_ok (exec_require_pos hseen),
    exec_bind_ok (shareTask_exec hfits.found), exec_bind_ok (exec_require_pos hfits.archived),
    exec_bind_ok (exec_require_pos hfits.project), exec_bind_ok (exec_require_pos hrelated),
    exec_bind_ok (exec_query _), exec_require]
  by_cases hcycle : t ∈ d.reachable p <;> simp [hcycle]

/-- The loop stops at the first dependency from which the Task is reached. -/
theorem validateDependencyAssignments_exec
    (hfits : ∀ p ∈ ids, ∃ dependency, DependencyFits d t p projectId parentId dependency)
    (hnodup : ids.Nodup) (hseen : ∀ p ∈ ids, p ∉ seen) :
    (validateDependencyAssignments t projectId parentId seen ids).exec d =
      if ∃ p ∈ ids, t ∈ d.reachable p then
        .error (.conflict "task dependency cycle is not allowed")
      else .ok ((), d) := by
  induction ids generalizing seen with
  | nil => simp [validateDependencyAssignments, pure, exec]
  | cons p rest ih =>
    obtain ⟨hp, hnodup⟩ := nodup_cons.mp hnodup
    obtain ⟨dependency, hfirst⟩ := hfits p mem_cons_self
    have hexec := validateDependency_exec hfirst (hseen p mem_cons_self)
    have hrest : ∀ q ∈ rest, q ∉ p :: seen := by
      intro q hq hmem
      rcases mem_cons.mp hmem with rfl | hmem
      · exact hp hq
      · exact hseen q (mem_cons_of_mem _ hq) hmem
    have ih := ih (fun q hq => hfits q (mem_cons_of_mem _ hq)) hnodup hrest
    unfold validateDependencyAssignments
    by_cases hcycle : t ∈ d.reachable p
    · rw [if_pos hcycle] at hexec
      rw [exec_bind_error hexec, if_pos ⟨p, mem_cons_self, hcycle⟩]
    · rw [if_neg hcycle] at hexec
      rw [exec_bind_ok hexec, ih]
      simp [hcycle]

/-- The trigger on an inserted row refuses nothing but a cycle, once the checks have passed. -/
theorem validateTaskDependency_exec (ht : d.task t = some task)
    (hfits : DependencyFits d t p task.row.projectId task.row.parentTaskId dependency) :
    (validateTaskDependency t p).exec d =
      if t ∈ d.reachable p then .error (.constraint "task dependency cycle is not allowed")
      else .ok ((), d) := by
  have hproject : ∀ r ∈ d.task t, ∀ q ∈ d.task p, r.row.projectId = q.row.projectId := by
    rw [ht, hfits.found]
    rintro _ ⟨⟩ _ ⟨⟩
    exact hfits.project.symm
  have hrelated : (∀ r ∈ d.task t, r.row.parentTaskId ≠ some p) ∧
      ∀ q ∈ d.task p, q.row.parentTaskId ≠ some t := by
    rw [ht, hfits.found]
    constructor
    · rintro _ ⟨⟩
      exact hfits.notParent
    · rintro _ ⟨⟩
      exact hfits.notChild
  unfold validateTaskDependency
  rw [exec_bind_ok (exec_query _), exec_bind_ok (exec_query _),
    exec_bind_ok (exec_require_pos hproject), exec_bind_ok (exec_require_pos hrelated),
    exec_bind_ok (exec_query _), exec_require]
  by_cases hcycle : t ∈ d.reachable p <;> simp [hcycle]

theorem validateTaskDependencies_exec (ht : d.task t = some task)
    (hfits : ∀ p ∈ ids, ∃ dependency,
      DependencyFits d t p task.row.projectId task.row.parentTaskId dependency)
    (hacyclic : ∀ p ∈ ids, t ∉ d.reachable p) :
    (validateTaskDependencies t ids).exec d = .ok ((), d) := by
  induction ids with
  | nil => rfl
  | cons p rest ih =>
    obtain ⟨dependency, hfirst⟩ := hfits p mem_cons_self
    have hexec := validateTaskDependency_exec ht hfirst
    rw [if_neg (hacyclic p mem_cons_self)] at hexec
    unfold validateTaskDependencies
    rw [exec_bind_ok hexec]
    exact ih (fun q hq => hfits q (mem_cons_of_mem _ hq))
      fun q hq => hacyclic q (mem_cons_of_mem _ hq)

/-- The statements that replace the dependencies, on a graph without cycles: they are refused for a
cycle by the check, or accepted by the check and the trigger. -/
theorem replaceDependencies_exec (ht : d.task t = some task) (hnodup : ids.Nodup)
    (hfits : ∀ p ∈ ids, ∃ dependency,
      DependencyFits d t p task.row.projectId task.row.parentTaskId dependency) :
    (replaceDependencies t task.row.projectId task.row.parentTaskId ids).exec d =
      if ∃ p ∈ ids, t ∈ d.reachable p then
        .error (.conflict "task dependency cycle is not allowed")
      else .ok ((), d.withDependencies t ids) := by
  have hseen : ∀ p ∈ ids, p ∉ ([] : List TaskId) := fun p _ => not_mem_nil
  have hassign := validateDependencyAssignments_exec hfits hnodup hseen
  unfold replaceDependencies
  by_cases hcycle : ∃ p ∈ ids, t ∈ d.reachable p
  · rw [if_pos hcycle] at hassign
    rw [if_pos hcycle, exec_bind_error hassign]
  · rw [if_neg hcycle] at hassign
    rw [if_neg hcycle, exec_bind_ok hassign, exec_bind_ok (exec_modify _)]
    refine validateTaskDependencies_exec (Db.task_withDependencies ht) ?_ ?_
    · intro p hp
      obtain ⟨dependency, hdependency⟩ := hfits p hp
      have hfound : (d.withDependencies t ids).task p = some dependency :=
        (Db.task_withDependencies_ne hdependency.ne).trans hdependency.found
      exact ⟨dependency, { hdependency with found := hfound }⟩
    · intro p hp hreach
      obtain ⟨dependency, hdependency⟩ := hfits p hp
      exact hcycle ⟨p, hp, (Db.mem_reachable_withDependencies hdependency.ne).mp hreach⟩

/-- An update that commits leaves the dependencies it names, and closes no cycle. -/
theorem updateTask_dependencies {row} {d' : Db} (hacyclic : d.Acyclic)
    (hids : patch.dependencyIds = some ids)
    (h : (updateTask t expectedVersion patch actor clock).exec d = .ok (row, d')) :
    (d.withDependencies t ids).Acyclic ∧ d'.dependencies t = ids := by
  obtain ⟨held', hrun⟩ := commits_under (rely True) [] h
  obtain ⟨old, r', hupdated⟩ := updateTask_commits (isolates_rely True) hrun
  have hself : d'.dependencies t = ids := by
    unfold Db.dependencies
    rw [hupdated.after, hupdated.rows, hids]
    rfl
  have hother : ∀ t' ≠ t, d'.dependencies t' = d.dependencies t' := by
    intro t' ht'
    unfold Db.dependencies
    rcases hupdated.children t' ht' with heq | ⟨r, rc, -, hr, -, hrc, hfollows⟩
    · rw [heq]
    · rw [hr, hrc, Option.map_some, Option.map_some, hfollows.dependencies]
  have hne : ∀ p ∈ ids, p ≠ t := by
    intro p hp
    obtain ⟨-, dependency, hfits⟩ := (hupdated.dependencies ids hids).2.2 p hp
    exact hfits.ne
  have hafter := acyclic_of_checked hacyclic hself hne hother (hupdated.acyclic ids hids)
  refine ⟨Acyclicity.Acyclic.mono hafter fun x y hxy => ?_, hself⟩
  unfold Db.DependsOn at hxy ⊢
  by_cases hx : x = t
  · subst hx
    rwa [Db.dependencies_withDependencies hupdated.before, ← hself] at hxy
  · rw [hother x hx]
    exact (Db.dependsOn_withDependencies hx).mp hxy

/-- An update that is refused for a cycle names a dependency from which the Task is reached. -/
theorem updateTask_errors (hids : patch.dependencyIds = some ids) (hnet : ∀ p ∈ ids, p ≠ t) :
    (updateTask t expectedVersion patch actor clock).ErrorsOn (LeadsBack d t ids) d := by
  have hR := isolates_rely True
  unfold updateTask
  refine .liftM_bind (fun _ he => leadsBack_of_other (actor_errors he)) fun _ _ => ?_
  refine .acquire_bind (.query_bind (.demand_bind (fun _ => leadsBack_of_other (by decide)) ?_))
  intro old hold
  refine .require_bind (fun _ => leadsBack_of_other (by rintro (h | h) <;> cases h)) fun _ => ?_
  refine .bind (patchedRow_errors.on fun _ => leadsBack_of_other) fun row d₁ hpatch => ?_
  obtain ⟨_, hpatch⟩ := commits_under (rely True) [] hpatch
  obtain ⟨-, rfl, -⟩ := patchedRow_commits hpatch
  refine .bind (validateParentAssignment_errors.on fun _ => leadsBack_of_other) ?_
  intro _ d₂ hparent
  obtain ⟨_, hparent⟩ := commits_under (rely True) [] hparent
  obtain ⟨-, rfl, hfits⟩ := validateParentAssignment_commits hR hparent
  refine .bind (errors_acquireAll.on fun _ => leadsBack_of_other) fun _ d₃ hlocks => ?_
  obtain ⟨_, hlocks⟩ := commits_under (rely True) [] hlocks
  obtain ⟨-, rfl⟩ := commits_acquireAll.mp hlocks
  refine .bind ?_ fun _ d₄ hdeps => ?_
  · intro e he
    simpa [hids] using updateDependencies_errors e he
  obtain ⟨_, hdeps⟩ := commits_under (rely True) [] hdeps
  obtain ⟨-, hmod, -⟩ := updateDependencies_commits hR hdeps
  refine .bind (updateCompletedAt_errors.on fun _ => leadsBack_of_other) ?_
  intro completedAt d₅ hcompleted
  obtain ⟨_, hcompleted⟩ := commits_under (rely True) [] hcompleted
  obtain ⟨-, rfl, -⟩ := updateCompletedAt_commits hcompleted
  have hne : row.parentTaskId ≠ some t := by
    intro heq
    obtain ⟨-, ⟨parent, hparent⟩, -⟩ := hfits t heq
    exact hparent.ne rfl
  have hself := hmod.self
  rw [hold, Option.map_some, hids] at hself
  intro e he hcycle
  -- The graph at the trigger is the one with the new dependencies.
  have hparentNe : { row with
      completedAt, version := old.row.version + 1 }.parentTaskId ≠ some t := hne
  have hstore := storeUpdate_errors hself hparentNe e he
  rw [hids] at hstore
  have hsame : ∀ x, d₅.dependencies x = (d₃.withDependencies t ids).dependencies x := by
    intro x
    by_cases hx : x = t
    · subst hx
      rw [Db.dependencies_withDependencies hold]
      unfold Db.dependencies
      rw [hself]
      rfl
    · unfold Db.dependencies
      rw [hmod.other x hx, Db.task_withDependencies_ne hx]
  obtain ⟨p, hp, hreach⟩ := hstore.congr hsame hcycle
  exact ⟨p, hp, (Db.mem_reachable_withDependencies (hnet p hp)).mp hreach⟩

/-- Distinct Tasks that fit as dependencies are refused for a cycle exactly if the graph has one
with them in place of the old dependencies; if they are accepted, they are the dependencies. So an
update with them commits only without a cycle, and is refused for a cycle only with one. -/
theorem replaced_iff_acyclic {ids : List TaskId} {task : TaskRecord} (hacyclic : d.Acyclic)
    (ht : d.task t = some task) (hnodup : ids.Nodup) (hfits : ∀ p ∈ ids, ∃ dependency,
      DependencyFits d t p task.row.projectId task.row.parentTaskId dependency) :
    ((∀ e, (replaceDependencies t task.row.projectId task.row.parentTaskId ids).exec d = .error e →
        ¬ e.RejectsCycle) ↔ (d.withDependencies t ids).Acyclic) ∧
      (∀ d', (replaceDependencies t task.row.projectId task.row.parentTaskId ids).exec d =
        .ok ((), d') → d'.dependencies t = ids) ∧
      ∀ expectedVersion patch actor clock, patch.dependencyIds = some ids →
        (∀ e, (updateTask t expectedVersion patch actor clock).exec d = .error e → e.RejectsCycle →
          ¬ (d.withDependencies t ids).Acyclic) ∧
        ∀ row d', (updateTask t expectedVersion patch actor clock).exec d = .ok (row, d') →
          (d.withDependencies t ids).Acyclic ∧ d'.dependencies t = ids := by
  have hne : ∀ p ∈ ids, p ≠ t := by
    intro p hp
    obtain ⟨dependency, hdependency⟩ := hfits p hp
    exact hdependency.ne
  rw [replaceDependencies_exec ht hnodup hfits, Db.acyclic_withDependencies hacyclic ht hne]
  refine ⟨?_, ?_, ?_⟩
  · constructor
    · intro haccepted p hp hreach
      refine haccepted _ (if_pos ⟨p, hp, hreach⟩) (.inl rfl)
    · intro hnone e he
      rw [if_neg fun ⟨p, hp, hreach⟩ => hnone p hp hreach] at he
      cases he
  · intro d' hd'
    split at hd'
    · cases hd'
    · cases hd'
      exact Db.dependencies_withDependencies ht
  · intro expectedVersion patch actor clock hids
    constructor
    · intro e he hcycle hnone
      obtain ⟨p, hp, hreach⟩ := updateTask_errors hids hne e he hcycle
      exact hnone p hp hreach
    · intro row d' h
      obtain ⟨hacyclic', hself⟩ := updateTask_dependencies hacyclic hids h
      exact ⟨(Db.acyclic_withDependencies hacyclic ht hne).mp hacyclic', hself⟩

end Alone

/-- Tasks 1, 2 and 3 of one Project. -/
def sampleTasks : Db :=
  Db.setTask 1 ((sampleDraft none).record 1001 100)
    (Db.setTask 2 ((sampleDraft none).record 1002 100)
    (Db.setTask 3 ((sampleDraft none).record 1003 100) Db.empty))

/-- The second Task depends on the third. -/
def sampleGraph : Db := sampleTasks.withDependencies 2 [3]

theorem acyclic_sampleGraph : sampleGraph.Acyclic := by
  have hnone : ∀ x y, ¬ sampleTasks.DependsOn x y := by
    intro x y
    simp only [sampleTasks, Db.DependsOn, Db.dependencies_setTask, TaskDraft.record]
    split_ifs
    · exact not_mem_nil
    · exact not_mem_nil
    · exact not_mem_nil
    · exact not_mem_nil
  have hacyclic : sampleTasks.Acyclic := by
    intro x hx
    obtain ⟨y, hxy, -⟩ := TransGen.head'_iff.mp hx
    exact hnone x y hxy
  refine (Db.acyclic_withDependencies hacyclic
    (r := (sampleDraft none).record 1002 100) rfl ?_).mpr ?_
  · decide
  · decide +kernel

theorem replaced_iff_acyclic_first :
    (sampleGraph.withDependencies 1 [2]).Acyclic ∧
      ∀ e, (replaceDependencies 1 5 none [2]).exec sampleGraph = .error e → ¬ e.RejectsCycle := by
  have htask : sampleGraph.task 1 = some ((sampleDraft none).record 1001 100) := rfl
  have hfits : ∀ p ∈ [2], ∃ dependency, DependencyFits sampleGraph 1 p 5 none dependency := by
    intro p hp
    obtain rfl := mem_singleton.mp hp
    exact ⟨((sampleDraft none).record 1002 100).setDependencies [3], by decide, rfl, rfl, rfl,
      by decide, by decide⟩
  have hresult := replaced_iff_acyclic acyclic_sampleGraph htask (by decide) hfits
  have hexec : (replaceDependencies 1 5 none [2]).exec sampleGraph =
      .ok ((), sampleGraph.withDependencies 1 [2]) := by
    rfl
  have haccepted : ∀ e, (replaceDependencies 1 5 none [2]).exec sampleGraph = .error e →
      ¬ e.RejectsCycle := by
    intro e he
    rw [hexec] at he
    cases he
  exact ⟨hresult.1.mp haccepted, haccepted⟩

end Pactline
