import Pactline.Results.WorkflowState

/-!
# Ready Tasks

A ready Task depends on finished Tasks only. `MarkReady` looks at the dependencies the Task has, and
the replacement of dependencies at the phase it is in. Both hold the Task's row `FOR UPDATE`, so
each half is still true when the command commits, and what is finished stays finished.
-/

set_option autoImplicit false

namespace Pactline

open ReadCommitted

/-- No ready Task depends on an unfinished one. -/
def Db.ReadySettled (d : Db) : Prop :=
  ∀ t r, d.task t = some r → r.row.lifecycle.phase = .ready →
    ∀ p ∈ r.dependencyIds, d.unfinished p = false

/-- A Task that is ready was so before, or has just been found to depend on finished Tasks only. -/
theorem TaskStep.ready_cases {d : Db} {t c} {r r' : TaskRecord}
    (h : TaskStep d t c r r') (hready : r'.row.lifecycle.phase = .ready) :
    r.row.lifecycle.phase = .ready ∨ ∀ p ∈ r.dependencyIds, d.unfinished p = false := by
  cases h with
  | markReady _ _ _ _ _ hdependencies => exact .inr hdependencies
  | withdrawReadiness | completeExecution | requestChanges | acceptTask | cancelTask => cases hready
  | claim _ _ _ hclaim =>
    -- A claimed Task is in progress or in review.
    obtain ⟨-, hwork, -⟩ := TaskLifecycle.claim_ok hclaim
    rcases hwork.phase with hphase | hphase
    · cases hphase.symm.trans hready
    · cases hphase.symm.trans hready
  | _ => exact .inl hready

section Steps

variable {platform : Platform} {R : Rely Db Row} {held : List (Lock Row)} {d d' : Db} {c : Cmd}

/-- Every commit keeps ready Tasks settled. -/
theorem Step.readySettled (h : Step platform R held d d' c) (hlaw : Lawful d)
    (hready : d.ReadySettled) : d'.ReadySettled := by
  intro t r' hr' hphase p hp
  refine (h.footprint hlaw).unfinished ?_
  -- A Task that keeps its phase and its dependencies was settled before.
  have hkeep : ∀ r, d.task t = some r → r.row.lifecycle.phase = .ready → p ∈ r.dependencyIds →
      d.unfinished p = false := fun r hr hbefore hmem => hready t r hr hbefore p hmem
  cases h with
  | @onTask _ _ r _ on step =>
    rcases Db.task_cases on.after on.other hr' with ⟨rfl, rfl⟩ | hr
    · rw [step.local.dependencies] at hp
      rcases step.ready_cases hphase with hbefore | hfinished
      · exact hkeep r on.before hbefore hp
      · exact hfinished p hp
    · exact hkeep r' hr hphase hp
  | create created =>
    rcases Db.task_cases created.after created.other hr' with ⟨rfl, rfl⟩ | hr
    · cases hphase
    · exact hkeep r' hr hphase hp
  | @update _ _ patch _ _ old _ updated =>
    rcases updated.cases hr' with ⟨rfl, rfl⟩ | ⟨-, r, hr, hf, -⟩
    · rw [updated.patched.lifecycle] at hphase
      rw [updated.rows] at hp
      cases hids : patch.dependencyIds with
      | none =>
        rw [hids] at hp
        exact hkeep old updated.before hphase hp
      | some ids =>
        rw [hids] at hp
        exact (updated.dependencies ids hids).2.1 hphase p hp
    · exact hkeep r hr (hf.lifecycle ▸ hphase) (hf.dependencies ▸ hp)
  | @completeUpload _ _ _ _ _ _ _ _ _ r _ completed =>
    rcases Db.task_cases completed.after completed.other hr' with ⟨rfl, rfl⟩ | hr
    · exact hkeep r completed.before hphase hp
    · exact hkeep r' hr hphase hp
  | side side =>
    refine hkeep r' ?_ hphase hp
    unfold Db.task at hr' ⊢
    rw [← side.tasks]
    exact hr'

end Steps

/-- Ready Tasks depend on finished Tasks, in every history. -/
theorem History.readySettled {platform} {d : Db} {log}
    (h : History platform Db.empty log d) : d.ReadySettled := by
  have hboth : Lawful d ∧ d.ReadySettled := by
    refine h.invariant (P := fun d => Lawful d ∧ d.ReadySettled) ⟨lawful_empty, ?_⟩ ?_
    · intro t r hr
      cases hr
    · intro e hv ⟨hlaw, hready⟩
      exact ⟨(step_of_valid hv).lawful hlaw, (step_of_valid hv).readySettled hlaw hready⟩
  exact hboth.2

/-- After every schedule the dependencies of a ready Task are done or cancelled. -/
theorem ready_tasks_settled {platform : Platform} {es : Schedule} {cfg : SystemConfig}
    (h : runFrom platform Db.empty es = some cfg) {t : TaskId} {r : TaskRecord}
    (hr : cfg.db.task t = some r) (hready : r.row.lifecycle.phase = .ready) :
    ∀ p ∈ r.dependencyIds, ∃ rp, cfg.db.task p = some rp ∧
      (rp.row.lifecycle.phase = .done ∨ rp.row.lifecycle.phase = .cancelled) := by
  intro p hp
  have hsettled := (history_of_runFrom lawful_empty h).readySettled t r hr hready p hp
  exact Db.unfinished_eq_false.mp hsettled

/-- Task 2 depends on Task 1, which is cancelled, and is marked ready. -/
def readyScript : List Cmd :=
  [sampleCreate 1 none [],
    .cancelTask 1 1 "not needed" sampleActor sampleOperation 200000 fun n => 2000 + n,
    sampleCreate 2 none [1], .markReady 2 1 sampleOperation 300 fun n => 3000 + n]

/-- Its dependency is finished. -/
theorem ready_tasks_settled_cancelled :
    ∃ cfg r rp, runFrom asciiPlatform Db.empty
        (.connect (.script readyScript) :: advances 0 45) = some cfg ∧
      cfg.db.task 2 = some r ∧ r.row.lifecycle.phase = .ready ∧ r.dependencyIds = [1] ∧
      cfg.db.task 1 = some rp ∧
      (rp.row.lifecycle.phase = .done ∨ rp.row.lifecycle.phase = .cancelled) := by
  obtain ⟨cfg, hcfg, r, hr, hready, hdependencies⟩ : ∃ cfg, runFrom asciiPlatform Db.empty
        (.connect (.script readyScript) :: advances 0 45) = some cfg ∧
      ∃ r, cfg.db.task 2 = some r ∧ r.row.lifecycle.phase = .ready ∧ r.dependencyIds = [1] := by
    decide +kernel
  have hmem : 1 ∈ r.dependencyIds := by
    rw [hdependencies]
    exact List.mem_singleton_self 1
  obtain ⟨rp, hrp, hfinished⟩ := ready_tasks_settled hcfg hr hready 1 hmem
  exact ⟨cfg, r, rp, hcfg, hr, hready, hdependencies, hrp, hfinished⟩

end Pactline
