import Pactline.Analysis.DependencyGraph

/-!
# Groups and dependencies of Tasks

Assigning a parent, moving a parent with its children and setting dependencies all hold the rows
they look at, so no two of them can break the structure of the Tasks together. The graph of
dependencies is another matter: two transactions that set dependencies may lock disjoint rows, check
a graph without the edge of the other, and close a cycle together. Neither the checks nor the
deferred trigger see it.
-/

set_option autoImplicit false

namespace Pactline

open ReadCommitted Relation

/-! ## Sample commands -/

/-- A platform that knows no file types and no letters but the ASCII ones. -/
def asciiPlatform : Platform := ⟨id, fun _ => ""⟩

/-- A user in a browser session. -/
def sampleOperation : OperationActor :=
  { userId := 7, authMethod := .session, tokenId := none, tokenName := "", agentRunId := none
    requestId := "request" }

/-- A Task of Project 5 without status, dates or Milestone. -/
def sampleDraft (parentTaskId : Option TaskId) : TaskDraft :=
  { title := "title", context := "context", expectedResult := "result", description := ""
    status := none, priority := none, executionMode := none, assigneeId := none, creatorId := 7
    startDate := none, dueDate := none, projectId := 5, milestoneId := none, parentTaskId }

/-- A patch that sets nothing. -/
def emptyPatch : TaskPatch :=
  { title := none, context := none, expectedResult := none, description := none, status := none
    priority := none, executionMode := none, assigneeId := none, startDate := none
    dueDate := none, labelIds := none, projectSet := false, milestoneId := none
    parentTaskId := none, dependencyIds := none, scheduleShiftDays := none }

/-- The creation of a sample Task. -/
def sampleCreate (t : TaskId) (parentTaskId : Option TaskId) (dependencyIds : List TaskId) : Cmd :=
  .create t (sampleDraft parentTaskId) [] dependencyIds sampleOperation (1000 + t) fun n => 100 + n

/-- `n` statements of session `i`. -/
def advances (i n : Nat) : Schedule := List.replicate n (.advance i)

/-! ## The law of the structure -/

/-- In every committed database a Task with a parent has no children, a child shares Project and
Milestone with its parent, no dependency joins the two, and dependencies stay inside a Project. -/
theorem task_structure_lawful {platform : Platform} {d₀ : Db} {es : Schedule} {cfg : SystemConfig}
    (h₀ : Lawful d₀) (h : runFrom platform d₀ es = some cfg) :
    (∀ t r p, cfg.db.task t = some r → r.row.parentTaskId = some p →
      cfg.db.children t = [] ∧ ∃ rp, cfg.db.task p = some rp ∧
        r.row.projectId = rp.row.projectId ∧ r.row.milestoneId = rp.row.milestoneId ∧
        p ∉ r.dependencyIds ∧ t ∉ rp.dependencyIds) ∧
    ∀ t r p, cfg.db.task t = some r → p ∈ r.dependencyIds →
      ∃ rp, cfg.db.task p = some rp ∧ r.row.projectId = rp.row.projectId := by
  have hlaw : Lawful cfg.db := (history_of_runFrom h₀ h).lawful h₀
  constructor
  · intro t r p hr hp
    obtain ⟨rp, hrp, hunder⟩ := hlaw.parent t r p hr hp
    refine ⟨?_, rp, hrp, hunder.project.symm, hunder.milestone.symm, hunder.forward,
      hunder.backward⟩
    -- A child of `t` would have a parent that has a parent.
    apply List.eq_nil_iff_forall_not_mem.mpr
    rintro ⟨c, rc⟩ hc
    obtain ⟨hrc, hparent⟩ := Db.mem_children.mp hc
    obtain ⟨r', hr', hunder'⟩ := hlaw.parent c rc t hrc hparent
    rw [hr] at hr'
    cases hr'
    rw [hunder'.top] at hp
    cases hp
  · intro t r p hr hp
    obtain ⟨rp, hrp, hproject⟩ := hlaw.dependency t r p hr hp
    exact ⟨rp, hrp, hproject.symm⟩

/-- Task 2 is created under Task 1, and Task 3 with a dependency on Task 2. -/
def groupSchedule : Schedule :=
  .connect (.script [sampleCreate 1 none [], sampleCreate 2 (some 1) [], sampleCreate 3 none [2]])
    :: advances 0 42

theorem task_structure_lawful_group :
    ∃ cfg, runFrom asciiPlatform Db.empty groupSchedule = some cfg ∧
      cfg.db.dependencies 3 = [2] ∧ cfg.db.children 2 = [] := by
  obtain ⟨cfg, hcfg, hdependencies, r, hr, hp⟩ : ∃ cfg,
      runFrom asciiPlatform Db.empty groupSchedule = some cfg ∧ cfg.db.dependencies 3 = [2] ∧
      ∃ r, cfg.db.task 2 = some r ∧ r.row.parentTaskId = some 1 := by decide +kernel
  exact ⟨cfg, hcfg, hdependencies, ((task_structure_lawful lawful_empty hcfg).1 2 r 1 hr hp).1⟩

/-! ## Cycles of dependencies -/

/-- The graph of dependencies stays acyclic in every schedule in which no two transactions that set
dependencies run at the same time. -/
theorem dependencies_acyclic {platform : Platform} {d₀ : Db} {es : Schedule} {cfg : SystemConfig}
    (hlaw : Lawful d₀) (h₀ : d₀.Acyclic)
    (halone : Along (prog platform)
      (Config.Admits fun c c' => ¬ (c.SetsDependencies ∧ c'.SetsDependencies))
      (Config.initial d₀) es)
    (h : runFrom platform d₀ es = some cfg) : cfg.db.Acyclic := by
  have hprotocol : Protocol (prog platform) (fun c => rely c.SetsDependencies)
      (fun c c' => ¬ (c.SetsDependencies ∧ c'.SetsDependencies)) Lawful :=
    protocol platform fun c c' hnot hc' hc => hnot ⟨hc, hc'⟩
  refine (hprotocol.sound hlaw halone h).serial.invariant h₀ fun e hv hacyclic => ?_
  exact (step_of_commits (isolates_rely _) hv).acyclic hacyclic

theorem dependencies_acyclic_group :
    ∃ cfg, runFrom asciiPlatform Db.empty groupSchedule = some cfg ∧
      cfg.db.dependencies 3 = [2] ∧ cfg.db.Acyclic := by
  obtain ⟨cfg, hcfg, hdependencies⟩ : ∃ cfg,
      runFrom asciiPlatform Db.empty groupSchedule = some cfg ∧ cfg.db.dependencies 3 = [2] := by
    decide +kernel
  exact ⟨cfg, hcfg, hdependencies,
    dependencies_acyclic lawful_empty Db.acyclic_empty (along_single _ _ _) hcfg⟩

/-- The update that gives a Task the given dependencies. -/
def setDependencies (t : TaskId) (dependencyIds : List TaskId) : Cmd :=
  .update t none { emptyPatch with dependencyIds := some dependencyIds } sampleOperation
    fun n => 200 + n

/-- Task 2 depends on Task 3, and Task 4 on Task 1. Then one client makes Task 1 depend on Task 2
and another makes Task 3 depend on Task 4; each goes through all its statements before the other
commits. -/
def raceSchedule : Schedule :=
  .connect (.script [sampleCreate 3 none [], sampleCreate 2 none [3], sampleCreate 1 none [],
    sampleCreate 4 none [1]]) :: advances 0 52 ++
  [.connect (.script [setDependencies 1 [2]]), .connect (.script [setDependencies 3 [4]])] ++
  advances 1 14 ++ advances 2 14 ++ advances 1 1 ++ advances 2 1

/-- All six transactions commit, and the four Tasks depend on each other in a circle. -/
theorem dependency_race :
    ∃ cfg, runFrom asciiPlatform Db.empty raceSchedule = some cfg ∧ cfg.log.length = 6 ∧
      (∀ s ∈ cfg.sessions, s.command = none) ∧ ¬ cfg.db.Acyclic := by
  obtain ⟨cfg, hcfg, hlength, hidle, h₁, h₂, h₃, h₄⟩ : ∃ cfg,
      runFrom asciiPlatform Db.empty raceSchedule = some cfg ∧ cfg.log.length = 6 ∧
      (∀ s ∈ cfg.sessions, s.command.isNone) ∧ cfg.db.dependencies 1 = [2] ∧
      cfg.db.dependencies 2 = [3] ∧ cfg.db.dependencies 3 = [4] ∧
      cfg.db.dependencies 4 = [1] := by decide +kernel
  refine ⟨cfg, hcfg, hlength, fun s hs => Option.isNone_iff_eq_none.mp (hidle s hs), ?_⟩
  intro hacyclic
  have hedge : ∀ {t p : TaskId}, cfg.db.dependencies t = [p] → cfg.db.DependsOn t p := by
    intro t p heq
    unfold Db.DependsOn
    rw [heq]
    exact List.mem_singleton_self p
  exact hacyclic 1
    ((((TransGen.single (hedge h₁)).tail (hedge h₂)).tail (hedge h₃)).tail (hedge h₄))

end Pactline
