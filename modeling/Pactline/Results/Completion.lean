import Pactline.Analysis.Claims
import Pactline.Results.WorkflowState

/-!
# Completed Tasks

Accepting a Task asks for finished children, finished dependencies and satisfied criteria, and all
of this holds at that moment. Later it may cease to: the guards of a parent assignment and of a
replacement of dependencies read the older status column, which the workflow does not write. A done
Task can get an unfinished child or dependency, and this is the only way.

Among the checks of the current cycle any one that passes counts, also when a later one fails.
-/

set_option autoImplicit false

namespace Pactline

open ReadCommitted

variable {d : Db} {t p : TaskId}

/-! ## Waiting for other Tasks -/

namespace Db

/-- `x` is a child or a dependency of `t`. -/
def Awaits (d : Db) (t x : TaskId) : Prop :=
  (∃ r, d.task x = some r ∧ r.row.parentTaskId = some t) ∨
    ∃ r, d.task t = some r ∧ x ∈ r.dependencyIds

def done (d : Db) (t : TaskId) : Bool :=
  (d.task t).any fun r => r.row.lifecycle.phase = .done

/-- A done Task waits for nothing that is unfinished. -/
def Settled (d : Db) : Prop :=
  ∀ t x, d.done t → d.Awaits t x → d.unfinished x = false

theorem done_iff : d.done t ↔ ∃ r, d.task t = some r ∧ r.row.lifecycle.phase = .done := by
  unfold done
  cases d.task t <;> simp

end Db

/-- The pairs that a command relates: a parent and the Task that gets it, a Task and a dependency
it gets. -/
def Cmd.joins : Cmd → List (TaskId × TaskId)
  | .create t draft _ dependencyIds _ _ _ =>
    draft.parentTaskId.toList.map (·, t) ++ dependencyIds.map (t, ·)
  | .update t _ patch _ _ =>
    (patch.parentTaskId.getD none).toList.map (·, t) ++
      (patch.dependencyIds.getD []).map (t, ·)
  | _ => []

section Changes

variable {c : Cmd} {r r' : TaskRecord} {before : Option TaskRecord}

/-- A Task has its parent from before, or the command has assigned it. -/
theorem TaskChange.parent_cases (h : TaskChange d t c before r')
    (hp : r'.row.parentTaskId = some p) :
    (∃ r ∈ before, r.row.parentTaskId = some p) ∨ (p, t) ∈ c.joins := by
  cases h with
  | same => exact .inl ⟨r', rfl, hp⟩
  | @step r _ step => exact .inl ⟨r, rfl, step.local.parent ▸ hp⟩
  | @create draft _ _ _ _ _ cmd =>
    subst cmd
    have hparent : draft.parentTaskId = some p := hp
    right
    simp [Cmd.joins, hparent]
  | @update _ patch _ _ old _ cmd edited =>
    subst cmd
    rw [edited.patched.parent] at hp
    cases hset : patch.parentTaskId with
    | none => exact .inl ⟨old, rfl, by simpa [hset] using hp⟩
    | some q =>
      right
      have hq : q = some p := by simpa [hset] using hp
      simp [Cmd.joins, hset, hq]
  | @follow _ _ _ _ _ _ r _ _ _ _ follows => exact .inl ⟨r, rfl, follows.parent ▸ hp⟩
  | @attach _ _ _ _ _ _ _ _ r => exact .inl ⟨r, rfl, hp⟩

/-- A Task has a dependency from before, or the command has set it. -/
theorem TaskChange.dependency_cases (h : TaskChange d t c before r') (hp : p ∈ r'.dependencyIds) :
    (∃ r ∈ before, p ∈ r.dependencyIds) ∨ (t, p) ∈ c.joins := by
  cases h with
  | same => exact .inl ⟨r', rfl, hp⟩
  | @step r _ step => exact .inl ⟨r, rfl, step.local.dependencies ▸ hp⟩
  | create cmd =>
    subst cmd
    right
    exact List.mem_append_right _ (List.mem_map.mpr ⟨p, hp, rfl⟩)
  | @update _ patch _ _ old _ cmd edited =>
    subst cmd
    rw [edited.rows] at hp
    cases hset : patch.dependencyIds with
    | none => exact .inl ⟨old, rfl, by simpa [hset] using hp⟩
    | some ids =>
      right
      have hmem : p ∈ ids := by simpa [hset] using hp
      simp [Cmd.joins, hset, hmem]
  | @follow _ _ _ _ _ _ r _ _ _ _ follows => exact .inl ⟨r, rfl, follows.dependencies ▸ hp⟩
  | @attach _ _ _ _ _ _ _ _ r => exact .inl ⟨r, rfl, hp⟩

/-- A Task gets done by an acceptance, which has found everything it waits for finished. -/
theorem TaskStep.done_cases (h : TaskStep d t c r r') (hdone : r'.row.lifecycle.phase = .done) :
    r.row.lifecycle.phase = .done ∨ c.joins = [] ∧
      (∀ x ∈ d.children t, d.unfinished x.1 = false) ∧
        ∀ p ∈ r.dependencyIds, d.unfinished p = false := by
  cases h with
  | acceptTask _ _ _ hchildren hdependencies => exact .inr ⟨rfl, hchildren, hdependencies⟩
  | markReady | withdrawReadiness | completeExecution | requestChanges | cancelTask => cases hdone
  | claim _ _ _ hclaim =>
    obtain ⟨-, hwork, -⟩ := TaskLifecycle.claim_ok hclaim
    exact absurd (Or.inl hdone) hwork.not_terminal
  | _ => exact .inl hdone

/-- A done Task was done before or has just been accepted. -/
theorem TaskChange.done_cases (h : TaskChange d t c before r')
    (hdone : r'.row.lifecycle.phase = .done) :
    (∃ r ∈ before, r.row.lifecycle.phase = .done) ∨ c.joins = [] ∧
      (∀ x ∈ d.children t, d.unfinished x.1 = false) ∧
        ∀ r ∈ before, ∀ p ∈ r.dependencyIds, d.unfinished p = false := by
  cases h with
  | same => exact .inl ⟨r', rfl, hdone⟩
  | @step r _ step =>
    rcases step.done_cases hdone with hold | ⟨hnil, hchildren, hdependencies⟩
    · exact .inl ⟨r, rfl, hold⟩
    · refine .inr ⟨hnil, hchildren, fun r₁ hr₁ => ?_⟩
      cases hr₁
      exact hdependencies
  | create => cases hdone
  | @update _ _ _ _ old _ _ edited => exact .inl ⟨old, rfl, edited.patched.lifecycle ▸ hdone⟩
  | @follow _ _ _ _ _ _ r _ _ _ _ follows => exact .inl ⟨r, rfl, follows.lifecycle ▸ hdone⟩
  | @attach _ _ _ _ _ _ _ _ r => exact .inl ⟨r, rfl, hdone⟩

end Changes

section Steps

variable {platform : Platform} {R : Rely Db Row} {held : List (Lock Row)} {d' : Db} {c : Cmd}

/-- A Task waits for another from before, or the command has joined the two. -/
theorem Step.awaits_cases (h : Step platform R held d d' c) {x} (hawaits : d'.Awaits t x) :
    d.Awaits t x ∨ (t, x) ∈ c.joins := by
  rcases hawaits with ⟨r', hr', hparent⟩ | ⟨r', hr', hmem⟩
  · rcases (h.taskChange hr').parent_cases hparent with ⟨r, hr, hold⟩ | hjoins
    · exact .inl (.inl ⟨r, hr, hold⟩)
    · exact .inr hjoins
  · rcases (h.taskChange hr').dependency_cases hmem with ⟨r, hr, hold⟩ | hjoins
    · exact .inl (.inr ⟨r, hr, hold⟩)
    · exact .inr hjoins

/-- A commit keeps done Tasks settled unless it joins one of them to an unfinished Task. -/
theorem Step.settled (h : Step platform R held d d' c) (hlaw : Lawful d) (hsettled : d.Settled)
    (hjoins : ∀ x ∈ c.joins, d.done x.1 → d.unfinished x.2 = false) : d'.Settled := by
  intro t x hdone hawaits
  refine (h.footprint hlaw).unfinished ?_
  obtain ⟨r', hr', hphase⟩ := Db.done_iff.mp hdone
  rcases (h.taskChange hr').done_cases hphase with ⟨r, hr, hold⟩ | ⟨hnil, hchildren, hdependencies⟩
  · have hbefore : d.done t := Db.done_iff.mpr ⟨r, hr, hold⟩
    rcases h.awaits_cases hawaits with hawaits₀ | hnew
    · exact hsettled t x hbefore hawaits₀
    · exact hjoins (t, x) hnew hbefore
  · -- The Task has just been accepted, and an acceptance joins nothing.
    rcases h.awaits_cases hawaits with (⟨rx, hrx, hparent⟩ | ⟨r, hr, hmem⟩) | hnew
    · exact hchildren (x, rx) (Db.mem_children.mpr ⟨hrx, hparent⟩)
    · exact hdependencies r hr x hmem
    · rw [hnil] at hnew
      cases hnew

end Steps

/-- Done Tasks are settled as long as nothing unfinished joins them. -/
theorem History.settled {platform log}
    (h : History platform Db.empty log d)
    (hjoins : ∀ e ∈ log, ∀ x ∈ e.cmd.joins, e.before.done x.1 → e.before.unfinished x.2 = false) :
    d.Settled := by
  refine (Serial.history (P := fun log d => Lawful d ∧ ((∀ e ∈ log, ∀ x ∈ e.cmd.joins,
    e.before.done x.1 → e.before.unfinished x.2 = false) → d.Settled)) h ?_ ?_).2 hjoins
  · refine ⟨lawful_empty, fun _ t x hdone _ => ?_⟩
    cases hdone
  · intro e older hv ⟨hlaw, hsettled⟩
    have hstep := step_of_valid hv
    refine ⟨hstep.lawful hlaw, fun hall => hstep.settled hlaw ?_ (hall e List.mem_cons_self)⟩
    exact hsettled fun e' he' => hall e' (List.mem_cons_of_mem e he')

/-- After every schedule in which no commit gives a done Task an unfinished child or dependency,
the children and dependencies of done Tasks are done or cancelled. -/
theorem done_tasks_settled {platform : Platform} {es : Schedule} {cfg : SystemConfig}
    (h : runFrom platform Db.empty es = some cfg)
    (hjoins : ∀ e ∈ cfg.log, ∀ x ∈ e.cmd.joins,
      e.before.done x.1 → e.before.unfinished x.2 = false)
    {t : TaskId} {r : TaskRecord} (hr : cfg.db.task t = some r)
    (hdone : r.row.lifecycle.phase = .done) :
    (∀ c rc, cfg.db.task c = some rc → rc.row.parentTaskId = some t →
      rc.row.lifecycle.phase = .done ∨ rc.row.lifecycle.phase = .cancelled) ∧
    ∀ p ∈ r.dependencyIds, ∃ rp, cfg.db.task p = some rp ∧
      (rp.row.lifecycle.phase = .done ∨ rp.row.lifecycle.phase = .cancelled) := by
  have hsettled := (history_of_runFrom lawful_empty h).settled hjoins
  have hdone' : cfg.db.done t := Db.done_iff.mpr ⟨r, hr, hdone⟩
  constructor
  · intro c rc hrc hparent
    have hfinished := hsettled t c hdone' (.inl ⟨rc, hrc, hparent⟩)
    obtain ⟨rc', hrc', hterminal⟩ := Db.unfinished_eq_false.mp hfinished
    rw [hrc] at hrc'
    cases hrc'
    exact hterminal
  · intro p hp
    exact Db.unfinished_eq_false.mp (hsettled t p hdone' (.inr ⟨r, hr, hp⟩))

/-- A command of the sample user through the given Claim on Task 1. -/
def sampleCall (claimId : Id) (version : Nat) (now : Time) : ClaimCall :=
  { taskNumber := 1, claimId, expectedTaskVersion := version, expectedClaimVersion := 1
    actor := sampleActor, operation := sampleOperation, now, fresh := fun n => 10 * now + n }

/-- Task 1 is executed and claimed for its review. -/
def reviewScript : List Cmd :=
  claimScript ++ [.completeExecution (sampleCall 3001 3 400) "summary" [],
    .claim 1 4 sampleActor sampleOperation "cli" "" 500 fun n => 5000 + n]

/-- Task 2 is created under Task 1 and cancelled; then Task 1 is accepted. -/
def settledScript : List Cmd :=
  reviewScript ++ [sampleCreate 2 (some 1) [],
    .cancelTask 2 1 "not needed" sampleActor sampleOperation 550000 fun n => 5500 + n,
    .acceptTask (sampleCall 5001 5 600) "accepted"]

theorem done_tasks_settled_cancelled :
    ∃ cfg r rc, runFrom asciiPlatform Db.empty
        (.connect (.script settledScript) :: advances 0 103) = some cfg ∧
      cfg.db.task 1 = some r ∧ r.row.lifecycle.phase = .done ∧
      cfg.db.task 2 = some rc ∧ rc.row.parentTaskId = some 1 ∧
      (rc.row.lifecycle.phase = .done ∨ rc.row.lifecycle.phase = .cancelled) := by
  obtain ⟨cfg, hcfg, hjoins, r, hr, hphase, rc, hrc, hparent⟩ :
      ∃ cfg, runFrom asciiPlatform Db.empty
        (.connect (.script settledScript) :: advances 0 103) = some cfg ∧
      (∀ e ∈ cfg.log, ∀ x ∈ e.cmd.joins, e.before.done x.1 → e.before.unfinished x.2 = false) ∧
      ∃ r, cfg.db.task 1 = some r ∧ r.row.lifecycle.phase = .done ∧
      ∃ rc, cfg.db.task 2 = some rc ∧ rc.row.parentTaskId = some 1 := by decide +kernel
  exact ⟨cfg, r, rc, hcfg, hr, hphase, hrc, hparent,
    (done_tasks_settled hcfg hjoins hr hphase).1 2 rc hrc hparent⟩

/-- Task 1 is accepted, and then Task 2 is created under it. -/
def lateChildScript : List Cmd :=
  reviewScript ++ [.acceptTask (sampleCall 5001 5 600) "accepted", sampleCreate 2 (some 1) []]

/-- The done Task has a child in the backlog. -/
theorem done_task_gets_unfinished_child :
    ∃ cfg r rc, runFrom asciiPlatform Db.empty
        (.connect (.script lateChildScript) :: advances 0 94) = some cfg ∧
      cfg.db.task 1 = some r ∧ r.row.lifecycle.phase = .done ∧
      cfg.db.task 2 = some rc ∧ rc.row.parentTaskId = some 1 ∧
      rc.row.lifecycle.phase = .backlog := by
  simp only [exists_and_left]
  decide +kernel

/-! ## The moment of acceptance -/

/-- The check is an answer to the current revision of a criterion in the given review cycle. -/
def AcceptanceCheck.Answers (k : AcceptanceCheck) (criterion : AcceptanceCriterion)
    (cycle : Nat) : Prop :=
  k.criterionId = criterion.id ∧ k.criterionRevision = criterion.revision ∧
    k.purpose = some .acceptance ∧ k.taskReviewCycle = some cycle
deriving Decidable

/-- Whenever an acceptance commits, every active criterion has a passing check of the current
cycle that was recorded through a review Claim of the Task, and all children and dependencies of
the Task are done or cancelled. -/
theorem acceptance_finds_task_complete {platform : Platform} {es : Schedule} {cfg : SystemConfig}
    (h : runFrom platform Db.empty es = some cfg) {e : Entry} (he : e ∈ cfg.log)
    {call : ClaimCall} {summary : String} (hcmd : e.cmd = .acceptTask call summary) :
    ∃ r, e.after.task call.taskNumber = some r ∧
      (∀ criterion ∈ r.activeCriteria, ∃ k ∈ r.checks,
        k.Answers criterion r.row.lifecycle.reviewCycle ∧ k.outcome.Satisfies ∧
        ∃ claim ∈ r.claims, k.taskClaimId = some claim.id ∧ claim.stage = .review) ∧
      (∀ c rc, e.after.task c = some rc → rc.row.parentTaskId = some call.taskNumber →
        rc.row.lifecycle.phase = .done ∨ rc.row.lifecycle.phase = .cancelled) ∧
      ∀ p ∈ r.dependencyIds, ∃ rp, e.after.task p = some rp ∧
        (rp.row.lifecycle.phase = .done ∨ rp.row.lifecycle.phase = .cancelled) := by
  obtain ⟨newer, older, -, hbefore, hafter, hstep⟩ := commit_of_runFrom h he
  have hkept := hstep.footprint (hbefore.lawful lawful_empty)
  rw [hcmd] at hstep
  cases hstep with
  | @onTask _ _ r r' on step =>
    cases step with
    | acceptTask howns hwork hcriteria hchildren hdependencies =>
      refine ⟨_, on.after, ?_, ?_, ?_⟩
      · intro criterion hcriterion
        obtain ⟨k, hk, hid, hrevision, hpurpose, hcycle, hsatisfies⟩ :=
          hcriteria criterion hcriterion
        refine ⟨k, hk, ⟨hid, hrevision, hpurpose, hcycle⟩, hsatisfies, ?_⟩
        rcases hafter.checksClaimed on.after k hk with hnone | ⟨claim, hclaim, hthrough, hstage⟩
        · rw [hpurpose] at hnone
          cases hnone
        · refine ⟨claim, hclaim, hthrough, ?_⟩
          rw [hpurpose] at hstage
          cases hs : claim.stage with
          | review => rfl
          | execution => simp [hs] at hstage
      · intro c rc hrc hparent
        by_cases hc : c = call.taskNumber
        · subst hc
          rw [on.after] at hrc
          cases hrc
          exact .inl rfl
        · have hchild : (c, rc) ∈ e.before.children call.taskNumber :=
            Db.mem_children.mpr ⟨(on.other c hc).symm.trans hrc, hparent⟩
          obtain ⟨rc', hrc', hterminal⟩ :=
            Db.unfinished_eq_false.mp (hkept.unfinished (hchildren _ hchild))
          rw [hrc] at hrc'
          cases hrc'
          exact hterminal
      · intro p hp
        exact Db.unfinished_eq_false.mp (hkept.unfinished (hdependencies p hp))
  | side side => cases side.aside

/-- The criterion of the samples. -/
def sampleCriterion : AcceptanceCriterion :=
  { id := 0, version := 0, criterion := "it works", verificationInstructions := "try it"
    revision := 0, position := 0, archivedAt := none }

/-- A check of the sample criterion, which is stored as 5601. -/
def sampleCheck (outcome : AcceptanceOutcome) : AcceptanceCheck :=
  { id := 0, criterionId := 5601, criterionRevision := 1, outcome, evidence := "seen"
    checker := ⟨.unset, none, ""⟩, checkedAt := 0, purpose := none, taskClaimId := none
    taskReviewCycle := none }

/-- During its review Task 1 gets a criterion and the given checks of it, and is accepted. -/
def checkedScript (outcomes : List (Time × AcceptanceOutcome)) : List Cmd :=
  reviewScript ++
    [.createCriterion 1 5 sampleCriterion sampleOperation (fun n => 560 + n) fun n => 5601 + n] ++
    (outcomes.map fun o => .recordAcceptanceCheck (sampleCall 5001 6 o.1) (sampleCheck o.2)) ++
    [.acceptTask (sampleCall 5001 6 600) "accepted"]

/-- The Task that a command accepts. -/
def Cmd.accepts : Cmd → Option TaskId
  | .acceptTask call _ => some call.taskNumber
  | _ => none

theorem Cmd.accepts_eq_some {c : Cmd} (h : c.accepts = some t) :
    ∃ call summary, c = .acceptTask call summary ∧ call.taskNumber = t := by
  cases c with
  | acceptTask call summary => exact ⟨call, summary, rfl, Option.some.inj h⟩
  | _ => cases h

theorem acceptance_finds_task_complete_passed :
    ∃ cfg e r, runFrom asciiPlatform Db.empty (.connect (.script
        (checkedScript [(570, .passed)])) :: advances 0 99) = some cfg ∧
      e ∈ cfg.log ∧ e.after.task 1 = some r ∧ r.activeCriteria.length = 1 ∧
      ∀ criterion ∈ r.activeCriteria, ∃ k ∈ r.checks,
        k.Answers criterion r.row.lifecycle.reviewCycle ∧ k.outcome.Satisfies ∧
        ∃ claim ∈ r.claims, k.taskClaimId = some claim.id ∧ claim.stage = .review := by
  obtain ⟨cfg, hcfg, e, he, haccepts, r, hr, hone⟩ : ∃ cfg, runFrom asciiPlatform Db.empty
        (.connect (.script (checkedScript [(570, .passed)])) :: advances 0 99) = some cfg ∧
      ∃ e ∈ cfg.log, e.cmd.accepts = some 1 ∧
      ∃ r, e.after.task 1 = some r ∧ r.activeCriteria.length = 1 := by decide +kernel
  obtain ⟨call, summary, hcmd, hcall⟩ := Cmd.accepts_eq_some haccepts
  obtain ⟨r', hr', hcriteria, -⟩ := acceptance_finds_task_complete hcfg he hcmd
  rw [hcall, hr] at hr'
  cases hr'
  exact ⟨cfg, e, r, hcfg, he, hr, hone, hcriteria⟩

/-- A criterion passes and then fails, and the Task is accepted all the same. -/
theorem accepted_after_failed_check :
    ∃ cfg e r criterion k, runFrom asciiPlatform Db.empty (.connect (.script
        (checkedScript [(570, .passed), (580, .failed)])) :: advances 0 110) = some cfg ∧
      e ∈ cfg.log ∧ e.cmd.accepts = some 1 ∧ e.after.task 1 = some r ∧
      criterion ∈ r.activeCriteria ∧ k ∈ r.checks ∧
      k.Answers criterion r.row.lifecycle.reviewCycle ∧ k.outcome = .failed ∧
      ∀ k' ∈ r.checks, k'.Answers criterion r.row.lifecycle.reviewCycle →
        k'.checkedAt ≤ k.checkedAt := by
  simp only [exists_and_left]
  decide +kernel

end Pactline
