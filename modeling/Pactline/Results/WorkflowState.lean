import Pactline.Analysis.Work
import Pactline.Results.TaskStructure

/-!
# The rows of a Task agree

The phase and the activity of every Task say what its Claims and its Issue Threads say
(`Pactline.Analysis.Work`). The time of completion follows the phase as well, if nobody writes the
older status column: a creation with status `done` completes a Task that is still in the backlog.
-/

set_option autoImplicit false

namespace Pactline

open ReadCommitted

/-! ## The time of completion -/

/-- A row is completed in phase `done` and in no other. -/
def TaskRow.CompletedWhenDone (row : TaskRow) : Prop :=
  row.completedAt.isSome ↔ row.lifecycle.phase = .done

/-- The command does not complete a Task through the status column. -/
def Cmd.keepsStatus : Cmd → Bool
  | .create _ draft _ _ _ _ _ => draft.statusOrDefault ≠ .done
  | .update _ _ patch _ _ => patch.status = none
  | _ => true

section Completion

variable {d : Db} {t : TaskId} {c : Cmd} {r r' : TaskRecord}

/-- The statement that stores a lifecycle stores the time of completion with it. -/
theorem TaskRecord.completedWhenDone_advance (r : TaskRecord) (l : TaskLifecycle)
    (issue : Option Id) (now : Time) : (r.advance l issue now).row.CompletedWhenDone := by
  unfold TaskRow.CompletedWhenDone
  by_cases hdone : l.phase = .done <;> simp [hdone]

theorem TaskStep.completedWhenDone (h : TaskStep d t c r r') (hr : r.row.CompletedWhenDone) :
    r'.row.CompletedWhenDone := by
  cases h with
  | keepClaim | recordWorkSubmission | recordAcceptanceCheck | recordClaimProgress
  | createCriterion | updateCriterion | addCheck | deleteCriterion | archiveCriterion
  | setArchived => exact hr
  | _ => exact TaskRecord.completedWhenDone_advance _ _ _ _

theorem TaskChange.completedWhenDone {before}
    (h : TaskChange d t c before r') (hstatus : c.keepsStatus)
    (hbefore : ∀ r ∈ before, r.row.CompletedWhenDone) : r'.row.CompletedWhenDone := by
  cases h with
  | same => exact hbefore _ rfl
  | step step => exact step.completedWhenDone (hbefore _ rfl)
  | create cmd =>
    subst cmd
    have hnot := of_decide_eq_true hstatus
    refine iff_of_false ?_ nofun
    simp [TaskDraft.created, TaskDraft.record, TaskDraft.row, hnot]
  | update cmd edited =>
    subst cmd
    have hsame := edited.patched.status
    rw [of_decide_eq_true hstatus, Option.getD_none] at hsame
    unfold TaskRow.CompletedWhenDone
    rw [edited.completed hsame, edited.patched.lifecycle]
    exact hbefore _ rfl
  | follow _ _ _ follows =>
    unfold TaskRow.CompletedWhenDone
    rw [follows.lifecycle, follows.completedAt]
    exact hbefore _ rfl
  | @attach _ _ _ _ _ _ _ _ r => exact hbefore r rfl

end Completion

theorem History.completedWhenDone {platform} {d : Db} {log}
    (h : History platform Db.empty log d) (hstatus : ∀ e ∈ log, e.cmd.keepsStatus) {t}
    {r : TaskRecord} (hr : d.task t = some r) : r.row.CompletedWhenDone := by
  refine h.task_history
    (P := fun log _ r => (∀ e ∈ log, e.cmd.keepsStatus) → r.row.CompletedWhenDone)
    ?_ t r hr hstatus
  intro e older t r' _ hbefore hchange hall
  refine hchange.completedWhenDone (hall e List.mem_cons_self) fun r hr => ?_
  exact hbefore t r hr fun e' he' => hall e' (List.mem_cons_of_mem e he')

/-! ## The agreement -/

section Agreement

variable {r : TaskRecord} {w : Work}

/-- The one Claim of a Task that is worked on is of the stage of the phase. -/
theorem TaskRecord.Doing.claimed_iff (h : r.Doing w) :
    (∃ c, w = .claimed c) ↔ ∃ c, r.activeClaims = [c] ∧
      (r.row.lifecycle.phase = .inProgress → c.stage = .execution) ∧
      (r.row.lifecycle.phase = .inReview → c.stage = .review) := by
  constructor
  · rintro ⟨c, rfl⟩
    refine ⟨c, h.claims, ?_, ?_⟩
    · intro hphase
      rw [h.fits.stage_eq, hphase]
      rfl
    · intro hphase
      rw [h.fits.stage_eq, hphase]
      rfl
  · rintro ⟨c, hc, -⟩
    rw [h.claims] at hc
    cases w with
    | claimed c => exact ⟨c, rfl⟩
    | idle => cases hc
    | blocked => cases hc

/-- The one open Issue of a blocked Task is the one its row names. -/
theorem TaskRecord.Doing.blocked_iff (h : r.Doing w) :
    (∃ i, w = .blocked i) ↔ ∃ i, r.openIssues = [i] ∧
      r.row.activeIssueThreadId = some i.id ∧
      i.openedFromPhase = some r.row.lifecycle.phase := by
  constructor
  · rintro ⟨i, rfl⟩
    exact ⟨i, h.issues, h.issue, h.fits.2.2⟩
  · rintro ⟨i, hi, -⟩
    rw [h.issues] at hi
    cases w with
    | blocked i => exact ⟨i, rfl⟩
    | idle => cases hi
    | claimed => cases hi

end Agreement

/-- After every schedule of commands that leave the status column alone, the rows of every Task
agree about the work on it, and its time of completion about its phase. -/
theorem workflow_rows_agree {platform : Platform} {es : Schedule} {cfg : SystemConfig}
    (h : runFrom platform Db.empty es = some cfg)
    (hstatus : ∀ e ∈ cfg.log, e.cmd.keepsStatus) {t : TaskId} {r : TaskRecord}
    (hr : cfg.db.task t = some r) :
    (r.row.lifecycle.activity = .working ↔ ∃ c, r.activeClaims = [c] ∧
      (r.row.lifecycle.phase = .inProgress → c.stage = .execution) ∧
      (r.row.lifecycle.phase = .inReview → c.stage = .review)) ∧
    (r.row.lifecycle.activity = .needsResolution ↔ ∃ i, r.openIssues = [i] ∧
      r.row.activeIssueThreadId = some i.id ∧
      i.openedFromPhase = some r.row.lifecycle.phase) ∧
    (r.row.lifecycle.phase = .inReview → 1 ≤ r.row.lifecycle.reviewCycle) ∧
    (r.row.completedAt.isSome ↔ r.row.lifecycle.phase = .done) ∧
    (r.row.archivedAt.isSome →
      r.row.lifecycle.activity ≠ .working ∧ r.row.lifecycle.activity ≠ .needsResolution) := by
  have hhistory := history_of_runFrom lawful_empty h
  obtain ⟨w, hw⟩ := hhistory.doing hr
  refine ⟨?_, ?_, hw.cycle, hhistory.completedWhenDone hstatus hr, ?_⟩
  · rw [hw.working_iff, hw.claimed_iff]
  · rw [hw.needsResolution_iff, hw.blocked_iff]
  · intro harchived
    have hidle := hw.archived harchived
    subst hidle
    constructor
    · intro hworking
      obtain ⟨c, hc⟩ := hw.working_iff.mp hworking
      cases hc
    · intro hneeds
      obtain ⟨i, hi⟩ := hw.needsResolution_iff.mp hneeds
      cases hi

/-- The person behind `sampleOperation`. -/
def sampleActor : Actor := ⟨.user, some 7, ""⟩

/-- A Task is created, marked ready and claimed. -/
def claimScript : List Cmd :=
  [sampleCreate 1 none [], .markReady 1 1 sampleOperation 200 fun n => 2000 + n,
    .claim 1 2 sampleActor sampleOperation "cli" "" 300 fun n => 3000 + n]

/-- The Task of the script is worked on through one Claim, of the stage of its phase. -/
theorem workflow_rows_agree_claimed :
    ∃ cfg r c, runFrom asciiPlatform Db.empty
        (.connect (.script claimScript) :: advances 0 33) = some cfg ∧
      cfg.db.task 1 = some r ∧ r.row.lifecycle.phase = .inProgress ∧ r.activeClaims = [c] ∧
      c.stage = .execution := by
  obtain ⟨cfg, hcfg, hstatus, r, hr, hphase, hworking⟩ : ∃ cfg, runFrom asciiPlatform Db.empty
        (.connect (.script claimScript) :: advances 0 33) = some cfg ∧
      (∀ e ∈ cfg.log, e.cmd.keepsStatus) ∧ ∃ r, cfg.db.task 1 = some r ∧
        r.row.lifecycle.phase = .inProgress ∧ r.row.lifecycle.activity = .working := by
    decide +kernel
  obtain ⟨c, hc, hstage, -⟩ := (workflow_rows_agree hcfg hstatus hr).1.mp hworking
  exact ⟨cfg, r, c, hcfg, hr, hphase, hc, hstage hphase⟩

/-- A Task that is created with status `done`. -/
def createDone : Cmd :=
  .create 1 { sampleDraft none with status := some .done } [] [] sampleOperation 1001
    fun n => 100 + n

/-- It is completed in the backlog. -/
theorem created_done_in_backlog :
    ∃ cfg r, runFrom asciiPlatform Db.empty
        (.connect (.script [createDone]) :: advances 0 11) = some cfg ∧
      cfg.db.task 1 = some r ∧ r.row.completedAt.isSome ∧ r.row.lifecycle.phase = .backlog := by
  simp only [exists_and_left]
  decide +kernel

end Pactline
