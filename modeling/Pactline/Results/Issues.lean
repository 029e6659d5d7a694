import Pactline.Analysis.Issues
import Pactline.Results.Completion

/-!
# The record of an Issue

An open Issue has one request and nothing that closes it, and a resolved one has one request, one
resolution and one summary in the Main Thread, whether it was resolved or its Task cancelled. The
summary has the nanoseconds of its times, of which the Issue keeps the microseconds.
-/

set_option autoImplicit false

namespace Pactline

open ReadCommitted

/-- The Items of every Issue are those that its status says, and the summary of a resolved Issue
repeats its request and its resolution. -/
theorem issues_have_their_items {platform : Platform} {es : Schedule} {cfg : SystemConfig}
    (h : runFrom platform Db.empty es = some cfg) {t : TaskId} {r : TaskRecord}
    (hr : cfg.db.task t = some r) {thread : Thread} (hthread : thread ∈ r.threads)
    (hissue : thread.role = .issue) :
    (thread.issueStatus = some .resolved → ∃ request resolution summary payload,
      r.Opened thread request ∧ r.Closed thread request resolution summary payload) ∧
    (thread.issueStatus = some .open → ∃ request, r.Opened thread request ∧
      r.resolutions thread.id = [] ∧ r.summaries thread.id = []) ∧
    (thread.issueStatus = some .resolved ∨ thread.issueStatus = some .open) := by
  have hrecorded := (history_of_runFrom lawful_empty h).issuesRecorded hr
  cases hrecorded.issues thread hthread hissue with
  | opened status opened resolutions summaries =>
    refine ⟨fun hresolved => ?_, fun _ => ⟨_, opened, resolutions, summaries⟩, .inr status⟩
    rw [status] at hresolved
    cases hresolved
  | resolved status opened closed =>
    refine ⟨fun _ => ⟨_, _, _, _, opened, closed⟩, fun hopen => ?_, .inl status⟩
    rw [status] at hopen
    cases hopen

/-- Work on Task 1 needs a decision, which is given; then it needs another one, and the Task is
cancelled. -/
def issueScript : List Cmd :=
  claimScript ++ [.requestResolution (sampleCall 3001 3 400) .decisionRequired "which one?",
    .resolveIssue 1 4 4000 1 "the first" sampleActor sampleOperation 500123 fun n => 5000 + n,
    .claim 1 5 sampleActor sampleOperation "cli" "" 600 fun n => 6000 + n,
    .requestResolution (sampleCall 6001 6 700) .decisionRequired "and now?",
    .cancelTask 1 7 "not needed" sampleActor sampleOperation 800000 fun n => 8000 + n]

/-- Both Issues of the script have their records. -/
theorem issues_have_their_items_cancelled :
    ∃ cfg r, runFrom asciiPlatform Db.empty
        (.connect (.script issueScript) :: advances 0 114) = some cfg ∧
      cfg.db.task 1 = some r ∧ r.threads.map (·.id) = [1001, 4000, 7000] ∧
      ∀ thread ∈ r.threads, thread.role = .issue → ∃ request resolution summary payload,
        r.Opened thread request ∧ r.Closed thread request resolution summary payload := by
  obtain ⟨cfg, hcfg, r, hr, hids, hall⟩ : ∃ cfg, runFrom asciiPlatform Db.empty
        (.connect (.script issueScript) :: advances 0 114) = some cfg ∧
      ∃ r, cfg.db.task 1 = some r ∧ r.threads.map (·.id) = [1001, 4000, 7000] ∧
        ∀ thread ∈ r.threads, thread.role = .issue → thread.issueStatus = some .resolved := by
    decide +kernel
  refine ⟨cfg, r, hcfg, hr, hids, fun thread hthread hissue => ?_⟩
  exact (issues_have_their_items hcfg hr hthread hissue).1 (hall thread hthread hissue)

/-- **The time of a resolution** is not the same in the Issue and in its summary: the payload has
the nanoseconds that the columns leave out. -/
theorem resolution_cut_to_microseconds :
    ∃ cfg, runFrom asciiPlatform Db.empty
        (.connect (.script issueScript) :: advances 0 114) = some cfg ∧
      ∃ r, cfg.db.task 1 = some r ∧ ∃ thread ∈ r.threads, thread.role = .issue ∧
        ∃ summary ∈ r.summaries thread.id, ∃ payload, summary.issueResolution = some payload ∧
          thread.resolvedAt.map Time.instant = some 500000 ∧ payload.resolvedAt = 500123 := by
  decide +kernel

end Pactline
