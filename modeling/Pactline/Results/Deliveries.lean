import Pactline.Analysis.Delivery
import Pactline.Results.Completion

/-!
# What an execution completion lists

The payload that a completed execution stores lists the work submissions and the execution checks
since the previous completion, the current revisions of the active criteria and snapshots of the
active links, and nothing else; and no submission or check is listed in two cycles.
-/

set_option autoImplicit false

namespace Pactline

open ReadCommitted

variable {t : TaskId} {r : TaskRecord}

/-- The Item of a completion, its payload, and what the payload lists: `r` is the Task before the
commit and `older` the log before it. -/
structure Completes (t : TaskId) (itemId : Id) (older : List Entry) (r r' : TaskRecord)
    (item : ThreadItem) (payload : ExecutionCompletedPayload) : Prop where
  stored : item ∈ r'.items
  only : ∀ i ∈ r'.items, i.id = itemId → i = item
  id_eq : item.id = itemId
  kind : item.kind = .executionCompleted
  payload_eq : item.executionCompleted = some payload
  submissions : payload.submissionItemIds.Perm (recordedSince t (submission t) older)
  checks : payload.executionCheckIds.Perm (recordedSince t (executionCheck t) older)
  criteria : payload.criterionRevisions.Perm
    (r.activeCriteria.map fun c => ⟨c.id, c.revision⟩)
  links : (payload.codeChanges.map (·.taskCodeChangeId)).Perm (r.activeLinks.map (·.id))

/-- A completion stores an Item of its own, and its payload is read off the Task it found. -/
theorem TaskStep.completes {d r' older} {call : ClaimCall}
    {summary codeChanges}
    (step : TaskStep d t (.completeExecution call summary codeChanges) r r')
    (hdelivers : Delivers t older r) (hnodup : (r.codeChanges.map (·.id)).Nodup) :
    ∃ item payload, Completes t (call.fresh 0) older r r' item payload := by
  cases step with
  | @completeExecution _ _ _ _ main _ item howns _ hsnapshots hitem haccepts =>
    subst hitem
    refine ⟨_, _, List.mem_append_right _ (List.mem_singleton_self _), ?_, rfl, rfl, rfl, ?_, ?_,
      (List.perm_insertionSort _ _).map _, hsnapshots.perm hnodup⟩
    · -- The store accepts the Item only if no other has its identity.
      intro i hi hid
      rcases List.mem_append.mp hi with hold | hnew
      · exact absurd hid (haccepts.1 i hold)
      · exact List.mem_singleton.mp hnew
    · rw [← hdelivers.submissions]
      exact hdelivers.submissionItemIds_perm howns.mainThread _
    · rw [← hdelivers.checks]
      exact hdelivers.executionCheckIds_perm _

/-- The payloads of two cycles have nothing in common. -/
theorem Delivers.disjoint {log} (h : Delivers t log r)
    {p p' : ExecutionCompletedPayload} (hp : p ∈ r.payloads) (hp' : p' ∈ r.payloads)
    (hcycle : p.reviewCycle ≠ p'.reviewCycle) :
    p.submissionItemIds.Disjoint p'.submissionItemIds ∧
      p.executionCheckIds.Disjoint p'.executionCheckIds := by
  obtain ⟨n, hn, hsubmitted, hchecked⟩ := h.payloads p hp
  obtain ⟨n', hn', hsubmitted', hchecked'⟩ := h.payloads p' hp'
  have hne : n ≠ n' := fun heq => hcycle (by rw [hn, hn', heq])
  constructor
  · -- An identity stands for one submission, and that has one stamp.
    intro id hid hid'
    obtain ⟨i, hi, heq, hstamp⟩ := hsubmitted id hid
    obtain ⟨i', hi', heq', hstamp'⟩ := hsubmitted' id hid'
    have hsame := List.inj_on_of_nodup_map h.submissionIds hi hi' (heq.trans heq'.symm)
    subst hsame
    rw [hstamp, Option.some.injEq] at hstamp'
    omega
  · intro id hid hid'
    obtain ⟨k, hk, heq, hstamp⟩ := hchecked id hid
    obtain ⟨k', hk', heq', hstamp'⟩ := hchecked' id hid'
    have hsame := List.inj_on_of_nodup_map h.checkIds hk hk' (heq.trans heq'.symm)
    subst hsame
    rw [hstamp, Option.some.injEq] at hstamp'
    exact hne hstamp'

/-- Every committed completion stores a payload that lists exactly what belongs to its cycle, and no
submission or check is listed in the payloads of two cycles. -/
theorem completions_list_deliveries {platform : Platform} {es : Schedule} {cfg : SystemConfig}
    (h : runFrom platform Db.empty es = some cfg) :
    (∀ e ∈ cfg.log, ∀ call summary codeChanges,
      e.cmd = .completeExecution call summary codeChanges →
      ∃ newer older r r' item payload, cfg.log = newer ++ e :: older ∧
        e.before.task call.taskNumber = some r ∧ e.after.task call.taskNumber = some r' ∧
        Completes call.taskNumber (call.fresh 0) older r r' item payload) ∧
    ∀ t r, cfg.db.task t = some r → ∀ p ∈ r.payloads, ∀ p' ∈ r.payloads,
      p.reviewCycle ≠ p'.reviewCycle →
      p.submissionItemIds.Disjoint p'.submissionItemIds ∧
        p.executionCheckIds.Disjoint p'.executionCheckIds := by
  refine ⟨fun e he call summary codeChanges hcmd => ?_, fun t r hr p hp p' hp' hcycle => ?_⟩
  · obtain ⟨newer, older, hlog, hbefore, -, hstep⟩ := commit_of_runFrom h he
    obtain ⟨r, r', hon, step⟩ := hstep.delivers (t := call.taskNumber) (by rw [hcmd]; rfl)
    have hdelivers := hbefore.delivers hon.before
    have hnodup := hbefore.nodup_links hon.before
    rw [hcmd] at step
    obtain ⟨item, payload, hcompletes⟩ := step.completes hdelivers hnodup
    exact ⟨newer, older, r, r', item, payload, hlog, hon.before, hon.after, hcompletes⟩
  · exact ((history_of_runFrom lawful_empty h).delivers hr).disjoint hp hp' hcycle

/-! ## A Task that is executed twice -/

def sampleChange : CodeChange :=
  ⟨.gitHub, .pullRequest, "12", 3, "https", ⟨.confirmed, 310, "title", some .opened, false, "work",
    "main", "sha", none, none, 310⟩⟩

/-- The snapshot of the link to the sample change, which is stored as 3200. -/
def sampleSnapshot : CodeChangeSnapshot :=
  ⟨3200, 9, 8, .gitHub, "repository", .pullRequest, 3, "12", "https", "title", some .opened, false,
    "work", "main", "sha", none, none, .confirmed, 310⟩

/-- Task 1 gets a criterion and a link and is executed with two submissions and a check; its review
asks for changes, and it is executed again with one submission and one check. -/
def deliveryScript : List Cmd :=
  claimScript ++
    [.createCriterion 1 3 sampleCriterion sampleOperation (fun n => 310 + n) fun n => 5601 + n,
      .setRepository 9 ⟨5, 8, .gitHub, true, true⟩, .link (sampleCall 3001 4 320) 9 sampleChange,
      .recordWorkSubmission (sampleCall 3001 5 330) "work",
      .recordWorkSubmission (sampleCall 3001 5 340) "more",
      .recordAcceptanceCheck (sampleCall 3001 5 350) (sampleCheck .passed),
      .completeExecution (sampleCall 3001 5 400) "summary" [sampleSnapshot],
      .claim 1 6 sampleActor sampleOperation "cli" "" 500 fun n => 5000 + n,
      .requestChanges (sampleCall 5001 7 550) "not yet",
      .claim 1 8 sampleActor sampleOperation "cli" "" 600 fun n => 6000 + n,
      .recordWorkSubmission (sampleCall 6001 9 650) "better",
      .recordAcceptanceCheck (sampleCall 6001 9 660) (sampleCheck .passed),
      .completeExecution (sampleCall 6001 9 700) "summary" [sampleSnapshot]]

/-- The completions of the script store their payloads. -/
theorem completions_list_deliveries_script :
    ∃ cfg r, runFrom asciiPlatform Db.empty
        (.connect (.script deliveryScript) :: advances 0 185) = some cfg ∧
      cfg.db.task 1 = some r ∧
      r.payloads.map (fun p => (p.submissionItemIds, p.executionCheckIds)) =
        [([3300, 3400], [3500]), ([6500], [6600])] ∧
      (∃ e ∈ cfg.log, ∃ itemId older r r' item payload, e.cmd.completesExecution 1 = true ∧
        Completes 1 itemId older r r' item payload) ∧
      ∀ p ∈ r.payloads, ∀ p' ∈ r.payloads, p.reviewCycle ≠ p'.reviewCycle →
        p.submissionItemIds.Disjoint p'.submissionItemIds := by
  obtain ⟨cfg, hcfg, ⟨e, he, hcompletes⟩, r, hr, hpayloads⟩ : ∃ cfg, runFrom asciiPlatform Db.empty
        (.connect (.script deliveryScript) :: advances 0 185) = some cfg ∧
      (∃ e ∈ cfg.log, e.cmd.completesExecution 1 = true) ∧ ∃ r, cfg.db.task 1 = some r ∧
      r.payloads.map (fun p => (p.submissionItemIds, p.executionCheckIds)) =
        [([3300, 3400], [3500]), ([6500], [6600])] := by decide +kernel
  obtain ⟨call, summary, codeChanges, hcmd, htask⟩ := Cmd.completesExecution_iff.mp hcompletes
  obtain ⟨hlists, hdisjoint⟩ := completions_list_deliveries hcfg
  obtain ⟨newer, older, r₁, r₂, item, payload, -, -, -, hstored⟩ :=
    hlists e he call summary codeChanges hcmd
  exact ⟨cfg, r, hcfg, hr, hpayloads, ⟨e, he, _, older, r₁, r₂, item, payload, hcompletes,
    htask ▸ hstored⟩, fun p hp p' hp' hcycle => (hdisjoint 1 r hr p hp p' hp' hcycle).1⟩

end Pactline
