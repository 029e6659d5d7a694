import Pactline.Analysis.Isolation
import Pactline.Analysis.ClaimRows

/-!
# The workflow commands refine the steps of a Task

A committed run of a command of the workflow store, amid any other transactions, is one step of
`TaskStep` on the rows of its Task and changes nothing else.
-/

set_option autoImplicit false

namespace Pactline

open ReadCommitted Owned TaskStageClaim TaskLifecycle List

variable {kind : ThreadItemKind} {author : Actor} {claimId : Id} {outcome : TaskClaimOutcome}
  {request resolution : String} {criterion : AcceptanceCriterion} {check : AcceptanceCheck}
  {readiness : TaskCompletionReadiness} {held₁ : List (Lock Row)} {d₀ d₁ : Db}

variable {t : TaskId} {r : TaskRecord} {task : WorkflowTask} {v cycle : Nat} {u : Unit} {now : Time}
  {claim : TaskStageClaim} {id threadId : Id} {body reason summary : String}
  {operation : OperationActor} {call : ClaimCall} {x : WorkflowTask × TaskStageClaim}
  {main issue : Thread} {codeChanges : List CodeChangeSnapshot} {actor : Actor} {fresh : Nat → Id}

/-! ## The Task as a command sees it -/

@[simps] def TaskRecord.asWorkflowTask (r : TaskRecord) (t : TaskId) (main : Thread) :
    WorkflowTask :=
  { taskNumber := t, version := r.row.version, lifecycle := r.row.lifecycle
    activeIssueThreadId := r.row.activeIssueThreadId, mainThreadId := main.id
    archivedAt := r.row.archivedAt, projectId := r.row.projectId }

theorem scanWorkflowTask_ok (h : scanWorkflowTask t r = .ok task) :
    ∃ main, r.mainThread = some main ∧ r.row.lifecycle.validate = .ok () ∧
      task = r.asWorkflowTask t main := by
  unfold scanWorkflowTask at h
  cases hmain : r.mainThread with
  | none => simp [hmain] at h
  | some main =>
    simp only [hmain, ok_rules] at h
    obtain ⟨_, hvalid, rfl⟩ := h
    exact ⟨main, rfl, hvalid, rfl⟩

/-! ## Single statements

For each statement: what it asks of the record it owns, and what it leaves.
-/

section Statements

variable {R : Rely Db Row} {c : Cell Db TaskRecord} {held held' : List (Lock Row)} {d : Db}
  {r' : TaskRecord}

@[simp] theorem runs_lockWorkflowTask :
    (lockWorkflowTask t).Runs R c held d r task held' r' ↔
      scanWorkflowTask t r = .ok task ∧ held' = held ∧ r' = r := by
  simp [lockWorkflowTask]

@[simp] theorem runs_requireVersion :
    (requireVersion task v).Runs R c held d r u held' r' ↔
      task.version = v ∧ held' = held ∧ r' = r := by
  simp [requireVersion]

@[simp] theorem runs_persistWorkflowTask {task'} :
    (persistWorkflowTask task v now).Runs R c held d r task' held' r' ↔
      task.lifecycle.validate = .ok () ∧ r.row.version = v ∧
        task' = { task with version := v + 1 } ∧ held' = held ∧
        r' = r.advance task.lifecycle task.activeIssueThreadId now := by
  simp only [persistWorkflowTask, rules, peel]
  constructor
  · rintro ⟨hvalid, rfl, htask, hheld, hr'⟩
    exact ⟨hvalid, rfl, htask, hheld, hr'⟩
  · rintro ⟨hvalid, rfl, htask, hheld, hr'⟩
    exact ⟨hvalid, rfl, htask, hheld, hr'⟩

@[simp] theorem runs_lockActiveTaskStageClaim :
    lockActiveTaskStageClaim.Runs R c held d r claim held' r' ↔
      r.activeClaim = some claim ∧ held' = ⟨.claim claim.id, .update⟩ :: held ∧ r' = r := by
  simp [lockActiveTaskStageClaim, and_assoc]

@[simp] theorem runs_insertTaskStageClaim :
    (insertTaskStageClaim claim).Runs R c held d r u held' r' ↔
      claim.validate = .ok () ∧
        (∃ d₀ d₁, R.rel (⟨.claim claim.id, .update⟩ :: held) d₀ d₁ ∧ c.get d₁ = some r ∧
          c.Else d d₁ ∧ d₀.claim claim.id = none) ∧
        (claim.status = .active → ∀ x ∈ r.claims, x.status ≠ .active) ∧
        held' = ⟨.claim claim.id, .update⟩ :: held ∧
        r' = r.addClaim { claim with claimedBy := storedActor claim.claimedBy } := by
  simp only [insertTaskStageClaim, rules, peel]
  refine and_congr_right fun _ => ?_
  constructor
  · rintro ⟨existing, ⟨d₀, d₁, hrel, hget, helse, rfl⟩, hnone, h⟩
    exact ⟨⟨d₀, d₁, hrel, hget, helse, hnone⟩, h⟩
  · rintro ⟨⟨d₀, d₁, hrel, hget, helse, hnone⟩, h⟩
    exact ⟨_, ⟨d₀, d₁, hrel, hget, helse, rfl⟩, hnone, h⟩

@[simp] theorem runs_updateTaskStageClaim :
    (updateTaskStageClaim claim v).Runs R c held d r u held' r' ↔
      (r.claims.filter fun x => x.id = claim.id ∧ x.version = v).length = 1 ∧ held' = held ∧
        r' = r.setClaim claim v := by
  simp [updateTaskStageClaim, and_assoc, Unique.exists_iff]

@[simp] theorem runs_insertTaskThreadItem {item : ThreadItem} :
    (insertTaskThreadItem item).Runs R c held d r u held' r' ↔
      item.validate = .ok () ∧ r.AcceptsItem item ∧ held' = held ∧ r' = r.addItem item.stored := by
  simp [insertTaskThreadItem, TaskRecord.AcceptsItem, ThreadItem.stored, and_assoc,
    Unique.exists_iff]

@[simp] theorem runs_insertWorkflowItem {payload} :
    (insertWorkflowItem id threadId kind author body payload now).Runs R c held d r u held' r' ↔
      (workflowItem id threadId kind author body payload now).validate = .ok () ∧
        r.AcceptsItem (workflowItem id threadId kind author body payload now) ∧ held' = held ∧
        r' = r.addItem (workflowItem id threadId kind author body payload now).stored :=
  runs_insertTaskThreadItem

@[simp] theorem runs_insertDeliveryWorkflowItem {payload} :
    (insertDeliveryWorkflowItem id threadId kind author body claimId cycle payload now).Runs
        R c held d r u held' r' ↔
      (deliveryItem id threadId kind author body claimId cycle payload now).validate = .ok () ∧
        r.AcceptsItem (deliveryItem id threadId kind author body claimId cycle payload now) ∧
        held' = held ∧
        r' = r.addItem
          (deliveryItem id threadId kind author body claimId cycle payload now).stored :=
  runs_insertTaskThreadItem

@[simp] theorem runs_insertBusinessAudit {event : BusinessAuditEvent} :
    (insertBusinessAudit event).Runs R c held d r u held' r' ↔
      event.validate = .ok () ∧ held' = held ∧ r' = r.addAudit event := by
  simp [insertBusinessAudit, Unique.exists_iff]

/-! ### Claims and Issues -/

@[simp] theorem runs_insertSystemEvent :
    (insertSystemEvent id task body now).Runs R c held d r u held' r' ↔
      (systemEvent id task.mainThreadId body now).validate = .ok () ∧
        r.AcceptsItem (systemEvent id task.mainThreadId body now) ∧ held' = held ∧
        r' = r.addItem (systemEvent id task.mainThreadId body now).stored :=
  runs_insertWorkflowItem

@[simp] theorem runs_insertWorkflowAudit {action} :
    (insertWorkflowAudit task operation action now).Runs R c held d r u held' r' ↔
      (⟨now, operation, "task", task.taskNumber, action⟩ : BusinessAuditEvent).validate = .ok () ∧
        held' = held ∧ r' = r.addAudit ⟨now, operation, "task", task.taskNumber, action⟩ :=
  runs_insertBusinessAudit

/-- The rules of these statements as one argument of `simp`. -/
theorem workflow_rules : type_of% (And.intro @runs_lockWorkflowTask <|
    And.intro @runs_requireVersion <| And.intro @runs_persistWorkflowTask <|
    And.intro @runs_lockActiveTaskStageClaim <| And.intro @runs_insertTaskStageClaim <|
    And.intro @runs_updateTaskStageClaim <| And.intro @runs_insertWorkflowItem <|
    And.intro @runs_insertDeliveryWorkflowItem <|
    And.intro @runs_insertSystemEvent @runs_insertWorkflowAudit) :=
  ⟨runs_lockWorkflowTask, runs_requireVersion, runs_persistWorkflowTask,
    runs_lockActiveTaskStageClaim, runs_insertTaskStageClaim, runs_updateTaskStageClaim,
    runs_insertWorkflowItem, runs_insertDeliveryWorkflowItem, runs_insertSystemEvent,
    runs_insertWorkflowAudit⟩

/-! ## Claims -/

theorem lockOwnedWorkflowClaim_runs
    (h : (lockOwnedWorkflowClaim call).Runs R c held d r x held' r') :
    ∃ main claim, call.Owns r main claim ∧
      x = (r.asWorkflowTask call.taskNumber main, claim) ∧ r' = r := by
  simp only [lockOwnedWorkflowClaim, rules, workflow_rules, peel] at h
  obtain ⟨task, hscan, hversion, claim, hactive, hid, hclaim, hactor, rfl, -, rfl⟩ := h
  obtain ⟨main, hmain, hvalid, rfl⟩ := scanWorkflowTask_ok hscan
  exact ⟨main, claim, ⟨hmain, hvalid, hversion, hactive, hid, hclaim, validateClaimActor_ok hactor⟩,
    rfl, rfl⟩

theorem finishOwnedClaim_runs
    (h : (finishOwnedClaim call task claim outcome).Runs R c held d r x held' r') :
    x = ({ task with version := call.expectedTaskVersion + 1 }, claim.ended outcome call.now) ∧
      r' = (r.endClaim claim outcome call.now).advance task.lifecycle task.activeIssueThreadId
        call.now := by
  simp only [finishOwnedClaim, rules, workflow_rules, peel] at h
  obtain ⟨ended, hended, -, -, -, rfl, -, rfl⟩ := h
  obtain ⟨-, rfl⟩ := complete_ok hended
  exact ⟨rfl, rfl⟩

/-- Expiring a due Claim: the rows it leaves, and the Task the command goes on with. -/
theorem expireDueWorkflowClaim_runs {itemId}
    (h : (expireDueWorkflowClaim (r.asWorkflowTask t main) now itemId).Runs R c held d r task
      held' r') :
    ∃ lifecycle, Expiry main now itemId r r' lifecycle ∧
      task = { r.asWorkflowTask t main with lifecycle } := by
  simp only [expireDueWorkflowClaim, runs_ite, rules, workflow_rules, peel] at h
  rcases h with ⟨hidle, rfl, -, rfl⟩ | ⟨-, claim, hactive, h⟩
  · exact ⟨_, .notDue fun hw => absurd hw hidle, rfl⟩
  · rcases h with ⟨hnow, rfl, -, rfl⟩ | ⟨hdue, ended, hended, -, lifecycle, hrelease, -, -, rfl, -,
      rfl⟩
    · exact ⟨_, .notDue fun _ => ⟨claim, hactive, hnow⟩, rfl⟩
    · obtain ⟨-, rfl⟩ := complete_ok hended
      obtain ⟨hwork, rfl⟩ := release_ok hrelease
      exact ⟨_, .due claim hactive (Nat.le_of_not_lt hdue) hwork, rfl⟩

/-! ## Delivery -/

/-- The loop over the prepared snapshots has seen no link twice. -/
theorem checkDeliverySnapshots_ok {seen}
    (h : checkDeliverySnapshots seen codeChanges = .ok ()) :
    (codeChanges.map (·.taskCodeChangeId)).Nodup ∧
      ∀ s ∈ codeChanges, s.taskCodeChangeId ∉ seen := by
  induction codeChanges generalizing seen with
  | nil => simp
  | cons s rest ih =>
    simp only [checkDeliverySnapshots, ok_rules] at h
    obtain ⟨_, -, hseen, hrest⟩ := h
    obtain ⟨hnodup, hnotin⟩ := ih hrest
    constructor
    · rw [map_cons, nodup_cons]
      refine ⟨?_, hnodup⟩
      intro hmem
      obtain ⟨s', hs', heq⟩ := mem_map.mp hmem
      exact hnotin s' hs' (heq ▸ mem_cons_self)
    · intro s' hs'
      rcases mem_cons.mp hs' with rfl | hs'
      · exact hseen
      · exact fun hin => hnotin s' hs' (mem_cons_of_mem _ hin)

theorem executionCompletionPayload_runs {payload}
    (h : (executionCompletionPayload (r.asWorkflowTask t main) cycle codeChanges).Runs R c held d r
      payload held' r') :
    r.Snapshots codeChanges ∧ payload = r.completionPayload main cycle codeChanges ∧ r' = r := by
  simp only [executionCompletionPayload, rules, peel] at h
  obtain ⟨hlength, hcheck, hcovers, -, rfl, -, rfl⟩ := h
  exact ⟨⟨hlength, (checkDeliverySnapshots_ok hcheck).1, hcovers⟩, rfl, rfl⟩

/-! ## Issues -/

theorem lockIssueThread_runs (h : (lockIssueThread threadId).Runs R c held d r issue held' r') :
    issue ∈ r.threads ∧ issue.id = threadId ∧ r' = r ∧ ⟨.thread threadId, .update⟩ ∈ held' := by
  simp only [lockIssueThread, rules, peel] at h
  obtain ⟨issue, hfind, rfl, rfl, rfl⟩ := h
  have hmatch := find?_some hfind
  have hid := (of_decide_eq_true hmatch).1
  exact ⟨mem_of_find?_eq_some hfind, hid, rfl, by rw [hid]; exact mem_cons_self⟩

theorem requests_of_find? {request}
    (h : r.items.find? (fun i => decide (i.threadId = issue.id ∧ i.kind = .resolutionRequest)) =
      some request) : r.Requests issue request := by
  have hmatch := find?_some h
  obtain ⟨hthread, hkind⟩ := of_decide_eq_true hmatch
  exact ⟨mem_of_find?_eq_some h, hthread, hkind⟩

theorem closeIssue_runs {r₀ : TaskRecord} {resolved}
    (h : (closeIssue (r₀.asWorkflowTask t main) issue issue.version request resolution actor now
      fresh).Runs R c held d r resolved held' r') :
    issue.OpenIssue ∧ r' = r.resolveThread main issue request resolution actor now fresh := by
  simp only [closeIssue, persistResolvedIssue, rules, runs_insertWorkflowItem, peel] at h
  obtain ⟨-, -, i, hresolve, -, -, -, -, -, -, rfl⟩ := h
  obtain ⟨hopen, rfl⟩ := Thread.resolve_ok hresolve
  exact ⟨hopen, rfl⟩

/-! ## Acceptance and cancellation -/

theorem lockTaskAcceptanceCriterion_runs {criterionId}
    (h : (lockTaskAcceptanceCriterion criterionId).Runs R c held d r criterion held' r') :
    criterion ∈ r.activeCriteria ∧ criterion.id = criterionId ∧ r' = r := by
  simp only [lockTaskAcceptanceCriterion, rules, peel] at h
  obtain ⟨criterion, hfind, rfl, -, rfl⟩ := h
  have hmatch := find?_some hfind
  exact ⟨mem_of_find?_eq_some hfind, of_decide_eq_true hmatch, rfl⟩

theorem validateForTaskClaim_ok {stage}
    (h : check.validateForTaskClaim criterion claimId stage cycle = .ok ()) :
    check.criterionId = criterion.id ∧ check.criterionRevision = criterion.revision := by
  simp only [AcceptanceCheck.validateForTaskClaim, AcceptanceCheck.validateBase, ok_rules, not_or,
    not_not] at h
  obtain ⟨_, ⟨hmatch, -⟩, -⟩ := h
  exact hmatch

theorem validateCompletion_ok (h : validateCompletion readiness = .ok ()) :
    (0 < readiness.activeCriteria → readiness.unsatisfiedCriteria = 0) ∧
      readiness.unfinishedChildren = 0 ∧ readiness.unfinishedDependencies = 0 := by
  simp only [validateCompletion, TaskCompletionReadiness.validateAcceptance, ok_rules, not_and] at h
  obtain ⟨_, ⟨hcriteria, -⟩, hchildren, hdependencies, -⟩ := h
  exact ⟨fun hactive => by have := hcriteria hactive; omega, by omega, by omega⟩

/-- What the cancellation does to the Claim or the Issue, in the two statements of the source. The
Issue of a blocked Task is locked. -/
theorem cleared_of_runs {r₁ ended}
    {x : WorkflowTask × Option Thread}
    (hclaim : (cancelActiveClaim (r.asWorkflowTask t main) (Instant.column now)).Runs R c held d r
      ended held₁ r₁)
    (hissue : (cancelActiveIssue (r.asWorkflowTask t main) reason actor now fresh).Runs R c held₁ d
      r₁ x held' r') :
    ∃ issueId, Cleared main reason actor now fresh r r' issueId ∧
      x.1 = { r.asWorkflowTask t main with activeIssueThreadId := issueId } ∧
      (r.row.lifecycle.activity = .needsResolution → ∀ id ∈ r.row.activeIssueThreadId,
        ⟨.thread id, .update⟩ ∈ held') := by
  simp only [cancelActiveClaim, runs_ite, rules, workflow_rules, peel] at hclaim
  simp only [cancelActiveIssue, getIssueRequest, runs_ite, rules, peel] at hissue
  rcases hissue with ⟨hblocked, issueId, hactive, issue, _, _, hlock, request, hfind, resolved, _,
    _, hclose, rfl, rfl, rfl⟩ | ⟨hfree, rfl, -, rfl⟩
  · -- A blocked Task is not being worked on, so its Claim statement did nothing.
    rcases hclaim with ⟨hworking, -⟩ | ⟨-, -, -, rfl⟩
    · rw [hblocked] at hworking
      cases hworking
    · obtain ⟨hmem, rfl, rfl, hlocked⟩ := lockIssueThread_runs hlock
      have hkept := hclose.held_subset hlocked
      obtain ⟨hopen, rfl⟩ := closeIssue_runs hclose
      refine ⟨none, .issue issue request hblocked hactive hmem hopen (requests_of_find? hfind), rfl,
        fun _ id hid => ?_⟩
      obtain rfl : issue.id = id := Option.some.inj (hactive.symm.trans hid)
      exact hkept
  · rcases hclaim with ⟨hworking, claim, hactive, ended, hended, -, -, -, rfl⟩ | ⟨hidle, -, -, rfl⟩
    · obtain ⟨-, rfl⟩ := complete_ok hended
      exact ⟨_, .claim claim hworking hactive, rfl, fun hblocked => absurd hblocked hfree⟩
    · exact ⟨_, .idle hidle hfree, rfl, fun hblocked => absurd hblocked hfree⟩

end Statements

/-! ## Commands

For each command: a commit of it is its step of the Task.
-/

/-- The commit of `c` was one step of the Task `t`, and changed nothing else. -/
abbrev Refines (t : TaskId) (held : List (Lock Row)) (d d' : Db) (c : Cmd) : Prop :=
  ∃ r r', OnTask t held d d' r r' ∧ TaskStep d t c r r'

section Commands

variable {R : Rely Db Row} (hR : Isolates R) {held : List (Lock Row)} {d d' : Db}

include hR

/-- What one statement has seen finished is finished in every later one. -/
theorem unfinished_mono {p held} (hrel : R.rel held d₀ d) (h : d₀.unfinished p = false) :
    d.unfinished p = false := by
  obtain ⟨r₀, hr₀, hterminal⟩ := Db.unfinished_eq_false.mp h
  obtain ⟨r, hr, hkeeps⟩ := (hR.interferes hrel).keeps p r₀ hr₀
  exact Db.unfinished_eq_false.mpr ⟨r, hr, by rw [hkeeps.terminal hterminal]; exact hterminal⟩

/-- A Task that a statement has seen finished is finished in the database of the commit. -/
theorem unfinished_of_query {p held} (hrel : R.rel held d₀ d₁)
    (hget : d₁.task t = some r) (helse : (taskCell t).Else d d₁) (hd : d.task t = some r)
    (h : d₀.unfinished p = false) : d.unfinished p = false := by
  have hsame : d₁.task p = d.task p := by
    by_cases hp : p = t
    · rw [hp, hget, hd]
    · exact helse.1 p hp
  have hseen := unfinished_mono hR hrel h
  rwa [Db.unfinished, hsame] at hseen

/-- The dependencies a statement has read are those of the locked Task. -/
theorem dependencies_of_query {held} (hl : ⟨.task t, .update⟩ ∈ held)
    (hrel : R.rel held d₀ d₁) (hget : d₁.task t = some r) :
    d₀.dependencies t = r.dependencyIds := by
  have hlocked : d₁.task t = d₀.task t := (hR.interferes hrel).locked t .update hl
  rw [Db.dependencies, ← hlocked, hget]
  rfl

theorem markReady_refines (h : (markReady t v operation now fresh).Commits R [] d task held d') :
    Refines t held d d' (.markReady t v operation now fresh) := by
  simp only [markReady, simpleLifecycleCommand, Txn.rules, peel] at h
  obtain ⟨-, -, h⟩ := h
  obtain ⟨r, r', hon, h⟩ := hR.commits_withTask h ⟨_, rfl⟩
  simp only [rules, workflow_rules, peel] at h
  obtain ⟨task, hscan, hversion, lifecycle, _, _, ⟨unfinished,
    ⟨d₀, d₁, hrel, hget, helse, hunfinished⟩, hready, rfl, rfl⟩, -, -, -, -, -, -, -, rfl⟩ := h
  obtain ⟨main, hmain, -, rfl⟩ := scanWorkflowTask_ok hscan
  obtain ⟨hphase, hactivity, harchived, hfinished, rfl⟩ := markReady_ok hready
  refine ⟨_, _, hon, .markReady hmain hversion hphase hactivity (by simpa using harchived) ?_⟩
  intro p hp
  rw [hfinished, dependencies_of_query hR mem_cons_self hrel hget] at hunfinished
  have hseen : d₀.unfinished p = false := by
    simpa using any_eq_false.mp hunfinished.symm p hp
  exact unfinished_of_query hR hrel hget helse hon.before hseen

theorem withdrawReadiness_refines
    (h : (withdrawReadiness t v reason operation now fresh).Commits R [] d task held d') :
    Refines t held d d' (.withdrawReadiness t v reason operation now fresh) := by
  simp only [withdrawReadiness, simpleLifecycleCommand, Txn.rules, peel] at h
  obtain ⟨-, -, h⟩ := h
  obtain ⟨r, r', hon, h⟩ := hR.commits_withTask h ⟨_, rfl⟩
  simp only [rules, workflow_rules, peel] at h
  obtain ⟨task, hscan, hversion, lifecycle, hwithdraw, -, -, -, -, -, -, -, rfl⟩ := h
  obtain ⟨main, hmain, -, rfl⟩ := scanWorkflowTask_ok hscan
  obtain ⟨hphase, hactivity, rfl⟩ := withdrawReadiness_ok hwithdraw
  exact ⟨_, _, hon, .withdrawReadiness hmain hversion hphase hactivity⟩

theorem claimTask_refines {claimedBy clientKind clientSessionId}
    (h : (claimTask t v claimedBy operation clientKind clientSessionId now fresh).Commits R [] d x
      held d') :
    ⟨.claim (fresh 1), .update⟩ ∈ held ∧ Refines t held d d'
      (.claim t v claimedBy operation clientKind clientSessionId now fresh) := by
  simp only [claimTask, Txn.rules, peel] at h
  obtain ⟨-, h⟩ := h
  obtain ⟨r, r', hon, h⟩ := hR.commits_withTask h ⟨_, rfl⟩
  simp only [rules, workflow_rules, Prod.exists, peel] at h
  obtain ⟨task, hscan, hversion, task₁, _, r₁, hexpire, l₂, stage, hclaim, claim, hnew, -,
    ⟨d₀, d₁, hrel, hget, helse, habsent⟩, hnone, -, -, -, -, -, -, rfl, rfl⟩ := h
  obtain ⟨main, hmain, -, rfl⟩ := scanWorkflowTask_ok hscan
  obtain ⟨l₁, hexpiry, rfl⟩ := expireDueWorkflowClaim_runs hexpire
  have hid : claim.id = fresh 1 := (new_ok hnew).1
  have hactive : claim.status = .active := (new_ok hnew).2.2.2.1
  have hfree : d.claim claim.id = none :=
    hR.claim_free hrel habsent hget helse hon.before fun id => hexpiry.hasClaim.mpr
  rw [← hid]
  exact ⟨mem_cons_self, _, _, hon, .claim hmain hversion hexpiry hclaim hnew hfree
    (hnone hactive)⟩

/-- The reply says whether the Claim was due; if it was not, nothing has happened. -/
theorem expireDueClaim_refines {expired}
    (h : (expireDueClaim t operation now fresh).Commits R [] d expired held d') :
    ∃ r r', OnTask t held d d' r r' ∧
      TaskStep d t (.expireDueClaim t operation now fresh) r r' ∧
        (expired = false → r' = r ∧ r.NotDue now) := by
  simp only [expireDueClaim, Txn.rules, peel] at h
  obtain ⟨-, h⟩ := h
  obtain ⟨r, r', hon, h⟩ := hR.commits_withTask h ⟨_, rfl⟩
  simp only [rules, workflow_rules, runs_ite, peel] at h
  obtain ⟨task, hscan, h⟩ := h
  obtain ⟨main, hmain, -, rfl⟩ := scanWorkflowTask_ok hscan
  rcases h with ⟨hidle, -, -, rfl⟩ | ⟨-, task₁, _, r₁, hexpire, h⟩
  · have hkept : r'.NotDue now := fun hworking => absurd hworking hidle
    exact ⟨_, _, hon, .keepClaim hkept, fun _ => ⟨rfl, hkept⟩⟩
  · obtain ⟨l₁, hexpiry, rfl⟩ := expireDueWorkflowClaim_runs hexpire
    cases hexpiry with
    | notDue hkept =>
      -- The lifecycle is the one the command started with, so the first branch is taken.
      rcases h with ⟨-, -, -, rfl⟩ | ⟨hchanged, -⟩
      · exact ⟨_, _, hon, .keepClaim hkept, fun _ => ⟨rfl, hkept⟩⟩
      · exact absurd rfl hchanged
    | due claim hactive hdue hwork =>
      rcases h with ⟨hsame, -⟩ | ⟨-, -, -, -, rfl, -, rfl⟩
      · rw [TaskRecord.asWorkflowTask_lifecycle, hwork.activity] at hsame
        cases hsame
      · exact ⟨_, _, hon, .expireDueClaim hmain hactive hdue hwork, fun heq => by cases heq⟩

/-- The commands that end their Claim and leave an Item behind, for any change of the lifecycle. -/
theorem finishClaim_commits {itemKind mutate}
    (h : (finishClaim call outcome itemKind body mutate).Commits R [] d x held d') :
    ∃ r r' main claim lifecycle, OnTask call.taskNumber held d d' r r' ∧
      call.Owns r main claim ∧ mutate r.row.lifecycle claim = .ok lifecycle ∧
      r' = (((r.endClaim claim outcome call.now).advance lifecycle r.row.activeIssueThreadId
        call.now).addItem (workflowItem (call.fresh 0) main.id itemKind call.actor body none
          call.now).stored).addAudit
            ⟨call.now, call.operation, "task", call.taskNumber, outcome.text⟩ := by
  simp only [finishClaim, Txn.rules, peel] at h
  obtain ⟨-, h⟩ := h
  obtain ⟨r, r', hon, h⟩ := hR.commits_withTask h ⟨_, rfl⟩
  simp only [rules, Prod.exists, workflow_rules, peel] at h
  obtain ⟨task, claim, _, _, hlock, lifecycle, hmutate, task₂, ended, _, _, hfinish, -, -, -, -, -,
    rfl⟩ := h
  obtain ⟨main, claim, howns, heq, rfl⟩ := lockOwnedWorkflowClaim_runs hlock
  cases heq
  obtain ⟨heq, rfl⟩ := finishOwnedClaim_runs hfinish
  cases heq
  exact ⟨_, _, main, claim, lifecycle, hon, howns, hmutate, rfl⟩

theorem releaseClaim_refines {handoff}
    (h : (releaseClaim call handoff).Commits R [] d x held d') :
    Refines call.taskNumber held d d' (.releaseClaim call handoff) := by
  simp only [releaseClaim, Txn.rules, peel] at h
  obtain ⟨r, r', main, claim, lifecycle, hon, howns, hrelease, rfl⟩ := finishClaim_commits hR h.2
  obtain ⟨hwork, rfl⟩ := release_ok hrelease
  exact ⟨_, _, hon, .releaseClaim howns hwork⟩

theorem requestChanges_refines (h : (requestChanges call reason).Commits R [] d x held d') :
    Refines call.taskNumber held d d' (.requestChanges call reason) := by
  simp only [requestChanges, Txn.rules, peel] at h
  obtain ⟨r, r', main, claim, lifecycle, hon, howns, hchanges, rfl⟩ := finishClaim_commits hR h.2
  obtain ⟨hwork, rfl⟩ := requestChanges_ok hchanges
  exact ⟨_, _, hon, .requestChanges howns hwork⟩

theorem recordWorkSubmission_refines
    (h : (recordWorkSubmission call summary).Commits R [] d x held d') :
    Refines call.taskNumber held d d' (.recordWorkSubmission call summary) := by
  simp only [recordWorkSubmission, Txn.rules, peel] at h
  obtain ⟨-, -, h⟩ := h
  obtain ⟨r, r', hon, h⟩ := hR.commits_withTask h ⟨_, rfl⟩
  simp only [rules, Prod.exists, workflow_rules, peel] at h
  obtain ⟨task, claim, _, _, hlock, hphase, hactivity, hstage, -, haccepts, -, -, -, rfl⟩ := h
  obtain ⟨main, claim, howns, heq, rfl⟩ := lockOwnedWorkflowClaim_runs hlock
  cases heq
  exact ⟨_, _, hon, .recordWorkSubmission howns hphase hactivity hstage rfl haccepts⟩

theorem completeExecution_refines
    (h : (completeExecutionWithDelivery call summary codeChanges).Commits R [] d x held d') :
    Refines call.taskNumber held d d' (.completeExecution call summary codeChanges) := by
  simp only [completeExecutionWithDelivery, Txn.rules, peel] at h
  obtain ⟨-, -, h⟩ := h
  obtain ⟨r, r', hon, h⟩ := hR.commits_withTask h ⟨_, rfl⟩
  simp only [rules, Prod.exists, workflow_rules, peel] at h
  obtain ⟨task, claim, _, _, hlock, lifecycle, hcomplete, payload, _, _, hpayload, task₂, ended, _,
    _, hfinish, -, haccepts, -, -, -, rfl⟩ := h
  obtain ⟨main, claim, howns, heq, rfl⟩ := lockOwnedWorkflowClaim_runs hlock
  cases heq
  obtain ⟨hsnapshots, rfl, rfl⟩ := executionCompletionPayload_runs hpayload
  obtain ⟨heq, rfl⟩ := finishOwnedClaim_runs hfinish
  cases heq
  obtain ⟨hwork, rfl⟩ := completeExecution_ok hcomplete
  exact ⟨_, _, hon, .completeExecution howns hwork hsnapshots rfl haccepts⟩

theorem requestResolution_refines {issueType x}
    (h : (requestResolution call issueType request).Commits R [] d x held d') :
    Refines call.taskNumber held d d' (.requestResolution call issueType request) := by
  simp only [requestResolution, Txn.rules, peel] at h
  obtain ⟨-, -, h⟩ := h
  obtain ⟨r, r', hon, h⟩ := hR.commits_withTask h ⟨_, rfl⟩
  simp only [rules, Prod.exists, insertIssueThread, workflow_rules, peel] at h
  obtain ⟨task, claim, _, _, hlock, issue, hissue, lifecycle, hrequest, hid, hnone, -, -, task₂,
    ended, _, _, hfinish, -, -, -, -, -, rfl⟩ := h
  obtain ⟨main, claim, howns, heq, rfl⟩ := lockOwnedWorkflowClaim_runs hlock
  cases heq
  obtain ⟨heq, rfl⟩ := finishOwnedClaim_runs hfinish
  cases heq
  obtain ⟨hwork, rfl⟩ := requestResolution_ok hrequest
  have hopen : issue.OpenIssue := (Thread.newIssue_ok hissue).2.1
  exact ⟨_, _, hon, .requestResolution howns hwork hissue hid (hnone hopen)⟩

theorem resolveIssue_refines {issueThreadId threadVersion x}
    (h : (resolveIssue t v issueThreadId threadVersion resolution actor operation now
      fresh).Commits R [] d x held d') :
    ⟨.thread issueThreadId, .update⟩ ∈ held ∧ Refines t held d d'
      (.resolveIssue t v issueThreadId threadVersion resolution actor operation now fresh) := by
  simp only [resolveIssue, Txn.rules, peel] at h
  obtain ⟨-, -, h⟩ := h
  obtain ⟨r, r', hon, h⟩ := hR.commits_withTask h ⟨_, rfl⟩
  simp only [rules, workflow_rules, getIssueRequest, peel] at h
  obtain ⟨task, hscan, hversion, hactive, issue, _, _, hlock, hthread, -, request, hfind, resolved,
    _, _, hclose, lifecycle, hresolve, -, -, -, -, rfl, rfl⟩ := h
  obtain ⟨main, hmain, -, rfl⟩ := scanWorkflowTask_ok hscan
  obtain ⟨hmem, rfl, rfl, hlocked⟩ := lockIssueThread_runs hlock
  have hkept := hclose.held_subset hlocked
  subst hthread
  obtain ⟨hopen, rfl⟩ := closeIssue_runs hclose
  obtain ⟨hphase, hactivity, rfl⟩ := resolveIssue_ok hresolve
  exact ⟨hkept, _, _, hon, .resolveIssue hmain hversion hactive rfl rfl hmem hopen hphase hactivity
    (requests_of_find? hfind)⟩

theorem recordAcceptanceCheck_refines {x}
    (h : (recordAcceptanceCheck call check).Commits R [] d x held d') :
    Refines call.taskNumber held d d' (.recordAcceptanceCheck call check) := by
  simp only [recordAcceptanceCheck, Txn.rules, peel] at h
  obtain ⟨-, h⟩ := h
  obtain ⟨r, r', hon, h⟩ := hR.commits_withTask h ⟨_, rfl⟩
  simp only [rules, workflow_rules, peel] at h
  obtain ⟨task, hscan, hversion, hactivity, claim, hactive, hid, hclaim, hactor, hchecker,
    criterion, _, _, hlock, hvalid, hfresh, -, -, -, rfl⟩ := h
  obtain ⟨main, hmain, hlifecycle, rfl⟩ := scanWorkflowTask_ok hscan
  obtain ⟨hcriterion, -, rfl⟩ := lockTaskAcceptanceCriterion_runs hlock
  obtain ⟨hcid, hrevision⟩ := validateForTaskClaim_ok hvalid
  have howns : call.Owns _ main claim :=
    ⟨hmain, hlifecycle, hversion, hactive, hid, hclaim, validateClaimActor_ok hactor⟩
  rw [hchecker] at hon
  exact ⟨_, _, hon, .recordAcceptanceCheck howns hactivity hcriterion hcid hrevision hfresh⟩

/-- A Task that its readiness lets complete is ready in the database of the commit: its own rows
are locked, it gets no new children, and what is finished stays finished. -/
theorem taskCompletionReadiness_runs {held₂ r'}
    (hl : ⟨.task t, .update⟩ ∈ held₁) (hd : d.task t = some r)
    (h : (taskCompletionReadinessForCycle t cycle).Runs R (taskCell t) held₁ d r readiness held₂ r')
    (hready : validateCompletion readiness = .ok ()) :
    (∀ criterion ∈ r.activeCriteria, r.Satisfied cycle criterion) ∧
      (∀ c ∈ d.children t, d.unfinished c.1 = false) ∧
      (∀ p ∈ r.dependencyIds, d.unfinished p = false) ∧ r' = r := by
  simp only [taskCompletionReadinessForCycle, rules, Prod.exists, peel] at h
  obtain ⟨children, dependencies, ⟨d₀, d₁, hrel, hget, helse, heq⟩, rfl, -, rfl⟩ := h
  cases heq
  obtain ⟨hcriteria, hchildren, hdependencies⟩ := validateCompletion_ok hready
  refine ⟨fun criterion hc => ?_, fun c hc => ?_, fun p hp => ?_, rfl⟩
  · have hpos : 0 < r'.activeCriteria.length := length_pos_of_mem hc
    have hall := eq_nil_of_length_eq_zero (hcriteria hpos)
    simpa using filter_eq_nil_iff.mp hall criterion hc
  · obtain ⟨hchild, hparent⟩ := Db.mem_children.mp hc
    have hsame : d₁.task c.1 = some c.2 := by
      by_cases hct : c.1 = t
      · rw [hct] at hchild ⊢
        exact hget.trans (hd.symm.trans hchild)
      · rw [helse.1 c.1 hct, hchild]
    obtain ⟨r₀, hr₀, hparent₀⟩ := (hR.interferes hrel).children t hl c.1 c.2 hsame hparent
    have hnone := filter_eq_nil_iff.mp (eq_nil_of_length_eq_zero hchildren)
    have hseen := hnone (c.1, r₀) (Db.mem_children.mpr ⟨hr₀, hparent₀⟩)
    exact unfinished_of_query hR hrel hget helse hd (by simpa using hseen)
  · rw [dependencies_of_query hR hl hrel hget] at hdependencies
    have hnone := filter_eq_nil_iff.mp (eq_nil_of_length_eq_zero hdependencies)
    have hseen := hnone p (mem_dedup.mpr hp)
    exact unfinished_of_query hR hrel hget helse hd (by simpa using hseen)

theorem acceptTask_refines (h : (acceptTask call summary).Commits R [] d x held d') :
    Refines call.taskNumber held d d' (.acceptTask call summary) := by
  simp only [acceptTask, Txn.rules, peel] at h
  obtain ⟨-, -, h⟩ := h
  obtain ⟨r, r', hon, h⟩ := hR.commits_withTask h ⟨_, rfl⟩
  simp only [rules, Prod.exists, workflow_rules, peel] at h
  obtain ⟨task, claim, _, _, hlock, readiness, _, _, hreadiness, lifecycle, haccept, task₂, ended,
    _, _, hfinish, -, -, -, -, -, rfl⟩ := h
  have hl := hlock.held_subset mem_cons_self
  obtain ⟨main, claim, howns, heq, rfl⟩ := lockOwnedWorkflowClaim_runs hlock
  cases heq
  obtain ⟨hwork, hready, rfl⟩ := accept_ok haccept
  obtain ⟨hcriteria, hchildren, hdependencies, rfl⟩ :=
    taskCompletionReadiness_runs hR hl hon.before hreadiness hready
  obtain ⟨heq, rfl⟩ := finishOwnedClaim_runs hfinish
  cases heq
  exact ⟨_, _, hon, .acceptTask howns hwork hcriteria hchildren hdependencies⟩

theorem cancelTask_refines {x}
    (h : (cancelTask t v reason actor operation now fresh).Commits R [] d x held d') :
    ∃ r r', OnTask t held d d' r r' ∧
      TaskStep d t (.cancelTask t v reason actor operation now fresh) r r' ∧
      (r.row.lifecycle.activity = .needsResolution → ∀ id ∈ r.row.activeIssueThreadId,
        ⟨.thread id, .update⟩ ∈ held) := by
  simp only [cancelTask, Txn.rules, peel] at h
  obtain ⟨-, -, h⟩ := h
  obtain ⟨r, r', hon, h⟩ := hR.commits_withTask h ⟨_, rfl⟩
  simp only [rules, workflow_rules, Prod.exists, peel] at h
  obtain ⟨task, hscan, hversion, ended, _, r₁, hclaim, task₂, resolved, _, r₂, hissue, lifecycle,
    hcancel, -, -, -, -, -, -, rfl, rfl⟩ := h
  obtain ⟨main, hmain, -, rfl⟩ := scanWorkflowTask_ok hscan
  obtain ⟨issueId, hcleared, htask, hlocked⟩ := cleared_of_runs hclaim hissue
  subst htask
  obtain ⟨hphase, rfl⟩ := cancel_ok hcancel
  exact ⟨_, _, hon, .cancelTask hmain hversion hcleared hphase, hlocked⟩

end Commands

end Pactline
