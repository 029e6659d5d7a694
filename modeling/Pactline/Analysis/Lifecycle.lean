import Pactline.Checks
import Pactline.Model.WorkflowStore

/-!
# What success of a check establishes

The checks and transitions of the domain layer end in an error or in a value. For each of them that
a command goes through: what is known once it has succeeded. Later modules do not look into the
functions again.
-/

set_option autoImplicit false

namespace Pactline

/-! ## Transitions of the lifecycle -/

/-- The stage at which a Task in the given phase is worked on. -/
def TaskPhase.stage (p : TaskPhase) : TaskClaimStage :=
  if p = .inReview then .review else .execution

namespace TaskLifecycle

variable {s s' : TaskLifecycle}

/-- The Task is worked on through a Claim of the given stage. -/
structure WorkingAt (s : TaskLifecycle) (stage : TaskClaimStage) : Prop where
  activity : s.activity = .working
  phase : s.phase.Active
  stage_eq : stage = s.phase.stage

theorem workingAt_of_requireWorkingStage {action stage}
    (h : s.requireWorkingStage action stage = .ok ()) : s.WorkingAt stage := by
  simp only [requireWorkingStage, guard_eq_ok, not_not] at h
  obtain ⟨hactivity, hphase, hstage, -⟩ := h
  refine ⟨hactivity, ?_, hstage⟩
  by_contra hactive
  exact hphase ⟨fun hr => hactive (Or.inr hr), fun hp => hactive (Or.inl hp)⟩

theorem markReady_ok {archived unfinished} (h : s.markReady archived unfinished = .ok s') :
    s.phase = .backlog ∧ s.activity = .unset ∧ archived = false ∧ unfinished = false ∧
      s' = { s with phase := .ready } := by
  simp only [markReady, guard_eq_ok, not_or, not_not, Bool.not_eq_true, Except.ok.injEq] at h
  obtain ⟨⟨hphase, hactivity⟩, harchived, hunfinished, heq⟩ := h
  exact ⟨hphase, hactivity, harchived, hunfinished, heq.symm⟩

theorem withdrawReadiness_ok (h : s.withdrawReadiness = .ok s') :
    s.phase = .ready ∧ s.activity = .unset ∧ s' = { s with phase := .backlog } := by
  simp only [withdrawReadiness, guard_eq_ok, not_or, not_not, Except.ok.injEq] at h
  obtain ⟨⟨hphase, hactivity⟩, heq⟩ := h
  exact ⟨hphase, hactivity, heq.symm⟩

/-- A Task that can be claimed is ready, or available in an active phase; it is then worked on at
the stage of its phase, which is the one before unless the Task was only ready. -/
theorem claim_ok {archived stage}
    (h : s.claim archived = .ok (s', stage)) :
    archived = false ∧ s'.WorkingAt stage ∧ s'.reviewCycle = s.reviewCycle ∧
      (s.phase = .ready ∧ s.activity = .unset ∧ s'.phase = .inProgress ∨
        s.phase.Active ∧ s.activity = .available ∧ s'.phase = s.phase) := by
  unfold claim at h
  split at h
  · cases h
  · split at h
    · cases h
    · have harchived : archived = false := by simpa using ‹¬ archived = true›
      split at h
      · obtain ⟨hphase, hactivity⟩ := ‹s.phase = .ready ∧ s.activity = .unset›
        cases h
        exact ⟨harchived, ⟨rfl, Or.inl rfl, rfl⟩, rfl, Or.inl ⟨hphase, hactivity, rfl⟩⟩
      · split at h
        · obtain ⟨hphase, hactivity⟩ := ‹s.phase = .inProgress ∧ s.activity = .available›
          cases h
          refine ⟨harchived, ⟨rfl, Or.inl hphase, ?_⟩, rfl, Or.inr ⟨Or.inl hphase, hactivity, rfl⟩⟩
          simp [TaskPhase.stage, hphase]
        · split at h
          · obtain ⟨hphase, hactivity⟩ := ‹s.phase = .inReview ∧ s.activity = .available›
            cases h
            refine ⟨harchived, ⟨rfl, Or.inr hphase, ?_⟩, rfl,
              Or.inr ⟨Or.inr hphase, hactivity, rfl⟩⟩
            simp [TaskPhase.stage, hphase]
          · cases h

theorem release_ok {stage} (h : s.release stage = .ok s') :
    s.WorkingAt stage ∧ s' = { s with activity := .available } := by
  simp only [release, ok_rules] at h
  obtain ⟨_, hstage, heq⟩ := h
  exact ⟨workingAt_of_requireWorkingStage hstage, heq.symm⟩

theorem requestResolution_ok {stage} (h : s.requestResolution stage = .ok s') :
    s.WorkingAt stage ∧ s' = { s with activity := .needsResolution } := by
  simp only [requestResolution, ok_rules] at h
  obtain ⟨_, hstage, heq⟩ := h
  exact ⟨workingAt_of_requireWorkingStage hstage, heq.symm⟩

theorem resolveIssue_ok (h : s.resolveIssue = .ok s') :
    s.phase.Active ∧ s.activity = .needsResolution ∧ s' = { s with activity := .available } := by
  simp only [resolveIssue, guard_eq_ok, not_or, not_not, Except.ok.injEq] at h
  obtain ⟨⟨hphase, hactivity⟩, heq⟩ := h
  exact ⟨hphase, hactivity, heq.symm⟩

theorem completeExecution_ok (h : s.completeExecution = .ok s') :
    s.WorkingAt .execution ∧ s' = ⟨.inReview, .available, s.reviewCycle + 1⟩ := by
  simp only [completeExecution, ok_rules] at h
  obtain ⟨_, hstage, heq⟩ := h
  exact ⟨workingAt_of_requireWorkingStage hstage, heq.symm⟩

theorem requestChanges_ok (h : s.requestChanges = .ok s') :
    s.WorkingAt .review ∧ s' = { s with phase := .inProgress, activity := .available } := by
  simp only [requestChanges, ok_rules] at h
  obtain ⟨_, hstage, heq⟩ := h
  exact ⟨workingAt_of_requireWorkingStage hstage, heq.symm⟩

theorem accept_ok {readiness} (h : s.accept readiness = .ok s') :
    s.WorkingAt .review ∧ validateCompletion readiness = .ok () ∧
      s' = { s with phase := .done, activity := .unset } := by
  simp only [accept, ok_rules] at h
  obtain ⟨_, hstage, _, hready, heq⟩ := h
  exact ⟨workingAt_of_requireWorkingStage hstage, hready, heq.symm⟩

theorem cancel_ok (h : s.cancel = .ok s') :
    ¬ s.phase.Terminal ∧ s' = { s with phase := .cancelled, activity := .unset } := by
  simp only [cancel, ok_rules] at h
  obtain ⟨hterminal, _, _, heq⟩ := h
  exact ⟨hterminal, heq.symm⟩

/-- A phase in which work goes on is not a terminal one. -/
theorem WorkingAt.not_terminal {stage} (h : s.WorkingAt stage) :
    ¬ s.phase.Terminal := by
  rintro (hdone | hcancelled)
  · rcases h.phase with hp | hp <;> rw [hp] at hdone <;> cases hdone
  · rcases h.phase with hp | hp <;> rw [hp] at hcancelled <;> cases hcancelled

end TaskLifecycle

/-! ## Actors and Claims -/

theorem validateClaimActor_ok {claim : TaskStageClaim} {actor operation}
    (h : validateClaimActor claim actor operation = .ok ()) :
    claim.OwnedBy actor operation := by
  simp only [validateClaimActor, ok_rules, not_or, not_not] at h
  obtain ⟨_, -, ⟨hsubject, hmethod, htype, href, huser, htoken, hrun⟩, -⟩ := h
  refine ⟨hsubject, hmethod, ?_, htoken, hrun⟩
  cases hc : claim.claimedBy
  cases ha : actor
  simp_all

namespace TaskStageClaim

variable {c c' : TaskStageClaim} {outcome : TaskClaimOutcome} {now : Time}

/-- The Claim after it has ended. -/
@[simps] def ended (c : TaskStageClaim) (outcome : TaskClaimOutcome) (now : Time) :
    TaskStageClaim :=
  { c with
    status := outcome.endStatus, outcome := some outcome, completedAt := some now
    updatedAt := now, version := c.version + 1 }

theorem endStatus_ne_active (outcome : TaskClaimOutcome) : outcome.endStatus ≠ .active := by
  cases outcome <;> simp [TaskClaimOutcome.endStatus]

theorem complete_ok (h : c.complete outcome now = .ok c') :
    c.status = .active ∧ c' = c.ended outcome now := by
  simp only [complete, guard_eq_ok, not_not, Except.ok.injEq] at h
  obtain ⟨hactive, -, heq⟩ := h
  exact ⟨hactive, heq.symm⟩

/-- A new Claim is active, runs for the fixed lifetime and records its maker. -/
theorem new_ok {id t stage claimedBy operation clientKind clientSessionId}
    (h : TaskStageClaim.new id t stage claimedBy operation clientKind clientSessionId now =
      .ok c) :
    c.id = id ∧ c.taskNumber = t ∧ c.stage = stage ∧ c.status = .active ∧
      c.expiresAt = now + taskClaimActiveLifetime ∧ c.OwnedBy claimedBy operation := by
  simp only [TaskStageClaim.new, ok_rules] at h
  obtain ⟨_, -, _, -, rfl⟩ := h
  exact ⟨rfl, rfl, rfl, rfl, rfl, rfl, rfl, rfl, rfl, rfl⟩

end TaskStageClaim

/-! ## Threads -/

namespace Thread

variable {i i' : Thread} {actor : Actor} {now : Time}

/-- The Issue after its resolution. -/
@[simps] def resolved (i : Thread) (actor : Actor) (now : Time) : Thread :=
  { i with
    issueStatus := some .resolved, resolvedBy := some actor, resolvedAt := some now
    updatedAt := now, version := i.version + 1 }

theorem resolve_ok (h : i.resolve actor now = .ok i') :
    i.OpenIssue ∧ i' = i.resolved actor now := by
  simp only [resolve, guard_eq_ok, not_not, Except.ok.injEq] at h
  obtain ⟨hopen, -, heq⟩ := h
  exact ⟨hopen, heq.symm⟩

theorem newIssue_ok {id issueType phase}
    (h : Thread.newIssue id issueType phase actor now = .ok i) :
    i.id = id ∧ i.OpenIssue ∧ i.openedFromPhase = some phase ∧ i.openedBy = some actor ∧
      i.createdAt = now := by
  simp only [newIssue, ok_rules] at h
  obtain ⟨-, -, rfl⟩ := h
  exact ⟨rfl, ⟨rfl, rfl⟩, rfl, rfl, rfl⟩

end Thread

end Pactline
