import Pactline.Analysis.AgentRuns

/-!
# The state of an Agent run

`Run.Validate` couples the status of a run with its lease, its clarification and its completion.
None of the statements that change a row calls it; each of them keeps it, given a clock that is not
at the zero time and arguments that are not blank (`Cmd.Moves.wellFormed`). A run that has come to
its end is not moved at all (`Cmd.Moves.not_terminal`).
-/

set_option autoImplicit false

namespace Pactline.Agent

open ReadCommitted

variable {c : Cmd} {d d' : Db} {id : Id} {r old new : Run}

/-! ## Well-formed runs -/

/-- The columns that are written once. -/
def Run.Identified (r : Run) : Prop :=
  (r.id ≠ 0 ∧ ¬ blank r.provider ∧ ¬ blank r.tenantId ∧ ¬ blank r.conversationId ∧
    ¬ blank r.triggerMessageId ∧ ¬ blank r.providerEventId ∧ r.triggerOccurredAt ≠ 0 ∧
    r.initiatingUserId ≠ 0 ∧ ¬ blank r.initiatingSubjectId ∧ ¬ blank r.model ∧
    ¬ blank r.promptVersion ∧ r.createdAt ≠ 0) ∧ r.provider = "lark" ∧
    r.conversationRevisionId ≠ some 0

def Run.WithinLimits (r : Run) : Prop :=
  0 ≤ r.attemptCount ∧ 0 ≤ r.clarificationRounds ∧
    r.clarificationRounds ≤ maxClarificationRounds ∧ 0 ≤ r.contextMessagesUsed ∧
    r.contextMessagesUsed ≤ maxContextMessages

def Run.TaskConsistent (r : Run) : Prop :=
  r.createdTaskId.isNone = r.createdTaskNumber.isNone ∧ r.createdTaskId ≠ some 0 ∧
    ∀ number ∈ r.createdTaskNumber, 0 < number

/-- The columns that go with the status. -/
structure Run.StatusConsistent (r : Run) : Prop where
  completed : r.status.IsTerminal ↔ r.completedAt ≠ none
  leased : r.status = .running →
    blank (stringValue r.leaseOwner) = false ∧ r.leaseExpiresAt ≠ none
  unleased : r.status ≠ .running → stringValue r.leaseOwner = "" ∧ r.leaseExpiresAt = none
  clarified : r.status = .waitingUser → blank (stringValue r.clarificationMessageId) = false ∧
    blank (stringValue r.clarificationInterruptId) = false ∧ r.clarificationExpiresAt ≠ none

structure Run.WellFormed (r : Run) : Prop where
  identified : r.Identified
  updatedAt : r.updatedAt ≠ 0
  availableAt : r.availableAt ≠ 0
  limits : r.WithinLimits
  task : r.TaskConsistent
  state : r.StatusConsistent

/-- A check that has to be passed before the next one. -/
theorem ite_error_eq_ok {ε α : Type} {p : Prop} [Decidable p] {e : ε} {rest : Except ε α} {a : α} :
    (if p then .error e else rest) = .ok a ↔ ¬ p ∧ rest = .ok a := by
  by_cases hp : p <;> simp [hp]

/-- A run is valid if and only if it is well formed. -/
theorem Run.validate_eq_ok : r.validate = .ok () ↔ r.WellFormed := by
  simp only [Run.validate, ite_error_eq_ok, and_true, not_or]
  constructor
  · rintro ⟨⟨h₁, h₂, h₃, h₄, h₅, h₆, h₇, h₈, h₉, h₁₀, h₁₁, h₁₂, hupdated, havailable⟩, hprovider,
      hrevision, hlimits, htask, ⟨hid, hnumber⟩, hcompleted, hleased, hunleased, hclarified⟩
    refine ⟨⟨⟨h₁, h₂, h₃, h₄, h₅, h₆, h₇, h₈, h₉, h₁₀, h₁₁, h₁₂⟩, not_not.mp hprovider, hrevision⟩,
      hupdated, havailable, ?_, ?_, ?_, ?_, ?_, ?_⟩
    · simpa only [Run.WithinLimits, Int.not_lt] using hlimits
    · refine ⟨not_not.mp htask, hid, fun number hmem => ?_⟩
      by_contra hneg
      exact hnumber ⟨number, hmem, Int.not_lt.mp hneg⟩
    · exact (not_iff_comm.mp (not_iff.mp hcompleted)).symm
    · intro hstatus
      simpa [hstatus] using hleased
    · intro hstatus
      simpa [hstatus] using hunleased
    · intro hstatus
      simpa [hstatus] using hclarified
  · rintro ⟨⟨⟨h₁, h₂, h₃, h₄, h₅, h₆, h₇, h₈, h₉, h₁₀, h₁₁, h₁₂⟩, hprovider, hrevision⟩, hupdated,
      havailable, hlimits, htask, hstate⟩
    refine ⟨⟨h₁, h₂, h₃, h₄, h₅, h₆, h₇, h₈, h₉, h₁₀, h₁₁, h₁₂, hupdated, havailable⟩,
      not_not.mpr hprovider, hrevision, ?_, not_not.mpr htask.1, ⟨htask.2.1, ?_⟩, ?_, ?_, ?_, ?_⟩
    · simpa only [Int.not_lt, Run.WithinLimits] using hlimits
    · rintro ⟨number, hmem, hneg⟩
      exact absurd (htask.2.2 number hmem) (Int.not_lt.mpr hneg)
    · exact not_iff.mpr (not_iff_comm.mpr hstate.completed.symm)
    · rintro ⟨hstatus, hlease⟩
      obtain ⟨howner, hexpiry⟩ := hstate.leased hstatus
      rcases hlease with hblank | hnone
      · rw [howner] at hblank
        cases hblank
      · exact hexpiry hnone
    · rintro ⟨hstatus, hlease⟩
      obtain ⟨howner, hexpiry⟩ := hstate.unleased hstatus
      exact hlease.elim (fun h => h howner) (fun h => h hexpiry)
    · rintro ⟨hstatus, hclarified⟩
      obtain ⟨hmessage, hinterrupt, hexpiry⟩ := hstate.clarified hstatus
      rw [hmessage, hinterrupt] at hclarified
      rcases hclarified with hblank | hblank | hnone
      · cases hblank
      · cases hblank
      · exact hexpiry hnone

/-! ## Status by status -/

theorem Run.StatusConsistent.of_running (hstatus : r.status = .running)
    (howner : blank (stringValue r.leaseOwner) = false) (hexpiry : r.leaseExpiresAt ≠ none)
    (hcompleted : r.completedAt = none) : r.StatusConsistent where
  completed := by simp [hstatus, hcompleted, RunStatus.IsTerminal]
  leased _ := ⟨howner, hexpiry⟩
  unleased hne := absurd hstatus hne
  clarified heq := by simp [hstatus] at heq

theorem Run.StatusConsistent.of_queued (hstatus : r.status = .queued)
    (howner : stringValue r.leaseOwner = "") (hexpiry : r.leaseExpiresAt = none)
    (hcompleted : r.completedAt = none) : r.StatusConsistent where
  completed := by simp [hstatus, hcompleted, RunStatus.IsTerminal]
  leased heq := by simp [hstatus] at heq
  unleased _ := ⟨howner, hexpiry⟩
  clarified heq := by simp [hstatus] at heq

theorem Run.StatusConsistent.of_terminal (hstatus : r.status.IsTerminal)
    (howner : stringValue r.leaseOwner = "") (hexpiry : r.leaseExpiresAt = none)
    (hcompleted : r.completedAt ≠ none) : r.StatusConsistent where
  completed := by simp [hstatus, hcompleted]
  leased heq := absurd (heq ▸ hstatus) (by decide)
  unleased _ := ⟨howner, hexpiry⟩
  clarified heq := absurd (heq ▸ hstatus) (by decide)

/-- A run that is not at its end has not been completed. -/
theorem Run.StatusConsistent.completedAt_eq_none (h : r.StatusConsistent)
    (hstatus : ¬ r.status.IsTerminal) : r.completedAt = none := by
  by_contra hcompleted
  exact hstatus (h.completed.mpr hcompleted)

/-! ## What the moves keep -/

/-- The identifiers that are stored are not blank, and the number of a Task is positive. -/
def Cmd.Proper : Cmd → Prop
  | .claimRun workerId _ _ _ => blank workerId = false
  | .attachTask _ _ _ taskNumber _ => 0 < taskNumber
  | .markOutboxDelivered _ _ providerMessageId _ => blank providerMessageId = false
  | _ => True

/-- The times that are stored are not the zero time. -/
def Cmd.Timed : Cmd → Prop
  | .createRunWithInput run _ => run.inserted.triggerOccurredAt ≠ 0 ∧ run.inserted.createdAt ≠ 0 ∧
      run.inserted.updatedAt ≠ 0 ∧ run.inserted.availableAt ≠ 0
  | .claimRun _ _ now _ | .renewRunLease _ _ now _ | .addContextMessages _ _ _ now
  | .attachTask _ _ _ _ now | .markRunWaiting _ _ _ _ now | .resumeWaitingRun _ _ _ now
  | .resumeWaitingRunWithInput _ _ _ _ now | .finishRun _ _ _ _ _ _ now
  | .markOutboxDelivered _ _ _ now | .cancelExpiredClarification _ _ now =>
      now.column ≠ 0
  | .retryRun _ _ availableAt now => availableAt.column ≠ 0 ∧ now.column ≠ 0
  | _ => True

/-- A run at its end is not moved. -/
theorem Cmd.Moves.not_terminal (h : c.Moves id old new) : ¬ old.status.IsTerminal := by
  have hof : old.status = .queued ∨ old.status = .running ∨ old.status = .waitingUser →
      ¬ old.status.IsTerminal := by
    rintro (hstatus | hstatus | hstatus) <;> rw [hstatus] <;> decide
  apply hof
  cases c with
  | claimRun =>
    exact h.2.2.1.elim (fun hqueued => .inl hqueued.1) (fun hlapsed => .inr (.inl hlapsed.1))
  | renewRunLease | addContextMessages | attachTask | markRunWaiting | finishRun | retryRun =>
    exact .inr (.inl h.2.1.1)
  | resumeWaitingRun | resumeWaitingRunWithInput | cancelExpiredClarification =>
    exact .inr (.inr h.2.1.1)
  | markOutboxDelivered => exact .inr (.inr h.1)
  | _ => exact h.elim

theorem all_dropWhile {α : Type} (p : α → Bool) (l : List α) : (l.dropWhile p).all p = l.all p := by
  induction l with
  | nil => rfl
  | cons a l ih => by_cases ha : p a <;> simp [ha, ih]

/-- A text is blank if nothing is left of it when the spaces are cut off. -/
theorem blank_trimSpace (s : String) : blank (trimSpace s) = blank s := by
  simp only [blank, trimSpace, String.toList_ofList, List.all_reverse, all_dropWhile]

/-- What a new run stores is well formed: the constraints of the table let only queued runs in. -/
theorem Run.WellFormed.inserted {input} (h : r.WellFormed) (hchecked : r.inserted.Checked)
    (htimed : Cmd.Timed (.createRunWithInput r input)) : r.inserted.WellFormed where
  identified := by
    obtain ⟨⟨h₁, h₂, h₃, h₄, h₅, h₆, -, h₇, h₈, h₉, h₁₀, -⟩, hrest⟩ := h.identified
    exact ⟨⟨h₁, h₂, h₃, h₄, h₅, h₆, htimed.1, h₇, h₈, h₉, h₁₀, htimed.2.1⟩, hrest⟩
  updatedAt := htimed.2.2.1
  availableAt := htimed.2.2.2
  limits := h.limits
  task := ⟨rfl, nofun, nofun⟩
  state := by
    obtain ⟨hrunning, -, hwaiting, -, hterminal⟩ := hchecked
    have hqueued : r.inserted.status = .queued := by
      cases hstatus : r.inserted.status with
      | queued => rfl
      | running => cases hrunning.mp hstatus
      | waitingUser => cases (hwaiting hstatus).1
      | succeeded | failed | cancelled => cases hterminal.mp (hstatus ▸ by decide)
    exact .of_queued hqueued rfl rfl rfl

/-- Every move keeps a run well formed. -/
theorem Cmd.Moves.wellFormed (h : c.Moves id old new) (hold : old.WellFormed)
    (hproper : c.Proper) (htimed : c.Timed) (htask : ∀ taskId ∈ c.attachedTask, taskId ≠ 0) :
    new.WellFormed := by
  have hcompleted : old.completedAt = none := hold.state.completedAt_eq_none h.not_terminal
  cases c with
  | claimRun =>
    obtain ⟨-, -, -, rfl⟩ := h
    obtain ⟨hattempts, hlimits⟩ := hold.limits
    refine ⟨hold.identified, htimed, hold.availableAt, ⟨?_, hlimits⟩, hold.task, ?_⟩
    · dsimp only [Run.claimed]
      omega
    · exact .of_running rfl hproper nofun hcompleted
  | renewRunLease =>
    obtain ⟨-, hheld, rfl⟩ := h
    refine ⟨hold.identified, htimed, hold.availableAt, hold.limits, hold.task, ?_⟩
    exact .of_running hheld.1 (hold.state.leased hheld.1).1 nofun hcompleted
  | addContextMessages =>
    obtain ⟨-, hheld, hcount, hlimit, rfl⟩ := h
    obtain ⟨hattempts, hrounds, hrounds', hused, -⟩ := hold.limits
    obtain ⟨howner, hexpiry⟩ := hold.state.leased hheld.1
    refine ⟨hold.identified, htimed, hold.availableAt,
      ⟨hattempts, hrounds, hrounds', ?_, hlimit⟩, hold.task, ?_⟩
    · dsimp only [Run.usedContext]
      omega
    · exact .of_running hheld.1 howner hexpiry hcompleted
  | attachTask _ _ taskId =>
    obtain ⟨-, hheld, -, rfl⟩ := h
    obtain ⟨howner, hexpiry⟩ := hold.state.leased hheld.1
    refine ⟨hold.identified, htimed, hold.availableAt, hold.limits, ⟨rfl, ?_, ?_⟩, ?_⟩
    · exact fun hzero => htask taskId rfl (Option.some.inj hzero)
    · exact fun number hmem => Option.some.inj hmem ▸ hproper
    · exact .of_running hheld.1 howner hexpiry hcompleted
  | markRunWaiting =>
    obtain ⟨-, hheld, waiting, hwaiting, rfl⟩ := h
    obtain ⟨hattempts, hrounds, -, hcontext⟩ := hold.limits
    unfold Run.waitForUser at hwaiting
    split_ifs at hwaiting with hrunning hlimit hblank
    obtain rfl := Except.ok.inj hwaiting
    simp only [not_or, Bool.not_eq_true] at hblank
    refine ⟨hold.identified, htimed, hold.availableAt, ⟨hattempts, ?_, ?_, hcontext⟩, hold.task,
      ?_, nofun, fun _ => ⟨rfl, rfl⟩, fun _ => ⟨?_, ?_, nofun⟩⟩
    · dsimp only [Run.waiting, Run.scan]
      omega
    · dsimp only [Run.waiting, Run.scan] at hlimit ⊢
      omega
    · simp [Run.waiting, RunStatus.IsTerminal, hcompleted]
    · exact (blank_trimSpace _).trans hblank.1
    · exact (blank_trimSpace _).trans hblank.2
  | resumeWaitingRun runId userId clarificationMessageId now
  | resumeWaitingRunWithInput =>
    obtain ⟨-, hanswerable, rfl⟩ := h
    obtain ⟨howner, hexpiry⟩ := hold.state.unleased (by simp [hanswerable.1])
    refine ⟨hold.identified, htimed, htimed, hold.limits, hold.task, ?_⟩
    exact .of_queued rfl howner hexpiry hcompleted
  | finishRun =>
    obtain ⟨-, hheld, hterminal, rfl⟩ := h
    refine ⟨hold.identified, htimed, hold.availableAt, hold.limits, hold.task, ?_⟩
    exact .of_terminal hterminal rfl rfl nofun
  | retryRun =>
    obtain ⟨-, hheld, rfl⟩ := h
    refine ⟨hold.identified, htimed.2, htimed.1, hold.limits, hold.task, ?_⟩
    exact .of_queued rfl rfl rfl hcompleted
  | markOutboxDelivered =>
    obtain ⟨hwaiting, rfl⟩ := h
    refine ⟨hold.identified, htimed, hold.availableAt, hold.limits, hold.task,
      hold.state.completed, hold.state.leased, hold.state.unleased, fun hstatus => ?_⟩
    exact ⟨hproper, (hold.state.clarified hstatus).2⟩
  | cancelExpiredClarification =>
    obtain ⟨-, hexpired, rfl⟩ := h
    obtain ⟨howner, hexpiry⟩ := hold.state.unleased (by simp [hexpired.1])
    refine ⟨hold.identified, htimed, hold.availableAt, hold.limits, hold.task, ?_⟩
    exact .of_terminal (.inr (.inr rfl)) howner hexpiry nofun
  | _ => exact h.elim

/-- All rows are well formed, and no Task has the identifier zero. -/
def AllWellFormed (d : Db) : Prop :=
  (∀ id, ∀ row : Run, d (.run id) = some row → row.WellFormed) ∧ d (.task 0) = none

theorem AllWellFormed.empty : AllWellFormed fun _ => none := by
  refine ⟨fun id row hrow => ?_, rfl⟩
  cases hrow

/-- A transaction keeps all runs well formed. -/
theorem AllWellFormed.effect (h : AllWellFormed d) (heffect : Effect c d d') (hproper : c.Proper)
    (htimed : c.Timed) : AllWellFormed d' := by
  refine ⟨fun id row hrow => ?_, heffect.tasks.trans h.2⟩
  rcases heffect.runs id with hsame | ⟨old, new, hold, hnew, hmoves, htask⟩ |
    ⟨run, input, rfl, -, hvalid, hchecked, -, hnew⟩
  · exact h.1 id row (hsame ▸ hrow)
  · obtain rfl := Option.some.inj (hnew.symm.trans hrow)
    refine hmoves.wellFormed (h.1 id old hold) hproper htimed fun taskId hmem hzero => ?_
    exact htask taskId hmem (hzero ▸ h.2)
  · obtain rfl := Option.some.inj (hnew.symm.trans hrow)
    exact (Run.validate_eq_ok.mp hvalid).inserted hchecked htimed

/-- A run at its end keeps its status. -/
theorem Effect.terminal (heffect : Effect c d d') (hrow : d (.run id) = some old)
    (hterminal : old.status.IsTerminal) : d' (.run id) = some old := by
  rcases heffect.runs id with hsame | ⟨row, _, hold, -, hmoves, -⟩ | ⟨_, _, -, -, -, -, hnone, -⟩
  · exact hsame.trans hrow
  · obtain rfl := Option.some.inj (hold.symm.trans hrow)
    exact absurd hterminal hmoves.not_terminal
  · cases hnone.symm.trans hrow

end Pactline.Agent
