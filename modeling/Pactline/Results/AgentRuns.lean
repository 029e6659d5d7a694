import Pactline.Concurrency.Clients
import Pactline.Model.AgentWorker
import Pactline.Analysis.AgentRunState

/-!
# Agent runs over whole histories

Every row of `agent_runs` that is ever committed passes `Run.Validate`, although the statements that
write it do not call it. This takes a clock that never shows the zero time: `renewRunLease` at that
time writes an `updatedAt` which the validation refuses (`lease_renewed_at_zero_time`).

A lease can lapse while its worker is still at work, and another worker takes the run over. The
statements that end a run look at its owner, so a run has one end and one final message.
-/

set_option autoImplicit false

namespace Pactline.Agent

open ReadCommitted Config List Option

variable {worker : Option Nat} {messageId : Id}

abbrev AgentCommit := Commit Db Key Call Reply

variable {c : Cmd} {d d' : Db} {id : Id} {old new : Run}

/-- The commits of a schedule, one after the other from the empty tables. -/
theorem serial_of_run {es}
    {cfg : Config Db Key AgentError Call Reply}
    (h : run prog (initial fun _ => none) es = some cfg) :
    Serial prog (fun _ => Rows.locked) (fun _ => none) cfg.log cfg.db :=
  (Rowwise.protocol fun call : Call => statements call.cmd).serial trivial h

theorem effect_of_valid {e : AgentCommit} (h : e.Valid prog fun _ => Rows.locked) :
    Effect e.cmd.cmd e.before e.after :=
  effect_of_runs (Rowwise.runs_of_commits h)

/-! ## Valid rows -/

/-- Every run of every commit is well formed. -/
theorem allWellFormed_of_serial {log}
    (h : Serial prog (fun _ => Rows.locked) (fun _ => none) log d)
    (hproper : ∀ e ∈ log, e.cmd.cmd.Proper) (htimed : ∀ e ∈ log, e.cmd.cmd.Timed) :
    AllWellFormed d ∧ ∀ e ∈ log, AllWellFormed e.after := by
  let Valid (log : List AgentCommit) (d : Db) : Prop :=
    (∀ e ∈ log, e.cmd.cmd.Proper ∧ e.cmd.cmd.Timed) →
      AllWellFormed d ∧ ∀ e ∈ log, AllWellFormed e.after
  have hvalid : Valid log d := by
    refine h.history (P := Valid)
      (fun _ => ⟨AllWellFormed.empty, fun _ hmem => absurd hmem not_mem_nil⟩)
      fun e older hvalid ih hcmds => ?_
    obtain ⟨hbefore, holder⟩ := ih fun e' hmem => hcmds e' (mem_cons_of_mem e hmem)
    obtain ⟨hproper, htimed⟩ := hcmds e mem_cons_self
    have hafter := hbefore.effect (effect_of_valid hvalid) hproper htimed
    refine ⟨hafter, fun e' hmem => ?_⟩
    rcases mem_cons.mp hmem with rfl | hmem
    · exact hafter
    · exact holder e' hmem
  exact hvalid fun e hmem => ⟨hproper e hmem, htimed e hmem⟩

/-- A run at its end is the same after any number of commits. -/
theorem terminal_of_serial {log d₀}
    (h : Serial prog (fun _ => Rows.locked) d₀ log d) (hrow : d₀ (.run id) = some old)
    (hterminal : old.status.IsTerminal) :
    d (.run id) = some old ∧ ∀ e ∈ log, e.after (.run id) = some old := by
  let Stays (log : List AgentCommit) (d : Db) : Prop :=
    d (.run id) = some old ∧ ∀ e ∈ log, e.after (.run id) = some old
  refine h.history (P := Stays) ⟨hrow, fun _ hmem => absurd hmem not_mem_nil⟩
    fun e older hvalid ih => ?_
  have hafter := (effect_of_valid hvalid).terminal ih.1 hterminal
  refine ⟨hafter, fun e' hmem => ?_⟩
  rcases mem_cons.mp hmem with rfl | hmem
  · exact hafter
  · exact ih.2 e' hmem

/-- **Every committed run is valid, and its end is final.** The clients may be any: all that is
asked of the transactions that commit is that the worker of a claim, the provider's identifier of a
delivered message and the times are not blank or zero, and that the number of a Task is positive. -/
theorem agent_runs_valid {es : List (Event Call AgentError Reply)}
    {cfg : Config Db Key AgentError Call Reply}
    (h : run prog (initial fun _ => none) es = some cfg)
    (hproper : ∀ e ∈ cfg.log, e.cmd.cmd.Proper) (htimed : ∀ e ∈ cfg.log, e.cmd.cmd.Timed) :
    (∀ e ∈ cfg.log, ∀ id, ∀ row : Run, e.after (.run id) = some row → row.validate = .ok ()) ∧
      ∀ newer e older, cfg.log = newer ++ e :: older → ∀ id, ∀ row : Run,
        e.after (.run id) = some row → row.status.IsTerminal →
        ∀ e' ∈ newer, ∃ row' : Run, e'.after (.run id) = some row' ∧ row'.status = row.status := by
  have hserial := serial_of_run h
  refine ⟨fun e hmem id row hrow => ?_, fun newer e older hlog id row hrow hterminal e' hmem => ?_⟩
  · exact Run.validate_eq_ok.mpr
      (((allWellFormed_of_serial hserial hproper htimed).2 e hmem).1 id row hrow)
  · rw [hlog] at hserial
    exact ⟨row, (terminal_of_serial hserial.split.1 hrow hterminal).2 e' hmem, rfl⟩

/-! ## Sample runs -/

def sampleRun : Run :=
  { id := 1, provider := "lark", tenantId := "t", conversationId := "c", triggerMessageId := "m"
    providerEventId := "e", threadRootMessageId := none, replyParentMessageId := none
    conversationRevisionId := none, triggerOccurredAt := 4000, initiatingUserId := 2
    initiatingSubjectId := "s", status := .queued, commandKind := .direct, model := "g"
    promptVersion := "v", attemptCount := 0, clarificationRounds := 0
    clarificationMessageId := none, clarificationInterruptId := none
    clarificationExpiresAt := none, contextMessagesUsed := 0, leaseOwner := none
    leaseExpiresAt := none, availableAt := 4000, createdTaskId := none, createdTaskNumber := none
    terminalErrorCategory := none, terminalErrorDetail := none, createdAt := 4000, updatedAt := 4000
    completedAt := none }

/-- The run is created. -/
def createSample : Cmd := .createRunWithInput sampleRun ⟨1, "k", [0], none⟩

def advances (i n : Nat) : List (Event Call AgentError Reply) := replicate n (.advance i)

def scripted (cmds : List Cmd) : AgentClient := .script (cmds.map (⟨none, ·⟩))

/-- A run is created, claimed and finished. -/
def finishedRun : List (Event Call AgentError Reply) :=
  [.connect (scripted [createSample, .claimRun "w" (some 1) 5000 0,
    .finishRun 1 "w" .succeeded "" "" none 6000])] ++ advances 0 36

theorem finished_run_valid :
    ∃ cfg, run prog (initial fun _ => none) finishedRun = some cfg ∧ cfg.log.length = 3 ∧
      ∀ e ∈ cfg.log, ∀ row : Run, e.after (.run 1) = some row → row.validate = .ok () := by
  have hobserved : (run prog (initial fun _ => none) finishedRun).map
      (fun cfg => cfg.log.length) = some 3 := by decide +kernel
  obtain ⟨cfg, hrun, hlength⟩ := map_eq_some_iff.mp hobserved
  have hcmds : ∀ e ∈ cfg.log, e.cmd.cmd.Proper ∧ e.cmd.cmd.Timed := by
    refine Client.Only.run (p := fun call : Call => call.cmd.Proper ∧ call.cmd.Timed)
      (fun client hmem => ?_) (fun _ hmem => absurd hmem not_mem_nil)
      (fun _ hmem => absurd hmem not_mem_nil) hrun
    simp only [finishedRun, advances, mem_append, mem_singleton, Event.connect.injEq,
      mem_replicate, reduceCtorEq, and_false, or_false] at hmem
    subst hmem
    refine Client.only_script fun call hmem => ?_
    simp only [map_cons, map_nil, mem_cons, not_mem_nil, or_false] at hmem
    rcases hmem with rfl | rfl | rfl
    · exact ⟨trivial, by decide, by decide, by decide, by decide⟩
    · exact ⟨show blank "w" = false by decide, show Instant.column 5000 ≠ 0 by decide⟩
    · exact ⟨trivial, show Instant.column 6000 ≠ 0 by decide⟩
  refine ⟨cfg, hrun, hlength, fun e hmem => ?_⟩
  exact (agent_runs_valid hrun (fun e hmem => (hcmds e hmem).1) fun e hmem => (hcmds e hmem).2).1 e
    hmem 1

/-- **A lease that is renewed at the zero time** leaves a row that is not valid. -/
theorem lease_renewed_at_zero_time :
    ∃ (es : List (Event Call AgentError Reply)) (cfg : Config Db Key AgentError Call Reply),
      run prog (initial fun _ => none) es = some cfg ∧
      (∀ e ∈ cfg.log, e.cmd.cmd.Proper) ∧
      ∃ e ∈ cfg.log, ∃ row : Run, e.after (.run 1) = some row ∧
        row.validate = .error .invalidRun := by
  let es : List (Event Call AgentError Reply) :=
    [.connect (scripted [createSample, .claimRun "w" (some 1) 5000 0, .renewRunLease 1 "w" 0 0])] ++
      advances 0 33
  have hobserved : (run prog (initial fun _ => none) es).map
      (fun cfg => cfg.log.map fun e => (e.after (.run 1) : Option Run).map Run.validate) =
      some [some (.error .invalidRun), some (.ok ()), some (.ok ())] := by decide +kernel
  obtain ⟨cfg, hrun, hlog⟩ := map_eq_some_iff.mp hobserved
  have hcmds : ∀ e ∈ cfg.log, e.cmd.cmd.Proper := by
    refine Client.Only.run (p := fun call : Call => call.cmd.Proper) (fun client hmem => ?_)
      (fun _ hmem => absurd hmem not_mem_nil) (fun _ hmem => absurd hmem not_mem_nil) hrun
    simp only [es, advances, mem_append, mem_singleton, Event.connect.injEq,
      mem_replicate, reduceCtorEq, and_false, or_false] at hmem
    subst hmem
    refine Client.only_script fun call hmem => ?_
    simp only [map_cons, map_nil, mem_cons, not_mem_nil, or_false] at hmem
    rcases hmem with rfl | rfl | rfl
    · trivial
    · exact show blank "w" = false by decide
    · trivial
  obtain ⟨e, older, heq, he, -⟩ := map_eq_cons_iff.mp hlog
  obtain ⟨row, hrow, hinvalid⟩ := map_eq_some_iff.mp he
  exact ⟨es, cfg, hrun, hcmds, e, heq ▸ mem_cons_self, row, hrow, hinvalid⟩

/-! ## Leases -/

/-- The worker whose lease the transaction takes or needs. -/
def Cmd.leaseholder : Cmd → Option String
  | .claimRun workerId _ _ _ | .renewRunLease _ workerId _ _ | .addContextMessages _ workerId _ _
  | .attachTask _ workerId _ _ _ | .markRunWaiting _ workerId _ _ _
  | .finishRun _ workerId _ _ _ _ _ | .retryRun _ workerId _ _ => some workerId
  | _ => none

/-- The kinds of messages that tell the user how a run has ended. -/
def OutboxKind.IsFinal (kind : OutboxKind) : Prop :=
  kind = .success ∨ kind = .permissionFailure ∨ kind = .terminalFailure ∨ kind = .expired
deriving Decidable

/-- A message that says how a run has ended is about the run of the transaction, and a question is
no such message. -/
def Cmd.Addressed : Cmd → Prop
  | .markRunWaiting _ _ _ outbox _ => ¬ outbox.kind.IsFinal
  | .finishRun runId _ _ _ _ outbox _ => ∀ message ∈ outbox, message.runId = runId
  | .cancelExpiredClarification runId outbox _ => outbox.runId = runId
  | _ => True

/-- Whoever takes or needs the lease of a worker is that worker. -/
def Call.Honest (ids : Nat → String) (call : Call) : Prop :=
  call.cmd.Addressed ∧
    ∀ workerId ∈ call.cmd.leaseholder, ∃ i, call.worker = some i ∧ ids i = workerId

/-- What comes to the store from outside the workers. -/
def Cmd.External : Cmd → Prop
  | .createRunWithInput _ _ | .findRunByProviderIdentity _ _ _ _ | .getRun _
  | .resumeWaitingRun _ _ _ _ | .resumeWaitingRunWithInput _ _ _ _ _ | .createTask _ => True
  | _ => False

/-- The clients of the store, where worker `i` has the identifier `ids i`: the loops of the workers
and whoever creates runs, answers questions and creates Tasks. -/
inductive Staffed (ids : Nat → String) : AgentClient → Prop
  | agent (w : Worker) (hid : ids w.index = w.workerId) (turns : List Turn) :
      Staffed ids (w.runAgentLoop turns)
  | renewal (w : Worker) (hid : ids w.index = w.workerId) (runId : Id) (times : List Instant) :
      Staffed ids (w.renewLease runId times)
  | outbox (workerId : String) (deliveries : List Delivery) :
      Staffed ids (runOutboxLoop workerId deliveries)
  | expiry (renderer : Renderer) (newId : Id → Id) (runIds : List Id) (now : Instant) :
      Staffed ids (expireClarifications renderer newId runIds now)
  | external (client : AgentClient) (honly : client.Only fun call => call.cmd.External) :
      Staffed ids client

section Clients

variable {ids : Nat → String} {w : Worker} {turn : Turn} {run : Run} {rest : AgentClient}

theorem Worker.honest (hid : ids w.index = w.workerId) (haddressed : c.Addressed)
    (hleaseholder : ∀ workerId ∈ c.leaseholder, workerId = w.workerId) :
    Call.Honest ids ⟨some w.index, c⟩ :=
  ⟨haddressed, fun workerId hmem => ⟨w.index, rfl, hid.trans (hleaseholder workerId hmem).symm⟩⟩

/-- A transaction that is not about a lease. -/
theorem Call.honest_of_leaseholder_eq_none (haddressed : c.Addressed)
    (hnone : c.leaseholder = none) :
    Call.Honest ids ⟨worker, c⟩ := by
  refine ⟨haddressed, fun workerId hmem => ?_⟩
  rw [hnone] at hmem
  cases hmem

theorem Cmd.External.honest (h : c.External) : Call.Honest ids ⟨worker, c⟩ := by
  cases c with
  | createRunWithInput | findRunByProviderIdentity | getRun | resumeWaitingRun
  | resumeWaitingRunWithInput | createTask => exact Call.honest_of_leaseholder_eq_none trivial rfl
  | _ => exact h.elim

theorem Worker.only_handleRunError (hid : ids w.index = w.workerId)
    (hrest : rest.Only (Call.Honest ids))
    (err : RunError) : (w.handleRunError turn run err rest).Only (Call.Honest ids) := by
  unfold Worker.handleRunError
  dsimp only
  split
  · exact ⟨Worker.honest hid trivial fun _ hmem => (some.inj hmem).symm, fun _ => hrest⟩
  · refine ⟨Worker.honest hid ?_ fun _ hmem => (some.inj hmem).symm, fun _ => hrest⟩
    intro message hmem
    obtain rfl := some.inj hmem
    split <;> rfl

theorem Worker.only_settle (hid : ids w.index = w.workerId) (hrest : rest.Only (Call.Honest ids)) :
    (w.settle turn run rest).Only (Call.Honest ids) := by
  unfold Worker.settle
  split
  · exact Worker.only_handleRunError hid hrest _
  · have hquestion : ¬ OutboxKind.clarification.IsFinal := by decide
    refine ⟨Worker.honest hid hquestion fun _ hmem => (some.inj hmem).symm, fun outcome => ?_⟩
    cases outcome with
    | committed reply => exact hrest
    | failed err => exact Worker.only_handleRunError hid hrest _
    | aborted => exact Worker.only_handleRunError hid hrest _
  · split
    · exact Worker.only_handleRunError hid hrest _
    · refine ⟨Worker.honest hid ?_ fun _ hmem => (some.inj hmem).symm, fun _ => hrest⟩
      intro message hmem
      obtain rfl := some.inj hmem
      rfl
  · exact Worker.only_handleRunError hid hrest _

theorem Worker.only_executeRun (hid : ids w.index = w.workerId)
    (hrest : rest.Only (Call.Honest ids))
    (uses : List ToolUse) : (w.executeRun turn run rest uses).Only (Call.Honest ids) := by
  induction uses with
  | nil => exact Worker.only_settle hid hrest
  | cons use uses ih =>
    refine ⟨?_, fun _ => ih⟩
    cases use with
    | addContextMessages | attachTask =>
      exact Worker.honest hid trivial fun _ hmem => (some.inj hmem).symm
    | clearPendingResumeInput | getRun => exact Call.honest_of_leaseholder_eq_none trivial rfl

theorem Worker.only_runAgentLoop (hid : ids w.index = w.workerId) (turns : List Turn) :
    (w.runAgentLoop turns).Only (Call.Honest ids) := by
  induction turns with
  | nil => trivial
  | cons turn turns ih =>
    refine ⟨Worker.honest hid trivial fun _ hmem => (some.inj hmem).symm, fun outcome => ?_⟩
    dsimp only
    split
    · exact Worker.only_executeRun hid ih _
    · exact ih

theorem Worker.only_renewLease (hid : ids w.index = w.workerId) (runId : Id)
    (times : List Instant) :
    (w.renewLease runId times).Only (Call.Honest ids) := by
  induction times with
  | nil => trivial
  | cons now times ih =>
    refine ⟨Worker.honest hid trivial fun _ hmem => (some.inj hmem).symm, fun outcome => ?_⟩
    dsimp only
    split
    · exact ih
    · trivial

theorem only_runOutboxLoop (workerId : String) (deliveries : List Delivery) :
    (runOutboxLoop workerId deliveries).Only (Call.Honest ids) := by
  induction deliveries with
  | nil => trivial
  | cons delivery deliveries ih =>
    refine ⟨Call.honest_of_leaseholder_eq_none trivial rfl, fun outcome => ?_⟩
    dsimp only
    split
    · refine ⟨Call.honest_of_leaseholder_eq_none trivial rfl, fun outcome => ?_⟩
      dsimp only
      split
      · split
        · exact ⟨Call.honest_of_leaseholder_eq_none trivial rfl, fun _ => ih⟩
        · exact ⟨Call.honest_of_leaseholder_eq_none trivial rfl, fun _ => ih⟩
      · exact ⟨Call.honest_of_leaseholder_eq_none trivial rfl, fun _ => ih⟩
    · exact ih

theorem only_cancelRuns (renderer : Renderer) (newId : Id → Id) (now : Instant) (runs : List Run) :
    (cancelRuns renderer newId now runs).Only (Call.Honest ids) := by
  induction runs with
  | nil => trivial
  | cons run runs ih =>
    refine ⟨Call.honest_of_leaseholder_eq_none rfl rfl, fun outcome => ?_⟩
    dsimp only
    split
    · exact ih
    · trivial

/-- The clients are honest. -/
theorem Staffed.only {client : AgentClient} (h : Staffed ids client) :
    client.Only (Call.Honest ids) := by
  cases h with
  | agent w hid turns => exact Worker.only_runAgentLoop hid turns
  | renewal w hid runId times => exact Worker.only_renewLease hid runId times
  | outbox workerId deliveries => exact only_runOutboxLoop workerId deliveries
  | expiry renderer newId runIds now =>
    refine ⟨Call.honest_of_leaseholder_eq_none trivial rfl, fun outcome => ?_⟩
    dsimp only
    split
    · exact only_cancelRuns renderer newId now _
    · trivial
  | external client honly =>
    induction client with
    | stop => trivial
    | call call next ih =>
      obtain ⟨hexternal, honly⟩ := honly
      exact ⟨hexternal.honest, fun outcome => ih outcome (honly outcome)⟩

end Clients

/-- A run leaves the status of a running one only by a transaction that needs its lease. -/
theorem Cmd.Moves.leaseholder (h : c.Moves id old new) (hrunning : old.status = .running)
    (hmoved : new.status ≠ .running) :
    ∃ workerId, c.leaseholder = some workerId ∧ old.leaseOwner = some workerId := by
  cases c with
  | claimRun =>
    obtain ⟨-, -, -, rfl⟩ := h
    exact absurd rfl hmoved
  | renewRunLease =>
    obtain ⟨-, -, rfl⟩ := h
    exact absurd hrunning hmoved
  | addContextMessages =>
    obtain ⟨-, -, -, -, rfl⟩ := h
    exact absurd hrunning hmoved
  | attachTask =>
    obtain ⟨-, -, -, rfl⟩ := h
    exact absurd hrunning hmoved
  | markRunWaiting | finishRun | retryRun => exact ⟨_, rfl, h.2.1.2⟩
  | resumeWaitingRun | resumeWaitingRunWithInput | cancelExpiredClarification =>
    cases hrunning.symm.trans h.2.1.1
  | markOutboxDelivered => cases hrunning.symm.trans h.1
  | _ => exact h.elim

/-! ## One end, one final message -/

/-- The commit ends the run. -/
def Ends (id : Id) (e : AgentCommit) : Prop :=
  (∀ row : Run, e.before (.run id) = some row → ¬ row.status.IsTerminal) ∧
    ∃ row : Run, e.after (.run id) = some row ∧ row.status.IsTerminal

/-- There is a final message of the run under this identifier. -/
def FinalMessage (d : Db) (runId messageId : Id) : Prop :=
  ∃ message : OutboxMessage, d (.message messageId) = some message ∧ message.runId = runId ∧
    message.kind.IsFinal

/-- Only a run at its end has a final message, and it has only one. -/
def FinalMessages (d : Db) : Prop :=
  ∀ runId messageId, FinalMessage d runId messageId →
    (∃ row : Run, d (.run runId) = some row ∧ row.status.IsTerminal) ∧
      ∀ messageId', FinalMessage d runId messageId' → messageId' = messageId

/-- A final message is inserted by the commit that ends the run. -/
theorem Effect.finalMessage (h : Effect c d d') (haddressed : c.Addressed) {runId}
    (hmessage : FinalMessage d' runId messageId) :
    FinalMessage d runId messageId ∨
      (∃ message, c.outbox = some (runId, message) ∧ message.id = messageId) ∧
        (∃ row : Run, d (.run runId) = some row ∧ ¬ row.status.IsTerminal) ∧
        ∃ row : Run, d' (.run runId) = some row ∧ row.status.IsTerminal := by
  obtain ⟨message, hrow, hrun, hfinal⟩ := hmessage
  rcases h.messages messageId with hsame | ⟨old, new, hold, hnew, hrun', hkind⟩ |
    ⟨runId', message', houtbox, hid, -, hnew, old, new, hold, hnew', hmoves, -⟩
  · exact .inl ⟨message, hsame.symm.trans hrow, hrun, hfinal⟩
  · obtain rfl := some.inj (hnew.symm.trans hrow)
    exact .inl ⟨old, hold, hrun'.symm.trans hrun, hkind ▸ hfinal⟩
  · obtain rfl := some.inj (hnew.symm.trans hrow)
    have hend : message'.runId = runId' ∧ new.status.IsTerminal := by
      cases c with
      | markRunWaiting =>
        obtain ⟨rfl, rfl⟩ := Prod.mk.inj (some.inj houtbox)
        exact absurd hfinal haddressed
      | finishRun _ _ _ _ _ outbox _ =>
        obtain ⟨sent, rfl, heq⟩ := map_eq_some_iff.mp houtbox
        obtain ⟨rfl, rfl⟩ := Prod.mk.inj heq
        obtain ⟨-, -, hterminal, rfl⟩ := hmoves
        exact ⟨haddressed _ rfl, hterminal⟩
      | cancelExpiredClarification =>
        obtain ⟨rfl, rfl⟩ := Prod.mk.inj (some.inj houtbox)
        obtain ⟨-, -, rfl⟩ := hmoves
        exact ⟨haddressed, .inr (.inr rfl)⟩
      | _ => cases houtbox
    obtain rfl : runId = runId' := hrun.symm.trans hend.1
    exact .inr ⟨⟨message', houtbox, hid⟩, ⟨old, hold, hmoves.not_terminal⟩, new, hnew', hend.2⟩

/-- A transaction keeps the final messages apart. -/
theorem FinalMessages.effect (h : FinalMessages d) (heffect : Effect c d d')
    (haddressed : c.Addressed) : FinalMessages d' := by
  intro runId messageId hmessage
  rcases heffect.finalMessage haddressed hmessage with hbefore |
    ⟨⟨message, houtbox, rfl⟩, ⟨old, hold, hopen⟩, hend⟩
  · obtain ⟨⟨row, hrow, hterminal⟩, hunique⟩ := h runId messageId hbefore
    refine ⟨⟨row, heffect.terminal hrow hterminal, hterminal⟩, fun messageId' hmessage' => ?_⟩
    rcases heffect.finalMessage haddressed hmessage' with hbefore' | ⟨-, ⟨row', hrow', hopen⟩, -⟩
    · exact hunique messageId' hbefore'
    · -- The run is at its end already, so no message is inserted.
      obtain rfl := some.inj (hrow'.symm.trans hrow)
      exact absurd hterminal hopen
  · refine ⟨hend, fun messageId' hmessage' => ?_⟩
    rcases heffect.finalMessage haddressed hmessage' with hbefore' |
      ⟨⟨message', houtbox', rfl⟩, -⟩
    · obtain ⟨⟨row, hrow, hterminal⟩, -⟩ := h runId messageId' hbefore'
      obtain rfl := some.inj (hrow.symm.trans hold)
      exact absurd hterminal hopen
    · rw [(Prod.mk.inj (some.inj (houtbox'.symm.trans houtbox))).2]

/-- Messages stay, each with its run and its kind. -/
theorem Effect.message_stays (h : Effect c d d') {message : OutboxMessage}
    (hmessage : d (.message messageId) = some message) :
    ∃ message' : OutboxMessage, d' (.message messageId) = some message' ∧
      message'.runId = message.runId ∧ message'.kind = message.kind := by
  rcases h.messages messageId with hsame | ⟨old, new, hold, hnew, hsame⟩ | ⟨_, _, -, -, hnone, -⟩
  · exact ⟨message, hsame.trans hmessage, rfl, rfl⟩
  · obtain rfl := some.inj (hold.symm.trans hmessage)
    exact ⟨new, hnew, hsame⟩
  · cases hnone.symm.trans hmessage

/-- **The holder of the lease settles the run.** Let the workers have different identifiers. Then
over every schedule of their loops, a running run is moved on only by the worker that owns its lease
at the commit; a run ends at most once; and of the messages that tell how it has ended, which all
stay where they are, there is at most one. -/
theorem lease_holder_settles_run {ids : Nat → String} (hids : Function.Injective ids)
    {es : List (Event Call AgentError Reply)} {cfg : Config Db Key AgentError Call Reply}
    (hclients : ∀ client, .connect client ∈ es → Staffed ids client)
    (h : run prog (initial fun _ => none) es = some cfg) :
    (∀ e ∈ cfg.log, ∀ id, ∀ old new : Run, e.before (.run id) = some old → old.status = .running →
      e.after (.run id) = some new → new.status ≠ .running →
      ∃ i, e.cmd.worker = some i ∧ old.leaseOwner = some (ids i) ∧
        ∀ j, old.leaseOwner = some (ids j) → j = i) ∧
    (∀ newer e older, cfg.log = newer ++ e :: older → ∀ id, Ends id e → ∀ e' ∈ newer,
      ¬ Ends id e') ∧
    (∀ e ∈ cfg.log, ∀ messageId, ∀ message : OutboxMessage,
      e.before (.message messageId) = some message →
      ∃ message' : OutboxMessage, e.after (.message messageId) = some message' ∧
        message'.runId = message.runId ∧ message'.kind = message.kind) ∧
    ∀ runId messageId messageId', FinalMessage cfg.db runId messageId →
      FinalMessage cfg.db runId messageId' → messageId' = messageId := by
  have hserial := serial_of_run h
  have hhonest : ∀ e ∈ cfg.log, e.cmd.Honest ids :=
    Client.Only.run (p := Call.Honest ids) (fun client hmem => (hclients client hmem).only)
      (fun _ hmem => absurd hmem not_mem_nil) (fun _ hmem => absurd hmem not_mem_nil) h
  refine ⟨fun e hmem id old new hold hrunning hnew hmoved => ?_,
    fun newer e older hlog id hends => ?_,
    fun e hmem messageId message hmessage => ?_, fun runId messageId messageId' hm hm' => ?_⟩
  · rcases (effect_of_valid (hserial.valid hmem)).runs id with hsame |
      ⟨row, row', hrow, hrow', hmoves, -⟩ | ⟨_, _, -, -, -, -, hnone, -⟩
    · obtain rfl := some.inj (hold.symm.trans (hsame.symm.trans hnew))
      exact absurd hrunning hmoved
    · obtain rfl := some.inj (hrow.symm.trans hold)
      obtain rfl := some.inj (hrow'.symm.trans hnew)
      obtain ⟨workerId, hleaseholder, howner⟩ := hmoves.leaseholder hrunning hmoved
      obtain ⟨i, hworker, rfl⟩ := (hhonest e hmem).2 workerId hleaseholder
      exact ⟨i, hworker, howner, fun j hj => hids (some.inj (hj.symm.trans howner))⟩
    · cases hnone.symm.trans hold
  · intro e' hmem hends'
    rw [hlog] at hserial
    obtain ⟨row, hrow, hterminal⟩ := hends.2
    obtain ⟨newer', older', rfl⟩ := append_of_mem hmem
    have hbefore := terminal_of_serial hserial.split.1.split.2.2 hrow hterminal
    exact hends'.1 row hbefore.1 hterminal
  · exact (effect_of_valid (hserial.valid hmem)).message_stays hmessage
  · have hfinal : FinalMessages cfg.db := by
      let Final (log : List AgentCommit) (d : Db) : Prop :=
        (∀ e ∈ log, e.cmd.Honest ids) → FinalMessages d
      have hhistory : Final cfg.log cfg.db := by
        refine hserial.history (P := Final) (fun _ _ _ hmessage => ?_)
          fun e older hvalid ih hcmds => ?_
        · obtain ⟨_, hrow, -⟩ := hmessage
          cases hrow
        · have hbefore := ih fun e' hmem => hcmds e' (mem_cons_of_mem e hmem)
          exact hbefore.effect (effect_of_valid hvalid) (hcmds e mem_cons_self).1
      exact hhistory hhonest
    exact (hfinal runId messageId hm).2 messageId' hm'

/-! ## A lease that is taken over -/

/-- Worker `i` is called by `i + 1` letters. -/
def sampleIds (i : Nat) : String := String.ofList (replicate (i + 1) 'w')

theorem sampleIds_injective : Function.Injective sampleIds := by
  intro i j h
  have hlength := congrArg (fun s : String => s.toList.length) h
  simpa [sampleIds] using hlength

def sampleRenderer : Renderer where
  clarification _ question _ := question
  response _ response := .ok response
  failure _ message := message
  permissionFailure _ message := message
  expired _ := "expired"

def sampleWorker (i : Nat) : Worker := ⟨i, sampleIds i, 0, sampleRenderer⟩

/-- The run is claimed, and the model has an answer. -/
def sampleTurn (claimedAt now : Instant) (outboxId : Id) : Turn :=
  { candidate := some 1, claimedAt, uses := [], invoked := .ok (.succeeded "done"),
    leaseLost := none, now, outboxId, failureId := 0, jitter := 0 }

/-- A first worker claims the run and takes too long. A second one takes it over and finishes it;
then the first one comes with its answer. -/
def takeover : List (Event Call AgentError Reply) :=
  let lapsed := 5000 + defaultLeaseDuration
  [.connect (scripted [createSample])] ++ advances 0 23 ++
  [.connect ((sampleWorker 0).runAgentLoop [sampleTurn 5000 (lapsed + 2000) 10])] ++ advances 1 5 ++
  [.connect ((sampleWorker 1).runAgentLoop [sampleTurn lapsed (lapsed + 1000) 11])] ++
  advances 2 21 ++
  advances 1 5

theorem lease_taken_over :
    ∃ cfg, run prog (initial fun _ => none) takeover = some cfg ∧
      (cfg.log.map fun e => (e.cmd.worker, (e.after (.run 1) : Option Run).map Run.status)) =
        [(some 1, some .succeeded), (some 1, some .running), (some 0, some .running),
          (none, some .queued)] ∧
      ∀ messageId, FinalMessage cfg.db 1 messageId → messageId = 11 := by
  have hobserved : (run prog (initial fun _ => none) takeover).map (fun cfg =>
      (cfg.log.map fun e => (e.cmd.worker, (e.after (.run 1) : Option Run).map Run.status),
        (cfg.db (.message 11) : Option OutboxMessage).map fun m => (m.runId, m.kind))) =
      some ([(some 1, some .succeeded), (some 1, some .running), (some 0, some .running),
        (none, some .queued)], some (1, .success)) := by decide +kernel
  obtain ⟨cfg, hrun, hseen⟩ := map_eq_some_iff.mp hobserved
  obtain ⟨hlog, hmessage⟩ := Prod.mk.inj hseen
  have hclients : ∀ client, .connect client ∈ takeover → Staffed sampleIds client := by
    intro client hmem
    simp only [takeover, advances, mem_append, mem_singleton, Event.connect.injEq,
      mem_replicate, reduceCtorEq, and_false, or_false] at hmem
    rcases hmem with (rfl | rfl) | rfl
    · refine .external _ (Client.only_script fun call hcall => ?_)
      obtain rfl := mem_singleton.mp hcall
      trivial
    · exact .agent _ rfl _
    · exact .agent _ rfl _
  have hfinal : FinalMessage cfg.db 1 11 := by
    obtain ⟨message, hrow, heq⟩ := map_eq_some_iff.mp hmessage
    obtain ⟨hrunId, hkind⟩ := Prod.mk.inj heq
    exact ⟨message, hrow, hrunId, .inl hkind⟩
  refine ⟨cfg, hrun, hlog, fun messageId hother => ?_⟩
  exact (lease_holder_settles_run sampleIds_injective hclients hrun).2.2.2
    1 11 messageId hfinal hother

end Pactline.Agent
