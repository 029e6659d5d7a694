import Pactline.Model.Agent

/-!
# What one transaction does to Agent runs

Every transaction of the Agent store leaves a run alone, creates it, or moves it in the one way its
command stands for (`Cmd.Moves`). It leaves a message alone, changes what is said of its delivery,
or inserts it; and one that inserts a message also moves the run it is about. That is `Effect`, and
`effect_of_runs` reads it off the programs once for all.
-/

set_option autoImplicit false

namespace Pactline.Agent

open ReadCommitted Function

variable {c : Cmd} {held held' : List (Lock Key)} {d d₁ d' : Db} {id runId : Id} {now : Instant}

/-! ## Rows -/

theorem update_message (d : Db) (messageId id : Id) (row : OutboxMessage) :
    update d (.message messageId) (some row) (.message id) =
      if id = messageId then some row else d (.message id) := by
  split
  case isTrue heq =>
    subst heq
    rw [update_self]
  case isFalse hne => rw [update_of_ne fun hkey => hne (Key.message.inj hkey)]

/-- The two databases have the same runs, messages and Tasks. -/
def Agree (d d' : Db) : Prop :=
  (∀ id, d' (.run id) = d (.run id)) ∧ (∀ id, d' (.message id) = d (.message id)) ∧
    ∀ id, d' (.task id) = d (.task id)

theorem Agree.refl (d : Db) : Agree d d := ⟨fun _ => rfl, fun _ => rfl, fun _ => rfl⟩

theorem Agree.trans (h : Agree d d₁) (h' : Agree d₁ d') : Agree d d' :=
  ⟨fun id => (h'.1 id).trans (h.1 id), fun id => (h'.2.1 id).trans (h.2.1 id),
    fun id => (h'.2.2 id).trans (h.2.2 id)⟩

/-- The keys that are neither of a run nor of a message nor of a Task. -/
def Key.Auxiliary : Key → Prop
  | .run _ | .message _ | .task _ => False
  | _ => True

theorem Agree.update {k : Key} (hk : k.Auxiliary) (row : Option (Columns k)) :
    Agree d (update d k row) := by
  refine ⟨fun id => ?_, fun id => ?_, fun id => ?_⟩ <;>
  · refine update_of_ne ?_ _ _
    rintro rfl
    exact hk

theorem Agree.of_insert {k : Key} {row inserted}
    (h : (Rowwise.insert k row : Program Bool).Runs held d inserted held' d') (hk : k.Auxiliary) :
    Agree d d' := by
  obtain ⟨-, ⟨-, -, rfl⟩ | ⟨-, -, rfl⟩⟩ := Rowwise.runs_insert.mp h
  · exact .update hk _
  · exact .refl _

theorem Agree.of_update {k : Key} {f row}
    (h : (Rowwise.update k f : Program (Option (Columns k))).Runs held d row held' d')
    (hk : k.Auxiliary) : Agree d d' := by
  obtain ⟨-, ⟨-, -, rfl⟩ | ⟨_, _, -, -, -, rfl⟩⟩ := Rowwise.runs_update.mp h
  · exact .refl _
  · exact .update hk _

/-! ## Effects -/

/-- How a command moves a run, where it does. -/
def Cmd.Moves (id : Id) (old new : Run) : Cmd → Prop
  | .claimRun workerId candidate now leaseDuration => workerId ≠ "" ∧ candidate = some id ∧
      old.Claimable now.column ∧ new = old.claimed workerId now.column
        (leaseExpiry now leaseDuration defaultLeaseDuration).column
  | .renewRunLease runId workerId now leaseDuration => runId = id ∧ old.HeldBy workerId ∧
      new = old.renewed now.column (leaseExpiry now leaseDuration defaultLeaseDuration).column
  | .addContextMessages runId workerId count now => runId = id ∧ old.HeldBy workerId ∧
      0 ≤ count ∧ old.contextMessagesUsed + count ≤ maxContextMessages ∧
      new = old.usedContext count now.column
  | .attachTask runId workerId taskId taskNumber now => runId = id ∧ old.HeldBy workerId ∧
      old.createdTaskId = none ∧ new = old.attached taskId taskNumber now.column
  | .markRunWaiting runId workerId interruptId outbox now => runId = id ∧ old.HeldBy workerId ∧
      ∃ waiting, old.scan.waitForUser (pendingMessageId outbox.id) interruptId now = .ok waiting ∧
        new = old.waiting waiting
  | .resumeWaitingRun runId userId clarificationMessageId now
  | .resumeWaitingRunWithInput runId userId clarificationMessageId _ now => runId = id ∧
      old.Answerable userId clarificationMessageId now.column ∧ new = old.resumed now.column
  | .finishRun runId workerId status errorCategory errorDetail _ now => runId = id ∧
      old.HeldBy workerId ∧ status.IsTerminal ∧
      new = old.finished status errorCategory errorDetail now.column
  | .retryRun runId workerId availableAt now => runId = id ∧ old.HeldBy workerId ∧
      new = old.retried availableAt.column now.column
  | .markOutboxDelivered _ _ providerMessageId now => old.status = .waitingUser ∧
      new = old.answeredBy providerMessageId now.column
  | .cancelExpiredClarification runId _ now => runId = id ∧ old.Unanswered now.column ∧
      new = old.expired now.column
  | _ => False

/-- The message a command inserts, and the run it moves with it. -/
def Cmd.outbox : Cmd → Option (Id × OutboxMessage)
  | .markRunWaiting runId _ _ outbox _ => some (runId, outbox)
  | .finishRun runId _ _ _ _ outbox _ => outbox.map (runId, ·)
  | .cancelExpiredClarification runId outbox _ => some (runId, outbox)
  | _ => none

/-- The Task a command attaches. -/
def Cmd.attachedTask : Cmd → Option Id
  | .attachTask _ _ taskId _ _ => some taskId
  | _ => none

/-- The command moves this run from one database to the other. -/
def Moved (c : Cmd) (d d' : Db) (id : Id) : Prop :=
  ∃ old new : Run, d (.run id) = some old ∧ d' (.run id) = some new ∧ c.Moves id old new ∧
    ∀ taskId ∈ c.attachedTask, d (.task taskId) ≠ none

/-- The command creates this run. -/
def Created (c : Cmd) (d d' : Db) (id : Id) : Prop :=
  ∃ run input, c = .createRunWithInput run input ∧ run.id = id ∧ run.validate = .ok () ∧
    run.inserted.Checked ∧ d (.run id) = none ∧ d' (.run id) = some run.inserted

/-- The message is inserted, with a move of the run the command is about. -/
def Inserted (c : Cmd) (d d' : Db) (id : Id) : Prop :=
  ∃ runId message, c.outbox = some (runId, message) ∧ message.id = id ∧
    d (.message id) = none ∧ d' (.message id) = some message.inserted ∧ Moved c d d' runId

/-- The row of the message changes, but not what it is and whose it is. -/
def Redelivered (d d' : Db) (id : Id) : Prop :=
  ∃ old new : OutboxMessage, d (.message id) = some old ∧ d' (.message id) = some new ∧
    new.runId = old.runId ∧ new.kind = old.kind

/-- What a command can do. -/
structure Effect (c : Cmd) (d d' : Db) : Prop where
  runs : ∀ id, d' (.run id) = d (.run id) ∨ Moved c d d' id ∨ Created c d d' id
  messages : ∀ id, d' (.message id) = d (.message id) ∨ Redelivered d d' id ∨ Inserted c d d' id
  tasks : d' (.task 0) = d (.task 0)

theorem Agree.effect (h : Agree d d') : Effect c d d' :=
  ⟨fun id => .inl (h.1 id), fun id => .inl (h.2.1 id), h.2.2 0⟩

/-- What comes after is about other rows. -/
theorem Effect.agree (h : Effect c d d₁) (hagree : Agree d₁ d') : Effect c d d' where
  runs id := by
    have hmoved := h.runs id
    simp only [Moved, Created] at hmoved ⊢
    rwa [hagree.1 id]
  messages id := by
    have hmessage := h.messages id
    simp only [Redelivered, Inserted, Moved] at hmessage ⊢
    simpa only [hagree.1, hagree.2.1 id] using hmessage
  tasks := (hagree.2.2 0).trans h.tasks

/-- A run is moved, and no message is touched. -/
theorem effect_of_move {old new} (hold : d (.run runId) = some old)
    (hmoves : c.Moves runId old new) (htask : ∀ taskId ∈ c.attachedTask, d (.task taskId) ≠ none) :
    Effect c d (update d (.run runId) (some new)) where
  runs id := by
    by_cases heq : id = runId
    · subst heq
      exact .inr (.inl ⟨old, new, hold, update_self .., hmoves, htask⟩)
    · exact .inl (update_of_ne (fun hkey => heq (Key.run.inj hkey)) _ _)
  messages id := .inl (by simp)
  tasks := by simp

/-- Only the delivery of a message is touched. -/
theorem effect_of_redelivery {messageId} {old new : OutboxMessage}
    (hold : d (.message messageId) = some old) (hrun : new.runId = old.runId)
    (hkind : new.kind = old.kind) :
    Effect c d (update d (.message messageId) (some new)) where
  runs id := .inl (by simp)
  messages id := by
    by_cases heq : id = messageId
    · subst heq
      exact .inr (.inl ⟨old, new, hold, update_self .., hrun, hkind⟩)
    · exact .inl (update_of_ne (fun hkey => heq (Key.message.inj hkey)) _ _)
  tasks := by simp

/-! ## Programs -/

/-- A message is inserted, or there is one with its key already. -/
theorem insertOutbox_runs {message : OutboxMessage} {u}
    (h : (insertOutbox message).Runs held d u held' d') :
    Agree d d' ∨ d (.message message.id) = none ∧
      Agree (update d (.message message.id) (some message.inserted)) d' := by
  simp only [insertOutbox, Rowwise.rules, Rowwise.runs_insert, Rowwise.runs_ite] at h
  obtain ⟨_, _, _, ⟨-, rfl, rfl⟩, fresh, _, d₁, ⟨rfl, hindex⟩, hrest⟩ := h
  rcases hindex with ⟨rfl, -, rfl⟩ | ⟨rfl, -, rfl⟩
  · rcases hrest with ⟨-, new, _, d₂, ⟨rfl, hinsert⟩, _, _, _, ⟨hnew, rfl, rfl⟩, _, _, _,
      ⟨-, rfl, rfl⟩, -, -, rfl⟩ | ⟨hno, -⟩
    · rcases hinsert with ⟨-, hnone, rfl⟩ | ⟨rfl, -⟩
      · rw [update_of_ne (by simp)] at hnone
        refine .inr ⟨hnone, ?_⟩
        rw [update_comm (by simp)]
        exact Agree.update (k := .deduplicationKey _) trivial _
      · cases hnew
    · exact absurd rfl hno
  · rcases hrest with ⟨hno, -⟩ | ⟨-, -, -, rfl⟩
    · cases hno
    · exact .inl (.refl _)

/-- A run is moved and then a message is inserted. -/
theorem effect_of_outbox {message old new u}
    (hold : d (.run runId) = some old) (hmoves : c.Moves runId old new)
    (hmessage : c.outbox = some (runId, message)) (htask : c.attachedTask = none)
    (hagree : Agree (update d (.run runId) (some new)) d₁)
    (h : (insertOutbox message).Runs held d₁ u held' d') : Effect c d d' := by
  have hmove : Effect c d d₁ := (effect_of_move hold hmoves (by simp [htask])).agree hagree
  have hmoved : Moved c d d₁ runId := by
    refine ⟨old, new, hold, ?_, hmoves, by simp [htask]⟩
    rw [hagree.1, update_self]
  rcases insertOutbox_runs h with hsame | ⟨hnone, hinserted⟩
  · exact hmove.agree hsame
  have hbefore : ∀ id, d₁ (.message id) = d (.message id) := by
    intro id
    rw [hagree.2.1, update_of_ne (by simp)]
  have hruns : ∀ id, d' (.run id) = d₁ (.run id) := by
    intro id
    rw [hinserted.1, update_of_ne (by simp)]
  refine ⟨fun id => ?_, fun id => ?_, ?_⟩
  · have hrun := hmove.runs id
    simp only [Moved, Created] at hrun ⊢
    rwa [hruns id]
  · rw [hinserted.2.1, update_message]
    split
    case isTrue heq =>
      subst heq
      refine .inr (.inr ⟨runId, message, hmessage, rfl, (hbefore _).symm.trans hnone, ?_, ?_⟩)
      · rw [hinserted.2.1, update_self]
      · simpa only [Moved, hruns] using hmoved
    case isFalse => exact .inl (hbefore id)
  · rw [hinserted.2.2, update_of_ne (by simp)]
    exact hmove.tasks

/-- A statement that moves a run where it is as wanted. -/
theorem effect_of_update {p : Run → Prop} [DecidablePred p] {f : Run → Run} {row : Option Run}
    (hmoves : ∀ old, p old → c.Moves runId old (f old)) (htask : c.attachedTask = none)
    (h : (Rowwise.update (Key.run runId) fun old => if p old then some (f old) else none :
      Program (Option Run)).Runs held d row held' d') : Effect c d d' := by
  obtain ⟨-, ⟨-, -, rfl⟩ | ⟨old, -, hold, hp, rfl⟩⟩ := Rowwise.runs_update_ite.mp h
  · exact (Agree.refl _).effect
  · exact effect_of_move hold (hmoves old hp) (by simp [htask])

/-- A statement that touches only the delivery of a message. -/
theorem effect_of_message_update {messageId : Id} {p : OutboxMessage → Prop} [DecidablePred p]
    {f : OutboxMessage → OutboxMessage} {row : Option OutboxMessage}
    (h : (Rowwise.update (Key.message messageId) fun old => if p old then some (f old) else none :
      Program (Option OutboxMessage)).Runs held d row held' d')
    (hsame : ∀ old, (f old).runId = old.runId ∧ (f old).kind = old.kind) : Effect c d d' := by
  obtain ⟨-, ⟨-, -, rfl⟩ | ⟨old, -, hold, -, rfl⟩⟩ := Rowwise.runs_update_ite.mp h
  · exact (Agree.refl _).effect
  · exact effect_of_redelivery hold (hsame old).1 (hsame old).2

theorem createRunWithInput_runs {run input reply}
    (h : (createRunWithInput run input).Runs held d reply held' d') :
    Effect (.createRunWithInput run input) d d' := by
  simp only [createRunWithInput, Rowwise.rules, Rowwise.runs_ite] at h
  obtain ⟨_, _, _, ⟨hvalid, rfl, rfl⟩, _, _, _, ⟨-, rfl, rfl⟩, _, _, _, ⟨hchecked, rfl, rfl⟩,
    sameId, _, _, ⟨rfl, rfl, rfl⟩, sameEvent, _, _, ⟨rfl, rfl, rfl⟩, sameMessage, _, d,
    ⟨rfl, rfl, rfl⟩, hrest⟩ := h
  rcases hrest with ⟨-, -, -, rfl⟩ | ⟨hfree, hrest⟩
  · exact (Agree.refl _).effect
  obtain ⟨_, _, d₁, hrun, _, _, d₂, hevent, _, _, d₃, hmessage, _, _, d₄, hinput, _, _, _,
    ⟨-, rfl, rfl⟩, -, -, rfl⟩ := hrest
  have hnone : d (.run run.id) = none := by simpa using fun hsome => hfree (.inl hsome)
  obtain ⟨-, ⟨-, -, rfl⟩ | ⟨-, hno, -⟩⟩ := Rowwise.runs_insert.mp hrun
  · have hagree := ((Agree.of_insert hevent trivial).trans (.of_insert hmessage trivial)).trans
      (.of_insert hinput trivial)
    refine Effect.agree ⟨fun id => ?_, fun id => .inl ?_, ?_⟩ hagree
    · by_cases heq : id = run.id
      · subst heq
        exact .inr (.inr ⟨run, input, rfl, rfl, hvalid, hchecked, hnone, update_self ..⟩)
      · exact .inl (update_of_ne (fun hkey => heq (Key.run.inj hkey)) _ _)
    · simp
    · simp
  · exact absurd hnone hno

theorem claimRun_runs {workerId : String} {candidate : Option Id} {leaseDuration : Int}
    {reply : Option Run}
    (h : (claimRun workerId candidate now leaseDuration).Runs held d reply held' d') :
    Effect (.claimRun workerId candidate now leaseDuration) d d' := by
  simp only [claimRun, Rowwise.rules] at h
  obtain ⟨_, _, _, ⟨hworker, rfl, rfl⟩, h⟩ := h
  cases candidate with
  | none =>
    obtain ⟨-, -, rfl⟩ := h
    exact (Agree.refl _).effect
  | some =>
    simp only [Rowwise.rules] at h
    obtain ⟨_, _, _, hupdate, _, _, _, ⟨-, rfl, rfl⟩, -, -, rfl⟩ := h
    exact effect_of_update (fun old hclaimable => ⟨hworker, rfl, hclaimable, rfl⟩) rfl hupdate

theorem attachTask_runs {workerId taskId taskNumber attached}
    (h : (attachTask runId workerId taskId taskNumber now).Runs held d attached held' d') :
    Effect (.attachTask runId workerId taskId taskNumber now) d d' := by
  simp only [attachTask, Rowwise.rules, Rowwise.runs_ite] at h
  obtain ⟨row, _, d₁, hupdate, hrest⟩ := h
  obtain ⟨-, ⟨rfl, -, rfl⟩ | ⟨old, rfl, hold, ⟨hheld, hnone⟩, rfl⟩⟩ :=
    Rowwise.runs_update_ite.mp hupdate
  · rcases hrest with ⟨hno, -⟩ | ⟨-, -, -, rfl⟩
    · cases hno
    · exact (Agree.refl _).effect
  rcases hrest with ⟨-, _, _, d₂, hid, _, _, _, ⟨-, rfl, rfl⟩, _, _, d₃, hnumber, _, _, _,
    ⟨-, rfl, rfl⟩, task, _, _, ⟨rfl, rfl, rfl⟩, _, _, _, ⟨htask, rfl, rfl⟩, -, -, rfl⟩ | ⟨hno, -⟩
  · have hagree := (Agree.of_insert hid trivial).trans (.of_insert hnumber trivial)
    refine Effect.agree (effect_of_move hold ⟨rfl, hheld, hnone, rfl⟩ fun taskId' hattached => ?_)
      hagree
    obtain rfl := Option.some.inj hattached
    rw [hagree.2.2, update_of_ne (by simp)] at htask
    exact Option.isSome_iff_ne_none.mp htask
  · exact absurd rfl hno

theorem markRunWaiting_runs {workerId interruptId outbox u}
    (h : (markRunWaiting runId workerId interruptId outbox now).Runs held d u held' d') :
    Effect (.markRunWaiting runId workerId interruptId outbox now) d d' := by
  simp only [markRunWaiting, Rowwise.rules] at h
  obtain ⟨row, _, _, ⟨rfl, rfl, rfl⟩, run, _, _, ⟨hrun, rfl, rfl⟩, _, _, _, ⟨-, rfl, rfl⟩, waiting,
    _, _, ⟨hwaiting, rfl, rfl⟩, updated, _, d₁, hupdate, _, _, _, ⟨hupdated, rfl, rfl⟩,
      houtbox⟩ := h
  obtain ⟨-, ⟨rfl, -⟩ | ⟨old, -, hold, hheld, rfl⟩⟩ := Rowwise.runs_update_ite.mp hupdate
  · cases hupdated
  · obtain rfl : old = run := Option.some.inj (hold.symm.trans hrun)
    exact effect_of_outbox hold ⟨rfl, hheld, waiting, hwaiting, rfl⟩ rfl rfl (.refl _) houtbox

theorem finishRun_runs {workerId errorCategory errorDetail status outbox u}
    (h : (finishRun runId workerId status errorCategory errorDetail outbox now).Runs held d u
      held' d') :
    Effect (.finishRun runId workerId status errorCategory errorDetail outbox now) d d' := by
  simp only [finishRun, Rowwise.rules] at h
  obtain ⟨_, _, d, ⟨hterminal, rfl, rfl⟩, row, _, d₁, hupdate, _, _, _, ⟨hrow, rfl, rfl⟩, _, _, _,
    ⟨-, rfl⟩, houtbox⟩ := h
  obtain ⟨-, ⟨rfl, -⟩ | ⟨old, -, hold, hheld, rfl⟩⟩ := Rowwise.runs_update_ite.mp hupdate
  · cases hrow
  · have hagree : Agree (update d (.run runId)
        (some (old.finished status errorCategory errorDetail now.column))) _ :=
      Agree.update (k := .input runId) trivial none
    cases outbox with
    | none =>
      obtain ⟨-, -, rfl⟩ := houtbox
      exact Effect.agree
        (effect_of_move hold ⟨rfl, hheld, hterminal, rfl⟩ fun _ htask => by cases htask) hagree
    | some =>
      exact effect_of_outbox hold ⟨rfl, hheld, hterminal, rfl⟩ rfl rfl hagree houtbox

theorem markOutboxDelivered_runs {workerId providerMessageId u}
    (h : (markOutboxDelivered id workerId providerMessageId now).Runs held d u held' d') :
    Effect (.markOutboxDelivered id workerId providerMessageId now) d d' := by
  simp only [markOutboxDelivered, Rowwise.rules, Rowwise.runs_ite] at h
  obtain ⟨row, _, d₁, hmessage, message, _, _, ⟨hrow, rfl, rfl⟩, hrest⟩ := h
  obtain ⟨-, ⟨rfl, -⟩ | ⟨old, rfl, hold, -, rfl⟩⟩ := Rowwise.runs_update_ite.mp hmessage
  · cases hrow
  obtain rfl := Option.some.inj hrow
  have hdelivered : Effect (.markOutboxDelivered id workerId providerMessageId now) d
      (update d (.message id) (some (old.delivered providerMessageId now.column))) :=
    effect_of_redelivery hold rfl rfl
  rcases hrest with ⟨-, _, _, d₂, hrun, -, -, rfl⟩ | ⟨-, -, -, rfl⟩
  · obtain ⟨-, ⟨-, -, rfl⟩ | ⟨run, -, hfound, ⟨hwaiting, -⟩, rfl⟩⟩ :=
      Rowwise.runs_update_ite.mp hrun
    · exact hdelivered
    · rw [update_of_ne (by simp)] at hfound
      have hmoved : Effect (.markOutboxDelivered id workerId providerMessageId now) d
          (update d (.run old.runId)
            (some (run.answeredBy providerMessageId now.column))) :=
        effect_of_move hfound ⟨hwaiting, rfl⟩ fun _ htask => by cases htask
      -- The two rows are changed one after the other.
      refine ⟨fun id' => ?_, fun id' => ?_, ?_⟩
      · have hrun := hmoved.runs id'
        simp only [Moved, Created] at hrun ⊢
        rwa [update_comm (by simp),
          update_of_ne (by simp)]
      · have hmessage := hdelivered.messages id'
        rw [update_of_ne (by simp)]
        rcases hmessage with hsame | ⟨m, m', hm, hm', hsame⟩ | ⟨_, _, hno, -⟩
        · exact .inl hsame
        · refine .inr (.inl ⟨m, m', hm, ?_, hsame⟩)
          rw [update_of_ne (by simp), hm']
        · cases hno
      · rw [update_of_ne (by simp)]
        exact hdelivered.tasks
  · exact hdelivered

theorem cancelExpiredClarification_runs {outbox cancelled}
    (h : (cancelExpiredClarification runId outbox now).Runs held d cancelled held' d') :
    Effect (.cancelExpiredClarification runId outbox now) d d' := by
  simp only [cancelExpiredClarification, Rowwise.rules, Rowwise.runs_ite] at h
  obtain ⟨_, _, _, ⟨-, rfl, rfl⟩, row, _, d₁, hupdate, hrest⟩ := h
  obtain ⟨-, ⟨rfl, -, rfl⟩ | ⟨old, rfl, hold, hexpired, rfl⟩⟩ := Rowwise.runs_update_ite.mp hupdate
  · rcases hrest with ⟨hno, -⟩ | ⟨-, -, -, rfl⟩
    · cases hno
    · exact (Agree.refl _).effect
  · rcases hrest with ⟨-, _, _, _, ⟨-, rfl⟩, _, _, _, houtbox, -, -, rfl⟩ | ⟨hno, -⟩
    · exact effect_of_outbox hold ⟨rfl, hexpired, rfl⟩ rfl rfl
        (Agree.update (k := .input runId) trivial none) houtbox
    · exact absurd rfl hno

/-- **One transaction.** -/
theorem effect_of_runs {reply : Reply} (h : (statements c).Runs [] d reply held' d') :
    Effect c d d' := by
  cases c with
  | createRunWithInput =>
    obtain ⟨_, _, _, hprogram, -, -, rfl⟩ := Rowwise.runs_bind.mp h
    exact createRunWithInput_runs hprogram
  | findRunByProviderIdentity =>
    simp only [statements, findRunByProviderIdentity, Rowwise.rules] at h
    obtain ⟨_, _, _, ⟨_, _, _, ⟨-, rfl, rfl⟩, -, rfl, rfl⟩, -, -, rfl⟩ := h
    exact (Agree.refl _).effect
  | getRun =>
    simp only [statements, getRun, Rowwise.rules] at h
    obtain ⟨_, _, _, ⟨_, _, _, ⟨-, rfl, rfl⟩, -, rfl, rfl⟩, -, -, rfl⟩ := h
    exact (Agree.refl _).effect
  | claimRun =>
    obtain ⟨_, _, _, hprogram, -, -, rfl⟩ := Rowwise.runs_bind.mp h
    exact claimRun_runs hprogram
  | renewRunLease =>
    simp only [statements, renewRunLease, Rowwise.rules] at h
    obtain ⟨_, _, _, ⟨_, _, _, hupdate, -, rfl, rfl⟩, -, -, rfl⟩ := h
    exact effect_of_update (fun old hp => ⟨rfl, hp.1, rfl⟩) rfl hupdate
  | addContextMessages =>
    simp only [statements, addContextMessages, Rowwise.rules] at h
    obtain ⟨_, _, _, ⟨_, _, _, ⟨hcount, rfl, rfl⟩, _, _, _, ⟨-, rfl, rfl⟩, _, _, _, hupdate, _, _,
      _, ⟨-, rfl, rfl⟩, -, -, rfl⟩, -, -, rfl⟩ := h
    exact effect_of_update (fun old hp => ⟨rfl, hp.1, hcount, hp.2, rfl⟩) rfl hupdate
  | attachTask =>
    obtain ⟨_, _, _, hprogram, -, -, rfl⟩ := Rowwise.runs_bind.mp h
    exact attachTask_runs hprogram
  | markRunWaiting =>
    obtain ⟨_, _, _, hprogram, -, -, rfl⟩ := Rowwise.runs_bind.mp h
    exact markRunWaiting_runs hprogram
  | resumeWaitingRun =>
    simp only [statements, resumeWaitingRun, resumeRun, Rowwise.rules] at h
    obtain ⟨_, _, _, ⟨_, _, _, hupdate, -, -, rfl⟩, -, -, rfl⟩ := h
    exact effect_of_update (fun old hp => ⟨rfl, hp, rfl⟩) rfl hupdate
  | resumeWaitingRunWithInput =>
    simp only [statements, resumeWaitingRunWithInput, resumeRun, Rowwise.rules] at h
    obtain ⟨_, _, _, ⟨_, _, _, ⟨-, rfl, rfl⟩, _, _, _, ⟨_, _, _, hupdate, -, rfl, rfl⟩, _, _, _,
      ⟨-, rfl, rfl⟩, _, _, _, hinput, -, rfl, rfl⟩, -, -, rfl⟩ := h
    exact Effect.agree (effect_of_update (fun old hp => ⟨rfl, hp, rfl⟩) rfl hupdate)
      (.of_update hinput trivial)
  | clearPendingResumeInput =>
    simp only [statements, clearPendingResumeInput, Rowwise.rules] at h
    obtain ⟨_, _, _, ⟨_, _, _, hinput, -, rfl, rfl⟩, -, -, rfl⟩ := h
    exact (Agree.of_update hinput trivial).effect
  | finishRun =>
    obtain ⟨_, _, _, hprogram, -, -, rfl⟩ := Rowwise.runs_bind.mp h
    exact finishRun_runs hprogram
  | retryRun =>
    simp only [statements, retryRun, Rowwise.rules] at h
    obtain ⟨_, _, _, ⟨_, _, _, hupdate, -, rfl, rfl⟩, -, -, rfl⟩ := h
    exact effect_of_update (fun old hp => ⟨rfl, hp, rfl⟩) rfl hupdate
  | claimOutbox _ candidate =>
    cases candidate with
    | none =>
      obtain ⟨_, _, _, ⟨-, -, rfl⟩, -, -, rfl⟩ := Rowwise.runs_bind.mp h
      exact (Agree.refl _).effect
    | some =>
      simp only [statements, claimOutbox, Rowwise.rules] at h
      obtain ⟨_, _, _, ⟨_, _, _, hupdate, _, _, _, ⟨-, rfl, rfl⟩, -, -, rfl⟩, -, -, rfl⟩ := h
      exact effect_of_message_update hupdate fun _ => ⟨rfl, rfl⟩
  | markOutboxDelivered =>
    obtain ⟨_, _, _, hprogram, -, -, rfl⟩ := Rowwise.runs_bind.mp h
    exact markOutboxDelivered_runs hprogram
  | markOutboxFailed =>
    simp only [statements, markOutboxFailed, Rowwise.rules] at h
    obtain ⟨_, _, _, ⟨_, _, _, hupdate, -, rfl, rfl⟩, -, -, rfl⟩ := h
    exact effect_of_message_update hupdate fun _ => ⟨rfl, rfl⟩
  | listExpiredClarifications =>
    simp only [statements, listExpiredClarifications, Rowwise.rules] at h
    obtain ⟨_, _, _, ⟨-, rfl, rfl⟩, -, -, rfl⟩ := h
    exact (Agree.refl _).effect
  | cancelExpiredClarification =>
    obtain ⟨_, _, _, hprogram, -, -, rfl⟩ := Rowwise.runs_bind.mp h
    exact cancelExpiredClarification_runs hprogram
  | createTask =>
    simp only [statements, createTask, Rowwise.rules] at h
    obtain ⟨_, _, _, ⟨_, _, _, ⟨hid, rfl, rfl⟩, _, _, _, hinsert, -, rfl, rfl⟩, -, -, rfl⟩ := h
    obtain ⟨-, ⟨-, -, rfl⟩ | ⟨-, -, rfl⟩⟩ := Rowwise.runs_insert.mp hinsert
    · refine ⟨fun id' => .inl ?_, fun id' => .inl ?_, ?_⟩
      · simp
      · simp
      · exact update_of_ne (fun hkey => hid (Key.task.inj hkey).symm) _ _
    · exact (Agree.refl _).effect

end Pactline.Agent
