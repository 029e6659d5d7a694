import Mathlib.Data.List.TakeWhile
import Pactline.Results.AgentRuns

/-!
# The statements and the methods

The store changes a run in SQL; the domain has a method for the same change. The two do not come to
the same thing for every row and all arguments: `ClaimRun` takes over a run whose lease has lapsed,
the columns keep only the microseconds of a time, and others differ in what they check or how they
write it. `Cmd.Agrees` says for each operation where they agree.
-/

set_option autoImplicit false

namespace Pactline.Agent

open ReadCommitted Rowwise Function Option

variable {p q : Prop} {x : Run} {s : String}

variable {c : Cmd} {d d' : Db} {id taskId userId : Id} {row new : Run} {status : RunStatus}
  {workerId messageId category detail : String} {now availableAt : Instant}
  {leaseDuration count taskNumber : Int} {outbox : Option OutboxMessage}

/-- The operation has a method and is about this run, with its lease where the statement
needs it. -/
def Cmd.On (id : Id) (row : Run) : Cmd → Prop
  | .claimRun _ candidate _ _ => candidate = some id
  | .resumeWaitingRun runId _ _ _ => runId = id
  | .renewRunLease runId workerId _ _ | .addContextMessages runId workerId _ _
  | .attachTask runId workerId _ _ _ | .finishRun runId workerId _ _ _ _ _
  | .retryRun runId workerId _ _ => runId = id ∧ row.HeldBy workerId
  | _ => False

/-- The method, on a run. -/
def Cmd.method (run : Run) : Cmd → Except MethodError Run
  | .claimRun workerId _ now leaseDuration => run.claim workerId now leaseDuration
  | .renewRunLease _ workerId now leaseDuration => run.renewLease workerId now leaseDuration
  | .addContextMessages _ _ count now => run.addContextMessages count now
  | .attachTask _ _ taskId taskNumber now => run.attachTask taskId taskNumber now
  | .resumeWaitingRun _ userId _ now => run.resume userId now
  | .finishRun _ _ .succeeded _ _ _ now => run.succeed now
  | .finishRun _ _ .failed category detail _ now => run.fail category detail now
  | .finishRun _ _ .cancelled category detail _ now => run.cancel category detail now
  | .retryRun _ _ availableAt now => run.retry availableAt now
  | _ => .error .invalidTransition

/-- The reply to a statement that has changed a row. -/
def Reply.Changed : Reply → Prop
  | .run row => row ≠ none
  | .changed b => b = true
  | _ => True

/-- The operation changes the row to this one. -/
def Cmd.Changes (c : Cmd) (id : Id) (d : Db) (new : Run) : Prop :=
  ∃ reply held d', (statements c).Runs [] d reply held d' ∧ reply.Changed ∧
    d' (.run id) = some new

/-- The operation changes the row where the method succeeds on the run read from it, and what is
read from the new row is the run that the method makes of it. -/
def Cmd.Matches (c : Cmd) (id : Id) (d : Db) (row : Run) : Prop :=
  ∀ run, (∃ new, c.Changes id d new ∧ new.scan = run) ↔ c.method row.scan = .ok run

/-! ## Where the two agree -/

/-- The times that the operation writes in the row. -/
def Cmd.times : Cmd → List Instant
  | .claimRun _ _ now leaseDuration | .renewRunLease _ _ now leaseDuration =>
      [now, leaseExpiry now leaseDuration defaultLeaseDuration]
  | .addContextMessages _ _ _ now | .attachTask _ _ _ _ now | .resumeWaitingRun _ _ _ now
  | .finishRun _ _ _ _ _ _ now => [now]
  | .retryRun _ _ availableAt now => [availableAt, now]
  | _ => []

/-- They are whole microseconds. -/
def Cmd.Whole (c : Cmd) : Prop := ∀ t ∈ c.times, t.column.instant = t

/-- The other values that the operation sends. -/
def Cmd.texts : Cmd → List String
  | .claimRun workerId _ _ _ => [workerId]
  | .resumeWaitingRun _ _ clarificationMessageId _ => [clarificationMessageId]
  | .finishRun _ _ _ category detail outbox _ => [category, detail] ++
      outbox.toList.flatMap fun m => [m.deduplicationKey, m.targetMessageId, m.body]
  | _ => []

/-- The arguments are such as the database takes: times until the year 294276, texts without a zero
character; and a count is an `int`. -/
def Cmd.Sendable (c : Cmd) : Prop :=
  (∀ t ∈ c.times ++ c.outbox.toList.flatMap fun m =>
    [m.2.availableAt, m.2.createdAt, m.2.updatedAt], Instant.column t < 9286453612800000000) ∧
  (∀ text ∈ c.texts, '\x00' ∉ text.toList) ∧
  match c with
  | .addContextMessages _ _ count _ => count < 2 ^ 63
  | _ => True

/-- The constraints let the Task be attached. -/
def TaskFree (d : Db) (taskId : Id) (taskNumber : Int) : Prop :=
  d (.createdTask taskId) = none ∧ d (.createdTaskNumber taskNumber) = none ∧
    d (.task taskId) ≠ none

/-- The constraints let the message be inserted, or there is one with its key. -/
def OutboxMessage.Fits (m : OutboxMessage) (d : Db) : Prop :=
  m.Checked ∧ (d (.deduplicationKey m.deduplicationKey) = none →
    d (.message m.id) = none ∧ d (.run m.runId) ≠ none)

/-- Where the statement and the method come to the same. -/
def Cmd.Agrees (d : Db) (row : Run) (c : Cmd) : Prop :=
  match c with
  | .claimRun workerId _ now _ =>
      if row.attemptCount < maxInteger then
        workerId ≠ "" → row.Claimable now.column →
          row.status = .queued ∧ trimSpace workerId = workerId ∧ c.Whole
      else ¬ (row.status = .queued ∧ ¬ blank workerId ∧ row.availableAt ≤ now.column)
  | .renewRunLease _ _ now _ =>
      ∀ expiry ∈ row.leaseExpiresAt, now ≠ expiry.instant ∧ (now < expiry.instant → c.Whole)
  | .addContextMessages _ _ count _ =>
      0 ≤ count → row.contextMessagesUsed + count < 2 ^ 63 ∧
        (row.contextMessagesUsed + count ≤ maxContextMessages → c.Whole)
  | .attachTask _ _ taskId taskNumber _ =>
      if row.createdTaskId = none then
        (TaskFree d taskId taskNumber ↔ taskId ≠ 0 ∧ 0 < taskNumber) ∧
          (TaskFree d taskId taskNumber → c.Whole)
      else ¬ (row.createdTaskId = some taskId ∧ row.createdTaskNumber = some taskNumber)
  | .resumeWaitingRun _ userId clarificationMessageId now =>
      row.status = .waitingUser → userId = row.initiatingUserId →
        (∃ expiry ∈ row.clarificationExpiresAt, now.column < expiry) →
        row.clarificationMessageId = some clarificationMessageId ∧ c.Whole
  | .finishRun _ _ status category detail outbox _ =>
      if status = .succeeded then
        if row.createdTaskId = none then ¬ ∀ m ∈ outbox, m.Fits d
        else (∀ m ∈ outbox, m.Fits d) ∧ category = "" ∧ detail = "" ∧ c.Whole
      else status.IsTerminal → (∀ m ∈ outbox, m.Fits d) ∧
        trimSpace category = category ∧ trimSpace detail = detail ∧ c.Whole
  | .retryRun _ _ _ _ => c.Whole
  | _ => True

/-! ## What the statements do to the row -/

/-- A statement about a row that is there: it finds the row as wanted, or not. -/
theorem runs_update_row {p : Run → Prop} [DecidablePred p] {g : Run → Run} {reply : Reply}
    {f : Option Run → Program Reply} {held held' : List (Lock Key)}
    (hrow : d (.run id) = some row) :
    (update (Key.run id) (fun row => if p row then some (g row) else none) >>= f).Runs held d
        reply held' d' ↔
      p row ∧ (f (some (g row))).Runs (⟨.run id, .update⟩ :: held)
          (update d (.run id) (some (g row))) reply held' d' ∨
        ¬ p row ∧ (f none).Runs (⟨.run id, .update⟩ :: held) d reply held' d' := by
  rw [runs_update_bind]
  constructor
  · rintro (⟨hnone, hf⟩ | ⟨old, _, hold, hnew, hf⟩)
    · exact .inr ⟨fun hp => by simpa [hp] using hnone row hrow, hf⟩
    · obtain rfl : old = row := some.inj (hold.symm.trans hrow)
      obtain ⟨hp, hnew⟩ := ite_none_right_eq_some.mp hnew
      obtain rfl := some.inj hnew
      exact .inl ⟨hp, hf⟩
  · rintro (⟨hp, hf⟩ | ⟨hp, hf⟩)
    · exact .inr ⟨row, g row, hrow, if_pos hp, hf⟩
    · refine .inl ⟨fun old hold => ?_, hf⟩
      obtain rfl : old = row := some.inj (hold.symm.trans hrow)
      exact if_neg hp

theorem statement_rules : type_of% (And.intro @runs_assoc <|
    And.intro @runs_require_bind <| And.intro @runs_demand_bind <|
    And.intro @runs_insert_bind <| And.intro @runs_delete_bind <|
    And.intro @runs_selectForShare_bind <|
    And.intro @runs_pure_bind @runs_pure) :=
  ⟨runs_assoc, runs_require_bind, runs_demand_bind,
    runs_insert_bind, runs_delete_bind, runs_selectForShare_bind,
    runs_pure_bind, runs_pure⟩

section

variable (hrow : d (.run id) = some row)
include hrow

theorem changes_claimRun :
    Cmd.Changes (.claimRun workerId (some id) now leaseDuration) id d new ↔
      (workerId ≠ "" ∧ row.Claimable now.column ∧ row.attemptCount < maxInteger) ∧
        row.claimed workerId now.column
          (leaseExpiry now leaseDuration defaultLeaseDuration).column = new := by
  have hattempts : (row.claimed workerId now.column
      (leaseExpiry now leaseDuration defaultLeaseDuration).column).attemptCount ≤ maxInteger ↔
      row.attemptCount < maxInteger := Int.add_one_le_iff
  by_cases hclaimable : row.Claimable now.column <;>
    simp [Cmd.Changes, statements, claimRun, statement_rules, runs_update_row hrow, Reply.Changed,
      hclaimable, hattempts, and_assoc, -runs_bind]

theorem changes_renewRunLease :
    Cmd.Changes (.renewRunLease id workerId now leaseDuration) id d new ↔
      (row.HeldBy workerId ∧ ∃ expiry ∈ row.leaseExpiresAt, now.column < expiry) ∧
        row.renewed now.column
          (leaseExpiry now leaseDuration defaultLeaseDuration).column = new := by
  simp [Cmd.Changes, statements, renewRunLease, statement_rules, runs_update_row hrow,
    Reply.Changed, -runs_bind]

theorem changes_addContextMessages :
    Cmd.Changes (.addContextMessages id workerId count now) id d new ↔
      (0 ≤ count ∧ count ≤ maxInteger ∧ row.HeldBy workerId ∧
        row.contextMessagesUsed + count ≤ maxContextMessages) ∧
        row.usedContext count now.column = new := by
  simp [Cmd.Changes, statements, addContextMessages, statement_rules, runs_update_row hrow,
    Reply.Changed, and_assoc, -runs_bind]

theorem changes_attachTask :
    Cmd.Changes (.attachTask id workerId taskId taskNumber now) id d new ↔
      ((row.HeldBy workerId ∧ row.createdTaskId = none) ∧ TaskFree d taskId taskNumber) ∧
        row.attached taskId taskNumber now.column = new := by
  by_cases hfree : row.HeldBy workerId ∧ row.createdTaskId = none <;>
    simp [Cmd.Changes, statements, attachTask, statement_rules, runs_update_row hrow, TaskFree,
      Reply.Changed, hfree, and_assoc, isSome_iff_ne_none, -runs_bind]

theorem changes_resumeWaitingRun :
    Cmd.Changes (.resumeWaitingRun id userId messageId now) id d new ↔
      row.Answerable userId messageId now.column ∧ row.resumed now.column = new := by
  by_cases hanswerable : row.Answerable userId messageId now.column <;>
    simp [Cmd.Changes, statements, resumeWaitingRun, resumeRun, statement_rules,
      runs_update_row hrow, Reply.Changed, hanswerable, -runs_bind]

theorem changes_finishRun :
    Cmd.Changes (.finishRun id workerId status category detail outbox now) id d new ↔
      (status.IsTerminal ∧ row.HeldBy workerId ∧ ∀ m ∈ outbox, m.Fits d) ∧
        row.finished status category detail now.column = new := by
  cases outbox with
  | none =>
    simp [Cmd.Changes, statements, finishRun, statement_rules, runs_update_row hrow,
      Reply.Changed, -runs_bind]
  | some m =>
    have hexists : (update d (.run id)
        (some (row.finished status category detail now.column)) (.run m.runId)).isSome ↔
        d (.run m.runId) ≠ none := by
      by_cases heq : m.runId = id
      · rw [heq, update_self, hrow]
        simp
      · rw [update_of_ne (by simpa using heq), isSome_iff_ne_none]
    by_cases hkey : d (.deduplicationKey m.deduplicationKey) = none <;>
      simp [Cmd.Changes, statements, finishRun, insertOutbox, statement_rules, runs_update_row hrow,
        Reply.Changed, OutboxMessage.Fits, hkey, hexists, and_assoc, -runs_bind]

theorem changes_retryRun :
    Cmd.Changes (.retryRun id workerId availableAt now) id d new ↔
      row.HeldBy workerId ∧ row.retried availableAt.column now.column = new := by
  simp [Cmd.Changes, statements, retryRun, statement_rules, runs_update_row hrow,
    Reply.Changed, -runs_bind]

end

/-! ## Agreement -/

/-- The two changes are the same if and only if their conditions are and, where these are met, what
is read from the row is the run. -/
theorem Cmd.matches_iff {y} (hchanges : ∀ {new}, c.Changes id d new ↔ p ∧ x = new)
    (hmethod : ∀ {run}, c.method row.scan = .ok run ↔ q ∧ y = run) :
    c.Matches id d row ↔ (p ↔ q) ∧ (p → x.scan = y) := by
  have hread : ∀ run, (∃ new, c.Changes id d new ∧ new.scan = run) ↔ p ∧ x.scan = run := by
    simp only [hchanges, and_assoc, exists_and_left, exists_eq_left', implies_true]
  simp only [Cmd.Matches, hread, hmethod]
  constructor
  · intro h
    have hq : p → q ∧ y = x.scan := fun hp => (h x.scan).mp ⟨hp, rfl⟩
    exact ⟨⟨fun hp => (hq hp).1, fun hq => ((h y).mpr ⟨hq, rfl⟩).1⟩, fun hp => (hq hp).2.symm⟩
  · rintro ⟨hpq, hxy⟩ run
    rw [← hpq]
    exact and_congr_right fun hp => by rw [hxy hp]

/-- A time is past what a column holds if and only if its microseconds are. -/
theorem lt_instant {t : Time} : now < t.instant ↔ now.column < t := by
  rw [Time.instant, Instant.column, Nat.mul_comm, Nat.div_lt_iff_lt_mul (by decide)]

theorem instant_le {t : Time} : t.instant ≤ now ↔ t ≤ now.column := by
  rw [← Nat.not_lt, ← Nat.not_lt, lt_instant]

/-- Arithmetic within the range of `int` does not wrap. -/
theorem goInt_eq {n : Int} (hlow : 0 ≤ n) (hhigh : n < 2 ^ 63) : goInt n = n := by
  rw [goInt, Int.bmod_def]
  split <;> omega

theorem goInt_neg {n : Int} (hlow : 2 ^ 63 ≤ n) (hhigh : n < 2 ^ 64) : goInt n < 0 := by
  rw [goInt, Int.bmod_def]
  split <;> omega

theorem trimSpace_of_blank (h : blank s) : trimSpace s = "" := by
  have hdrop : s.toList.dropWhile isSpace = [] := by
    rw [List.dropWhile_eq_nil_iff]
    exact List.all_eq_true.mp h
  rw [trimSpace, hdrop]
  rfl

theorem nullIfEmpty_inj {t} : nullIfEmpty s = nullIfEmpty t ↔ s = t := by
  unfold nullIfEmpty
  split <;> split <;> simp_all [eq_comm]

section

variable (hrow : d (.run id) = some row)
include hrow

theorem claimRun_agrees (hwithin : row.WithinLimits) (hinteger : row.attemptCount ≤ maxInteger) :
    Cmd.Matches (.claimRun workerId (some id) now leaseDuration) id d row ↔
      Cmd.Agrees d row (.claimRun workerId (some id) now leaseDuration) := by
  have hcount : goInt (row.attemptCount + 1) = row.attemptCount + 1 := by
    have hlow := hwithin.1
    unfold maxInteger at hinteger
    exact goInt_eq (by omega) (by omega)
  have hmethod : ∀ {run}, row.scan.claim workerId now leaseDuration = .ok run ↔
      (row.status = .queued ∧ ¬ blank workerId ∧ row.availableAt ≤ now.column) ∧
        row.scan.claimed (trimSpace workerId) now
          (leaseExpiry now leaseDuration defaultLeaseDuration) = run := by
    intro run
    by_cases hqueued : row.status = .queued <;>
      simp [Run.claim, Run.scan, ite_error_eq_ok, hqueued, RunStatus.IsTerminal, Run.claimed,
        hcount, instant_le]
  have hsame : (row.claimed workerId now.column
      (leaseExpiry now leaseDuration defaultLeaseDuration).column).scan =
        row.scan.claimed (trimSpace workerId) now
          (leaseExpiry now leaseDuration defaultLeaseDuration) ↔
      trimSpace workerId = workerId ∧
        Cmd.Whole (.claimRun workerId (some id) now leaseDuration) := by
    simp [Run.claimed, Run.scan, Cmd.Whole, Cmd.times, @eq_comm _ workerId, and_comm]
  rw [Cmd.matches_iff (changes_claimRun hrow) hmethod, hsame]
  have hqueued : row.status = .queued ∧ ¬ blank workerId ∧ row.availableAt ≤ now.column →
      workerId ≠ "" ∧ row.Claimable now.column := by
    rintro ⟨hqueued, hblank, havailable⟩
    refine ⟨?_, .inl ⟨hqueued, havailable⟩⟩
    rintro rfl
    exact hblank rfl
  have hclaim : workerId ≠ "" → row.Claimable now.column →
      row.status = .queued → trimSpace workerId = workerId →
      ¬ blank workerId ∧ row.availableAt ≤ now.column := by
    intro hworker hclaimable hqueued htrim
    refine ⟨fun hblank => hworker ?_, ?_⟩
    · rw [← htrim, trimSpace_of_blank hblank]
    · rcases hclaimable with ⟨-, havailable⟩ | ⟨hrunning, -⟩
      · exact havailable
      · cases hqueued.symm.trans hrunning
  rw [Cmd.Agrees]
  split
  case isTrue hless =>
    constructor
    · rintro ⟨hboth, htrim⟩ hworker hclaimable
      exact ⟨(hboth.mp ⟨hworker, hclaimable, hless⟩).1, htrim ⟨hworker, hclaimable, hless⟩⟩
    · intro h
      refine ⟨⟨fun ⟨hworker, hclaimable, _⟩ => ?_, fun hq => ?_⟩,
        fun ⟨hworker, hclaimable, _⟩ => (h hworker hclaimable).2⟩
      · obtain ⟨hstatus, htrim, -⟩ := h hworker hclaimable
        exact ⟨hstatus, hclaim hworker hclaimable hstatus htrim⟩
      · exact ⟨(hqueued hq).1, (hqueued hq).2, hless⟩
  case isFalse hmore =>
    constructor
    · exact fun h hq => hmore (h.1.mpr hq).2.2
    · exact fun h => ⟨iff_of_false (fun hp => hmore hp.2.2) h, fun hp => absurd hp.2.2 hmore⟩

theorem renewRunLease_agrees (hheld : row.HeldBy workerId) :
    Cmd.Matches (.renewRunLease id workerId now leaseDuration) id d row ↔
      Cmd.Agrees d row (.renewRunLease id workerId now leaseDuration) := by
  have hmethod : ∀ {run}, row.scan.renewLease workerId now leaseDuration = .ok run ↔
      (∃ expiry ∈ row.leaseExpiresAt, now ≤ expiry.instant) ∧
        row.scan.renewed now (leaseExpiry now leaseDuration defaultLeaseDuration) = run := by
    intro run
    simp [Run.renewLease, Run.scan, ite_error_eq_ok, hheld.1, hheld.2, stringValue, Run.renewed]
  have hsame : (row.renewed now.column
      (leaseExpiry now leaseDuration defaultLeaseDuration).column).scan =
        row.scan.renewed now (leaseExpiry now leaseDuration defaultLeaseDuration) ↔
      Cmd.Whole (.renewRunLease id workerId now leaseDuration) := by
    simp [Run.renewed, Run.scan, Cmd.Whole, Cmd.times, and_comm]
  rw [Cmd.matches_iff (changes_renewRunLease hrow) hmethod, and_iff_right hheld, hsame, Cmd.Agrees]
  cases row.leaseExpiresAt with
  | none => simp
  | some expiry =>
    simp only [mem_def, some.injEq, exists_eq_left', forall_eq', ← lt_instant]
    have hboundary : ∀ t t' : Nat, (t < t' ↔ t ≤ t') ↔ t ≠ t' := by
      intro t t'
      omega
    rw [hboundary]

theorem addContextMessages_agrees (hheld : row.HeldBy workerId) (hwithin : row.WithinLimits)
    (hsent : count < 2 ^ 63) : Cmd.Matches (.addContextMessages id workerId count now) id d row ↔
      Cmd.Agrees d row (.addContextMessages id workerId count now) := by
  have hmethod : ∀ {run}, row.scan.addContextMessages count now = .ok run ↔
      (0 ≤ count ∧ goInt (row.contextMessagesUsed + count) ≤ maxContextMessages) ∧
        { row.scan with
          contextMessagesUsed := goInt (row.contextMessagesUsed + count), updatedAt := now } =
          run := by
    intro run
    rw [Run.addContextMessages, ite_error_eq_ok]
    simp [Run.scan]
  have hsame : goInt (row.contextMessagesUsed + count) = row.contextMessagesUsed + count →
      ((row.usedContext count now.column).scan = { row.scan with
        contextMessagesUsed := goInt (row.contextMessagesUsed + count), updatedAt := now } ↔
      Cmd.Whole (.addContextMessages id workerId count now)) := by
    intro hcount
    simp [hcount, Run.usedContext, Run.scan, Cmd.Whole, Cmd.times]
  rw [Cmd.matches_iff (changes_addContextMessages hrow) hmethod, Cmd.Agrees]
  obtain ⟨-, -, -, hused, hmax⟩ := hwithin
  unfold maxContextMessages maxInteger at *
  by_cases hcount : 0 ≤ count
  · by_cases hwraps : row.contextMessagesUsed + count < 2 ^ 63
    · have hkept := goInt_eq (by omega) hwraps
      rw [hsame hkept, hkept]
      constructor
      · exact fun h _ => ⟨hwraps, fun hlimit => h.2 ⟨hcount, by omega, hheld, hlimit⟩⟩
      · refine fun h => ⟨⟨fun hp => ⟨hcount, hp.2.2.2⟩, fun hq => ⟨hcount, ?_, hheld, hq.2⟩⟩,
          fun hp => (h hcount).2 hp.2.2.2⟩
        have hlimit := hq.2
        omega
    · have hwrapped := goInt_neg (Int.not_lt.mp hwraps) (by omega)
      refine iff_of_false (fun h => ?_) fun h => hwraps (h hcount).1
      have hlimit := (h.1.mpr ⟨hcount, by omega⟩).2.2.2
      omega
  · exact iff_of_true ⟨iff_of_false (fun h => hcount h.1) fun h => hcount h.1,
      fun h => absurd h.1 hcount⟩ fun h => absurd h hcount

theorem attachTask_agrees (hheld : row.HeldBy workerId) :
    Cmd.Matches (.attachTask id workerId taskId taskNumber now) id d row ↔
      Cmd.Agrees d row (.attachTask id workerId taskId taskNumber now) := by
  by_cases hnone : row.createdTaskId = none
  · have hmethod : ∀ {run}, row.scan.attachTask taskId taskNumber now = .ok run ↔
        (taskId ≠ 0 ∧ 0 < taskNumber) ∧ row.scan.attached taskId taskNumber now = run := by
      intro run
      simp [Run.attachTask, Run.scan, hnone, ite_error_eq_ok, hheld.1, Run.attached]
    have hsame : (row.attached taskId taskNumber now.column).scan =
        row.scan.attached taskId taskNumber now ↔
        Cmd.Whole (.attachTask id workerId taskId taskNumber now) := by
      simp [Run.attached, Run.scan, Cmd.Whole, Cmd.times]
    rw [Cmd.matches_iff (changes_attachTask hrow) hmethod, hsame, Cmd.Agrees, if_pos hnone,
      and_iff_right (a := row.HeldBy workerId ∧ row.createdTaskId = none) ⟨hheld, hnone⟩]
  · by_cases hsame : row.createdTaskId = some taskId ∧ row.createdTaskNumber = some taskNumber <;>
      simp [Cmd.Matches, changes_attachTask hrow, Cmd.method, Cmd.Agrees, Run.attachTask, Run.scan,
        hnone, hsame]

theorem resumeWaitingRun_agrees : Cmd.Matches (.resumeWaitingRun id userId messageId now) id d row ↔
    Cmd.Agrees d row (.resumeWaitingRun id userId messageId now) := by
  have hmethod : ∀ {run}, row.scan.resume userId now = .ok run ↔
      (row.status = .waitingUser ∧ userId = row.initiatingUserId ∧
        ∃ expiry ∈ row.clarificationExpiresAt, now.column < expiry) ∧
        row.scan.resumed now = run := by
    intro run
    simp only [Run.resume, ite_error_eq_ok, not_not]
    simp [Run.scan, and_assoc, Run.resumed, lt_instant]
  have hsame : (row.resumed now.column).scan = row.scan.resumed now ↔
      Cmd.Whole (.resumeWaitingRun id userId messageId now) := by
    simp [Run.resumed, Run.scan, Cmd.Whole, Cmd.times]
  rw [Cmd.matches_iff (changes_resumeWaitingRun hrow) hmethod, hsame, Cmd.Agrees, Run.Answerable,
    @eq_comm _ row.initiatingUserId]
  generalize (∃ expiry ∈ row.clarificationExpiresAt, now.column < expiry) = waits
  tauto

theorem finishRun_agrees (hheld : row.HeldBy workerId) :
    Cmd.Matches (.finishRun id workerId status category detail outbox now) id d row ↔
      Cmd.Agrees d row (.finishRun id workerId status category detail outbox now) := by
  have hmethod : ∀ {run},
      Cmd.method row.scan (.finishRun id workerId status category detail outbox now) = .ok run ↔
      (status.IsTerminal ∧ (status = .succeeded → row.createdTaskId ≠ none)) ∧
        (if status = .succeeded then row.scan.finished status "" "" now
          else row.scan.finished status (trimSpace category) (trimSpace detail) now) = run := by
    intro run
    have hempty : trimSpace "" = "" := trimSpace_of_blank rfl
    cases status <;>
      simp [Cmd.method, RunStatus.IsTerminal, Run.succeed, Run.fail, Run.cancel, Run.terminal,
        Run.finished, Run.scan, hheld.1, hempty, ite_error_eq_ok]
  have hsame : ∀ category' detail', (row.finished status category detail now.column).scan =
      row.scan.finished status category' detail' now ↔ category' = category ∧ detail' = detail ∧
        Cmd.Whole (.finishRun id workerId status category detail outbox now) := by
    simp [Run.finished, Run.scan, nullIfEmpty_inj, Cmd.Whole, Cmd.times, eq_comm]
  rw [Cmd.matches_iff (changes_finishRun hrow) hmethod, Cmd.Agrees]
  generalize (∀ m ∈ outbox, m.Fits d) = fits
  by_cases hsucceeded : status = .succeeded
  · have hterminal : status.IsTerminal := .inl hsucceeded
    simp only [if_pos hsucceeded, hsame, @eq_comm _ ""]
    split <;> tauto
  · simp only [if_neg hsucceeded, hsame]
    tauto

theorem retryRun_agrees (hheld : row.HeldBy workerId) :
    Cmd.Matches (.retryRun id workerId availableAt now) id d row ↔
      Cmd.Agrees d row (.retryRun id workerId availableAt now) := by
  have hmethod : ∀ {run}, row.scan.retry availableAt now = .ok run ↔
      True ∧ row.scan.retried availableAt now = run := by
    intro run
    simp [Run.retry, Run.scan, hheld.1, Run.retried]
  have hsame : (row.retried availableAt.column now.column).scan = row.scan.retried availableAt now ↔
      Cmd.Whole (.retryRun id workerId availableAt now) := by
    simp [Run.retried, Run.scan, Cmd.Whole, Cmd.times]
  rw [Cmd.matches_iff (changes_retryRun hrow) hmethod, hsame, Cmd.Agrees]
  simp [hheld]

end

/-- **A statement changes its row as the method would** if and only if the operation meets the
condition: the one changes the row where the other succeeds on the run read from it, and what is
read afterwards is the run the method makes of it. The row is a valid one of the table, and the
arguments are such as the database takes. -/
theorem statement_agrees_iff (hon : c.On id row) (hrow : d (.run id) = some row)
    (hvalid : row.scan.validate = .ok ()) (hinteger : row.attemptCount ≤ maxInteger)
    (hsent : c.Sendable) : c.Matches id d row ↔ c.Agrees d row := by
  have hwithin : row.WithinLimits := (Run.validate_eq_ok.mp hvalid).limits
  cases c with
  | claimRun =>
    subst hon
    exact claimRun_agrees hrow hwithin hinteger
  | resumeWaitingRun =>
    subst hon
    exact resumeWaitingRun_agrees hrow
  | renewRunLease =>
    obtain ⟨rfl, hheld⟩ := hon
    exact renewRunLease_agrees hrow hheld
  | addContextMessages =>
    obtain ⟨rfl, hheld⟩ := hon
    exact addContextMessages_agrees hrow hheld hwithin hsent.2.2
  | attachTask =>
    obtain ⟨rfl, hheld⟩ := hon
    exact attachTask_agrees hrow hheld
  | finishRun =>
    obtain ⟨rfl, hheld⟩ := hon
    exact finishRun_agrees hrow hheld
  | retryRun =>
    obtain ⟨rfl, hheld⟩ := hon
    exact retryRun_agrees hrow hheld
  | _ => exact hon.elim

/-- A queued run is claimed by both. -/
theorem queued_run_claimed_by_both :
    sampleRun.Claimable (Instant.column 5000000) ∧
      Cmd.Matches (.claimRun "w" (some 1) 5000000 0) 1
        (update (fun _ => none) (.run 1) (some sampleRun)) sampleRun := by
  refine ⟨by decide, ?_⟩
  have hon : Cmd.On 1 sampleRun (.claimRun "w" (some 1) 5000000 0) := rfl
  have hsent : Cmd.Sendable (.claimRun "w" (some 1) 5000000 0) :=
    ⟨by decide, by decide, trivial⟩
  refine (statement_agrees_iff hon (update_self ..) (by decide) (by decide) hsent).mpr ?_
  exact fun _ _ => ⟨rfl, by decide, show ∀ t ∈ _, _ by decide⟩

/-- **A run whose lease has lapsed** is valid, and the statement gives it to the next worker, which
the method refuses. -/
theorem lapsed_run_claimed_by_statement :
    ∃ (d : Db) (row : Run), d (.run 1) = some row ∧ row.scan.validate = .ok () ∧
      (∃ new, Cmd.Changes (.claimRun "v" (some 1) 20000 0) 1 d new) ∧
      row.scan.claim "v" 20000 0 = .error .invalidTransition := by
  refine ⟨update (fun _ => none) (.run 1) (some (sampleRun.claimed "w" 5 10)), _,
    update_self .., by decide, ⟨_, (changes_claimRun (update_self ..)).mpr
      ⟨⟨by decide, by decide, by decide⟩, rfl⟩⟩, by decide⟩

end Pactline.Agent
