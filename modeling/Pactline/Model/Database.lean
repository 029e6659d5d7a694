import Mathlib.Data.List.AList
import Pactline.Concurrency.Owned
import Pactline.Model.Collaboration
import Pactline.Model.Attachment

/-!
# The database

The tables the modelled stores read and write. A Task's row is kept together with the rows of
the tables that name it (its Claims, Threads, Items, criteria, checks, code changes and
dependencies): their `task_id` never changes, and the code writes them only while it holds the
Task's row lock, which is proved of every program and not assumed here. The tables that are
written without that lock (upload sessions, attachments, the observations of code changes) stand
on their own.

Constraints of the schema that only restate what the code checks are left out: leaving out a
check can only add runs. The unique indexes behind an `INSERT` are kept: the primary key of the
Claims over all Tasks, the others per Task.
-/

set_option autoImplicit false

namespace Pactline

open ReadCommitted

/-! ## Rows -/

/-- The status column kept for compatibility; the workflow commands do not touch it. -/
inductive TaskStatus
  | todo
  | inProgress
  | inReview
  | done
  | cancelled
deriving DecidableEq, Repr

inductive TaskPriority
  | none
  | low
  | medium
  | high
  | urgent
deriving DecidableEq, Repr

inductive TaskExecutionMode
  | humanOnly
  | agentAllowed
deriving DecidableEq, Repr

/-- The columns of `tasks`. Dates are days. -/
structure TaskRow where
  version : Nat
  title : String
  context : String
  expectedResult : String
  description : String
  status : TaskStatus
  priority : TaskPriority
  executionMode : TaskExecutionMode
  assigneeId : Option Id
  creatorId : Id
  startDate : Option Int
  dueDate : Option Int
  projectId : Id
  milestoneId : Option Id
  parentTaskId : Option TaskId
  lifecycle : TaskLifecycle
  activeIssueThreadId : Option Id
  completedAt : Option Time
  archivedAt : Option Time
deriving DecidableEq, Repr

/-- A row of `business_audit_events`, without the JSON of the old and new values. -/
structure BusinessAuditEvent where
  occurredAt : Time
  actor : OperationActor
  entityType : String
  entityId : Id
  action : String
deriving DecidableEq, Repr

/-- A Task: its row and the rows of the other tables that belong to it, each table in the order
of its inserts. -/
structure TaskRecord where
  row : TaskRow
  dependencyIds : List TaskId
  labelIds : List Id
  claims : List TaskStageClaim
  threads : List Thread
  items : List ThreadItem
  criteria : List AcceptanceCriterion
  checks : List AcceptanceCheck
  codeChanges : List TaskCodeChange
  audit : List BusinessAuditEvent
  /-- `completed_at` of the Task's latest submitted row in the older table `task_claims`. -/
  legacySubmittedAt : Option Time
deriving DecidableEq, Repr

/-- A Project's repository binding, with what the code reads of its Connection. -/
structure ProjectRepository where
  projectId : Id
  connectionId : Id
  provider : RepositoryProvider
  bound : Bool
  connectionActive : Bool
deriving DecidableEq, Repr

/-! ## Tables -/

/-- A table by primary key. -/
abbrev Table (V : Type) := AList fun _ : Nat => V

/-- One statement that writes several rows. -/
def Table.insertAll {V : Type} (table : Table V) (rows : List (Nat × V)) : Table V :=
  rows.foldr (fun e table => table.insert e.1 e.2) table

structure Db where
  tasks : Table TaskRecord
  observations : Table CodeChangeObservation
  repositories : Table ProjectRepository
  uploads : Table AttachmentUploadSession
  attachments : Table TaskAttachment
  /-- The local object store, by object key. It takes no part in transactions: every operation on
  it is a command of its own. -/
  objects : AList fun _ : String => Bytes

/-- The rows that can be locked. -/
inductive Row
  | task (id : TaskId)
  | dependency (id dependsOn : TaskId)
  | claim (id : Id)
  | thread (id : Id)
  | criterion (id : Id)
  | codeChange (id : Id)
  | repository (id : Id)
  | upload (id : Id)
  | attachment (id : Id)
  | objectKey (key : String)
  | object (key : String)
deriving DecidableEq, Repr

namespace Table

variable {V : Type} {rows : List (Nat × V)} {table table' : Table V} {id : Nat}

/-- A row is the first of those written for it, or is as it was. -/
theorem lookup_insertAll :
    (table.insertAll rows).lookup id = (rows.lookup id).or (table.lookup id) := by
  unfold insertAll
  induction rows with
  | nil => rfl
  | cons e rows ih =>
    obtain ⟨k, v⟩ := e
    rw [List.foldr_cons, List.lookup_cons]
    by_cases hid : id = k
    · subst hid
      simp [AList.lookup_insert]
    · rw [AList.lookup_insert_ne hid, ih, beq_false_of_ne hid]

theorem lookup_insertAll_congr (h : table'.lookup id = table.lookup id) :
    (table'.insertAll rows).lookup id = (table.insertAll rows).lookup id := by
  rw [lookup_insertAll, lookup_insertAll, h]

theorem lookup_insertAll_of_notMem (h : ∀ e ∈ rows, e.1 ≠ id) :
    (table.insertAll rows).lookup id = table.lookup id := by
  have hnone : rows.lookup id = none :=
    List.lookup_eq_none_iff.mpr fun e he => bne_iff_ne.mpr (h e he).symm
  rw [lookup_insertAll, hnone, Option.none_or]

/-- A row is one of those written, or is as it was. -/
theorem lookup_insertAll_cases (rows : List (Nat × V)) (table : Table V) (id : Nat) :
    (∃ v, (id, v) ∈ rows ∧ (table.insertAll rows).lookup id = some v) ∨
      ((∀ e ∈ rows, e.1 ≠ id) ∧ (table.insertAll rows).lookup id = table.lookup id) := by
  cases hv : rows.lookup id with
  | some v =>
    obtain ⟨_, _, rfl, -⟩ := List.lookup_eq_some_iff.mp hv
    exact .inl ⟨v, List.mem_append_right _ List.mem_cons_self, by rw [lookup_insertAll, hv]; rfl⟩
  | none =>
    have hnone : ∀ e ∈ rows, e.1 ≠ id := fun e he =>
      (bne_iff_ne.mp (List.lookup_eq_none_iff.mp hv e he)).symm
    exact .inr ⟨hnone, lookup_insertAll_of_notMem hnone⟩

/-- A row that is written does not depend on the table. -/
theorem lookup_insertAll_eq {v : V} (h : (id, v) ∈ rows) :
    (table.insertAll rows).lookup id = (table'.insertAll rows).lookup id := by
  rw [lookup_insertAll, lookup_insertAll]
  cases hv : rows.lookup id with
  | some => rfl
  | none => exact absurd rfl (bne_iff_ne.mp (List.lookup_eq_none_iff.mp hv _ h))

theorem lookup_insertAll_of_mem {v : V} (huniq : ∀ v', (id, v') ∈ rows → v' = v)
    (h : (id, v) ∈ rows) : (table.insertAll rows).lookup id = some v := by
  rcases lookup_insertAll_cases rows table id with ⟨v', hv', hlookup⟩ | ⟨hnone, -⟩
  · rw [hlookup, huniq v' hv']
  · exact absurd rfl (hnone _ h)

end Table

/-- A Claim of the Task has the given identity. -/
def TaskRecord.HasClaim (r : TaskRecord) (id : Id) : Prop := ∃ k ∈ r.claims, k.id = id

namespace Db

def empty : Db := ⟨∅, ∅, ∅, ∅, ∅, ∅⟩

/-- The Task with the given number. -/
def task (d : Db) (t : TaskId) : Option TaskRecord := d.tasks.lookup t

def setTask (t : TaskId) (r : TaskRecord) (d : Db) : Db :=
  { d with tasks := d.tasks.insert t r }

/-- The Tasks whose parent is `t`. -/
def children (d : Db) (t : TaskId) : List (TaskId × TaskRecord) :=
  (d.tasks.entries.filter fun e => e.2.row.parentTaskId = some t).map fun e => (e.1, e.2)

/-- The rows of `task_dependencies` of one Task. -/
def dependencies (d : Db) (t : TaskId) : List TaskId :=
  ((d.task t).map TaskRecord.dependencyIds).getD []

/-- `phase NOT IN ('done','cancelled')`. The foreign keys of `parent_task_id` and of
`task_dependencies` let no row name a Task that does not exist, so the last case never counts. -/
def unfinished (d : Db) (t : TaskId) : Bool :=
  match d.task t with
  | some r => !decide r.row.lifecycle.phase.Terminal
  | none => true

/-- The Claim with the given identity, on whichever Task it is. -/
def claim (d : Db) (claimId : Id) : Option TaskStageClaim :=
  (d.tasks.entries.flatMap fun e => e.2.claims).find? fun c => c.id = claimId

/-- A statement that changes the rows of one Task. -/
def modifyTask (t : TaskId) (f : TaskRecord → TaskRecord) (d : Db) : Db :=
  match d.task t with
  | some r => d.setTask t (f r)
  | none => d

/-- The Tasks that depend on `t`. -/
def dependents (d : Db) (t : TaskId) : List (TaskId × TaskRecord) :=
  (d.tasks.entries.filter fun e => t ∈ e.2.dependencyIds).map fun e => (e.1, e.2)

@[simp] theorem task_setTask_self (d : Db) (t : TaskId) (r : TaskRecord) :
    (d.setTask t r).task t = some r :=
  AList.lookup_insert d.tasks

theorem task_setTask_ne (d : Db) {t t' : TaskId} (r : TaskRecord) (h : t' ≠ t) :
    (d.setTask t r).task t' = d.task t' :=
  AList.lookup_insert_ne h

theorem task_setTask (d : Db) (t t' : TaskId) (r : TaskRecord) :
    (d.setTask t r).task t' = if t' = t then some r else d.task t' := by
  by_cases h : t' = t
  · subst h
    simp
  · rw [if_neg h, task_setTask_ne d r h]

theorem task_modifyTask (d : Db) (t t' : TaskId) (f : TaskRecord → TaskRecord) :
    (d.modifyTask t f).task t' = if t' = t then (d.task t).map f else d.task t' := by
  unfold modifyTask
  cases h : d.task t with
  | none =>
    by_cases ht : t' = t
    · rw [if_pos ht, ht]
      exact h
    · rw [if_neg ht]
  | some r => rw [task_setTask, Option.map_some]

@[simp] theorem task_modifyTask_self (d : Db) (t : TaskId) (f : TaskRecord → TaskRecord) :
    (d.modifyTask t f).task t = (d.task t).map f := by
  rw [task_modifyTask, if_pos rfl]

@[simp] theorem modifyTask_setTask (d : Db) (t : TaskId) (r : TaskRecord)
    (f : TaskRecord → TaskRecord) : (d.setTask t r).modifyTask t f = d.setTask t (f r) := by
  unfold modifyTask
  rw [task_setTask_self]
  exact congrArg (fun tasks => { d with tasks }) (AList.insert_insert _)

@[simp] theorem modifyTask_uploads (d : Db) (t : TaskId) (f : TaskRecord → TaskRecord) :
    (d.modifyTask t f).uploads = d.uploads := by
  unfold modifyTask
  cases d.task t <;> rfl

@[simp] theorem modifyTask_attachments (d : Db) (t : TaskId) (f : TaskRecord → TaskRecord) :
    (d.modifyTask t f).attachments = d.attachments := by
  unfold modifyTask
  cases d.task t <;> rfl

theorem unfinished_eq_false {d : Db} {t : TaskId} :
    d.unfinished t = false ↔ ∃ r, d.task t = some r ∧ r.row.lifecycle.phase.Terminal := by
  unfold unfinished
  cases d.task t with
  | none => simp
  | some r => simp

@[simp] theorem mem_children {d : Db} {t c : TaskId} {r : TaskRecord} :
    (c, r) ∈ d.children t ↔ d.task c = some r ∧ r.row.parentTaskId = some t := by
  simp only [children, List.mem_map, List.mem_filter, decide_eq_true_eq, Prod.mk.injEq, task]
  constructor
  · rintro ⟨⟨c', r'⟩, ⟨hmem, hparent⟩, rfl, rfl⟩
    exact ⟨AList.mem_lookup_iff.mpr hmem, hparent⟩
  · rintro ⟨hget, hparent⟩
    exact ⟨⟨c, r⟩, ⟨AList.mem_lookup_iff.mp hget, hparent⟩, rfl, rfl⟩

theorem claim_eq_none {d : Db} {claimId : Id} :
    d.claim claimId = none ↔ ∀ t r, d.task t = some r → ¬ r.HasClaim claimId := by
  simp only [claim, List.find?_eq_none, List.mem_flatMap, decide_eq_true_eq, forall_exists_index,
    and_imp, task]
  constructor
  · rintro h t r hr ⟨k, hk, hid⟩
    exact h k ⟨t, r⟩ (AList.mem_lookup_iff.mp hr) hk hid
  · rintro h k ⟨t, r⟩ hmem hk hid
    exact h t r (AList.mem_lookup_iff.mpr hmem) ⟨k, hk, hid⟩

theorem exists_of_claim_eq_some {d : Db} {claimId : Id} {k : TaskStageClaim}
    (h : d.claim claimId = some k) :
    k.id = claimId ∧ ∃ t r, d.task t = some r ∧ k ∈ r.claims := by
  have hid := List.find?_some h
  obtain ⟨⟨t, r⟩, hmem, hk⟩ := List.mem_flatMap.mp (List.mem_of_find?_eq_some h)
  exact ⟨of_decide_eq_true hid, t, r, AList.mem_lookup_iff.mpr hmem, hk⟩

theorem mem_dependencies {d : Db} {t p : TaskId} :
    p ∈ d.dependencies t ↔ ∃ r, d.task t = some r ∧ p ∈ r.dependencyIds := by
  unfold dependencies
  cases d.task t with
  | none => simp
  | some r => simp

theorem nodup_children (d : Db) (t : TaskId) : ((d.children t).map (·.1)).Nodup := by
  have hkeys : (d.tasks.entries.map Sigma.fst).Nodup := d.tasks.nodupKeys
  unfold children
  rw [List.map_map]
  exact hkeys.sublist (List.filter_sublist.map _)

end Db

/-- The cell of one Task. -/
def taskCell (t : TaskId) : Cell Db TaskRecord where
  get d := d.task t
  put r d := d.setTask t r
  Else d d' := (∀ t' ≠ t, d'.task t' = d.task t') ∧ d'.observations = d.observations ∧
    d'.repositories = d.repositories ∧ d'.uploads = d.uploads ∧ d'.attachments = d.attachments ∧
    d'.objects = d.objects
  get_put r d := Db.task_setTask_self d t r
  else_refl _ := ⟨fun _ _ => rfl, rfl, rfl, rfl, rfl, rfl⟩
  else_trans := by
    rintro d₁ d₂ d₃ ⟨htask, ho, hr, hu, ha, hobj⟩ ⟨htask', ho', hr', hu', ha', hobj'⟩
    exact ⟨fun t' ht' => (htask' t' ht').trans (htask t' ht'), ho'.trans ho, hr'.trans hr,
      hu'.trans hu, ha'.trans ha, hobj'.trans hobj⟩
  else_put r d := ⟨fun _ ht' => Db.task_setTask_ne d r ht', rfl, rfl, rfl, rfl, rfl⟩

/-! ## Updates of a Task's rows -/

namespace TaskRecord

@[simps] def setRow (r : TaskRecord) (row : TaskRow) : TaskRecord := { r with row }

@[simps] def addClaim (r : TaskRecord) (c : TaskStageClaim) : TaskRecord :=
  { r with claims := r.claims ++ [c] }

/-- `UPDATE task_stage_claims SET status, outcome, version, updated_at, completed_at
WHERE id AND version`. -/
@[simps] def setClaim (r : TaskRecord) (c : TaskStageClaim) (expectedVersion : Nat) : TaskRecord :=
  { r with claims := r.claims.map fun old =>
      if old.id = c.id ∧ old.version = expectedVersion then
        { old with status := c.status, outcome := c.outcome, version := c.version
                   updatedAt := c.updatedAt, completedAt := c.completedAt }
      else old }

@[simps] def addThread (r : TaskRecord) (t : Thread) : TaskRecord :=
  { r with threads := r.threads ++ [t] }

/-- `UPDATE task_threads SET … WHERE id AND version AND issue_status='open'`. -/
@[simps] def setThread (r : TaskRecord) (t : Thread) (expectedVersion : Nat) : TaskRecord :=
  { r with threads := r.threads.map fun old =>
      if old.id = t.id ∧ old.version = expectedVersion ∧ old.issueStatus = some .open then
        { old with issueStatus := t.issueStatus, resolvedBy := t.resolvedBy, version := t.version
                   updatedAt := t.updatedAt, resolvedAt := t.resolvedAt }
      else old }

@[simps] def addItem (r : TaskRecord) (i : ThreadItem) : TaskRecord :=
  { r with items := r.items ++ [i] }

@[simps] def setCriteria (r : TaskRecord) (criteria : List AcceptanceCriterion) : TaskRecord :=
  { r with criteria }

@[simps] def addCheck (r : TaskRecord) (c : AcceptanceCheck) : TaskRecord :=
  { r with checks := r.checks ++ [c] }

@[simps] def setCodeChanges (r : TaskRecord) (codeChanges : List TaskCodeChange) : TaskRecord :=
  { r with codeChanges }

@[simps] def addAudit (r : TaskRecord) (e : BusinessAuditEvent) : TaskRecord :=
  { r with audit := r.audit ++ [e] }

@[simps] def setDependencies (r : TaskRecord) (dependencyIds : List TaskId) : TaskRecord :=
  { r with dependencyIds }

@[simps] def setLabels (r : TaskRecord) (labelIds : List Id) : TaskRecord := { r with labelIds }

end TaskRecord

/-! ## Programs -/

/-- A transaction of the stores. -/
abbrev Tx := Txn Db Row DomainError

/-- The part of a transaction that runs under the row lock of one Task. -/
abbrev TaskTx := Owned Db Row DomainError TaskRecord

/-- `SELECT … FROM tasks WHERE number=$1 FOR UPDATE`, and the rest of the transaction under that
lock. -/
def withTask {α : Type} (t : TaskId) (body : TaskTx α) : Tx α :=
  Txn.lock ⟨.task t, .update⟩ (body.toTxn (taskCell t) .notFound)

/-- The message PostgreSQL gives with a violated unique index. -/
def uniqueViolation (index : String) : DomainError :=
  .conflict ("duplicate key value violates unique constraint " ++ quoted index)

/-- The checks of `InsertBusinessAudit` (`business_audit.go:13-45`). -/
def BusinessAuditEvent.validate (event : BusinessAuditEvent) : Except DomainError Unit := do
  event.actor.validate
  if event.occurredAt = 0 then
    throw (.unclassified "business audit occurrence time is required")
  if event.entityId = 0 ∨ event.entityType = "" ∨ event.action = "" then
    throw (.unclassified "business audit entity and action are required")

def insertBusinessAudit (event : BusinessAuditEvent) : TaskTx Unit := do
  event.validate
  Owned.update (·.addAudit event)

end Pactline
