import Pactline.Analysis.Structure

/-!
# Histories

A schedule of any clients ends in a database and in a log of its commits, and the database is what
the commits, taken one after the other, have made of the database at the start
(`history_of_runFrom`). Properties of a single Task are then proved by looking at what one commit
may do to the rows of one Task (`TaskChange`).
-/

set_option autoImplicit false

namespace Pactline

open ReadCommitted

variable {platform : Platform} {d₀ d : Db} {t : TaskId} {r' : TaskRecord}

/-! ## Runs of the system -/

abbrev Entry := Commit Db Row Cmd Reply

abbrev SystemConfig := Config Db Row DomainError Cmd Reply

abbrev Schedule := List (Event Cmd DomainError Reply)

/-- The configuration that a schedule of any clients leads to, from a database on which nobody
works. -/
def runFrom (platform : Platform) (d : Db) (es : Schedule) : Option SystemConfig :=
  run (prog platform) (Config.initial d) es

/-- The log is one of commits that follow each other, each respecting the locks of the others. -/
def History (platform : Platform) (d₀ : Db) (log : List Entry) (d : Db) : Prop :=
  Serial (prog platform) (fun _ => rely False) d₀ log d

/-- Whatever overlaps, the commands respect the locks. -/
theorem lockProtocol (platform : Platform) :
    Protocol (prog platform) (fun _ => rely False) (fun _ _ => True) Lawful :=
  protocol platform fun _ _ _ hfalse => hfalse.elim

/-- Every schedule has a history. -/
theorem history_of_runFrom {es} {cfg : SystemConfig} (hlaw : Lawful d₀)
    (h : runFrom platform d₀ es = some cfg) : History platform d₀ cfg.log cfg.db :=
  (lockProtocol platform).serial hlaw h

/-- A commit of a history is a step from the database before it. -/
theorem step_of_valid {e : Entry} (h : e.Valid (prog platform) fun _ => rely False) :
    Step platform (rely False) e.held e.before e.after e.cmd :=
  step_of_commits (isolates_rely False) h

theorem History.lawful {log} (h : History platform d₀ log d) (h₀ : Lawful d₀) :
    Lawful d :=
  h.invariant h₀ fun _ hv hlaw => (step_of_valid hv).lawful hlaw

/-- A commit of a schedule from an empty database, with the histories before and after it. -/
theorem commit_of_runFrom {es} {cfg : SystemConfig}
    (h : runFrom platform Db.empty es = some cfg) {e : Entry} (he : e ∈ cfg.log) :
    ∃ newer older, cfg.log = newer ++ e :: older ∧
      History platform Db.empty older e.before ∧ History platform Db.empty (e :: older) e.after ∧
      Step platform (rely False) e.held e.before e.after e.cmd := by
  obtain ⟨newer, older, hlog⟩ := List.append_of_mem he
  have hhistory := history_of_runFrom lawful_empty h
  rw [hlog] at hhistory
  obtain ⟨-, hv, hbefore⟩ := Serial.split hhistory
  exact ⟨newer, older, hlog, hbefore, ⟨rfl, hv, hbefore⟩, step_of_valid hv⟩

/-! ## What a commit does to one Task -/

/-- The part of an update that concerns the updated Task alone. -/
structure Edited (expectedVersion : Option Nat) (patch : TaskPatch) (old r' : TaskRecord) :
    Prop where
  expected : ∀ version ∈ expectedVersion, old.row.version = version
  patched : Patched patch old.row r'.row
  completed : r'.row.status = old.row.status → r'.row.completedAt = old.row.completedAt
  version : r'.row.version = old.row.version + 1
  rows : r' = { old with
    row := r'.row, dependencyIds := patch.dependencyIds.getD old.dependencyIds
    labelIds := r'.labelIds, audit := r'.audit }

/-- What a commit of `c` on the database `d` may do to the rows of the Task `t`. -/
inductive TaskChange (d : Db) (t : TaskId) (c : Cmd) : Option TaskRecord → TaskRecord → Prop
  | same {r} : TaskChange d t c (some r) r
  | step {r r'} (step : TaskStep d t c r r') : TaskChange d t c (some r) r'
  | create {draft : TaskDraft} {labelIds dependencyIds actor mainThreadId clock}
      (cmd : c = .create t draft labelIds dependencyIds actor mainThreadId clock) :
      TaskChange d t c none (draft.created t labelIds dependencyIds actor mainThreadId clock)
  | update {v patch actor clock old r'} (cmd : c = .update t v patch actor clock)
      (edited : Edited v patch old r') : TaskChange d t c (some old) r'
  | follow {p v patch actor clock projectId} {r r' : TaskRecord}
      (cmd : c = .update p v patch actor clock) (ne : t ≠ p)
      (parent : r.row.parentTaskId = some p) (follows : r.Follows projectId r') :
      TaskChange d t c (some r) r'
  | attach {id uploaderId info v actor attachmentId now inspected} {r : TaskRecord}
      (cmd : c = .completeUpload id uploaderId info v actor attachmentId now inspected)
      (expected : r.row.version = v) :
      TaskChange d t c (some r) (r.attached actor attachmentId now)

section Changes

variable {R : Rely Db Row} {held : List (Lock Row)} {d' : Db} {c : Cmd}

theorem TaskChange.of_eq (hr : d.task t = some r') : TaskChange d t c (d.task t) r' := by
  rw [hr]
  exact .same

/-- Every Task that is there after a commit has come about by one of the changes. -/
theorem Step.taskChange (h : Step platform R held d d' c) (hr' : d'.task t = some r') :
    TaskChange d t c (d.task t) r' := by
  cases h with
  | onTask on step =>
    rcases Db.task_cases on.after on.other hr' with ⟨rfl, rfl⟩ | hr
    · rw [on.before]
      exact .step step
    · exact .of_eq hr
  | create created =>
    rcases Db.task_cases created.after created.other hr' with ⟨rfl, rfl⟩ | hr
    · rw [created.absent]
      exact .create rfl
    · exact .of_eq hr
  | update updated =>
    rcases updated.cases hr' with ⟨rfl, rfl⟩ | ⟨ht, r, hr, hf, rfl | hparent⟩
    · rw [updated.before]
      exact .update rfl ⟨updated.expected, updated.patched, updated.completed, updated.version,
        updated.rows⟩
    · exact .of_eq hr
    · rw [hr]
      exact .follow rfl ht hparent hf
  | completeUpload pending completed =>
    rcases Db.task_cases completed.after completed.other hr' with ⟨rfl, rfl⟩ | hr
    · rw [completed.before]
      exact .attach rfl completed.expected
    · exact .of_eq hr
  | side side =>
    refine .of_eq ?_
    unfold Db.task at hr' ⊢
    rwa [← side.tasks]

/-- Along a history a Task stays, with what stays of it and with what every change of it keeps. -/
theorem History.keeps_along {log : List Entry} (h : History platform d log d') (hlaw : Lawful d)
    {r : TaskRecord} (hr : d.task t = some r) {K : TaskRecord → Prop} (hK : K r)
    (hchange : ∀ {d c r₁ r₂}, TaskChange d t c (some r₁) r₂ → K r₁ → K r₂) :
    ∃ r', d'.task t = some r' ∧ r.Keeps r' ∧ K r' := by
  refine (h.invariant (P := fun d' => Lawful d' ∧ ∃ r', d'.task t = some r' ∧ r.Keeps r' ∧ K r')
    ⟨hlaw, r, hr, .refl r, hK⟩ ?_).2
  rintro e hv ⟨hlaw, r₁, hr₁, hkeeps₁, hK₁⟩
  have hstep := step_of_valid hv
  obtain ⟨r₂, hr₂, hkeeps₂⟩ := (hstep.footprint hlaw).keeps t r₁ hr₁
  have hchange₂ := hstep.taskChange hr₂
  rw [hr₁] at hchange₂
  exact ⟨hstep.lawful hlaw, r₂, hr₂, hkeeps₁.trans hkeeps₂, hchange hchange₂ hK₁⟩

/-- Induction over a history from an empty database, for what relates a Task to the commits so
far. -/
theorem History.task_history {log : List Entry} (h : History platform Db.empty log d)
    {P : List Entry → TaskId → TaskRecord → Prop}
    (hstep : ∀ (e : Entry) (older : List Entry) (t : TaskId) (r' : TaskRecord),
      e.Valid (prog platform) (fun _ => rely False) →
      (∀ t r, e.before.task t = some r → P older t r) →
      TaskChange e.before t e.cmd (e.before.task t) r' → P (e :: older) t r') :
    ∀ t r, d.task t = some r → P log t r := by
  refine Serial.history (P := fun log d => ∀ t r, d.task t = some r → P log t r) h ?_ ?_
  · intro t r hr
    cases hr
  · intro e older hv hbefore t r' hr'
    exact hstep e older t r' hv hbefore ((step_of_valid hv).taskChange hr')

end Changes

end Pactline
