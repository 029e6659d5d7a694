import Pactline.Analysis.DeliveryEffects

/-!
# What creating and updating a Task does

These transactions look at other Tasks while they lock them, and an update may write the Task's
children too. Each helper of `Pactline.Model.TaskStore` gets one lemma that says what its success
establishes about the database the transaction commits on; the two commands are put together from
these lemmas.
-/

set_option autoImplicit false

namespace Pactline

open ReadCommitted Txn List

variable {milestoneId : Option Id} {seen moved : List TaskId} {r : TaskRecord}
  {change : TaskRow → TaskRow} {action : String} {wanted : TaskRow → Bool} {held₁ : List (Lock Row)}
  {d₁ : Db}

variable {p t : TaskId} {projectId : Id} {status : TaskStatus} {u : Unit} {parentId : Option TaskId}
  {ids : List TaskId} {row old : TaskRow} {actor : OperationActor} {clock : Nat → Time} {now : Time}
  {children : List (TaskId × TaskRecord)} {patch : TaskPatch}

/-! ## What the checks establish -/

/-- The parent that `validateParentAssignment` has locked and looked at. -/
structure ParentFits (d : Db) (t p : TaskId) (projectId : Id) (milestoneId : Option Id)
    (status : TaskStatus) (parent : TaskRecord) : Prop where
  ne : p ≠ t
  found : d.task p = some parent
  archived : parent.row.archivedAt = none
  top : parent.row.parentTaskId = none
  project : parent.row.projectId = projectId
  milestone : parent.row.milestoneId = milestoneId
  status : ¬ (parent.row.status = .done ∧ status ≠ .done ∧ status ≠ .cancelled)

/-- A dependency that `validateDependencyAssignments` has locked and looked at. -/
structure DependencyFits (d : Db) (t p : TaskId) (projectId : Id) (parentId : Option TaskId)
    (dependency : TaskRecord) : Prop where
  ne : p ≠ t
  found : d.task p = some dependency
  archived : dependency.row.archivedAt = none
  project : dependency.row.projectId = projectId
  notParent : parentId ≠ some p
  notChild : dependency.row.parentTaskId ≠ some t

/-- Nothing but the new edge will relate the Task to its parent. -/
structure Unrelated (d : Db) (t p : TaskId) : Prop where
  childless : ∀ c rc, d.task c = some rc → rc.row.parentTaskId ≠ some t
  forward : p ∉ d.dependencies t
  backward : t ∉ d.dependencies p

section Checks

variable {R : Rely Db Row} (hR : Isolates R) {held held' : List (Lock Row)} {d d' : Db}

include hR

theorem shareTask_commits {x} (h : (shareTask p).Commits R held d x held' d') :
    held' = ⟨.task p, .share⟩ :: held ∧ d' = d ∧ d.task p = some x := by
  simp only [shareTask, rules, peel] at h
  obtain ⟨found, ⟨d₀, hrel, rfl⟩, hx, rfl, rfl⟩ := h
  have hlocked : d'.task p = d₀.task p :=
    (hR.interferes hrel).locked p .share mem_cons_self
  exact ⟨rfl, rfl, hlocked.trans hx⟩

theorem validateParent_commits
    (h : (validateParent t p projectId milestoneId status).Commits R held d u held' d') :
    held' = ⟨.task p, .share⟩ :: held ∧ d' = d ∧
      (∃ parent, ParentFits d t p projectId milestoneId status parent) ∧
      (⟨.task t, .update⟩ ∈ held → Unrelated d t p) := by
  simp only [validateParent, rules, peel] at h
  obtain ⟨hne, parent, _, _, hshare, harchived, htop, hproject, hmilestone, children,
    ⟨d₀, hrel, rfl⟩, hnone, hstatus, related, ⟨d₁, hrel₁, rfl⟩, hrelated, rfl, rfl⟩ := h
  obtain ⟨rfl, rfl, hfound⟩ := shareTask_commits hR hshare
  refine ⟨rfl, rfl, ⟨parent, hne, hfound, harchived, htop, hproject, hmilestone, hstatus⟩, ?_⟩
  intro hl
  have hupdate := mem_cons_of_mem ⟨.task p, .share⟩ hl
  -- Under the lock on the Task nobody makes it a parent, and both Tasks' dependencies stand still.
  have hchildless : ∀ c rc, d'.task c = some rc → rc.row.parentTaskId ≠ some t := by
    intro c rc hc hparent
    obtain ⟨r₀, hr₀, hparent₀⟩ := (hR.interferes hrel).children t hupdate c rc hc hparent
    have hmem : (c, r₀) ∈ d₀.children t := Db.mem_children.mpr ⟨hr₀, hparent₀⟩
    rw [hnone] at hmem
    cases hmem
  have ht : d'.task t = d₁.task t := (hR.interferes hrel₁).locked t .update hupdate
  have hp : d'.task p = d₁.task p := (hR.interferes hrel₁).locked p .share mem_cons_self
  have hno : ¬ (p ∈ d₁.dependencies t ∨ t ∈ d₁.dependencies p) := by simpa using hrelated
  unfold Db.dependencies at hno
  rw [← ht, ← hp] at hno
  exact ⟨hchildless, fun h => hno (.inl h), fun h => hno (.inr h)⟩

theorem validateParentAssignment_commits
    (h : (validateParentAssignment t parentId projectId milestoneId status).Commits R held d u
      held' d') :
    held ⊆ held' ∧ d' = d ∧ ∀ p ∈ parentId, ⟨.task p, .share⟩ ∈ held' ∧
      (∃ parent, ParentFits d t p projectId milestoneId status parent) ∧
      (⟨.task t, .update⟩ ∈ held → Unrelated d t p) := by
  cases parentId with
  | none =>
    obtain ⟨-, rfl, rfl⟩ := h
    exact ⟨List.Subset.refl _, rfl, by simp⟩
  | some p =>
    obtain ⟨rfl, rfl, hfits⟩ := validateParent_commits hR h
    refine ⟨subset_cons_self _ _, rfl, ?_⟩
    rintro _ ⟨⟩
    exact ⟨mem_cons_self, hfits⟩

theorem validateDependency_commits
    (h : (validateDependency t projectId parentId seen p).Commits R held d u held' d') :
    held' = ⟨.task p, .share⟩ :: held ∧ d' = d ∧ p ∉ seen ∧
      ∃ dependency, DependencyFits d t p projectId parentId dependency := by
  simp only [validateDependency, rules, peel] at h
  obtain ⟨hne, hseen, dependency, _, _, hshare, harchived, hproject, hparent, hchild, _, -, -, rfl,
    rfl⟩ := h
  obtain ⟨rfl, rfl, hfound⟩ := shareTask_commits hR hshare
  exact ⟨rfl, rfl, hseen, dependency, hne, hfound, harchived, hproject, hparent, hchild⟩

theorem validateDependencyAssignments_commits
    (h : (validateDependencyAssignments t projectId parentId seen ids).Commits
      R held d u held' d') :
    held ⊆ held' ∧ d' = d ∧ ids.Nodup ∧ (∀ p ∈ ids, p ∉ seen) ∧
      ∀ p ∈ ids, ⟨.task p, .share⟩ ∈ held' ∧
        ∃ dependency, DependencyFits d t p projectId parentId dependency := by
  induction ids generalizing held seen with
  | nil =>
    obtain ⟨-, rfl, rfl⟩ := h
    exact ⟨List.Subset.refl _, rfl, by simp, by simp, by simp⟩
  | cons p rest ih =>
    simp only [validateDependencyAssignments, commits_bind] at h
    obtain ⟨_, held₁, d₁, hfirst, hrest⟩ := h
    obtain ⟨rfl, rfl, hseen, hfits⟩ := validateDependency_commits hR hfirst
    obtain ⟨hle, rfl, hnodup, hnotseen, hall⟩ := ih hrest
    have hp : p ∉ rest := fun hmem => hnotseen p hmem mem_cons_self
    refine ⟨fun x hx => hle (mem_cons_of_mem _ hx), rfl, nodup_cons.mpr ⟨hp, hnodup⟩,
      ?_, ?_⟩
    · intro q hq
      rcases mem_cons.mp hq with rfl | hq
      · exact hseen
      · exact fun hin => hnotseen q hq (mem_cons_of_mem _ hin)
    · intro q hq
      rcases mem_cons.mp hq with rfl | hq
      · exact ⟨hle mem_cons_self, hfits⟩
      · exact hall q hq

/-- A count of zero says that all the counted Tasks are finished. -/
theorem countUnfinishedTasks_commits {n}
    (h : (countUnfinishedTasks ids).Commits R held d n held' d') :
    held' = held ∧ d' = d ∧ (n = 0 → ∀ p ∈ ids, d.unfinished p = false) := by
  simp only [countUnfinishedTasks, commits_query] at h
  obtain ⟨⟨d₀, hrel, rfl⟩, rfl, rfl⟩ := h
  refine ⟨rfl, rfl, fun hzero p hp => ?_⟩
  have hnone := filter_eq_nil_iff.mp (eq_nil_of_length_eq_zero hzero)
  have hseen : d₀.unfinished p = false := by simpa using hnone p (mem_dedup.mpr hp)
  exact unfinished_mono hR hrel hseen

/-- The check of a creation with status `done` reads and writes nothing that is kept. -/
theorem validateCreatedStatus_commits
    (h : (validateCreatedStatus status ids).Commits R held d u held' d') :
    held' = held ∧ d' = d := by
  unfold validateCreatedStatus at h
  rcases commits_ite.mp h with ⟨-, h⟩ | ⟨-, h⟩
  · simp only [rules] at h
    obtain ⟨n, held₁, d₁, hcount, -, rfl, rfl⟩ := h
    obtain ⟨rfl, rfl, -⟩ := countUnfinishedTasks_commits hR hcount
    exact ⟨rfl, rfl⟩
  · exact h.2

theorem validateReadyDependencies_commits {phase}
    (h : (validateReadyDependencies phase ids).Commits R held d u held' d') :
    held' = held ∧ d' = d ∧ (phase = .ready → ∀ p ∈ ids, d.unfinished p = false) := by
  unfold validateReadyDependencies at h
  rcases commits_ite.mp h with ⟨-, h⟩ | ⟨hphase, -, rfl, rfl⟩
  · simp only [rules] at h
    obtain ⟨n, held₁, d₁, hcount, hzero, rfl, rfl⟩ := h
    obtain ⟨rfl, rfl, hall⟩ := countUnfinishedTasks_commits hR hcount
    exact ⟨rfl, rfl, fun _ => hall hzero⟩
  · exact ⟨rfl, rfl, fun heq => absurd heq hphase⟩

/-! ## What the triggers establish -/

omit hR in
/-- The trigger on a row repeats what the commands have checked, so only that it writes nothing
is kept. -/
theorem validateTaskRelationships_commits
    (h : (validateTaskRelationships t row).Commits R held d u held' d') :
    held' = held ∧ d' = d := by
  unfold validateTaskRelationships at h
  cases hparent : row.parentTaskId with
  | none =>
    simp only [hparent, rules, peel] at h
    obtain ⟨_, -, -, _, -, -, -, hsame⟩ := h
    exact hsame
  | some p =>
    simp only [hparent, rules, peel] at h
    obtain ⟨_, -, _, -, -, _, -, -, -, -, _, -, -, _, -, -, hsame⟩ := h
    exact hsame

omit hR in
/-- The trigger on the dependencies: at some moment that is not long ago for the rely, no path led
back to the Task. -/
theorem validateTaskDependencies_commits
    (h : (validateTaskDependencies t ids).Commits R held d u held' d') :
    held' = held ∧ d' = d ∧ ∀ p ∈ ids, ∃ d₀, R.rel held d₀ d ∧ t ∉ d₀.reachable p := by
  induction ids with
  | nil =>
    obtain ⟨-, rfl, rfl⟩ := h
    exact ⟨rfl, rfl, by simp⟩
  | cons p rest ih =>
    simp only [validateTaskDependencies, validateTaskDependency, rules, peel] at h
    obtain ⟨_, _, ⟨_, -, _, -, -, -, -, cycle, ⟨d₀, hrel, rfl⟩, hcycle, rfl, rfl⟩, hrest⟩ := h
    obtain ⟨rfl, rfl, hall⟩ := ih hrest
    refine ⟨rfl, rfl, ?_⟩
    intro q hq
    rcases mem_cons.mp hq with rfl | hq
    · exact ⟨d₀, hrel, by simpa using hcycle⟩
    · exact hall q hq

end Checks

/-! ## Creating a Task -/

/-- The rows that a creation leaves. -/
def TaskDraft.created (draft : TaskDraft) (t : TaskId) (labelIds : List Id)
    (dependencyIds : List TaskId) (actor : OperationActor) (mainThreadId : Id)
    (clock : Nat → Time) : TaskRecord :=
  { draft.record mainThreadId (clock 0) with
    labelIds := labelIds.dedup, dependencyIds
    audit := [⟨clock 1, actor, "task", t, "created"⟩] }

/-- What a creation does. -/
structure Created (R : Rely Db Row) (held : List (Lock Row)) (d d' : Db) (t : TaskId)
    (draft : TaskDraft) (dependencyIds : List TaskId) (r' : TaskRecord) : Prop where
  absent : d.task t = none
  locked : ⟨.task t, .update⟩ ∈ held
  after : d'.task t = some r'
  other : ∀ t' ≠ t, d'.task t' = d.task t'
  aside : SameAside d d'
  parent : ∀ p ∈ draft.parentTaskId, ⟨.task p, .share⟩ ∈ held ∧
    ∃ parent, ParentFits d t p draft.projectId draft.milestoneId draft.statusOrDefault parent
  dependencies : ∀ p ∈ dependencyIds, ⟨.task p, .share⟩ ∈ held ∧
    ∃ dependency, DependencyFits d t p draft.projectId draft.parentTaskId dependency
  nodup : dependencyIds.Nodup
  acyclic : ∀ p ∈ dependencyIds, ∃ d₀, R.rel held d₀ d' ∧ t ∉ d₀.reachable p

theorem createTask_commits {R} (hR : Isolates R) {held' d d'}
    {draft : TaskDraft} {labelIds dependencyIds mainThreadId}
    (h : (createTask t draft labelIds dependencyIds actor mainThreadId clock).Commits R [] d row
      held' d') :
    Created R held' d d' t draft dependencyIds
      (draft.created t labelIds dependencyIds actor mainThreadId clock) := by
  simp only [createTask, rules, Db.modifyTask_setTask, peel] at h
  obtain ⟨-, held₁, d₁, hparent, held₂, d₂, hdependencies, held₃, d₃, hstatus, existing,
    ⟨d₀, hrel, rfl⟩, hnone, -, held₄, d₄, hrows, held₅, d₅, hedges, -, rfl, rfl⟩ := h
  obtain ⟨-, rfl, hparent⟩ := validateParentAssignment_commits hR hparent
  obtain ⟨hle, rfl, hnodup, -, hdependencies⟩ := validateDependencyAssignments_commits hR
    hdependencies
  obtain ⟨rfl, rfl⟩ := validateCreatedStatus_commits hR hstatus
  obtain ⟨rfl, rfl⟩ := validateTaskRelationships_commits hrows
  obtain ⟨rfl, rfl, hacyclic⟩ := validateTaskDependencies_commits hedges
  have habsent := (hR.interferes hrel).locked t .update mem_cons_self
  exact {
    absent := habsent.trans hnone
    locked := mem_cons_self
    after := Db.task_setTask_self _ t _
    other := fun t' ht' => Db.task_setTask_ne _ _ ht'
    aside := ⟨rfl, rfl, rfl⟩
    parent := fun p hp => ⟨mem_cons_of_mem _ (hle (hparent p hp).1), (hparent p hp).2.1⟩
    dependencies := fun p hp =>
      ⟨mem_cons_of_mem _ (hdependencies p hp).1, (hdependencies p hp).2⟩
    nodup := hnodup
    acyclic := hacyclic }

/-! ## Children that follow their parent -/

/-- What is left of a Task's rows without the columns that follow a parent. -/
def TaskRecord.unmoved (r : TaskRecord) : TaskRecord :=
  { r with
    row := { r.row with
      projectId := 0, milestoneId := none, startDate := none, dueDate := none, version := 0 }
    audit := [] }

/-- What an update of a Task in the Project `projectId` may do to the rows of a child. -/
structure TaskRecord.Follows (projectId : Id) (r r' : TaskRecord) : Prop where
  unmoved : r'.unmoved = r.unmoved
  project : r'.row.projectId = r.row.projectId ∨ r'.row.projectId = projectId
  version : r.row.version ≤ r'.row.version

namespace TaskRecord.Follows

variable {r₁ r₂ r' : TaskRecord}

theorem refl (r : TaskRecord) : r.Follows projectId r := ⟨rfl, .inl rfl, le_rfl⟩

theorem trans (h₁ : r.Follows projectId r₁) (h₂ : r₁.Follows projectId r₂) :
    r.Follows projectId r₂ where
  unmoved := h₂.unmoved.trans h₁.unmoved
  project := by
    rcases h₂.project with h | h
    · rw [h]
      exact h₁.project
    · exact .inr h
  version := h₁.version.trans h₂.version

theorem lifecycle (h : r.Follows projectId r') : r'.row.lifecycle = r.row.lifecycle :=
  congrArg (fun x => x.row.lifecycle) h.unmoved

theorem claims (h : r.Follows projectId r') : r'.claims = r.claims :=
  congrArg (fun x => x.claims) h.unmoved

theorem completedAt (h : r.Follows projectId r') : r'.row.completedAt = r.row.completedAt :=
  congrArg (fun x => x.row.completedAt) h.unmoved

theorem parent (h : r.Follows projectId r') : r'.row.parentTaskId = r.row.parentTaskId :=
  congrArg (fun x => x.row.parentTaskId) h.unmoved

theorem dependencies (h : r.Follows projectId r') : r'.dependencyIds = r.dependencyIds :=
  congrArg (fun x => x.dependencyIds) h.unmoved

/-- The other tables stay as they are. -/
theorem tables (h : r.Follows projectId r') :
    r'.claims = r.claims ∧ r'.threads = r.threads ∧ r'.items = r.items ∧
      r'.criteria = r.criteria ∧ r'.checks = r.checks ∧ r'.codeChanges = r.codeChanges := by
  have hunmoved := h.unmoved
  simp only [TaskRecord.unmoved, TaskRecord.mk.injEq] at hunmoved
  obtain ⟨-, -, -, hclaims, hthreads, hitems, hcriteria, hchecks, hlinks, -⟩ := hunmoved
  exact ⟨hclaims, hthreads, hitems, hcriteria, hchecks, hlinks⟩

end TaskRecord.Follows

/-- Two databases that differ at most in the rows of children of `t` that are held. -/
structure OnChildren (t : TaskId) (projectId : Id) (held : List (Lock Row)) (d d' : Db) :
    Prop where
  tasks : ∀ c, d'.task c = d.task c ∨ ∃ r r', ⟨.task c, .update⟩ ∈ held ∧ d.task c = some r ∧
    r.row.parentTaskId = some t ∧ d'.task c = some r' ∧ r.Follows projectId r'
  aside : SameAside d d'

namespace OnChildren

variable {held held' : List (Lock Row)} {d d₂ : Db}

theorem refl (t : TaskId) (projectId : Id) (held : List (Lock Row)) (d : Db) :
    OnChildren t projectId held d d :=
  ⟨fun _ => .inl rfl, .refl d⟩

theorem trans (h₁ : OnChildren t projectId held d d₁) (h₂ : OnChildren t projectId held' d₁ d₂)
    (hle : held ⊆ held') : OnChildren t projectId held' d d₂ where
  tasks c := by
    rcases h₁.tasks c with h | ⟨r, r₁, hl, hr, hp, hr₁, hf⟩
    · rw [← h]
      exact h₂.tasks c
    · rcases h₂.tasks c with h | ⟨r₁', r₂, -, hr₁', -, hr₂, hf'⟩
      · exact .inr ⟨r, r₁, hle hl, hr, hp, h.trans hr₁, hf⟩
      · rw [hr₁] at hr₁'
        cases hr₁'
        exact .inr ⟨r, r₂, hle hl, hr, hp, hr₂, hf.trans hf'⟩
  aside := h₁.aside.trans h₂.aside

/-- The parent itself is not among its children. -/
theorem self (h : OnChildren t projectId held d d₁) (hr : d.task t = some r)
    (hne : r.row.parentTaskId ≠ some t) : d₁.task t = some r := by
  rcases h.tasks t with heq | ⟨r', -, -, hr', hparent, -⟩
  · exact heq.trans hr
  · rw [hr] at hr'
    cases hr'
    exact absurd hparent hne

end OnChildren

/-- One round of the loops over the children. -/
def TaskRecord.follow (change : TaskRow → TaskRow) (event : BusinessAuditEvent) (r : TaskRecord) :
    TaskRecord :=
  (r.setRow { change r.row with version := r.row.version + 1 }).addAudit event

section Children

variable {R : Rely Db Row} {held held' : List (Lock Row)} {d d' : Db}

theorem updateChildren_commits (hnodup : (children.map (·.1)).Nodup)
    (h : (updateChildren change action actor now children).Commits R held d u held' d') :
    held' = held ∧ SameAside d d' ∧
      ∀ c, d'.task c = if c ∈ children.map (·.1) then
        (d.task c).map (TaskRecord.follow change ⟨now, actor, "task", c, action⟩)
        else d.task c := by
  induction children generalizing d with
  | nil =>
    obtain ⟨-, rfl, rfl⟩ := h
    exact ⟨rfl, .refl _, by simp⟩
  | cons child rest ih =>
    obtain ⟨c₀, r₀⟩ := child
    simp only [updateChildren, rules, peel] at h
    obtain ⟨hfresh, hnodup⟩ := nodup_cons.mp hnodup
    obtain ⟨rfl, haside, htasks⟩ := ih hnodup h.2
    refine ⟨rfl, (d.sameAside_modifyTask _ _).trans
      ((Db.sameAside_modifyTask _ _ _).trans haside), fun c => ?_⟩
    rw [htasks c, map_cons]
    by_cases hc : c = c₀
    · subst hc
      rw [if_neg hfresh, if_pos mem_cons_self, Db.task_modifyTask_self,
        Db.task_modifyTask_self, Option.map_map]
      rfl
    · rw [Db.task_modifyTask, if_neg hc, Db.task_modifyTask, if_neg hc]
      simp only [mem_cons, hc, false_or]

variable (hR : Isolates R)

include hR

/-- The children that are given back are locked and as they are; and when all are wanted, they
are all the children there are. -/
theorem lockChildren_commits (hl : ⟨.task t, .update⟩ ∈ held)
    (h : (lockChildren t wanted).Commits R held d children held' d') :
    held ⊆ held' ∧ d' = d ∧ (children.map (·.1)).Nodup ∧
      (∀ c r, (c, r) ∈ children →
        ⟨.task c, .update⟩ ∈ held' ∧ d.task c = some r ∧ r.row.parentTaskId = some t) ∧
      ((∀ row, wanted row = true) → ∀ c r, d.task c = some r → r.row.parentTaskId = some t →
        (c, r) ∈ children) := by
  simp only [lockChildren, rules, peel] at h
  obtain ⟨found, ⟨d₀, hrel₀, hfound⟩, ⟨d₁, hrel₁, rfl⟩, rfl, rfl⟩ := h
  have hids : found.Nodup := by
    rw [hfound, (perm_insertionSort _ _).nodup_iff]
    exact (d₀.nodup_children t).sublist (filter_sublist.map _)
  have hlocked : ∀ c ∈ found, ⟨.task c, .update⟩ ∈
      ((found.map Row.task).map fun r => (⟨r, .update⟩ : Lock Row)).reverse ++ held := by
    intro c hc
    simp [hc]
  have hexact : ∀ c ∈ found, d'.task c = d₁.task c := fun c hc =>
    (hR.interferes hrel₁).locked c .update (hlocked c hc)
  refine ⟨subset_append_right _ _, rfl, ?_, ?_, ?_⟩
  · rw [map_filterMap]
    refine List.Nodup.filterMap (fun a a' b hb hb' => ?_) hids
    -- A row that is found stands under the number it was looked up by.
    have hkey : ∀ x, b ∈ Option.map (·.1) ((d₁.task x).bind fun r =>
        if r.row.parentTaskId = some t ∧ wanted r.row = true then some (x, r) else none) →
          x = b := by
      intro x hx
      obtain ⟨y, hy, rfl⟩ := Option.map_eq_some_iff.mp hx
      obtain ⟨r, -, hcond⟩ := Option.bind_eq_some_iff.mp hy
      rw [Option.ite_none_right_eq_some, Option.some.injEq] at hcond
      rw [← hcond.2]
    exact (hkey a hb).trans (hkey a' hb').symm
  · intro c r hc
    obtain ⟨c', hc', hfind⟩ := mem_filterMap.mp hc
    obtain ⟨r', hr', hcond⟩ := Option.bind_eq_some_iff.mp hfind
    rw [Option.ite_none_right_eq_some, Option.some.injEq, Prod.mk.injEq] at hcond
    obtain ⟨⟨hparent, -⟩, rfl, rfl⟩ := hcond
    exact ⟨hlocked c' hc', (hexact c' hc').trans hr', hparent⟩
  · intro hwanted c r hr hparent
    obtain ⟨r₀, hr₀, hparent₀⟩ := (hR.interferes hrel₀).children t hl c r hr hparent
    have hmem : c ∈ found := by
      rw [hfound, mem_insertionSort, mem_map]
      exact ⟨(c, r₀), mem_filter.mpr ⟨Db.mem_children.mpr ⟨hr₀, hparent₀⟩, hwanted _⟩, rfl⟩
    refine mem_filterMap.mpr ⟨c, hmem, ?_⟩
    rw [← hexact c hmem, hr, Option.bind_some, if_pos ⟨hparent, hwanted _⟩]

/-- Locking some children and changing their columns that may follow the parent. -/
theorem followChildren (hl : ⟨.task t, .update⟩ ∈ held)
    (hchange : ∀ event (r : TaskRecord), r.Follows projectId (r.follow change event))
    (hlock : (lockChildren t wanted).Commits R held d children held₁ d₁)
    (hupdate : (updateChildren change action actor now children).Commits R held₁ d₁ u held' d') :
    held ⊆ held' ∧ OnChildren t projectId held' d d' := by
  obtain ⟨hle, rfl, hnodup, hall, -⟩ := lockChildren_commits hR hl hlock
  obtain ⟨rfl, haside, htasks⟩ := updateChildren_commits hnodup hupdate
  refine ⟨hle, fun c => ?_, haside⟩
  rw [htasks c]
  split
  case isTrue hc =>
    obtain ⟨⟨_, r⟩, hmem, rfl⟩ := mem_map.mp hc
    obtain ⟨hlocked, hr, hparent⟩ := hall _ r hmem
    exact .inr ⟨r, _, hlocked, hr, hparent, by rw [hr]; rfl, hchange _ r⟩
  case isFalse => exact .inl rfl

omit hR in
theorem validateGroupMove_commits
    (h : (validateGroupMove t projectId children).Commits R held d u held' d') :
    held' = held ∧ d' = d := by
  unfold validateGroupMove at h
  rcases commits_ite.mp h with ⟨-, h⟩ | ⟨-, h⟩
  · simp only [rules, peel] at h
    obtain ⟨_, -, -, hsame⟩ := h
    exact hsame
  · exact h.2

/-- A Task that changes its Milestone and is no child takes all its children along. -/
theorem moveWithParent_commits (hl : ⟨.task t, .update⟩ ∈ held)
    (h : (moveWithParent t old row actor now).Commits R held d moved held' d') :
    held ⊆ held' ∧ OnChildren t row.projectId held' d d' ∧
      (old.parentTaskId = none → old.milestoneId ≠ row.milestoneId → ∀ c r,
        d.task c = some r → r.row.parentTaskId = some t → ∃ r', d'.task c = some r' ∧
          r'.row.projectId = row.projectId ∧ r'.row.milestoneId = row.milestoneId) ∧
      (¬ (old.parentTaskId = none ∧ old.milestoneId ≠ row.milestoneId) → d' = d) := by
  unfold moveWithParent at h
  rcases commits_ite.mp h with ⟨hmoves, h⟩ | ⟨hstays, -, rfl, rfl⟩
  · simp only [moveTaskChildren, rules, Unique.exists_iff] at h
    obtain ⟨children, held₁, d₁, hlock, held₂, d₂, hgroup, held₃, d₃, hupdate, -, rfl, rfl⟩ := h
    obtain ⟨rfl, rfl⟩ := validateGroupMove_commits hgroup
    obtain ⟨hle, hon⟩ := followChildren hR hl
      (fun _ r => ⟨rfl, .inr rfl, Nat.le_succ _⟩) hlock hupdate
    refine ⟨hle, hon, fun _ _ c r hr hparent => ?_, fun hstays => absurd hmoves hstays⟩
    obtain ⟨-, rfl, hnodup, -, hcomplete⟩ := lockChildren_commits hR hl hlock
    obtain ⟨-, -, htasks⟩ := updateChildren_commits hnodup hupdate
    have hmem : c ∈ children.map (·.1) :=
      mem_map.mpr ⟨(c, r), hcomplete (fun _ => rfl) c r hr hparent, rfl⟩
    exact ⟨_, by rw [htasks c, if_pos hmem, hr, Option.map_some], rfl, rfl⟩
  · exact ⟨List.Subset.refl _, .refl _ _ _ _, fun hp hm => absurd ⟨hp, hm⟩ hstays, fun _ => rfl⟩

/-- A shift of the schedule leaves Projects and Milestones alone. -/
theorem shiftWithParent_commits (projectId : Id) (hl : ⟨.task t, .update⟩ ∈ held)
    (h : (shiftWithParent t patch old actor now).Commits R held d u held' d') :
    held ⊆ held' ∧ OnChildren t projectId held' d d' ∧
      ∀ c, (d'.task c).map (fun r => (r.row.projectId, r.row.milestoneId)) =
        (d.task c).map fun r => (r.row.projectId, r.row.milestoneId) := by
  unfold shiftWithParent at h
  cases hdays : patch.scheduleShiftDays with
  | none =>
    simp only [hdays] at h
    obtain ⟨-, rfl, rfl⟩ := h
    exact ⟨List.Subset.refl _, .refl _ _ _ _, fun _ => rfl⟩
  | some days =>
    simp only [hdays] at h
    rcases commits_ite.mp h with ⟨-, h⟩ | ⟨-, -, rfl, rfl⟩
    · simp only [shiftTaskChildrenSchedules, commits_bind] at h
      obtain ⟨children, held₁, d₁, hlock, hupdate⟩ := h
      obtain ⟨hle, hon⟩ := followChildren hR hl
        (fun _ r => ⟨rfl, .inl rfl, Nat.le_succ _⟩) hlock hupdate
      refine ⟨hle, hon, fun c => ?_⟩
      obtain ⟨-, rfl, hnodup, -, -⟩ := lockChildren_commits hR hl hlock
      obtain ⟨-, -, htasks⟩ := updateChildren_commits hnodup hupdate
      rw [htasks c]
      split
      · rw [Option.map_map]
        rfl
      · rfl
    · exact ⟨List.Subset.refl _, .refl _ _ _ _, fun _ => rfl⟩

/-- Both loops over the children. -/
theorem childrenFollow {now'} (hl : ⟨.task t, .update⟩ ∈ held)
    (hmove : (moveWithParent t old row actor now).Commits R held d moved held₁ d₁)
    (hshift : (shiftWithParent t patch old actor now').Commits R held₁ d₁ u held' d') :
    held ⊆ held' ∧ OnChildren t row.projectId held' d d' ∧
      (old.parentTaskId = none → old.milestoneId ≠ row.milestoneId → ∀ c r,
        d.task c = some r → r.row.parentTaskId = some t → ∃ rc, d'.task c = some rc ∧
          rc.row.projectId = row.projectId ∧ rc.row.milestoneId = row.milestoneId) ∧
      (¬ (old.parentTaskId = none ∧ old.milestoneId ≠ row.milestoneId) → ∀ c r,
        d.task c = some r → ∃ rc, d'.task c = some rc ∧ rc.row.projectId = r.row.projectId ∧
          rc.row.milestoneId = r.row.milestoneId) := by
  obtain ⟨hle₁, hon₁, hmoved, hstayed⟩ := moveWithParent_commits hR hl hmove
  obtain ⟨hle₂, hon₂, hplace⟩ := shiftWithParent_commits hR row.projectId (hle₁ hl) hshift
  have hkept : ∀ c r, d₁.task c = some r → ∃ rc, d'.task c = some rc ∧
      rc.row.projectId = r.row.projectId ∧ rc.row.milestoneId = r.row.milestoneId := by
    intro c r hr
    have heq := hplace c
    rw [hr, Option.map_some] at heq
    obtain ⟨rc, hrc, hpair⟩ := Option.map_eq_some_iff.mp heq
    exact ⟨rc, hrc, congrArg Prod.fst hpair, congrArg Prod.snd hpair⟩
  refine ⟨List.Subset.trans hle₁ hle₂, hon₁.trans hon₂ hle₂, ?_, ?_⟩
  · intro hp hm c r hr hparent
    obtain ⟨r₁, hr₁, hproject, hmilestone⟩ := hmoved hp hm c r hr hparent
    obtain ⟨rc, hrc, hproject', hmilestone'⟩ := hkept c r₁ hr₁
    exact ⟨rc, hrc, hproject'.trans hproject, hmilestone'.trans hmilestone⟩
  · intro hnot c r hr
    exact hkept c r (hstayed hnot ▸ hr)

end Children

/-! ## Updating a Task -/

/-- The columns that an update of a row keeps, and where the others come from. -/
structure Patched (patch : TaskPatch) (old row : TaskRow) : Prop where
  lifecycle : row.lifecycle = old.lifecycle
  issue : row.activeIssueThreadId = old.activeIssueThreadId
  archived : row.archivedAt = old.archivedAt
  project : row.projectId = old.projectId
  creator : row.creatorId = old.creatorId
  status : row.status = patch.status.getD old.status
  milestone : row.milestoneId = patch.milestoneId.getD old.milestoneId
  parent : row.parentTaskId = patch.parentTaskId.getD old.parentTaskId
  /-- A child leaves its Milestone only when it leaves its parent. -/
  attached : old.parentTaskId.isSome → row.parentTaskId.isSome → row.milestoneId = old.milestoneId

theorem TaskPatch.applyFields_ok (h : patch.applyFields old = .ok row) :
    ∃ title context result description priority mode assignee start due,
      row = { old with
        title, context, expectedResult := result, description, priority
        executionMode := mode, assigneeId := assignee, startDate := start, dueDate := due
        status := patch.status.getD old.status } := by
  simp only [TaskPatch.applyFields, ok_rules] at h
  obtain ⟨-, -, -, rfl⟩ := h
  exact ⟨_, _, _, _, _, _, _, _, _, rfl⟩

section Update

variable {R : Rely Db Row} {held held' : List (Lock Row)} {d d' : Db}

theorem shiftSchedule_commits (h : (shiftSchedule t patch old).Commits R held d row held' d') :
    held' = held ∧ d' = d ∧
      ∃ startDate dueDate, row = { old with startDate, dueDate } := by
  unfold shiftSchedule at h
  cases hdays : patch.scheduleShiftDays with
  | none =>
    simp only [hdays] at h
    obtain ⟨rfl, rfl, rfl⟩ := h
    exact ⟨rfl, rfl, _, _, rfl⟩
  | some days =>
    simp only [hdays, rules, commits_ite, peel] at h
    obtain ⟨-, -, -, ⟨-, rfl, rfl, rfl⟩ | ⟨-, _, -, -, rfl, rfl, rfl⟩⟩ := h
    · exact ⟨rfl, rfl, _, _, rfl⟩
    · exact ⟨rfl, rfl, _, _, rfl⟩

theorem patchedRow_commits (h : (patchedRow t patch old).Commits R held d row held' d') :
    held' = held ∧ d' = d ∧ Patched patch old row := by
  simp only [patchedRow, rules, peel] at h
  obtain ⟨row₁, hfields, row₂, held₁, d₁, hshift, -, -, -, hdetach, rfl, rfl, rfl⟩ := h
  obtain ⟨rfl, rfl, _, _, rfl⟩ := shiftSchedule_commits hshift
  obtain ⟨_, _, _, _, _, _, _, _, _, rfl⟩ := TaskPatch.applyFields_ok hfields
  refine ⟨rfl, rfl, rfl, rfl, rfl, rfl, rfl, rfl, rfl, rfl, fun hold hnew => ?_⟩
  by_contra hne
  refine hdetach ⟨hold, fun heq => hne heq.symm, fun hnone => ?_⟩
  simp [hnone] at hnew

/-- `d'` is `d` after statements that together change the rows of `t` by `f`. -/
structure Modifies (t : TaskId) (f : TaskRecord → TaskRecord) (d d' : Db) : Prop where
  self : d'.task t = (d.task t).map f
  other : ∀ t' ≠ t, d'.task t' = d.task t'
  aside : SameAside d d'

theorem modifies_modifyTask (t : TaskId) (f : TaskRecord → TaskRecord) (d : Db) :
    Modifies t f d (d.modifyTask t f) where
  self := d.task_modifyTask_self t f
  other t' ht' := by rw [Db.task_modifyTask, if_neg ht']
  aside := d.sameAside_modifyTask t f

theorem modifies_refl {f} (hf : ∀ r, f r = r) (t : TaskId) (d : Db) :
    Modifies t f d d where
  self := by rw [funext hf, Option.map_id']
  other _ _ := rfl
  aside := .refl d

theorem updateLabels_commits (h : (updateLabels t patch).Commits R held d u held' d') :
    held' = held ∧
      Modifies t (fun r => r.setLabels ((patch.labelIds.map dedup).getD r.labelIds)) d d' := by
  unfold updateLabels at h
  cases hids : patch.labelIds with
  | none =>
    simp only [hids] at h
    obtain ⟨-, rfl, rfl⟩ := h
    exact ⟨rfl, modifies_refl (fun _ => rfl) t _⟩
  | some ids =>
    simp only [hids, commits_modify] at h
    obtain ⟨rfl, rfl⟩ := h
    exact ⟨rfl, modifies_modifyTask t _ d⟩

/-- With the status column unchanged, `completed_at` stays as well. -/
theorem updateCompletedAt_commits {old : TaskRecord} {completedAt}
    (h : (updateCompletedAt t patch old status now).Commits R held d completedAt held' d') :
    held' = held ∧ d' = d ∧ (status = old.row.status → completedAt = old.row.completedAt) := by
  simp only [updateCompletedAt, commits_ite, rules, peel] at h
  rcases h with ⟨hdone, -, _, -, _, -, -, rfl, rfl, rfl⟩ | ⟨-, ⟨hdone, hnot, -, rfl, rfl⟩ | h⟩
  · refine ⟨rfl, rfl, fun hsame => ?_⟩
    rw [← hsame, hdone]
    simp
  · exact ⟨rfl, rfl, fun hsame => absurd (hsame.trans hdone) hnot⟩
  · exact ⟨h.2.2.1, h.2.2.2, fun _ => h.2.1⟩

variable (hR : Isolates R)

include hR

theorem updateDependencies_commits {old : TaskRecord}
    (h : (updateDependencies t patch old row).Commits R held d u held' d') :
    held ⊆ held' ∧
      Modifies t (fun r => r.setDependencies (patch.dependencyIds.getD r.dependencyIds)) d d' ∧
      ∀ ids ∈ patch.dependencyIds, ids.Nodup ∧
        (old.row.lifecycle.phase = .ready → ∀ p ∈ ids, d.unfinished p = false) ∧
        ∀ p ∈ ids, ⟨.task p, .share⟩ ∈ held' ∧
          ∃ dependency, DependencyFits d t p row.projectId row.parentTaskId dependency := by
  unfold updateDependencies at h
  cases hids : patch.dependencyIds with
  | none =>
    simp only [hids] at h
    obtain ⟨-, rfl, rfl⟩ := h
    exact ⟨List.Subset.refl _, modifies_refl (fun _ => rfl) t _, by simp⟩
  | some ids =>
    simp only [hids, rules, Unique.exists_iff] at h
    obtain ⟨held₁, d₁, hassign, held₂, d₂, hready, rfl, rfl⟩ := h
    obtain ⟨hle, rfl, hnodup, -, hfits⟩ := validateDependencyAssignments_commits hR hassign
    obtain ⟨rfl, rfl, hfinished⟩ := validateReadyDependencies_commits hR hready
    refine ⟨hle, modifies_modifyTask t _ _, ?_⟩
    rintro _ ⟨⟩
    exact ⟨hnodup, hfinished, hfits⟩

/-- What an update does. -/
structure Updated (R : Rely Db Row) (held : List (Lock Row)) (d d' : Db) (t : TaskId)
    (expectedVersion : Option Nat) (patch : TaskPatch) (old r' : TaskRecord) : Prop where
  locked : ⟨.task t, .update⟩ ∈ held
  before : d.task t = some old
  after : d'.task t = some r'
  expected : ∀ version ∈ expectedVersion, old.row.version = version
  patched : Patched patch old.row r'.row
  completed : r'.row.status = old.row.status → r'.row.completedAt = old.row.completedAt
  version : r'.row.version = old.row.version + 1
  rows : r' = { old with
    row := r'.row, dependencyIds := patch.dependencyIds.getD old.dependencyIds
    labelIds := r'.labelIds, audit := r'.audit }
  parent : ∀ p ∈ r'.row.parentTaskId, ⟨.task p, .share⟩ ∈ held ∧ Unrelated d t p ∧
    ∃ parent, ParentFits d t p old.row.projectId r'.row.milestoneId r'.row.status parent
  dependencies : ∀ ids ∈ patch.dependencyIds, ids.Nodup ∧
    (old.row.lifecycle.phase = .ready → ∀ p ∈ ids, d.unfinished p = false) ∧
    ∀ p ∈ ids, ⟨.task p, .share⟩ ∈ held ∧
      ∃ dependency, DependencyFits d t p old.row.projectId r'.row.parentTaskId dependency
  children : ∀ c ≠ t, d'.task c = d.task c ∨ ∃ r r', ⟨.task c, .update⟩ ∈ held ∧
    d.task c = some r ∧ r.row.parentTaskId = some t ∧ d'.task c = some r' ∧
    r.Follows old.row.projectId r'
  moved : old.row.parentTaskId = none → old.row.milestoneId ≠ r'.row.milestoneId → ∀ c r,
    c ≠ t → d.task c = some r → r.row.parentTaskId = some t → ∃ rc, d'.task c = some rc ∧
      rc.row.projectId = old.row.projectId ∧ rc.row.milestoneId = r'.row.milestoneId
  stayed : ¬ (old.row.parentTaskId = none ∧ old.row.milestoneId ≠ r'.row.milestoneId) → ∀ c r,
    c ≠ t → d.task c = some r → ∃ rc, d'.task c = some rc ∧
      rc.row.projectId = r.row.projectId ∧ rc.row.milestoneId = r.row.milestoneId
  acyclic : ∀ ids ∈ patch.dependencyIds, ∀ p ∈ ids, ∃ d₀, R.rel held d₀ d' ∧
    t ∉ d₀.reachable p
  aside : SameAside d d'

omit hR in
theorem validateChildRelationships_commits
    (h : (validateChildRelationships ids).Commits R held d u held' d') : held' = held ∧ d' = d := by
  induction ids with
  | nil => exact h.2
  | cons c rest ih =>
    simp only [validateChildRelationships, rules, peel] at h
    obtain ⟨_, -, child, -, held₁, d₁, hrow, hrest⟩ := h
    obtain ⟨rfl, rfl⟩ := validateTaskRelationships_commits hrow
    exact ih hrest

/-- What the statements from the `UPDATE` of the row on do, for a row that is not its own parent's:
the rows of the Task, then its children. -/
structure Stored (R : Rely Db Row) (held : List (Lock Row)) (d d' : Db) (t : TaskId)
    (patch : TaskPatch) (old row : TaskRow) (r r' : TaskRecord) : Prop where
  after : d'.task t = some r'
  rows : r' = { r with row, labelIds := r'.labelIds, audit := r'.audit }
  children : ∀ c ≠ t, d'.task c = d.task c ∨ ∃ r r', ⟨.task c, .update⟩ ∈ held ∧
    d.task c = some r ∧ r.row.parentTaskId = some t ∧ d'.task c = some r' ∧
    r.Follows row.projectId r'
  moved : old.parentTaskId = none → old.milestoneId ≠ row.milestoneId → ∀ c r, c ≠ t →
    d.task c = some r → r.row.parentTaskId = some t → ∃ rc, d'.task c = some rc ∧
      rc.row.projectId = row.projectId ∧ rc.row.milestoneId = row.milestoneId
  stayed : ¬ (old.parentTaskId = none ∧ old.milestoneId ≠ row.milestoneId) → ∀ c r, c ≠ t →
    d.task c = some r → ∃ rc, d'.task c = some rc ∧ rc.row.projectId = r.row.projectId ∧
      rc.row.milestoneId = r.row.milestoneId
  acyclic : ∀ ids ∈ patch.dependencyIds, ∀ p ∈ ids, ∃ d₀, R.rel held d₀ d' ∧
    t ∉ d₀.reachable p
  aside : SameAside d d'

theorem storeUpdate_commits {result}
    (h : (storeUpdate t patch old row actor clock).Commits R held d result held' d')
    (hl : ⟨.task t, .update⟩ ∈ held) (hr : d.task t = some r) (hne : row.parentTaskId ≠ some t) :
    held ⊆ held' ∧ ∃ r', Stored R held' d d' t patch old row r r' := by
  simp only [storeUpdate, rules, peel] at h
  obtain ⟨moved, held₁, d₁, hmove, held₂, d₂, hshift, held₃, d₃, hlabels, -, held₄, d₄, hedges,
    held₅, d₅, hrow, held₆, d₆, hrows, -, rfl, rfl⟩ := h
  obtain ⟨hle, hon, hmoved, hstayed⟩ := childrenFollow hR hl hmove hshift
  obtain ⟨rfl, hmod⟩ := updateLabels_commits hlabels
  obtain ⟨rfl, rfl, hacyclic⟩ := validateTaskDependencies_commits hedges
  obtain ⟨rfl, rfl⟩ := validateTaskRelationships_commits hrow
  obtain ⟨rfl, rfl⟩ := validateChildRelationships_commits hrows
  -- The row of the Task itself: written before the children, and not touched with them.
  have hself := hon.self (by rw [Db.task_modifyTask_self, hr]; rfl) hne
  have hlabelled := hmod.self
  rw [hself, Option.map_some] at hlabelled
  -- The other Tasks: only the two loops over the children write them.
  have hbefore : ∀ c ≠ t, (Db.modifyTask t (fun r => r.setRow row) d).task c = d.task c := by
    intro c hc
    rw [Db.task_modifyTask, if_neg hc]
  have hafter : ∀ c ≠ t, (Db.modifyTask t (fun r => r.addAudit
      ⟨clock 3, actor, "task", t, "updated"⟩) d₃).task c = d₂.task c := by
    intro c hc
    rw [Db.task_modifyTask, if_neg hc, hmod.other c hc]
  refine ⟨hle, _, {
    after := by rw [Db.task_modifyTask_self, hlabelled, Option.map_some]
    rows := rfl
    children := ?_
    moved := ?_
    stayed := ?_
    acyclic := ?_
    aside := ?_ }⟩
  · intro c hc
    rw [hafter c hc, ← hbefore c hc]
    exact hon.tasks c
  · intro htop hmilestone c r hc hr hp
    rw [hafter c hc]
    exact hmoved htop hmilestone c r ((hbefore c hc).trans hr) hp
  · intro hnot c r hc hr
    rw [hafter c hc]
    exact hstayed hnot c r ((hbefore c hc).trans hr)
  · intro ids hids
    rw [Option.mem_def.mp hids] at hacyclic
    exact hacyclic
  · exact (d.sameAside_modifyTask _ _).trans (hon.aside.trans
      (hmod.aside.trans (Db.sameAside_modifyTask _ _ _)))

theorem updateTask_commits {expectedVersion}
    (h : (updateTask t expectedVersion patch actor clock).Commits R [] d row held' d') :
    ∃ old r', Updated R held' d d' t expectedVersion patch old r' := by
  simp only [updateTask, rules, peel] at h
  obtain ⟨-, found, ⟨d₀, hrel, rfl⟩, old, hold, hexpected, row₁, held₁, d₁, hpatch, held₂, d₂,
    hparent, held₃, d₃, hdeps, completedAt, held₄, d₄, hcompleted, hstore⟩ := h
  have hbefore := ((hR.interferes hrel).locked t .update mem_cons_self).trans hold
  obtain ⟨rfl, rfl, hpatched⟩ := patchedRow_commits hpatch
  obtain ⟨hle₂, rfl, hfits⟩ := validateParentAssignment_commits hR hparent
  obtain ⟨hle₃, hmod, hassigned⟩ := updateDependencies_commits hR hdeps
  obtain ⟨rfl, rfl, hkeeps⟩ := updateCompletedAt_commits hcompleted
  have hle₂₃ := List.Subset.trans (subset_append_right _ _) hle₃
  have hlocked := hle₂₃ (hle₂ mem_cons_self)
  have hne : row₁.parentTaskId ≠ some t := by
    intro heq
    obtain ⟨-, ⟨parent, hparent⟩, -⟩ := hfits t heq
    exact hparent.ne rfl
  have hdependencies := hmod.self
  rw [hbefore, Option.map_some] at hdependencies
  obtain ⟨hle₄, r', hstored⟩ := storeUpdate_commits hR hstore hlocked hdependencies hne
  have hrow : r'.row = { row₁ with completedAt, version := old.row.version + 1 } := by
    rw [hstored.rows]
  refine ⟨old, r', {
    locked := hle₄ hlocked
    before := hbefore
    after := hstored.after
    expected := hexpected
    patched := ?_
    completed := ?_
    version := by rw [hrow]
    rows := ?_
    parent := ?_
    dependencies := ?_
    children := ?_
    moved := ?_
    stayed := ?_
    acyclic := hstored.acyclic
    aside := hmod.aside.trans hstored.aside }⟩
  · rw [hrow]
    exact ⟨hpatched.lifecycle, hpatched.issue, hpatched.archived, hpatched.project,
      hpatched.creator, hpatched.status, hpatched.milestone, hpatched.parent, hpatched.attached⟩
  · rw [hrow]
    exact hkeeps
  · rw [hrow]
    exact hstored.rows
  · rw [hrow]
    intro p hp
    obtain ⟨hl, hparent, hunrelated⟩ := hfits p hp
    exact ⟨hle₄ (hle₂₃ hl), hunrelated mem_cons_self, hpatched.project ▸ hparent⟩
  · rw [hrow]
    intro ids hids
    obtain ⟨hnodup, hfinished, hdependency⟩ := hassigned ids hids
    refine ⟨hnodup, hfinished, fun p hp => ?_⟩
    exact ⟨hle₄ (hdependency p hp).1, hpatched.project ▸ (hdependency p hp).2⟩
  · intro c hc
    have hcases := hstored.children c hc
    rw [hmod.other c hc] at hcases
    exact hpatched.project ▸ hcases
  · rw [hrow]
    intro htop hmilestone c r hc hr hp
    exact hpatched.project ▸ hstored.moved htop hmilestone c r hc ((hmod.other c hc).trans hr) hp
  · rw [hrow]
    intro hnot c r hc hr
    exact hstored.stayed hnot c r hc ((hmod.other c hc).trans hr)

end Update

end Pactline
