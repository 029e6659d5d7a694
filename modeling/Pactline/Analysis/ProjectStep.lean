import Pactline.Analysis.Lifecycle
import Pactline.Analysis.WorkIsolation

/-!
# The commands as steps of a Project

What each command that runs under a Project's lock finds in the rows of its Project, and the rows it
leaves. A commit of such a command, amid any other transactions, is one step of `ProjectStep`.
-/

set_option autoImplicit false

namespace Pactline

open ReadCommitted Workspace Owned

/-! ## Changes of a Project's rows -/

namespace ProjectRecord

/-- The row after a command that only counts as a change of the Project. -/
def bump (r : ProjectRecord) : ProjectRecord :=
  r.setRow { r.row with version := r.row.version + 1 }

/-- A Milestone whose criteria or checks have changed. -/
def changeCriteria (r : ProjectRecord) (m : Id) (record : MilestoneRecord)
    (criteria : Table AcceptanceCriterion) (checks : List AcceptanceCheck) : ProjectRecord :=
  (r.setMilestone m { record with criteria, checks }).bump.setMilestone m
    ⟨{ record.row with version := record.row.version + 1 }, criteria, checks⟩

/-- The three events of a criterion command. -/
def auditCriterion (r : ProjectRecord) (p m : Id) (actor : OperationActor) (entityType : String)
    (entityId : Id) (action ownerAction : String) (clock : Nat → Time) : ProjectRecord :=
  ((r.addAudit ⟨clock 0, actor, entityType, entityId, action⟩).addAudit
    ⟨clock 1, actor, "milestone", m, ownerAction⟩).addAudit
      ⟨clock 2, actor, "project", p, ownerAction⟩

end ProjectRecord

/-- The criterion is one of the Milestone's that are not archived. -/
def MilestoneRecord.Has (m : MilestoneRecord) (id : Id) (c : AcceptanceCriterion) : Prop :=
  m.criteria.lookup id = some c ∧ c.archivedAt = none

/-- A membership command that leaves the Project without this user as administrator finds another
one that is active, where users stay active while it runs. -/
def Retained (active : Prop) (d : Workspace) (r : ProjectRecord) (userId : Id) : Prop :=
  active → ∃ u ≠ userId, d.Active u ∧ ∃ m, r.members.lookup u = some m ∧ m.role = .admin

/-! ## The steps -/

/-- What a command does to the Project `p` it locks. `d` is the database it commits on. -/
inductive ProjectStep (active : Prop) (held : List (Lock WorkRow)) (d : Workspace) (p : Id) :
    Command → ProjectRecord → ProjectRecord → Prop
  | update {v} {patch : ProjectPatch} {actor now}
      {r : ProjectRecord} {row}
      (hrow : row = { r.row with
        name := patch.name.getD r.row.name, description := patch.description.getD r.row.description
        version := r.row.version + 1 }) :
      ProjectStep active held d p (.updateProject p v patch actor now) r
        ((r.setRow row).addAudit ⟨now, actor, "project", p, "updated"⟩)
  | archive {v actor operation clock}
      {r : ProjectRecord} (hmilestones : r.openMilestones = 0)
      (htasks : ∀ t, ¬ d.tasks.Unfinished p t) :
      ProjectStep active held d p (.projectLifecycle p v .archive actor operation clock) r
        ((r.setRow
          { r.row with archivedAt := some (clock 0), version := r.row.version + 1 }).addAudit
          ⟨clock 1, operation, "project", p, "archived"⟩)
  | restore {v actor operation clock}
      {r : ProjectRecord} :
      ProjectStep active held d p (.projectLifecycle p v .restore actor operation clock) r
        ((r.setRow { r.row with archivedAt := none, version := r.row.version + 1 }).addAudit
          ⟨clock 1, operation, "project", p, "restored"⟩)
  | mutateMember {userId role v actor}
      {mode : MembershipMode} {membershipId now} {r : ProjectRecord}
      {membership : ProjectMembership}
      (hnext : mode.next (r.members.lookup userId) role membershipId = .ok membership)
      (hretained : mode = .change → (∃ m ∈ r.members.lookup userId, m.role = .admin) →
        role ≠ .admin → Retained active d r userId) :
      ProjectStep active held d p
        (.mutateMember p userId role v actor mode membershipId now) r
        ((r.setMember userId membership).bump.addAudit
          ⟨now, actor, "project_membership", membership.id, mode.text⟩)
  | removeMember {userId v actor now} {r : ProjectRecord}
      {membership : ProjectMembership} (hmember : r.members.lookup userId = some membership)
      (hretained : membership.role = .admin → Retained active d r userId) :
      ProjectStep active held d p (.removeMember p userId v actor now) r
        ((r.removeMember userId).bump.addAudit
          ⟨now, actor, "project_membership", membership.id, "remove"⟩)
  | createMilestone {v m draft actor now} {r : ProjectRecord}
      (hnew : r.milestones.lookup m = none) :
      ProjectStep active held d p (.createMilestone p v m draft actor now) r
        ((r.setMilestone m
          ⟨{ draft with status := none : MilestoneDraft }.row, ∅, []⟩).bump.addAudit
          ⟨now, actor, "milestone", m, "created"⟩)
  | updateMilestone {v w m} {patch : MilestonePatch} {actor now} {r : ProjectRecord}
      {record : MilestoneRecord}
      (hfound : r.milestones.lookup m = some record) :
      ProjectStep active held d p (.updateMilestone p v m w patch actor now) r
        ((r.setMilestone m (record.setRow { patch.apply record.row with
          version := (patch.apply record.row).version + 1 })).bump.addAudit
            ⟨now, actor, "milestone", m, "updated"⟩)
  | milestoneLifecycle {v w m} {action : MilestoneLifecycleAction}
      {actor : OperationActor} {reason clock} {r : ProjectRecord}
      {record : MilestoneRecord} {readiness : MilestoneReadiness} {row : Milestone}
      (hfound : r.milestones.lookup m = some record)
      (hcriteria : readiness.activeCriteria = record.activeCriteria.length)
      (happly : record.row.apply action readiness ⟨.user, some actor.userId, ""⟩ reason (clock 0) =
        .ok row) :
      ProjectStep active held d p (.milestoneLifecycle p v m w action actor reason clock) r
        ((r.setMilestone m (record.setRow { row with version := row.version + 1 })).bump.addAudit
          ⟨clock 1, actor, "milestone", m, action.text⟩)
  | createCriterion {v w m criterion actor clock fresh} {r : ProjectRecord}
      {record : MilestoneRecord}
      (hfound : r.milestones.lookup m = some record) :
      ProjectStep active held d p
        (.createMilestoneCriterion p v m w criterion actor clock fresh) r
        ((r.changeCriteria m record (record.criteria.insert (createdCriterion criterion fresh).id
          (createdCriterion criterion fresh)) record.checks).auditCriterion p m actor
            "acceptance_criterion"
            (createdCriterion criterion fresh).id "created" "criterion_created"
            clock)
  | updateCriterion {criterionId v text instructions position actor clock} {r : ProjectRecord}
      {m} {record : MilestoneRecord} {current edited : AcceptanceCriterion}
      (hfound : r.milestones.lookup m = some record) (hcurrent : record.Has criterionId current)
      (hedited : edited.archivedAt = none) :
      ProjectStep active held d p
        (.updateMilestoneCriterion criterionId v text instructions position actor clock) r
        ((r.changeCriteria m record (record.criteria.insert criterionId edited)
          record.checks).auditCriterion p m actor "acceptance_criterion" criterionId "updated"
            "criterion_updated" clock)
  | addCheck {criterionId v check actor clock fresh} {r : ProjectRecord} {m}
      {record : MilestoneRecord} {current : AcceptanceCriterion}
      (hfound : r.milestones.lookup m = some record) (hcurrent : record.Has criterionId current) :
      ProjectStep active held d p
        (.addMilestoneCheck criterionId v check actor clock fresh) r
        ((r.changeCriteria m record (record.criteria.insert criterionId
          { current with version := current.version + 1 }) (record.checks ++
            [(check.unclaimed criterionId).stored (clock 3) fresh])).auditCriterion p m actor
              "acceptance_check" ((check.unclaimed criterionId).stored (clock 3) fresh).id "created"
              "acceptance_checked" clock)
  | removeCriterion {criterionId v actor reason clock} {r : ProjectRecord} {m}
      {record : MilestoneRecord}
      {current} {criteria : Table AcceptanceCriterion}
      (hfound : r.milestones.lookup m = some record) (hcurrent : record.Has criterionId current)
      (hscope : record.row.status = .active → 1 < record.activeCriteria.length)
      (hothers : ∀ id ≠ criterionId, criteria.lookup id = record.criteria.lookup id) :
      ProjectStep active held d p
        (.removeMilestoneCriterion criterionId v actor reason clock) r
        ((r.changeCriteria m record criteria record.checks).auditCriterion p m actor
          "acceptance_criterion" criterionId "removed" "criterion_removed" clock)
  | bind {v connectionId repositoryId} {operation : OperationActor} {now}
      {r : ProjectRecord} {c : ConnectionRecord}
      (hlock : ⟨.connection connectionId, .share⟩ ∈ held)
      (hconnection : d.connections.lookup connectionId = some c)
      (hactive : c.connection.status = .active) (hnew : r.repositories.lookup repositoryId = none) :
      ProjectStep active held d p
        (.bindRepository p v connectionId repositoryId operation now) r
        ((r.setRepository repositoryId
          ⟨connectionId, operation.userId, now, none, none⟩).bump.addAudit
          ⟨now, operation, "project_repository", repositoryId, "bound"⟩)
  | unbind {v repositoryId} {operation : OperationActor} {now}
      {r : ProjectRecord} {binding}
      (hfound : r.repositories.lookup repositoryId = some binding) :
      ProjectStep active held d p (.unbindRepository p v repositoryId operation now) r
        ((r.setRepository repositoryId { binding with
          unboundBy := some operation.userId, unboundAt := some now }).bump.addAudit
            ⟨now, operation, "project_repository", repositoryId, "unbound"⟩)

/-! ## Single statements -/

variable {fresh : Nat → Id} {repositoryId : Id}

variable {u : Unit} {v w a : Nat} {m criterionId userId : Id} {record : MilestoneRecord}
  {actor operation : OperationActor} {clock : Nat → Time} {now : Time} {reason : String}

section Statements

variable {R : Rely Workspace WorkRow} {c : Cell Workspace ProjectRecord}
  {held held' : List (Lock WorkRow)} {d : Workspace} {r r' r₀ : ProjectRecord}

@[simp] theorem runs_auditProject {event : BusinessAuditEvent} :
    (auditProject event).Runs R c held d r u held' r' ↔
      event.validate = .ok () ∧ held' = held ∧ r' = r.addAudit event := by
  simp [auditProject, Unique.exists_iff]

@[simp] theorem runs_requireProjectVersion :
    (requireProjectVersion r₀ v).Runs R c held d r u held' r' ↔
      r₀.row.version = v ∧ held' = held ∧ r' = r :=
  runs_require

@[simp] theorem runs_incrementProjectVersion {n} :
    incrementProjectVersion.Runs R c held d r n held' r' ↔
      n = r.row.version + 1 ∧ held' = held ∧ r' = r.bump := by
  simp [incrementProjectVersion, ProjectRecord.bump]

@[simp] theorem runs_lockMilestone :
    (lockMilestone r₀ v m w).Runs R c held d r record held' r' ↔
      r₀.row.version = v ∧ r₀.milestones.lookup m = some record ∧ record.row.version = w ∧
        held' = held ∧ r' = r := by
  simp [lockMilestone]

@[simp] theorem runs_lockMilestoneCriterion {found : MilestoneRecord × AcceptanceCriterion} :
    (lockMilestoneCriterion r₀ m criterionId v).Runs R c held d r found held' r' ↔
      r₀.milestones.lookup m = some found.1 ∧ found.1.Has criterionId found.2 ∧
        found.2.version = v ∧ held' = held ∧ r' = r := by
  simp [lockMilestoneCriterion, MilestoneRecord.Has]
  aesop

@[simp] theorem runs_changeMilestoneCriteria {criteria checks} :
    (changeMilestoneCriteria m record criteria checks).Runs R c held d r u held' r' ↔
      held' = held ∧ r' = r.changeCriteria m record criteria checks := by
  simp [changeMilestoneCriteria, ProjectRecord.changeCriteria]

theorem runs_auditMilestoneCriterion {p entityType entityId action ownerAction} :
    (auditMilestoneCriterion p m actor entityType entityId action ownerAction clock).Runs R c held d
        r u held' r' →
      r' = r.auditCriterion p m actor entityType entityId action ownerAction clock := by
  simp [auditMilestoneCriterion, ProjectRecord.auditCriterion]

end Statements

/-! ## The commits

For each command: a commit of it is its step of the Project.
-/

section Commits

variable {active opened : Prop} {held held' : List (Lock WorkRow)} {d d₀ d₁ d' : Workspace}
  {p : Id} {r r' : ProjectRecord}

/-- A commit of the command is a step of one Project. -/
def OnProject (active : Prop) (held : List (Lock WorkRow)) (d d' : Workspace) (p : Id)
    (c : Command) : Prop :=
  ∃ r r', OnRow projectTable .project p held d d' r r' ∧
    ProjectStep active held d p c r r'

theorem commits_withProject {α : Type} {a : α} {body : ProjectRecord → ProjectTx α}
    (h : (withProject p body).Commits (workRely active opened) held d a held' d') :
    ∃ r r', OnRow projectTable .project p held' d d' r r' ∧
      (body r).Runs (workRely active opened) (projectTable.cell p)
        (⟨.project p, .update⟩ :: held) d r a held' r' :=
  commits_withRow (owns_project p) h

/-- What another transaction leaves on the tables beside the Projects is what the commit finds
there. -/
theorem tables_of_else (h : (projectTable.cell p).Else d d₁) :
    d₁.tasks = d.tasks ∧ d₁.users = d.users ∧ d₁.connections = d.connections := by
  obtain ⟨table, rfl, -⟩ := h
  exact ⟨rfl, rfl, rfl⟩

theorem mem_activeAdmins {members : Table ProjectMembership} {excluded u} :
    u ∈ d.activeAdmins members excluded ↔
      u ≠ excluded ∧ d.Active u ∧ ∃ m, members.lookup u = some m ∧ m.role = .admin := by
  simp only [activeAdmins, List.mem_map, List.mem_filter, Bool.and_eq_true, decide_eq_true_eq]
  constructor
  · rintro ⟨⟨u', m⟩, ⟨hmem, ⟨hrole, hne⟩, hactive⟩, rfl⟩
    exact ⟨hne, hactive, m, AList.mem_lookup_iff.mpr hmem, hrole⟩
  · rintro ⟨hne, hactive, m, hm, hrole⟩
    exact ⟨⟨u, m⟩, ⟨AList.mem_lookup_iff.mp hm, ⟨hrole, hne⟩, hactive⟩, rfl⟩

theorem runs_requireAnotherActiveProjectAdmin
    (h : (requireAnotherActiveProjectAdmin r.members userId).Runs (workRely active opened)
      (projectTable.cell p) held d r u held' r') :
    held' = held ∧ r' = r ∧ Retained active d r userId := by
  simp only [requireAnotherActiveProjectAdmin, rules, peel] at h
  obtain ⟨admins, ⟨d₀, d₁, hR, -, hother, rfl⟩, hsome, hheld, hr⟩ := h
  refine ⟨hheld, hr, ?_⟩
  intro hkeeps
  obtain ⟨w, hw⟩ := List.exists_mem_of_ne_nil _ hsome
  obtain ⟨hne, hactive, hadmin⟩ := mem_activeAdmins.mp hw
  refine ⟨w, hne, ?_, hadmin⟩
  -- The user is active in the snapshot, hence still when the command commits.
  have hlater : d₁.Active w := hR.active hkeeps w hactive
  unfold Workspace.Active at hlater ⊢
  rw [← (tables_of_else hother).2.1]
  exact hlater

/-! ### Projects and members -/

theorem updateProject_refines {patch : ProjectPatch} {a : Project}
    (h : (updateProject p v patch actor now).Commits (workRely active opened) held d a held'
      d') : OnProject active held' d d' p (.updateProject p v patch actor now) := by
  simp only [updateProject, Txn.rules, peel] at h
  obtain ⟨r, r', hon, hrun⟩ := commits_withProject h.2
  simp only [rules, runs_requireProjectVersion, runs_auditProject, peel] at hrun
  obtain ⟨-, -, -, -, -, rfl⟩ := hrun
  exact ⟨r, _, hon, .update rfl⟩

theorem runs_archive {project} (hlock : ⟨.project p, .update⟩ ∈ held)
    (h : (applyProjectAction p r.row now .archive).Runs (workRely active opened)
      (projectTable.cell p) held d r project held' r') :
    held' = held ∧ r' = r ∧ project = { r.row with archivedAt := some now } ∧
      r.openMilestones = 0 ∧ ∀ t, ¬ d.tasks.Unfinished p t := by
  simp only [applyProjectAction, projectArchiveReadiness, rules, peel] at h
  obtain ⟨readiness, _, _, ⟨count, ⟨d₀, d₁, hR, -, hother, rfl⟩, rfl, rfl, rfl⟩, harchive, hheld,
    hr⟩ := h
  simp only [Project.archive, ok_rules, gt_iff_lt, not_lt, Nat.le_zero] at harchive
  obtain ⟨hmilestones, htasks, hproject⟩ := harchive
  refine ⟨hheld, hr, hproject.symm, hmilestones, ?_⟩
  intro t ht
  rw [← (tables_of_else hother).1] at ht
  exact Db.countUnfinished_eq_zero.mp htasks t (hR.unfinished p hlock t ht)

theorem applyProjectLifecycle_refines {v : Option Nat} {action : ProjectLifecycleAction}
    {actor : Actor} {a : Project}
    (h : (applyProjectLifecycle p v action actor operation clock).Commits
      (workRely active opened) held d a held' d') :
    OnProject active held' d d' p (.projectLifecycle p v action actor operation clock) := by
  simp only [applyProjectLifecycle, Txn.rules, peel] at h
  obtain ⟨r, r', hon, hrun⟩ := commits_withProject h.2.2.2
  simp only [rules, runs_auditProject, peel] at hrun
  obtain ⟨-, project, _, _, haction, -, -, rfl, rfl⟩ := hrun
  refine ⟨r, _, hon, ?_⟩
  cases action with
  | archive =>
    obtain ⟨rfl, rfl, rfl, hmilestones, htasks⟩ := runs_archive List.mem_cons_self haction
    exact .archive hmilestones htasks
  | restore =>
    simp only [applyProjectAction, runs_pure] at haction
    obtain ⟨rfl, rfl, rfl⟩ := haction
    exact .restore

theorem mutateMember_refines {role : ProjectRole} {mode : MembershipMode} {membershipId : Id}
    {a : ProjectMembership × Nat}
    (h : (mutateMember p userId role v actor mode membershipId now).Commits
      (workRely active opened) held d a held' d') :
    OnProject active held' d d' p
      (.mutateMember p userId role v actor mode membershipId now) := by
  simp only [mutateMember, Txn.rules, peel] at h
  obtain ⟨r, r', hon, hrun⟩ := commits_withProject h.2
  simp only [rules, runs_requireProjectVersion, runs_ite, runs_incrementProjectVersion,
    runs_auditProject, peel] at hrun
  obtain ⟨-, _, -, _, -, -, membership, hnext, hguard⟩ := hrun
  rcases hguard with ⟨-, -, -, _, _, hretained, -, -, rfl, rfl⟩ | ⟨hno, -, -, rfl, rfl⟩
  · obtain ⟨rfl, rfl, hretained⟩ := runs_requireAnotherActiveProjectAdmin hretained
    exact ⟨_, _, hon, .mutateMember hnext fun _ _ _ => hretained⟩
  · refine ⟨_, _, hon, .mutateMember hnext ?_⟩
    intro hmode hadmin hrole
    exact absurd ⟨hmode, hadmin, hrole⟩ hno

theorem removeMember_refines
    (h : (removeMember p userId v actor now).Commits (workRely active opened) held d a held'
      d') : OnProject active held' d d' p (.removeMember p userId v actor now) := by
  simp only [removeMember, Txn.rules, peel] at h
  obtain ⟨r, r', hon, hrun⟩ := commits_withProject h.2
  simp only [rules, runs_requireProjectVersion, runs_ite, runs_incrementProjectVersion,
    runs_auditProject, peel] at hrun
  obtain ⟨-, membership, hmember, hguard⟩ := hrun
  rcases hguard with ⟨-, _, _, hretained, -, -, rfl, rfl⟩ | ⟨hno, -, -, rfl, rfl⟩
  · obtain ⟨rfl, rfl, hretained⟩ := runs_requireAnotherActiveProjectAdmin hretained
    exact ⟨_, _, hon, .removeMember hmember fun _ => hretained⟩
  · exact ⟨_, _, hon, .removeMember hmember fun hadmin => absurd hadmin hno⟩

/-! ### Milestones -/

theorem createMilestone_refines {draft : MilestoneDraft} {a : Milestone × Nat}
    (h : (createMilestone p v m { draft with status := none } actor now).Commits
      (workRely active opened) held d a held' d') :
    OnProject active held' d d' p (.createMilestone p v m draft actor now) := by
  simp only [createMilestone, Txn.rules, peel] at h
  obtain ⟨r, r', hon, hrun⟩ := commits_withProject h.2.2
  simp only [rules, runs_requireProjectVersion, runs_incrementProjectVersion,
    runs_auditProject, Option.isNone_iff_eq_none, peel] at hrun
  obtain ⟨-, hnew, -, -, -, rfl⟩ := hrun
  exact ⟨_, _, hon, .createMilestone hnew⟩

theorem updateMilestone_refines {patch : MilestonePatch} {a : Milestone × Nat}
    (h : (updateMilestone p v m w patch actor now).Commits (workRely active opened) held d a
      held' d') :
    OnProject active held' d d' p (.updateMilestone p v m w patch actor now) := by
  simp only [updateMilestone, Txn.rules, peel] at h
  obtain ⟨r, r', hon, hrun⟩ := commits_withProject h.2
  simp only [rules, runs_lockMilestone, runs_incrementProjectVersion, runs_auditProject,
    peel] at hrun
  obtain ⟨-, record, hfound, -, -, -, -, -, rfl⟩ := hrun
  exact ⟨_, _, hon, .updateMilestone hfound⟩

theorem applyMilestoneLifecycle_refines {action : MilestoneLifecycleAction} {a : Milestone × Nat}
    (h : (applyMilestoneLifecycle p v m w action actor reason clock).Commits
      (workRely active opened) held d a held' d') :
    OnProject active held' d d' p
      (.milestoneLifecycle p v m w action actor reason clock) := by
  simp only [applyMilestoneLifecycle, Txn.rules, peel] at h
  obtain ⟨r, r', hon, hrun⟩ := commits_withProject h.2
  simp only [milestoneReadiness, rules, runs_lockMilestone, runs_incrementProjectVersion,
    runs_auditProject, peel] at hrun
  obtain ⟨-, record, hfound, -, _, _, _, ⟨_, -, rfl, rfl, rfl⟩, row, happly, -, -, -, rfl⟩ := hrun
  exact ⟨_, _, hon, .milestoneLifecycle hfound rfl happly⟩

/-! ### Criteria of Milestones -/

theorem createMilestoneCriterion_refines {criterion : AcceptanceCriterion} {a : AcceptanceCriterion}
    (h : (createMilestoneCriterion p v m w criterion actor clock fresh).Commits
      (workRely active opened) held d a held' d') :
    OnProject active held' d d' p
      (.createMilestoneCriterion p v m w criterion actor clock fresh) := by
  simp only [createMilestoneCriterion, Txn.rules, peel] at h
  obtain ⟨r, r', hon, hrun⟩ := commits_withProject h.2.2
  simp only [rules, runs_lockMilestone, runs_changeMilestoneCriteria, peel] at hrun
  obtain ⟨-, record, hfound, -, -, _, _, haudit, -, -, rfl⟩ := hrun
  obtain rfl := runs_auditMilestoneCriterion haudit
  exact ⟨_, _, hon, .createCriterion hfound⟩

/-- A commit on a criterion is one on the Project that owns it. -/
theorem commits_withMilestoneCriterion {α : Type} {a : α}
    {body : Id → Id → ProjectRecord → ProjectTx α}
    (h : (withMilestoneCriterion criterionId body).Commits (workRely active opened) held d a
      held' d') :
    ∃ p m r r', OnRow projectTable .project p held' d d' r r' ∧
      (body p m r).Runs (workRely active opened) (projectTable.cell p)
        (⟨.project p, .update⟩ :: held) d r a held' r' := by
  simp only [withMilestoneCriterion, Txn.rules, peel] at h
  obtain ⟨_, -, owner, -, h⟩ := h
  obtain ⟨r, r', hon, hrun⟩ := commits_withProject h
  exact ⟨owner.1, owner.2, r, r', hon, hrun⟩

theorem AcceptanceCriterion.archivedAt_edit {c : AcceptanceCriterion}
    {text instructions position version} :
    ({ (c.edit text instructions).move position with version } : AcceptanceCriterion).archivedAt =
      c.archivedAt := by
  unfold AcceptanceCriterion.move AcceptanceCriterion.edit
  split <;> rfl

theorem updateMilestoneCriterion_refines {text instructions position a}
    (h : (updateMilestoneCriterion criterionId v text instructions position actor clock).Commits
      (workRely active opened) held d a held' d') :
    ∃ p, OnProject active held' d d' p
      (.updateMilestoneCriterion criterionId v text instructions position actor clock) := by
  simp only [updateMilestoneCriterion, Txn.rules, peel] at h
  obtain ⟨p, m, r, r', hon, hrun⟩ := commits_withMilestoneCriterion h.2
  simp only [rules, runs_lockMilestoneCriterion, runs_changeMilestoneCriteria, peel] at hrun
  obtain ⟨⟨record, current⟩, hfound, hcurrent, -, -, _, _, haudit, -, -, rfl⟩ := hrun
  obtain rfl := runs_auditMilestoneCriterion haudit
  refine ⟨p, _, _, hon, .updateCriterion hfound hcurrent ?_⟩
  rw [AcceptanceCriterion.archivedAt_edit]
  exact hcurrent.2

theorem addMilestoneCheck_refines {check a}
    (h : (addMilestoneCheck criterionId v check actor clock fresh).Commits
      (workRely active opened) held d a held' d') :
    ∃ p, OnProject active held' d d' p
      (.addMilestoneCheck criterionId v check actor clock fresh) := by
  simp only [addMilestoneCheck, Txn.rules, peel] at h
  obtain ⟨p, m, r, r', hon, hrun⟩ := commits_withMilestoneCriterion h.2
  simp only [rules, runs_lockMilestoneCriterion, runs_changeMilestoneCriteria, peel] at hrun
  obtain ⟨⟨record, current⟩, hfound, hcurrent, -, -, -, _, _, haudit, -, -, rfl⟩ := hrun
  obtain rfl := runs_auditMilestoneCriterion haudit
  exact ⟨p, _, _, hon, .addCheck hfound hcurrent⟩

theorem requireScopeChange_ok (h : requireScopeChange record reason = .ok ())
    (hactive : record.row.status = .active) : 1 < record.activeCriteria.length := by
  simp only [requireScopeChange, hactive, if_true, ok_rules, not_le] at h
  exact h.2.1

theorem removeMilestoneCriterion_refines {a}
    (h : (removeMilestoneCriterion criterionId v actor reason clock).Commits
      (workRely active opened) held d a held' d') :
    ∃ p, OnProject active held' d d' p
      (.removeMilestoneCriterion criterionId v actor reason clock) := by
  simp only [removeMilestoneCriterion, Txn.rules, peel] at h
  obtain ⟨p, m, r, r', hon, hrun⟩ := commits_withMilestoneCriterion h.2
  simp only [rules, runs_lockMilestoneCriterion, runs_changeMilestoneCriteria, peel] at hrun
  obtain ⟨⟨record, current⟩, hfound, hcurrent, -, hscope, haudit⟩ := hrun
  obtain rfl := runs_auditMilestoneCriterion haudit
  refine ⟨p, _, _, hon, .removeCriterion hfound hcurrent (requireScopeChange_ok hscope) ?_⟩
  intro id hne
  split
  · exact AList.lookup_erase_ne hne
  · exact AList.lookup_insert_ne hne

/-! ### Repositories -/

@[simp] theorem runs_requireOpenProject {R c} {r₀ : ProjectRecord} :
    (requireOpenProject r₀ v).Runs R c held d r u held' r' ↔
      r₀.row.version = v ∧ r₀.row.archivedAt = none ∧ held' = held ∧ r' = r := by
  simp [requireOpenProject, Unique.exists_iff]

theorem bindRepository_refines {connectionId : Id}
    (h : (bindRepository p v connectionId repositoryId operation now).Commits
      (workRely active opened) held d a held' d') :
    OnProject active held' d d' p
      (.bindRepository p v connectionId repositoryId operation now) := by
  simp only [bindRepository, Txn.rules, peel] at h
  obtain ⟨r, r', hon, hrun⟩ := commits_withProject h.2
  simp only [rules, runs_requireOpenProject, runs_incrementProjectVersion, runs_auditProject,
    Option.isNone_iff_eq_none, peel] at hrun
  obtain ⟨-, -, found, ⟨d₀, d₁, hR, -, hother, hsnapshot⟩, c, rfl, hactive, -, -, -, -, -, hnew,
    -, -, -, rfl, rfl⟩ := hrun
  have hlock : ⟨.connection connectionId, .share⟩ ∈
      (⟨.connection connectionId, .share⟩ :: ⟨.project p, .update⟩ :: held : List (Lock WorkRow)) :=
    List.mem_cons_self
  -- The Connection was read under its lock, and is still the same at the commit.
  have hsame : d₁.connections.lookup connectionId = d₀.connections.lookup connectionId :=
    hR.connections connectionId .share hlock
  rw [← hsnapshot, (tables_of_else hother).2.2] at hsame
  exact ⟨_, _, hon, .bind hlock hsame hactive hnew⟩

theorem unbindRepository_refines
    (h : (unbindRepository p v repositoryId operation now).Commits
      (workRely active opened) held d a held' d') :
    OnProject active held' d d' p (.unbindRepository p v repositoryId operation now) := by
  simp only [unbindRepository, Txn.rules, peel] at h
  obtain ⟨r, r', hon, hrun⟩ := commits_withProject h.2
  simp only [rules, runs_requireOpenProject, runs_incrementProjectVersion, runs_auditProject,
    peel] at hrun
  obtain ⟨-, -, binding, hfound, -, -, -, -, rfl⟩ := hrun
  exact ⟨_, _, hon, .unbind hfound⟩

end Commits

end Pactline
