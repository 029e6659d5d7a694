import Pactline.Model.Handlers
import Pactline.Results.Connections

/-!
# Projects

Three guards of a Project look at what they can see when they run, and each can be passed by: a Task
is created after its Project was archived, an administrator is deactivated without a look at the
Projects, and a Milestone that was cancelled before it was active becomes active without a criterion
when it is reopened. What they are there for holds of every schedule that stays clear of that.
-/

set_option autoImplicit false

namespace Pactline

open ReadCommitted Workspace AList ProjectRecord List

variable {m₀ : Id} {old : Option MilestoneRecord} {x' : MilestoneRecord} {active opened : Prop}
  {r' : ProjectRecord} {platform : Platform} {d' : Workspace}

variable {x : MilestoneRecord} {p m : Id} {c : Command} {r : ProjectRecord}
  {held : List (Lock WorkRow)} {d : Workspace}

/-! ## What a step may do to a Milestone -/

/-- Some criterion of the Milestone is not archived. -/
def MilestoneRecord.HasCriterion (x : MilestoneRecord) : Prop := ∃ id c, x.Has id c

theorem MilestoneRecord.hasCriterion_of_length (h : x.activeCriteria.length ≠ 0) :
    x.HasCriterion := by
  obtain ⟨c, hc⟩ := exists_mem_of_length_pos (Nat.pos_of_ne_zero h)
  simp only [activeCriteria, mem_filter, mem_map, decide_eq_true_eq] at hc
  obtain ⟨⟨e, he, hec⟩, harchived⟩ := hc
  have hlookup : x.criteria.lookup e.1 = some e.2 := mem_lookup_iff.mpr he
  exact ⟨e.1, c, by rw [hlookup, hec], harchived⟩

/-- Of two criteria that are not archived, one is another than `id`. -/
theorem MilestoneRecord.exists_other (h : 1 < x.activeCriteria.length) (id : Id) :
    ∃ id' ≠ id, ∃ c, x.Has id' c := by
  have hentries : 1 < (x.criteria.entries.filter fun e => e.2.archivedAt = none).length := by
    simpa [activeCriteria, filter_map, Function.comp_def] using h
  have hkeys : ((x.criteria.entries.filter fun e => e.2.archivedAt = none).map Sigma.fst).Nodup :=
    (nodupKeys_iff_pairwise.mp x.criteria.nodupKeys |>.sublist filter_sublist).map _
      fun _ _ hne => hne
  have hmem : ∀ e ∈ x.criteria.entries.filter fun e => e.2.archivedAt = none, x.Has e.1 e.2 := by
    intro e he
    rw [mem_filter, decide_eq_true_eq] at he
    exact ⟨mem_lookup_iff.mpr he.1, he.2⟩
  match hlist : x.criteria.entries.filter fun e => e.2.archivedAt = none with
  | [] | [_] => simp [hlist] at hentries
  | a :: b :: rest =>
    rw [hlist] at hkeys hmem
    have hne : a.1 ≠ b.1 := by
      intro heq
      simp [heq] at hkeys
    by_cases ha : a.1 = id
    · refine ⟨b.1, fun hb => hne (ha.trans hb.symm), b.2, hmem b ?_⟩
      simp
    · exact ⟨a.1, ha, a.2, hmem a mem_cons_self⟩

/-- What a command may do to one Milestone of its Project. -/
inductive MilestoneChange (p m : Id) (c : Command) : Option MilestoneRecord → MilestoneRecord → Prop
  | same {x : MilestoneRecord} : MilestoneChange p m c (some x) x
  | create {v draft actor now}
      {x' : MilestoneRecord} (cmd : c = .createMilestone p v m draft actor now)
      (planned : x'.row.status = .planned) : MilestoneChange p m c none x'
  /-- Its texts, its criteria or their checks. -/
  | edit {x x' : MilestoneRecord} (status : x'.row.status = x.row.status)
      (criteria : x.row.status = .active → x.HasCriterion → x'.HasCriterion) :
      MilestoneChange p m c (some x) x'
  | lifecycle {v w action} {actor : OperationActor}
      {reason clock} {x x' : MilestoneRecord}
      {readiness : MilestoneReadiness} {row : Milestone}
      (cmd : c = .milestoneLifecycle p v m w action actor reason clock)
      (count : readiness.activeCriteria = x.activeCriteria.length)
      (apply : x.row.apply action readiness ⟨.user, some actor.userId, ""⟩ reason (clock 0) =
        .ok row)
      (status : x'.row.status = row.status) (criteria : x'.criteria = x.criteria) :
      MilestoneChange p m c (some x) x'

section Milestones

theorem MilestoneChange.of_eq (heq : r'.milestones.lookup m = r.milestones.lookup m)
    (hx' : r'.milestones.lookup m = some x') :
    MilestoneChange p m c (r.milestones.lookup m) x' := by
  rw [← heq, hx']
  exact .same

/-- A Milestone whose row was written: the others are as before. -/
theorem MilestoneChange.of_insert {x₀}
    (hr' : r'.milestones = r.milestones.insert m₀ x₀) (hx' : r'.milestones.lookup m = some x')
    (hwritten : MilestoneChange p m₀ c (r.milestones.lookup m₀) x₀) :
    MilestoneChange p m c (r.milestones.lookup m) x' := by
  by_cases hm : m = m₀
  · subst hm
    rw [hr', lookup_insert, Option.some.injEq] at hx'
    rw [← hx']
    exact hwritten
  · refine .of_eq ?_ hx'
    rw [hr', lookup_insert_ne hm]

/-- A command on the criteria of one Milestone. -/
theorem MilestoneChange.of_changeCriteria {criteria : Table AcceptanceCriterion}
    {checks}
    (hr' : r'.milestones = (r.changeCriteria m₀ x criteria checks).milestones)
    (hfound : r.milestones.lookup m₀ = some x) (hx' : r'.milestones.lookup m = some x')
    (hkeeps : x.row.status = .active → x.HasCriterion →
      ∃ id c, criteria.lookup id = some c ∧ c.archivedAt = none) :
    MilestoneChange p m c (r.milestones.lookup m) x' := by
  have hwritten : MilestoneChange p m₀ c (r.milestones.lookup m₀)
      ⟨{ x.row with version := x.row.version + 1 }, criteria, checks⟩ := by
    rw [hfound]
    exact .edit rfl hkeeps
  by_cases hm : m = m₀
  · subst hm
    rw [hr', changeCriteria, setMilestone, lookup_insert, Option.some.injEq] at hx'
    rw [← hx']
    exact hwritten
  · refine .of_eq ?_ hx'
    rw [hr']
    simp only [changeCriteria, setMilestone, bump, setRow]
    rw [lookup_insert_ne hm, lookup_insert_ne hm]

/-- What a command on a Project does to one Milestone. -/
theorem ProjectStep.milestoneChange (h : ProjectStep active held d p c r r')
    (hx' : r'.milestones.lookup m = some x') :
    MilestoneChange p m c (r.milestones.lookup m) x' := by
  cases h with
  | update | archive | restore | mutateMember | removeMember | bind | unbind =>
    exact .of_eq rfl hx'
  | createMilestone hnew =>
    refine .of_insert rfl hx' ?_
    rw [hnew]
    exact .create rfl rfl
  | updateMilestone hfound =>
    refine .of_insert rfl hx' ?_
    rw [hfound]
    exact .edit rfl fun _ hcriterion => hcriterion
  | milestoneLifecycle hfound hcriteria happly =>
    refine .of_insert rfl hx' ?_
    rw [hfound]
    exact .lifecycle rfl hcriteria happly rfl rfl
  | createCriterion hfound =>
    refine .of_changeCriteria rfl hfound hx' fun _ _ => ?_
    exact ⟨_, _, lookup_insert _, rfl⟩
  | updateCriterion hfound _ hedited =>
    refine .of_changeCriteria rfl hfound hx' fun _ _ => ?_
    exact ⟨_, _, lookup_insert _, hedited⟩
  | addCheck hfound hcurrent =>
    refine .of_changeCriteria rfl hfound hx' fun _ _ => ?_
    exact ⟨_, _, lookup_insert _, hcurrent.2⟩
  | removeCriterion hfound _ hscope hothers =>
    refine .of_changeCriteria rfl hfound hx' fun hactive _ => ?_
    obtain ⟨id, hne, other, hother, harchived⟩ :=
      MilestoneRecord.exists_other (hscope hactive) _
    exact ⟨id, other, (hothers id hne).trans hother, harchived⟩

end Milestones

/-! ## Active Milestones have criteria -/

/-- Every active Milestone of the Project has a criterion that is not archived. -/
def ProjectRecord.Scoped (r : ProjectRecord) : Prop :=
  ∀ m x, r.milestones.lookup m = some x → x.row.status = .active → x.HasCriterion

/-- The Project and the Milestone that the command reopens. -/
def Command.reopens : Command → Option (Id × Id)
  | .milestoneLifecycle p _ m _ .reopen _ _ _ => some (p, m)
  | _ => none

/-- A Milestone that a lifecycle command makes active was planned with criteria, or is reopened. -/
theorem Milestone.apply_active {x : Milestone} {action}
    {readiness : MilestoneReadiness} {actor reason now}
    {row : Milestone} (h : x.apply action readiness actor reason now = .ok row)
    (hactive : row.status = .active) : readiness.activeCriteria ≠ 0 ∨ action = .reopen := by
  cases action with
  | reopen => exact .inr rfl
  | activate =>
    simp only [apply, activate, ok_rules] at h
    exact .inl h.2.1
  | complete =>
    simp only [apply, complete, ok_rules] at h
    rw [← h.2.2.2] at hactive
    cases hactive
  | cancel =>
    simp only [apply, cancel, ok_rules] at h
    rw [← h.2.2] at hactive
    cases hactive

/-- A Milestone that is active afterwards has a criterion. -/
theorem MilestoneChange.hasCriterion (h : MilestoneChange p m c old x')
    (hold : ∀ x, old = some x → x.row.status = .active → x.HasCriterion)
    (hreopen : c.reopens = some (p, m) → ∀ x, old = some x → x.HasCriterion)
    (hactive : x'.row.status = .active) : x'.HasCriterion := by
  cases h with
  | same => exact hold x' rfl hactive
  | create _ planned =>
    rw [planned] at hactive
    cases hactive
  | edit status criteria =>
    rw [status] at hactive
    exact criteria hactive (hold _ rfl hactive)
  | @lifecycle _ _ _ _ _ _ x _ _ _ cmd count apply status criteria =>
    have hcriterion : x.HasCriterion := by
      rw [status] at hactive
      rcases Milestone.apply_active apply hactive with hcount | hreopened
      · rw [count] at hcount
        exact MilestoneRecord.hasCriterion_of_length hcount
      · subst cmd hreopened
        exact hreopen rfl x rfl
    obtain ⟨id, criterion, hlookup, harchived⟩ := hcriterion
    exact ⟨id, criterion, by rw [criteria]; exact hlookup, harchived⟩

/-- In every schedule in which a Milestone is reopened only where it has a criterion that is not
archived, every active Milestone has one. -/
theorem active_milestone_has_criterion {platform : Platform} {es : WorkSchedule} {cfg : WorkConfig}
    (h : runWork platform empty es = some cfg)
    (hreopen : ∀ e ∈ cfg.log, ∀ p m, e.cmd.reopens = some (p, m) → ∀ r,
      e.before.project p = some r → ∀ x, r.milestones.lookup m = some x → x.HasCriterion)
    {p m : Id} {r : ProjectRecord} {x : MilestoneRecord} (hr : cfg.db.project p = some r)
    (hx : r.milestones.lookup m = some x) (hactive : x.row.status = .active) :
    ∃ id c, x.criteria.lookup id = some c ∧ c.archivedAt = none := by
  have hscoped : ∀ p r, cfg.db.project p = some r → r.Scoped := by
    refine (workHistory_of_runWork lawful_empty h).invariant
      (P := fun d => ∀ p r, d.project p = some r → r.Scoped) lawful_empty ?_ ?_
    · intro p r hr
      cases hr
    · intro e he hstep _ hbefore p r' hr' m x' hx' hstatus
      have hchange := hstep.projectChange hr'
      generalize hr : e.before.project p = old at hchange
      cases hchange with
      | same => exact hbefore p r' hr m x' hx' hstatus
      | create => cases hx'
      | @step r _ step =>
        refine (step.milestoneChange hx').hasCriterion (hbefore p r hr m) ?_ hstatus
        intro hreopens x hx
        exact hreopen e he p m hreopens r hr x hx
  exact hscoped p r hr m x hx hactive

/-! ## Archived Projects are finished -/

/-- The Project that the command gives unfinished work. -/
def Command.createsIn : Command → Option Id
  | .task c => c.insertsInto
  | .createMilestone p _ _ _ _ _ => some p
  | .milestoneLifecycle p _ _ _ .reopen _ _ _ => some p
  | _ => none

theorem Command.createsIn_of_insertsInto (h : c.insertsInto = some p) : c.createsIn = some p := by
  cases c with
  | task c => exact h
  | _ => cases h

/-- An open Milestone was open before, unless the command has made it so. -/
theorem MilestoneChange.open (h : MilestoneChange p m c old x') (hopen : x'.row.status.Open)
    (hnot : c.createsIn ≠ some p) : ∃ x, old = some x ∧ x.row.status.Open := by
  cases h with
  | same => exact ⟨x', rfl, hopen⟩
  | create cmd =>
    subst cmd
    exact absurd rfl hnot
  | edit status => exact ⟨_, rfl, status ▸ hopen⟩
  | @lifecycle _ _ action _ _ _ x _ _ _ cmd _ apply status =>
    subst cmd
    rw [status] at hopen
    refine ⟨x, rfl, ?_⟩
    cases action with
    | reopen => exact absurd rfl hnot
    | activate =>
      simp only [Milestone.apply, Milestone.activate, ok_rules, not_not] at apply
      exact .inl apply.1
    | complete =>
      simp only [Milestone.apply, Milestone.complete, ok_rules, not_not] at apply
      exact .inr apply.1
    | cancel =>
      simp only [Milestone.apply, Milestone.cancel, ok_rules, not_not] at apply
      exact apply.1

theorem ProjectRecord.not_open_of_openMilestones (h : r.openMilestones = 0)
    (hx : r.milestones.lookup m = some x) : ¬ x.row.status.Open := by
  intro hopen
  have hnil := eq_nil_of_length_eq_zero h
  have hmem : (⟨m, x⟩ : Sigma fun _ : Nat => MilestoneRecord) ∈
      r.milestones.entries.filter fun e => e.2.row.status.Open :=
    mem_filter.mpr ⟨mem_lookup_iff.mp hx, decide_eq_true hopen⟩
  rw [hnil] at hmem
  cases hmem

/-- A Project that is archived was so before, or was finished when it was archived. -/
theorem ProjectStep.archived (h : ProjectStep active held d p c r r')
    (harchived : r'.row.archivedAt ≠ none) :
    r.row.archivedAt ≠ none ∨
      c.insertsInto = none ∧ r'.milestones = r.milestones ∧ r.openMilestones = 0 ∧
        ∀ t, ¬ d.tasks.Unfinished p t := by
  cases h with
  | archive hmilestones htasks => exact .inr ⟨rfl, rfl, hmilestones, htasks⟩
  | restore => exact absurd rfl harchived
  | update hrow =>
    subst hrow
    exact .inl harchived
  | _ => exact .inl harchived

/-- An archived Project has no unfinished Task and no open Milestone. -/
def Workspace.Finished (d : Workspace) : Prop :=
  ∀ p r, d.project p = some r → r.row.archivedAt ≠ none →
    (∀ t, ¬ d.tasks.Unfinished p t) ∧
    ∀ m x, r.milestones.lookup m = some x → ¬ x.row.status.Open

/-- A commit leaves archived Projects without open work. -/
theorem WorkStep.finished (h : WorkStep platform active opened held d d' c)
    (hlaw : Lawful d.tasks) (hd : d.Finished)
    (hcreates : ∀ p, c.createsIn = some p → ∀ r, d.project p = some r → r.row.archivedAt = none) :
    d'.Finished := by
  intro p r' hr' harchived
  -- Where the Project was archived before, the command gives it no work.
  have hold : ∀ r, d.project p = some r → r.row.archivedAt ≠ none →
      c.createsIn ≠ some p ∧ ∀ t, ¬ d'.tasks.Unfinished p t := by
    intro r hr hbefore
    have hnot : c.createsIn ≠ some p := fun hcreate => hbefore (hcreates p hcreate r hr)
    refine ⟨hnot, fun t ht => ?_⟩
    rcases h.unfinished hlaw ht with hunfinished | hinserts
    · exact (hd p r hr hbefore).1 t hunfinished
    · exact hnot (Command.createsIn_of_insertsInto hinserts)
  have hchange := h.projectChange hr'
  generalize hr : d.project p = old at hchange
  cases hchange with
  | same => exact ⟨(hold r' hr harchived).2, (hd p r' hr harchived).2⟩
  | create => exact absurd rfl harchived
  | @step r _ step =>
    rcases step.archived harchived with hbefore | ⟨hinserts, hmilestones, hnone, htasks⟩
    · obtain ⟨hnot, htasks⟩ := hold r hr hbefore
      refine ⟨htasks, fun m x' hx' hopen => ?_⟩
      obtain ⟨x, hx, hxopen⟩ := (step.milestoneChange hx').open hopen hnot
      exact (hd p r hr hbefore).2 m x hx hxopen
    · refine ⟨fun t ht => ?_, fun m x hx => ?_⟩
      · rcases h.unfinished hlaw ht with hunfinished | hinto
        · exact htasks t hunfinished
        · rw [hinserts] at hinto
          cases hinto
      · rw [hmilestones] at hx
        exact not_open_of_openMilestones hnone hx

/-- In every schedule in which Tasks and Milestones are created, and Milestones reopened, only in
Projects that are not archived at the commit, an archived Project has no unfinished Task and no
planned or active Milestone. -/
theorem archived_project_finished {platform : Platform} {es : WorkSchedule} {cfg : WorkConfig}
    (h : runWork platform empty es = some cfg)
    (hcreates : ∀ e ∈ cfg.log, ∀ p, e.cmd.createsIn = some p → ∀ r, e.before.project p = some r →
      r.row.archivedAt = none)
    {p : Id} {r : ProjectRecord} (hr : cfg.db.project p = some r)
    (harchived : r.row.archivedAt ≠ none) :
    (∀ t, ¬ cfg.db.tasks.Unfinished p t) ∧
    ∀ m x, r.milestones.lookup m = some x →
      ¬ (x.row.status = .planned ∨ x.row.status = .active) := by
  have hfinished : cfg.db.Finished := by
    refine (workHistory_of_runWork lawful_empty h).invariant lawful_empty ?_ ?_
    · intro p r hr
      cases hr
    · intro e he hstep hlaw hbefore
      exact hstep.finished hlaw hbefore (hcreates e he)
  exact hfinished p r hr harchived

/-! ## Projects keep an active administrator -/

def sampleMilestone : MilestoneDraft :=
  { name := "milestone", outcome := "outcome", description := "", ownerId := 7, status := none
    targetDate := none, position := 0 }

def sampleMilestoneCriterion : AcceptanceCriterion :=
  { id := 40, version := 1, criterion := "criterion", verificationInstructions := "look"
    revision := 1, position := 0, archivedAt := none }

/-- Milestone 4 gets a criterion, is cancelled and reopened. -/
def reopenSchedule : WorkSchedule :=
  .connect (.script (sampleProject ++ [.createMilestone 5 1 4 sampleMilestone sampleOperation 61,
    .createMilestoneCriterion 5 2 4 1 sampleMilestoneCriterion sampleOperation (fun _ => 62)
      (fun _ => 41),
    .milestoneLifecycle 5 3 4 2 .cancel sampleOperation "" (fun _ => 63),
    .milestoneLifecycle 5 4 4 3 .reopen sampleOperation "again" (fun _ => 64)])) ::
      workAdvances 0 50

theorem active_milestone_has_criterion_reopened :
    ∃ cfg r x, runWork asciiPlatform empty reopenSchedule = some cfg ∧
      cfg.db.project 5 = some r ∧ r.milestones.lookup 4 = some x ∧ x.row.status = .active ∧
      ∃ id c, x.criteria.lookup id = some c ∧ c.archivedAt = none := by
  obtain ⟨cfg, hcfg, hlog, r, hr, x, hx, hactive⟩ : ∃ cfg,
      runWork asciiPlatform empty reopenSchedule = some cfg ∧
      (∀ e ∈ cfg.log, ∀ q, e.cmd.reopens = some q → ∀ r, e.before.project q.1 = some r →
        ∀ x, r.milestones.lookup q.2 = some x → x.activeCriteria.length ≠ 0) ∧
      ∃ r, cfg.db.project 5 = some r ∧ ∃ x, r.milestones.lookup 4 = some x ∧
        x.row.status = .active := by decide +kernel
  refine ⟨cfg, r, x, hcfg, hr, hx, hactive,
    active_milestone_has_criterion hcfg (fun e he p m hreopens r hr x hx => ?_) hr hx hactive⟩
  exact MilestoneRecord.hasCriterion_of_length (hlog e he (p, m) hreopens r hr x hx)

/-- Milestone 4 has no criterion, is cancelled and reopened. -/
def emptyReopenSchedule : WorkSchedule :=
  .connect (.script (sampleProject ++ [.createMilestone 5 1 4 sampleMilestone sampleOperation 61,
    .milestoneLifecycle 5 2 4 1 .cancel sampleOperation "" (fun _ => 63),
    .milestoneLifecycle 5 3 4 2 .reopen sampleOperation "again" (fun _ => 64)])) ::
      workAdvances 0 39

/-- Activation would be refused; the way through `cancelled` is not. -/
theorem reopened_milestone_without_criterion :
    ∃ cfg r x, runWork asciiPlatform empty emptyReopenSchedule = some cfg ∧
      cfg.db.project 5 = some r ∧ r.milestones.lookup 4 = some x ∧ x.row.status = .active ∧
      ∀ id c, x.criteria.lookup id = some c → c.archivedAt ≠ none := by
  obtain ⟨cfg, hcfg, r, hr, x, hx, hactive, hnone⟩ : ∃ cfg,
      runWork asciiPlatform empty emptyReopenSchedule = some cfg ∧
      ∃ r, cfg.db.project 5 = some r ∧ ∃ x, r.milestones.lookup 4 = some x ∧
        x.row.status = .active ∧ x.criteria.entries = [] := by decide +kernel
  refine ⟨cfg, r, x, hcfg, hr, hx, hactive, fun id c hc => ?_⟩
  have hmem := mem_lookup_iff.mp hc
  rw [hnone] at hmem
  cases hmem

/-- Project 5 is given a Milestone and a Task, which are cancelled before it is archived. -/
def archiveSchedule : WorkSchedule :=
  .connect (.script (sampleProject ++ [.createMilestone 5 1 4 sampleMilestone sampleOperation 61,
    .task (sampleCreate 1 none []),
    .task (.cancelTask 1 1 "not needed" ⟨.user, some 7, ""⟩ sampleOperation 62000 (2000 + ·)),
    .milestoneLifecycle 5 2 4 1 .cancel sampleOperation "" (fun _ => 63),
    .projectLifecycle 5 (some 3) .archive ⟨.user, some 7, ""⟩ sampleOperation fun _ => 65])) ::
      workAdvances 0 59

theorem archived_project_finished_cancelled :
    ∃ cfg r x t, runWork asciiPlatform empty archiveSchedule = some cfg ∧
      cfg.db.project 5 = some r ∧ r.row.archivedAt ≠ none ∧
      r.milestones.lookup 4 = some x ∧ x.row.status = .cancelled ∧
      cfg.db.tasks.task 1 = some t ∧ t.row.projectId = 5 ∧ t.row.lifecycle.phase = .cancelled ∧
      (∀ t, ¬ cfg.db.tasks.Unfinished 5 t) ∧ ∀ m x, r.milestones.lookup m = some x →
        ¬ (x.row.status = .planned ∨ x.row.status = .active) := by
  obtain ⟨cfg, hcfg, hlog, ⟨t, ht, hproject, hphase⟩, r, hr, hne, x, hx, hclosed⟩ : ∃ cfg,
      runWork asciiPlatform empty archiveSchedule = some cfg ∧
      (∀ e ∈ cfg.log, ∀ p, e.cmd.createsIn = some p → ∀ r, e.before.project p = some r →
        r.row.archivedAt = none) ∧
      (∃ t, cfg.db.tasks.task 1 = some t ∧ t.row.projectId = 5 ∧
        t.row.lifecycle.phase = .cancelled) ∧
      ∃ r, cfg.db.project 5 = some r ∧ r.row.archivedAt ≠ none ∧
        ∃ x, r.milestones.lookup 4 = some x ∧ x.row.status = .cancelled := by decide +kernel
  exact ⟨cfg, r, x, t, hcfg, hr, hne, hx, hclosed, ht, hproject, hphase,
    archived_project_finished hcfg hlog hr hne⟩

/-- Project 5 is archived. -/
def sampleArchive : Command :=
  .projectLifecycle 5 (some 1) .archive ⟨.user, some 7, ""⟩ sampleOperation fun _ => 65

/-- A request of user 7 to create Task 1 in Project 5. -/
def sampleCreateRequest : Handler Reply :=
  Handler.createTask ⟨7, .user⟩ 1 (sampleDraft none) [] [] sampleOperation 11 fun _ => 66

/-- The request has found the Project as it should be; then the Project is archived, and the
request goes on. -/
def archiveRaceSchedule : WorkSchedule :=
  .connect (.script (sampleProject ++ [sampleArchive])) :: workAdvances 0 13 ++
  .connect sampleCreateRequest.client :: workAdvances 1 9 ++ workAdvances 0 8 ++ workAdvances 1 12

theorem archived_project_with_new_task :
    ∃ cfg r, runWork asciiPlatform empty archiveRaceSchedule = some cfg ∧
      cfg.db.project 5 = some r ∧ r.row.archivedAt ≠ none ∧ cfg.db.tasks.Unfinished 5 1 := by
  simp only [Db.Unfinished, exists_and_left]
  decide +kernel

end Pactline
