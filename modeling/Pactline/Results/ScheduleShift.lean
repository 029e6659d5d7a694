import Pactline.Concurrency.Alone
import Pactline.Results.TaskStructure

/-!
# Shifting a schedule

An update with `schedule_shift_days` moves the dates of a Task, and those of its children if it is
no child itself; a shift in the other direction brings them back. Dates are days; `AddDate(0, 0, n)`
adds `n` of them, in the parent and in the loop over the children.
-/

set_option autoImplicit false

namespace Pactline

open ReadCommitted Txn TaskRecord Option

variable {n : Int} {row old : TaskRow} {clock : Nat → Time} {r : TaskRecord}

/-- A request that shifts the schedule by `n` days and leaves the Task where it is. -/
structure TaskPatch.ShiftsBy (patch : TaskPatch) (n : Int) : Prop where
  days : patch.scheduleShiftDays = some n
  milestone : patch.milestoneId = none
  parent : patch.parentTaskId = none

/-- The days from the start to the due date, where both are set. -/
def TaskRow.duration (row : TaskRow) : Option Int :=
  row.startDate.bind fun start => row.dueDate.map fun due => due - start

/-- The dates that are set are moved by `n` days. -/
structure TaskRow.MovedBy (n : Int) (row row' : TaskRow) : Prop where
  start : row'.startDate = row.startDate.map (· + n)
  due : row'.dueDate = row.dueDate.map (· + n)
  duration : row'.duration = row.duration

/-- What a shift of the Task `t` by `n` days does: the Task and its children are moved, the version
of the Task and of the children with a date goes up by one, and nothing else changes. -/
structure ShiftedBy (n : Int) (t : TaskId) (d d' : Db) : Prop where
  task : ∀ r, d.task t = some r → ∃ r', d'.task t = some r' ∧ r.row.MovedBy n r'.row ∧
    r'.row.version = r.row.version + 1
  children : ∀ c r, (c, r) ∈ d.children t → ∃ r', (c, r') ∈ d'.children t ∧ r.row.MovedBy n r'.row ∧
    r'.row.version = if r.row.Scheduled then r.row.version + 1 else r.row.version
  others : ∀ c ≠ t, (∀ r, (c, r) ∉ d.children t) → d'.task c = d.task c

theorem TaskRow.movedBy {row' : TaskRow} (hstart : row'.startDate = row.startDate.map (· + n))
    (hdue : row'.dueDate = row.dueDate.map (· + n)) : row.MovedBy n row' := by
  refine ⟨hstart, hdue, ?_⟩
  unfold duration
  rw [hstart, hdue]
  cases row.startDate with
  | none => rfl
  | some start =>
    cases row.dueDate with
    | none => rfl
    | some due =>
      simp only [map_some, bind_some, some.injEq]
      omega

theorem TaskRow.movedBy_of_unscheduled (h : ¬ row.Scheduled) : row.MovedBy n row := by
  have hstart : row.startDate = none := by
    rw [← not_isSome_iff_eq_none]
    exact fun hsome => h (.inl hsome)
  have hdue : row.dueDate = none := by
    rw [← not_isSome_iff_eq_none]
    exact fun hsome => h (.inr hsome)
  apply TaskRow.movedBy
  · rw [hstart]
    rfl
  · rw [hdue]
    rfl

section Alone

variable {d d' : Db} {t : TaskId} {held held' : List (Lock Row)} {patch : TaskPatch}
  {actor : OperationActor}

theorem patchedRow_shifted (hshifts : patch.ShiftsBy n)
    (h : (patchedRow t patch old).Commits Rely.alone held d row held' d') :
    old.MovedBy n row ∧ row.milestoneId = old.milestoneId ∧
      row.parentTaskId = old.parentTaskId := by
  simp only [patchedRow, shiftSchedule, hshifts.days, hshifts.milestone, hshifts.parent,
    getD_none, commits_bind, commits_liftM, commits_require, commits_pure,
    commits_ite, commits_alone_query, peel] at h
  obtain ⟨fields, hfields, -, hstart, hdue, shifted, _, _, hshifted, -, -, -, -, rfl, -, -⟩ := h
  have hrow : shifted = fields.shifted n := by
    rcases hshifted with ⟨-, h, -⟩ | ⟨-, -, h, -⟩
    · exact h
    · exact h
  simp only [TaskPatch.applyFields, ok_rules, hstart, hdue, getD_none] at hfields
  obtain ⟨-, -, -, rfl⟩ := hfields
  rw [hrow]
  exact ⟨TaskRow.movedBy rfl rfl, rfl, rfl⟩

/-- The children that are locked are those that are wanted. -/
theorem lockChildren_alone {wanted} {children : List (TaskId × TaskRecord)}
    (hl : ⟨.task t, .update⟩ ∈ held)
    (h : (lockChildren t wanted).Commits Rely.alone held d children held' d') :
    d' = d ∧ (children.map (·.1)).Nodup ∧
      ∀ c, c ∈ children.map (·.1) ↔
        ∃ r, d.task c = some r ∧ r.row.parentTaskId = some t ∧ wanted r.row = true := by
  obtain ⟨-, rfl, hnodup, hall, -⟩ := lockChildren_commits (isolates_rely True) hl h.amid
  refine ⟨rfl, hnodup, fun c => ?_⟩
  simp only [lockChildren, commits_bind, commits_alone_query, commits_acquireAll, peel] at h
  obtain ⟨rfl, -, -⟩ := h
  constructor
  · intro hc
    obtain ⟨⟨_, r⟩, hmem, rfl⟩ := List.mem_map.mp hc
    obtain ⟨-, hr, hparent⟩ := hall _ r hmem
    obtain ⟨c', -, hfind⟩ := List.mem_filterMap.mp hmem
    obtain ⟨r', hr', hcond⟩ := bind_eq_some_iff.mp hfind
    rw [ite_none_right_eq_some, some.injEq, Prod.mk.injEq] at hcond
    obtain ⟨⟨-, hwanted⟩, rfl, rfl⟩ := hcond
    exact ⟨r', hr, hparent, hwanted⟩
  · rintro ⟨r, hr, hparent, hwanted⟩
    refine List.mem_map.mpr ⟨(c, r), List.mem_filterMap.mpr ⟨c, ?_, ?_⟩, rfl⟩
    · rw [List.mem_insertionSort, List.mem_map]
      exact ⟨(c, r), List.mem_filter.mpr ⟨Db.mem_children.mpr ⟨hr, hparent⟩, hwanted⟩, rfl⟩
    · rw [hr, bind_some, if_pos ⟨hparent, hwanted⟩]

/-- What the loop over the children makes of the rows of a Task. -/
def TaskRecord.shiftedWith (t : TaskId) (n : Int) (event : BusinessAuditEvent) (r : TaskRecord) :
    TaskRecord :=
  if r.row.parentTaskId = some t ∧ r.row.Scheduled then r.follow (·.shifted n) event else r

theorem shiftWithParent_alone {now u} (hshifts : patch.ShiftsBy n)
    (hroot : old.parentTaskId = none) (hl : ⟨.task t, .update⟩ ∈ held)
    (h : (shiftWithParent t patch old actor now).Commits Rely.alone held d u held' d') :
    ∀ c, d'.task c = (d.task c).map
      (shiftedWith t n ⟨now, actor, "task", c, "schedule_shifted_with_parent"⟩) := by
  simp only [shiftWithParent, hshifts.days, if_pos hroot, shiftTaskChildrenSchedules,
    commits_bind] at h
  obtain ⟨children, held₁, d₁, hlock, hupdate⟩ := h
  obtain ⟨rfl, hnodup, hmem⟩ := lockChildren_alone hl hlock
  obtain ⟨-, -, htasks⟩ := updateChildren_commits hnodup hupdate
  intro c
  rw [htasks c]
  cases hr : d₁.task c with
  | none => simp
  | some r =>
    have hiff : c ∈ children.map (·.1) ↔ r.row.parentTaskId = some t ∧ r.row.Scheduled := by
      rw [hmem c, hr]
      simp
    simp only [hiff, map_some, shiftedWith]
    split <;> rfl

/-- From the `UPDATE` of a root Task that stays in its Milestone on. -/
theorem storeUpdate_shifted {result}
    (h : (storeUpdate t patch old row actor clock).Commits Rely.alone held d result held' d')
    (hshifts : patch.ShiftsBy n) (hroot : old.parentTaskId = none)
    (hmilestone : row.milestoneId = old.milestoneId) (hparent : row.parentTaskId = none)
    (hl : ⟨.task t, .update⟩ ∈ held) (hr : d.task t = some r) :
    (∃ r', d'.task t = some r' ∧ r'.row = row) ∧
      ∃ event : TaskId → BusinessAuditEvent, ∀ c ≠ t,
        d'.task c = (d.task c).map (shiftedWith t n (event c)) := by
  simp only [storeUpdate, rules, peel] at h
  obtain ⟨moved, held₁, d₁, hmove, held₂, d₂, hshift, held₃, d₃, hlabels, -, held₄, d₄, hedges,
    held₅, d₅, hrow, held₆, d₆, hrows, -, rfl, rfl⟩ := h
  have hstays : ¬ (old.parentTaskId = none ∧ old.milestoneId ≠ row.milestoneId) :=
    fun hmoves => hmoves.2 hmilestone.symm
  rw [moveWithParent, if_neg hstays] at hmove
  obtain ⟨-, rfl, rfl⟩ := hmove
  obtain ⟨rfl, hmod⟩ := updateLabels_commits hlabels
  obtain ⟨rfl, rfl, -⟩ := validateTaskDependencies_commits hedges
  obtain ⟨rfl, rfl⟩ := validateTaskRelationships_commits hrow
  obtain ⟨rfl, rfl⟩ := validateChildRelationships_commits hrows
  have hshifted := shiftWithParent_alone hshifts hroot hl hshift
  constructor
  · have hself := hshifted t
    rw [Db.task_modifyTask_self, hr, map_some, map_some] at hself
    have hnochild : ¬ ((r.setRow row).row.parentTaskId = some t ∧
      (r.setRow row).row.Scheduled) := by
      rintro ⟨hchild, -⟩
      have hnone : (r.setRow row).row.parentTaskId = none := hparent
      rw [hnone] at hchild
      cases hchild
    rw [shiftedWith, if_neg hnochild] at hself
    rw [Db.task_modifyTask_self, hmod.self, hself]
    exact ⟨_, rfl, rfl⟩
  · refine ⟨fun c => ⟨clock 2, actor, "task", c, "schedule_shifted_with_parent"⟩, fun c hc => ?_⟩
    rw [Db.task_modifyTask, if_neg hc, hmod.other c hc, hshifted c, Db.task_modifyTask, if_neg hc]

/-- What a shift of a root Task does. -/
theorem shiftedBy_of_update {expectedVersion} (hr : d.task t = some r)
    (hroot : r.row.parentTaskId = none) (hshifts : patch.ShiftsBy n)
    (h : (updateTask t expectedVersion patch actor clock).exec d = .ok (row, d')) :
    ShiftedBy n t d d' ∧ ∃ r', d'.task t = some r' ∧ r'.row.parentTaskId = none := by
  obtain ⟨held', hrun⟩ := commits_under Rely.alone [] h
  simp only [updateTask, commits_bind, commits_liftM, commits_acquire, commits_acquireAll,
    commits_alone_query, commits_demand, commits_require, peel] at hrun
  obtain ⟨-, old, hold, -, row₁, held₁, d₁, hpatch, held₂, d₂, hparent, held₃, d₃, hdeps,
    completedAt, held₄, d₄, hcompleted, hstore⟩ := hrun
  rw [hr] at hold
  cases hold
  obtain ⟨hmoved, hmilestone, htop⟩ := patchedRow_shifted hshifts hpatch
  obtain ⟨rfl, rfl, -⟩ := patchedRow_commits hpatch
  obtain ⟨hle₂, rfl, -⟩ := validateParentAssignment_commits (isolates_rely True) hparent.amid
  obtain ⟨hle₃, hmod, -⟩ := updateDependencies_commits (isolates_rely True) hdeps.amid
  obtain ⟨rfl, rfl, -⟩ := updateCompletedAt_commits hcompleted
  have hlocked := hle₃ (List.mem_append_right _ (hle₂ List.mem_cons_self))
  have hself := hmod.self
  rw [hr, map_some] at hself
  obtain ⟨⟨r', hr', hrow⟩, event, hchildren⟩ := storeUpdate_shifted hstore hshifts hroot
    hmilestone (htop.trans hroot) hlocked hself
  have hparent' : r'.row.parentTaskId = none := by
    rw [hrow]
    exact htop.trans hroot
  refine ⟨⟨?_, ?_, ?_⟩, r', hr', hparent'⟩
  · intro r₀ hr₀
    rw [hr] at hr₀
    cases hr₀
    refine ⟨r', hr', ?_, ?_⟩
    · rw [hrow]
      exact ⟨hmoved.start, hmoved.due, hmoved.duration⟩
    · rw [hrow]
  · intro c rc hc
    obtain ⟨hrc, hchild⟩ := Db.mem_children.mp hc
    have hne : c ≠ t := by
      rintro rfl
      rw [hr] at hrc
      cases hrc
      rw [hroot] at hchild
      cases hchild
    have hafter := hchildren c hne
    rw [hmod.other c hne, hrc, map_some] at hafter
    refine ⟨_, Db.mem_children.mpr ⟨hafter, ?_⟩, ?_, ?_⟩
    all_goals
      unfold shiftedWith
      by_cases hscheduled : rc.row.Scheduled
    · rw [if_pos ⟨hchild, hscheduled⟩]
      exact hchild
    · rw [if_neg fun hboth => hscheduled hboth.2]
      exact hchild
    · rw [if_pos ⟨hchild, hscheduled⟩]
      exact TaskRow.movedBy rfl rfl
    · rw [if_neg fun hboth => hscheduled hboth.2]
      exact TaskRow.movedBy_of_unscheduled hscheduled
    · rw [if_pos ⟨hchild, hscheduled⟩, if_pos hscheduled]
      rfl
    · rw [if_neg fun hboth => hscheduled hboth.2, if_neg hscheduled]
  · intro c hne hnone
    rw [hchildren c hne, hmod.other c hne]
    cases hrc : d₂.task c with
    | none => rfl
    | some rc =>
      have hnochild : ¬ (rc.row.parentTaskId = some t ∧ rc.row.Scheduled) :=
        fun hboth => hnone rc (Db.mem_children.mpr ⟨hrc, hboth.1⟩)
      rw [map_some, shiftedWith, if_neg hnochild]

/-- What one shift has moved, the opposite one moves back. -/
theorem TaskRow.MovedBy.back {row₁ row₂ : TaskRow} (h₁ : row.MovedBy n row₁)
    (h₂ : row₁.MovedBy (-n) row₂) :
    row₂.startDate = row.startDate ∧ row₂.dueDate = row.dueDate := by
  have hcancel : ∀ date : Option Int, (date.map (· + n)).map (· + -n) = date := by
    intro date
    cases date with
    | none => rfl
    | some day =>
      simp only [map_some, some.injEq]
      omega
  constructor
  · rw [h₂.start, h₁.start, hcancel]
  · rw [h₂.due, h₁.due, hcancel]

/-- A shift of a root Task by `n` days and then one by `-n` days: each moves the dates of the Task
and of its children by exactly as many days, and the two together leave every date as it was. -/
theorem shifted_back {v₁ v₂ : Option Nat}
    {patch₁ patch₂ : TaskPatch} {actor₁ actor₂ : OperationActor}
    {clock₁ clock₂ : Nat → Time} {row₁ row₂ : TaskRow} {d₁ d₂ : Db} {root : TaskRecord}
    (hroot : d.task t = some root) (htop : root.row.parentTaskId = none)
    (hshift₁ : patch₁.ShiftsBy n) (hshift₂ : patch₂.ShiftsBy (-n))
    (h₁ : (updateTask t v₁ patch₁ actor₁ clock₁).exec d = .ok (row₁, d₁))
    (h₂ : (updateTask t v₂ patch₂ actor₂ clock₂).exec d₁ = .ok (row₂, d₂)) :
    ShiftedBy n t d d₁ ∧ ShiftedBy (-n) t d₁ d₂ ∧
      ∀ c r, d.task c = some r → c = t ∨ (c, r) ∈ d.children t →
        ∃ r₂, d₂.task c = some r₂ ∧ r₂.row.startDate = r.row.startDate ∧
          r₂.row.dueDate = r.row.dueDate := by
  obtain ⟨hmoved, root₁, hroot₁, htop₁⟩ := shiftedBy_of_update hroot htop hshift₁ h₁
  obtain ⟨hback, -⟩ := shiftedBy_of_update hroot₁ htop₁ hshift₂ h₂
  refine ⟨hmoved, hback, ?_⟩
  rintro c r hr (rfl | hchild)
  · obtain ⟨r₁, hr₁, hto, -⟩ := hmoved.task r hr
    obtain ⟨r₂, hr₂, hfrom, -⟩ := hback.task r₁ hr₁
    exact ⟨r₂, hr₂, hto.back hfrom⟩
  · obtain ⟨r₁, hr₁, hto, -⟩ := hmoved.children c r hchild
    obtain ⟨r₂, hr₂, hfrom, -⟩ := hback.children c r₁ hr₁
    exact ⟨r₂, (Db.mem_children.mp hr₂).1, hto.back hfrom⟩

end Alone

/-- Task 1 with a due date, and its children 2, which starts on a day, and 3, which has no dates. -/
def sampleSchedule : Db :=
  Db.setTask 1 ({ sampleDraft none with dueDate := some 740000 }.record 1001 100)
    (Db.setTask 2 ({ sampleDraft (some 1) with startDate := some 739990 }.record 1002 100)
      (Db.setTask 3 ((sampleDraft (some 1)).record 1003 100) Db.empty))

/-- The schedule of Task 1 is shifted by `n` days. -/
def sampleShift (n : Int) : Tx TaskRow :=
  updateTask 1 none { emptyPatch with scheduleShiftDays := some n } sampleOperation fun i => 200 + i

theorem shifted_back_week :
    ∃ row₁ d₁ row₂ d₂, (sampleShift 7).exec sampleSchedule = .ok (row₁, d₁) ∧
      (sampleShift (-7)).exec d₁ = .ok (row₂, d₂) ∧ ShiftedBy 7 1 sampleSchedule d₁ ∧
      ShiftedBy (-7) 1 d₁ d₂ := by
  have hdone : (((sampleShift 7).exec sampleSchedule).toOption.bind fun x =>
      ((sampleShift (-7)).exec x.2).toOption).isSome := by decide +kernel
  obtain ⟨⟨row₂, d₂⟩, hdone⟩ := isSome_iff_exists.mp hdone
  obtain ⟨⟨row₁, d₁⟩, hfirst, hlast⟩ := bind_eq_some_iff.mp hdone
  have h₁ : (sampleShift 7).exec sampleSchedule = .ok (row₁, d₁) := ok_of_toOption hfirst
  have h₂ : (sampleShift (-7)).exec d₁ = .ok (row₂, d₂) := ok_of_toOption hlast
  obtain ⟨hmoved, hback, -⟩ := shifted_back (d := sampleSchedule) (t := 1) rfl rfl ⟨rfl, rfl, rfl⟩
    ⟨rfl, rfl, rfl⟩ h₁ h₂
  exact ⟨row₁, d₁, row₂, d₂, h₁, h₂, hmoved, hback⟩

end Pactline
