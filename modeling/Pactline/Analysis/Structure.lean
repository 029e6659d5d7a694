import Pactline.Analysis.Guards

/-!
# The structure of Tasks

Tasks form groups of one level: a child has a parent, and a parent has none. A group shares its
Project and its Milestone, dependencies stay inside a Project, and no dependency joins a child with
its parent (`Lawful`). Every commit keeps this law; and a commit that finds it changes only what it
has locked (`Step.footprint`), so the transactions of the system form a protocol (`protocol`).
-/

set_option autoImplicit false

namespace Pactline

open ReadCommitted TaskRecord Option

variable {r r' rp rc : TaskRecord} {t p : TaskId} {d d' : Db} {main : Thread} {now : Time} {c : Cmd}

/-! ## The law -/

/-- `r` is the Task `t` and `rp` is its parent `p`. -/
structure Under (t p : TaskId) (r rp : TaskRecord) : Prop where
  top : rp.row.parentTaskId = none
  project : rp.row.projectId = r.row.projectId
  milestone : rp.row.milestoneId = r.row.milestoneId
  forward : p ∉ r.dependencyIds
  backward : t ∉ rp.dependencyIds

/-- The law of the structure; the ends of every edge exist. -/
structure Lawful (d : Db) : Prop where
  parent : ∀ t r p, d.task t = some r → r.row.parentTaskId = some p →
    ∃ rp, d.task p = some rp ∧ Under t p r rp
  dependency : ∀ t r p, d.task t = some r → p ∈ r.dependencyIds →
    ∃ rp, d.task p = some rp ∧ rp.row.projectId = r.row.projectId

theorem lawful_empty : Lawful Db.empty where
  parent _ _ _ h := by cases h
  dependency _ _ _ h := by cases h

/-- What the law reads of a Task. -/
def TaskRecord.place (r : TaskRecord) : Option TaskId × Id × Option Id × List TaskId :=
  (r.row.parentTaskId, r.row.projectId, r.row.milestoneId, r.dependencyIds)

theorem TaskRecord.place_eq : r'.place = r.place ↔
    r'.row.parentTaskId = r.row.parentTaskId ∧ r'.row.projectId = r.row.projectId ∧
      r'.row.milestoneId = r.row.milestoneId ∧ r'.dependencyIds = r.dependencyIds := by
  simp [place]

theorem Under.congr {rp' : TaskRecord} (h : Under t p r rp) (hr : r'.place = r.place)
    (hp : rp'.place = rp.place) : Under t p r' rp' := by
  obtain ⟨-, hproject, hmilestone, hdeps⟩ := place_eq.mp hr
  obtain ⟨hparent', hproject', hmilestone', hdeps'⟩ := place_eq.mp hp
  constructor
  · rw [hparent', h.top]
  · rw [hproject', hproject, h.project]
  · rw [hmilestone', hmilestone, h.milestone]
  · rw [hdeps]
    exact h.forward
  · rw [hdeps']
    exact h.backward

/-- The law carries over to a database in which every Task has its old place. -/
theorem Lawful.congr (h : Lawful d)
    (hplace : ∀ t, (d'.task t).map place = (d.task t).map place) :
    Lawful d' := by
  have hold : ∀ t r', d'.task t = some r' → ∃ r, d.task t = some r ∧ r'.place = r.place := by
    intro t r' hr'
    have heq := hplace t
    rw [hr', map_some] at heq
    obtain ⟨r, hr, hrr⟩ := map_eq_some_iff.mp heq.symm
    exact ⟨r, hr, hrr.symm⟩
  have hnew : ∀ t r, d.task t = some r → ∃ r', d'.task t = some r' ∧ r'.place = r.place := by
    intro t r hr
    have heq := hplace t
    rw [hr, map_some] at heq
    exact map_eq_some_iff.mp heq
  constructor
  · intro t r' p hr' hparent
    obtain ⟨r, hr, hrr⟩ := hold t r' hr'
    obtain ⟨rp, hrp, hunder⟩ := h.parent t r p hr ((place_eq.mp hrr).1 ▸ hparent)
    obtain ⟨rp', hrp', hpp⟩ := hnew p rp hrp
    exact ⟨rp', hrp', hunder.congr hrr hpp⟩
  · intro t r' p hr' hp
    obtain ⟨r, hr, hrr⟩ := hold t r' hr'
    obtain ⟨-, hproject, -, hdeps⟩ := place_eq.mp hrr
    obtain ⟨rp, hrp, hsame⟩ := h.dependency t r p hr (hdeps ▸ hp)
    obtain ⟨rp', hrp', hpp⟩ := hnew p rp hrp
    obtain ⟨-, hproject', -, -⟩ := place_eq.mp hpp
    exact ⟨rp', hrp', by rw [hproject', hsame, hproject]⟩

/-! ## The steps on one Task -/

theorem Expiry.row {itemId} {l : TaskLifecycle} (h : Expiry main now itemId r r' l) :
    r'.row = r.row ∧ r'.dependencyIds = r.dependencyIds ∧ l.phase = r.row.lifecycle.phase := by
  cases h <;> exact ⟨rfl, rfl, rfl⟩

theorem Cleared.row {reason actor fresh issueId}
    (h : Cleared main reason actor now fresh r r' issueId) :
    r'.row = r.row ∧ r'.dependencyIds = r.dependencyIds := by
  cases h <;> exact ⟨rfl, rfl⟩

/-- A step that starts outside the terminal phases. -/
theorem TaskRecord.Local.of_not_terminal (hclaims : r.KeepsClaims r')
    (hphase : ¬ r.row.lifecycle.phase.Terminal) (hproject : r'.row.projectId = r.row.projectId)
    (hmilestone : r'.row.milestoneId = r.row.milestoneId)
    (hparent : r'.row.parentTaskId = r.row.parentTaskId)
    (hdeps : r'.dependencyIds = r.dependencyIds) : r.Local r' :=
  ⟨⟨hproject, fun ht => absurd ht hphase, hclaims⟩, hmilestone, hparent, hdeps⟩

/-- The commands on one Task leave its place alone, and never leave a terminal phase. -/
theorem TaskStep.local (h : TaskStep d t c r r') : r.Local r' := by
  have hclaims := h.keepsClaims
  cases h with
  | markReady _ _ hphase | withdrawReadiness _ _ hphase =>
    exact .of_not_terminal hclaims (by rw [hphase]; decide) rfl rfl rfl rfl
  | claim _ _ hexpiry hclaim =>
    obtain ⟨hrow, hdeps, hphase⟩ := hexpiry.row
    obtain ⟨-, -, -, hbefore⟩ := TaskLifecycle.claim_ok hclaim
    refine .of_not_terminal hclaims ?_ ?_ ?_ ?_ hdeps
    · rw [← hphase]
      rcases hbefore with ⟨hready, -⟩ | ⟨hactive | hactive, -⟩
      · rw [hready]
        decide
      · rw [hactive]
        decide
      · rw [hactive]
        decide
    all_goals simp [hrow]
  | keepClaim => exact ⟨.refl r, rfl, rfl, rfl⟩
  | expireDueClaim _ _ _ hwork | releaseClaim _ hwork | completeExecution _ hwork
  | requestChanges _ hwork | requestResolution _ hwork | acceptTask _ hwork =>
    exact .of_not_terminal hclaims hwork.not_terminal rfl rfl rfl rfl
  | cancelTask _ _ hcleared hphase =>
    obtain ⟨hrow, hdeps⟩ := hcleared.row
    refine .of_not_terminal hclaims hphase ?_ ?_ ?_ hdeps <;> simp [hrow]
  | setArchived _ _ haudit =>
    subst haudit
    split <;> exact ⟨⟨rfl, fun _ => rfl, .of_eq rfl⟩, rfl, rfl, rfl⟩
  | _ => exact ⟨⟨rfl, fun _ => rfl, hclaims⟩, rfl, rfl, rfl⟩

theorem TaskRecord.Local.place (h : r.Local r') : r'.place = r.place :=
  place_eq.mpr ⟨h.parent, h.project, h.milestone, h.dependencies⟩

theorem TaskRecord.local_attached (r : TaskRecord) (actor : OperationActor) (attachmentId : Id)
    (now : Time) : r.Local (r.attached actor attachmentId now) :=
  ⟨⟨rfl, fun _ => rfl, .of_eq rfl⟩, rfl, rfl, rfl⟩

/-! ## Creations -/

section Created

variable {R : Rely Db Row} {held : List (Lock Row)} {draft : TaskDraft}
  {dependencyIds : List TaskId} {labelIds : List Id} {actor : OperationActor} {mainThreadId : Id}
  {clock : Nat → Time}

/-- A Task that exists is not the new one. -/
theorem Created.ne (h : Created R held d d' t draft dependencyIds r') {t'}
    (hr : d.task t' = some r) : t' ≠ t := by
  rintro rfl
  rw [h.absent] at hr
  cases hr

/-- A creation changes only what it has locked. -/
theorem Created.footprint
    (h : Created R held d d' t draft dependencyIds
      (draft.created t labelIds dependencyIds actor mainThreadId clock)) :
    Footprint held d d' where
  toSideFootprint := h.aside.sideFootprint
  tasks t' hl' := h.other t' fun heq => hl' (heq ▸ h.locked)
  keeps t' r hr := ⟨r, (h.other t' (h.ne hr)).trans hr, .refl r⟩
  children c r' p hr' hp := by
    rcases Db.task_cases h.after h.other hr' with ⟨rfl, rfl⟩ | hr
    · exact .inr ⟨_, (h.parent p hp).1⟩
    · exact .inl ⟨r', hr, hp⟩
  dependents c r' p hr' hp := by
    rcases Db.task_cases h.after h.other hr' with ⟨rfl, rfl⟩ | hr
    · exact .inr ⟨_, (h.dependencies p hp).1⟩
    · exact .inl ⟨r', hr, hp⟩
  claims c r' id hr' := by
    rintro ⟨k, hk, hid⟩
    rcases Db.task_cases h.after h.other hr' with ⟨rfl, rfl⟩ | hr
    · cases hk
    · exact .inl ⟨r', hr, k, hk, hid⟩

/-- A new Task fits where it is put. -/
theorem Created.lawful (hlaw : Lawful d)
    (h : Created R held d d' t draft dependencyIds
      (draft.created t labelIds dependencyIds actor mainThreadId clock)) : Lawful d' := by
  constructor
  · intro c rc p hrc hp
    rcases Db.task_cases h.after h.other hrc with ⟨rfl, rfl⟩ | hrc
    · obtain ⟨-, rp, hfits⟩ := h.parent p hp
      refine ⟨rp, (h.other p hfits.ne).trans hfits.found, hfits.top, hfits.project,
        hfits.milestone, ?_, ?_⟩
      · intro hmem
        obtain ⟨-, dependency, hdep⟩ := h.dependencies p hmem
        exact hdep.notParent hp
      · -- Nothing depended on the new Task before it was there.
        intro hmem
        obtain ⟨r, hr, -⟩ := hlaw.dependency p rp c hfits.found hmem
        exact h.ne hr rfl
    · obtain ⟨rp, hrp, hunder⟩ := hlaw.parent c rc p hrc hp
      exact ⟨rp, (h.other p (h.ne hrp)).trans hrp, hunder⟩
  · intro c rc p hrc hp
    rcases Db.task_cases h.after h.other hrc with ⟨rfl, rfl⟩ | hrc
    · obtain ⟨-, rp, hfits⟩ := h.dependencies p hp
      exact ⟨rp, (h.other p hfits.ne).trans hfits.found, hfits.project⟩
    · obtain ⟨rp, hrp, hproject⟩ := hlaw.dependency c rc p hrc hp
      exact ⟨rp, (h.other p (h.ne hrp)).trans hrp, hproject⟩

end Created

/-! ## Updates -/

section Updated

variable {R : Rely Db Row} {held : List (Lock Row)} {v : Option Nat} {patch : TaskPatch}
  {old : TaskRecord}

/-- Every other Task was there before, and has at most followed the updated one. -/
theorem Updated.cases (h : Updated R held d d' t v patch old r') {c} (hrc : d'.task c = some rc) :
    c = t ∧ rc = r' ∨ c ≠ t ∧ ∃ r, d.task c = some r ∧ r.Follows old.row.projectId rc ∧
      (rc = r ∨ r.row.parentTaskId = some t) := by
  by_cases hc : c = t
  · subst hc
    exact .inl ⟨rfl, some.inj (hrc.symm.trans h.after)⟩
  · rcases h.children c hc with heq | ⟨r, rc', -, hr, hp, hrc', hf⟩
    · exact .inr ⟨hc, rc, heq.symm.trans hrc, .refl rc, .inl rfl⟩
    · cases hrc.symm.trans hrc'
      exact .inr ⟨hc, r, hr, hf, .inr hp⟩

/-- The children of a Task are in its Project, so the Project of a child does not change. -/
theorem Updated.keeps (hlaw : Lawful d) (h : Updated R held d d' t v patch old r') (c : TaskId)
    (r : TaskRecord) (hr : d.task c = some r) : ∃ rc, d'.task c = some rc ∧ r.Keeps rc := by
  by_cases hc : c = t
  · subst hc
    rw [h.before] at hr
    cases hr
    refine ⟨r', h.after, h.patched.project, fun _ => ?_, .of_eq ?_⟩
    · rw [h.patched.lifecycle]
    · rw [h.rows]
  · rcases h.children c hc with heq | ⟨r₀, rc, -, hr₀, hp, hrc, hf⟩
    · exact ⟨r, heq.trans hr, .refl r⟩
    · rw [hr] at hr₀
      cases hr₀
      obtain ⟨rp, hrp, hunder⟩ := hlaw.parent c r t hr hp
      rw [h.before] at hrp
      cases hrp
      refine ⟨rc, hrc, ?_, fun _ => by rw [hf.lifecycle], .of_eq hf.claims⟩
      rcases hf.project with hsame | hparent
      · exact hsame
      · rw [hparent, hunder.project]

/-- A dependency of the updated Task was one before, or has been checked. -/
theorem Updated.dependency_cases (h : Updated R held d d' t v patch old r')
    (hp : p ∈ r'.dependencyIds) : p ∈ old.dependencyIds ∨ ⟨.task p, .share⟩ ∈ held ∧
      ∃ dependency, DependencyFits d t p old.row.projectId r'.row.parentTaskId dependency := by
  rw [h.rows] at hp
  cases hids : patch.dependencyIds with
  | none =>
    rw [hids] at hp
    exact .inl hp
  | some ids =>
    rw [hids] at hp
    exact .inr ((h.dependencies ids hids).2.2 p hp)

/-- An update changes only what it has locked. -/
theorem Updated.footprint (hlaw : Lawful d) (h : Updated R held d d' t v patch old r') :
    Footprint held d d' where
  toSideFootprint := h.aside.sideFootprint
  tasks t' hl' := by
    rcases h.children t' (fun heq => hl' (heq ▸ h.locked)) with heq | ⟨r, rc, hl, -⟩
    · exact heq
    · exact absurd hl hl'
  keeps := h.keeps hlaw
  children c rc p hrc hp := by
    rcases h.cases hrc with ⟨rfl, rfl⟩ | ⟨-, r, hr, hf, -⟩
    · exact .inr ⟨_, (h.parent p hp).1⟩
    · exact .inl ⟨r, hr, hf.parent ▸ hp⟩
  dependents c rc p hrc hp := by
    rcases h.cases hrc with ⟨rfl, rfl⟩ | ⟨-, r, hr, hf, -⟩
    · rcases h.dependency_cases hp with hold | ⟨hl, -⟩
      · exact .inl ⟨old, h.before, hold⟩
      · exact .inr ⟨_, hl⟩
    · exact .inl ⟨r, hr, hf.dependencies ▸ hp⟩
  claims c rc id hrc := by
    rintro ⟨k, hk, hid⟩
    rcases h.cases hrc with ⟨rfl, rfl⟩ | ⟨-, r, hr, hf, -⟩
    · rw [h.rows] at hk
      exact .inl ⟨old, h.before, k, hk, hid⟩
    · exact .inl ⟨r, hr, k, hf.tables.1 ▸ hk, hid⟩

/-- The new parent of a Task is left as it was. -/
theorem Updated.parent_unchanged (h : Updated R held d d' t v patch old r') (hne : p ≠ t)
    (hrp : d.task p = some rp) (htop : rp.row.parentTaskId = none) : d'.task p = some rp := by
  rcases h.children p hne with heq | ⟨r, -, -, hr, hparent, -⟩
  · exact heq.trans hrp
  · rw [hrp] at hr
    cases hr
    rw [htop] at hparent
    cases hparent

/-- The updated Task and its parent. -/
theorem Updated.under_parent (h : Updated R held d d' t v patch old r')
    (hp : r'.row.parentTaskId = some p) : ∃ rp, d'.task p = some rp ∧ Under t p r' rp := by
  obtain ⟨-, hunrelated, rp, hfits⟩ := h.parent p hp
  refine ⟨rp, h.parent_unchanged hfits.ne hfits.found hfits.top, hfits.top, ?_, hfits.milestone,
    ?_, ?_⟩
  · rw [hfits.project, h.patched.project]
  · intro hmem
    rcases h.dependency_cases hmem with hold | ⟨-, dependency, hdep⟩
    · apply hunrelated.forward
      unfold Db.dependencies
      rw [h.before]
      exact hold
    · exact hdep.notParent hp
  · have hback := hunrelated.backward
    unfold Db.dependencies at hback
    rw [hfits.found] at hback
    exact hback

/-- The updated Task and a child of it. -/
theorem Updated.under_child (hlaw : Lawful d) (h : Updated R held d d' t v patch old r')
    {c} (hc : c ≠ t) (hr : d.task c = some r) (hparent : r.row.parentTaskId = some t)
    (hrc : d'.task c = some rc) (hf : r.Follows old.row.projectId rc) : Under c t rc r' := by
  obtain ⟨rp, hrp, hunder⟩ := hlaw.parent c r t hr hparent
  rw [h.before] at hrp
  cases hrp
  constructor
  · -- A Task with a child has been refused a parent.
    cases hp : r'.row.parentTaskId with
    | none => rfl
    | some p =>
      obtain ⟨-, hunrelated, -⟩ := h.parent p hp
      exact absurd hparent (hunrelated.childless c r hr)
  · rw [h.patched.project]
    rcases hf.project with hsame | hmoved
    · rw [hsame, hunder.project]
    · exact hmoved.symm
  · by_cases hmilestone : old.row.milestoneId = r'.row.milestoneId
    · obtain ⟨rc', hrc', -, hsame⟩ := h.stayed (fun hnot => hnot.2 hmilestone) c r hc hr
      rw [hrc] at hrc'
      cases hrc'
      rw [hsame, ← hmilestone, hunder.milestone]
    · obtain ⟨rc', hrc', -, hsame⟩ := h.moved hunder.top hmilestone c r hc hr hparent
      rw [hrc] at hrc'
      cases hrc'
      exact hsame.symm
  · rw [hf.dependencies]
    exact hunder.forward
  · intro hmem
    rcases h.dependency_cases hmem with hold | ⟨-, dependency, hdep⟩
    · exact hunder.backward hold
    · have hfound := hdep.found
      rw [hr] at hfound
      cases hfound
      exact hdep.notChild hparent

/-- A Task fits where an update puts it, and its children follow. -/
theorem Updated.lawful (hlaw : Lawful d) (h : Updated R held d d' t v patch old r') :
    Lawful d' := by
  constructor
  · intro c rc p hrc hp
    rcases h.cases hrc with ⟨rfl, rfl⟩ | ⟨hc, r, hr, hf, hsame⟩
    · exact h.under_parent hp
    · have hparent : r.row.parentTaskId = some p := hf.parent ▸ hp
      by_cases hpt : p = t
      · subst hpt
        exact ⟨r', h.after, h.under_child hlaw hc hr hparent hrc hf⟩
      · -- Neither end belongs to the updated Task's group.
        obtain ⟨rp, hrp, hunder⟩ := hlaw.parent c r p hr hparent
        rcases hsame with rfl | hchild
        · exact ⟨rp, h.parent_unchanged hpt hrp hunder.top, hunder⟩
        · rw [hparent] at hchild
          exact absurd (some.inj hchild) hpt
  · intro c rc p hrc hp
    rcases h.cases hrc with ⟨rfl, rfl⟩ | ⟨-, r, hr, hf, -⟩
    · rw [h.patched.project]
      rcases h.dependency_cases hp with hold | ⟨-, rp, hdep⟩
      · obtain ⟨rp, hrp, hproject⟩ := hlaw.dependency c old p h.before hold
        obtain ⟨rp', hrp', hkeeps⟩ := h.keeps hlaw p rp hrp
        exact ⟨rp', hrp', hkeeps.project.trans hproject⟩
      · obtain ⟨rp', hrp', hkeeps⟩ := h.keeps hlaw p rp hdep.found
        exact ⟨rp', hrp', hkeeps.project.trans hdep.project⟩
    · obtain ⟨rp, hrp, hproject⟩ := hlaw.dependency c r p hr (hf.dependencies ▸ hp)
      obtain ⟨rp', hrp', hkeeps⟩ := h.keeps hlaw p rp hrp
      obtain ⟨rc', hrc', hkeepsc⟩ := h.keeps hlaw c r hr
      rw [hrc] at hrc'
      cases hrc'
      exact ⟨rp', hrp', by rw [hkeeps.project, hproject, hkeepsc.project]⟩

end Updated

/-! ## All steps -/

section Steps

variable {platform : Platform} {R : Rely Db Row} {held : List (Lock Row)}

/-- A commit changes only what it holds. -/
theorem Step.footprint (hlaw : Lawful d) (h : Step platform R held d d' c) :
    Footprint held d d' := by
  cases h with
  | onTask on step keys =>
    refine .of_local step.local (fun id hid => ?_) on.locked on.before on.after on.other
      on.aside.sideFootprint
    exact (step.hasClaim_cases hid).imp_right (keys id)
  | create created => exact created.footprint
  | update updated => exact updated.footprint hlaw
  | completeUpload pending completed =>
    exact .of_local (local_attached _ _ _ _) (fun _ hid => .inl hid) completed.locked
      completed.before completed.after completed.other (completed.sideFootprint pending)
  | side side => exact .of_tasks_eq side.tasks side.sideFootprint

/-- Every commit keeps the law. -/
theorem Step.lawful (hlaw : Lawful d) (h : Step platform R held d d' c) : Lawful d' := by
  -- The commands on one Task and the uploads leave every place as it was.
  have hone : ∀ {t : TaskId} {r r' : TaskRecord}, r.Local r' → d.task t = some r →
      d'.task t = some r' → (∀ t' ≠ t, d'.task t' = d.task t') → Lawful d' := by
    intro t r r' hlocal hbefore hafter hother
    refine hlaw.congr fun t' => ?_
    by_cases ht : t' = t
    · rw [ht, hbefore, hafter, map_some, map_some, hlocal.place]
    · rw [hother t' ht]
  cases h with
  | onTask on step => exact hone step.local on.before on.after on.other
  | create created => exact created.lawful hlaw
  | update updated => exact updated.lawful hlaw
  | completeUpload pending completed =>
    exact hone (local_attached _ _ _ _) completed.before completed.after
      completed.other
  | side side => exact hlaw.congr fun t => by unfold Db.task; rw [side.tasks]

end Steps

/-! ## The protocol -/

/-- The command gives a Task dependencies. -/
def Cmd.SetsDependencies : Cmd → Prop
  | .create _ _ _ dependencyIds _ _ _ => dependencyIds ≠ []
  | .update _ _ patch _ _ => ∃ ids ∈ patch.dependencyIds, ids ≠ []
  | _ => False

/-- Commits of other commands add no edge to the graph of dependencies. -/
theorem Step.dependencies_subset {platform R held}
    (h : Step platform R held d d' c) (hc : ¬ c.SetsDependencies) (t : TaskId) :
    d'.dependencies t ⊆ d.dependencies t := by
  intro p hp
  obtain ⟨r', hr', hmem⟩ := Db.mem_dependencies.mp hp
  -- A row that is as before, or keeps its dependencies, adds none.
  have hsame : ∀ r, d.task t = some r → r'.dependencyIds = r.dependencyIds →
      p ∈ d.dependencies t := fun r hr heq => Db.mem_dependencies.mpr ⟨r, hr, heq ▸ hmem⟩
  have hone : ∀ {t₀ : TaskId} {r₀ r₀' : TaskRecord}, r₀.Local r₀' → d.task t₀ = some r₀ →
      d'.task t₀ = some r₀' → (∀ t' ≠ t₀, d'.task t' = d.task t') → p ∈ d.dependencies t := by
    intro t₀ r₀ r₀' hlocal hbefore hafter hother
    rcases Db.task_cases hafter hother hr' with ⟨rfl, rfl⟩ | hr
    · exact hsame r₀ hbefore hlocal.dependencies
    · exact hsame r' hr rfl
  cases h with
  | onTask on step => exact hone step.local on.before on.after on.other
  | create created =>
    rcases Db.task_cases created.after created.other hr' with ⟨rfl, rfl⟩ | hr
    · exact absurd (List.ne_nil_of_mem hmem) hc
    · exact hsame r' hr rfl
  | @update t₀ v patch actor clock old r₀ updated =>
    rcases updated.cases hr' with ⟨rfl, rfl⟩ | ⟨-, r, hr, hf, -⟩
    · have hkept : patch.dependencyIds.getD old.dependencyIds ⊆ old.dependencyIds := by
        cases hids : patch.dependencyIds with
        | none => exact List.Subset.refl _
        | some ids =>
          have hnil : ids = [] := by
            by_contra hne
            exact hc ⟨ids, hids, hne⟩
          rw [hnil]
          exact List.nil_subset _
      rw [updated.rows] at hmem
      exact Db.mem_dependencies.mpr ⟨old, updated.before, hkept hmem⟩
    · exact hsame r hr hf.dependencies
  | completeUpload pending completed =>
    exact hone (local_attached _ _ _ _) completed.before completed.after
      completed.other
  | side side => exact hsame r' (by unfold Db.task; rw [← side.tasks]; exact hr') rfl

/-- The transactions of the system form a protocol under the law. The commands of `graph` may
also rely on it that nobody adds a dependency, if no command that does overlaps with them. -/
theorem protocol (platform : Platform) {graph : Cmd → Prop} {Overlap : Cmd → Cmd → Prop}
    (hoverlap : ∀ c c', Overlap c c' → graph c' → ¬ c.SetsDependencies) :
    Protocol (prog platform) (fun c => rely (graph c)) Overlap Lawful where
  guarded c := guarded_prog (isolates_rely _) platform c
  inv _ _ _ _ _ h hlaw := (step_of_commits (isolates_rely _) h).lawful hlaw
  guarantee c _ _ _ _ h hlaw c' _ hadmission hcompatible := by
    have hstep := step_of_commits (isolates_rely _) h
    refine ⟨(hstep.footprint hlaw).interferes hcompatible, fun hgraph => ?_⟩
    exact hstep.dependencies_subset (hoverlap c c' hadmission hgraph)

end Pactline
