import Pactline.Concurrency.Interleaving
import Pactline.Analysis.Permanence

/-!
# Isolation

What the transactions of the system may do to each other. Whoever holds a lock on a Task's row finds
the Task unchanged; whoever holds it `FOR UPDATE` also finds that the Task gets no new children and
no new dependents, because both are made only under a lock on that row; and whoever holds the key of
a Claim finds that no Claim with that key appears (`Interferes`). A commit that touches only what it
has locked (`Footprint`) interferes with nobody beyond that.

A transaction may rely on more, as long as its own writes respect it (`Rely.Isolates`).
-/

set_option autoImplicit false

namespace Pactline

open ReadCommitted

variable {e e' d₁ : Db} {r : TaskRecord} {held' : List (Lock Row)}

variable {t : TaskId} {held : List (Lock Row)} {d d' : Db}

/-! ## Interference -/

/-- An attachment of the Task that is not deleted. -/
def Db.Attached (d : Db) (t : TaskId) (id : Id) : Prop :=
  ∃ a, d.attachments.lookup id = some a ∧ a.taskId = t ∧ a.deletedAt = none

/-- What the commits of others leave alone in the tables of uploads and attachments and among the
objects while the locks `held` are held. -/
structure Undisturbed (held : List (Lock Row)) (d d' : Db) : Prop where
  keptUploads : d.uploads.Kept AttachmentUploadSession.Keeps d'.uploads
  keptAttachments : d.attachments.Kept TaskAttachment.Keeps d'.attachments
  uploads : ∀ id s, ⟨.upload id, s⟩ ∈ held → d'.uploads.lookup id = d.uploads.lookup id
  attachments : ∀ id s, ⟨.attachment id, s⟩ ∈ held →
    d'.attachments.lookup id = d.attachments.lookup id
  attached : ∀ t, ⟨.task t, .update⟩ ∈ held → ∀ id, d'.Attached t id → d.Attached t id
  objects : ∀ key s, ⟨.object key, s⟩ ∈ held → d'.objects.lookup key = d.objects.lookup key

namespace Undisturbed

variable {d₂ d₃ : Db}

theorem refl (held : List (Lock Row)) (d : Db) : Undisturbed held d d where
  keptUploads := .refl .refl _
  keptAttachments := .refl .refl _
  uploads _ _ _ := rfl
  attachments _ _ _ := rfl
  attached _ _ _ h := h
  objects _ _ _ := rfl

theorem trans (h₁ : Undisturbed held d₁ d₂) (h₂ : Undisturbed held d₂ d₃) :
    Undisturbed held d₁ d₃ where
  keptUploads := .trans (fun _ _ _ => .trans) h₁.keptUploads h₂.keptUploads
  keptAttachments := .trans (fun _ _ _ => .trans) h₁.keptAttachments h₂.keptAttachments
  uploads id s hl := (h₂.uploads id s hl).trans (h₁.uploads id s hl)
  attachments id s hl := (h₂.attachments id s hl).trans (h₁.attachments id s hl)
  attached t hl id h := h₁.attached t hl id (h₂.attached t hl id h)
  objects key s hl := (h₂.objects key s hl).trans (h₁.objects key s hl)

theorem weaken (hle : held ⊆ held') (h : Undisturbed held' d d') : Undisturbed held d d' where
  keptUploads := h.keptUploads
  keptAttachments := h.keptAttachments
  uploads id s hl := h.uploads id s (hle hl)
  attachments id s hl := h.attachments id s (hle hl)
  attached t hl := h.attached t (hle hl)
  objects key s hl := h.objects key s (hle hl)

/-- Nobody relies on the other tables. -/
theorem congr (h : Undisturbed held d d') (hu : e.uploads = d.uploads)
    (hu' : e'.uploads = d'.uploads) (ha : e.attachments = d.attachments)
    (ha' : e'.attachments = d'.attachments)
    (hobjects : ∀ key s, ⟨.object key, s⟩ ∈ held → e'.objects.lookup key = e.objects.lookup key) :
    Undisturbed held e e' where
  keptUploads := by rw [hu, hu']; exact h.keptUploads
  keptAttachments := by rw [ha, ha']; exact h.keptAttachments
  uploads id s hl := by rw [hu, hu', h.uploads id s hl]
  attachments id s hl := by rw [ha, ha', h.attachments id s hl]
  attached t hl id := by
    have hattached := h.attached t hl id
    unfold Db.Attached at hattached ⊢
    rw [ha, ha']
    exact hattached
  objects := hobjects

/-- Both sides write the same upload sessions. -/
theorem setUploads (rows : List (Id × AttachmentUploadSession)) (h : Undisturbed held d d') :
    Undisturbed held (d.setUploads rows) (d'.setUploads rows) where
  keptUploads := h.keptUploads.insertAll .refl rows
  keptAttachments := h.keptAttachments
  uploads id s hl := Table.lookup_insertAll_congr (h.uploads id s hl)
  attachments := h.attachments
  attached := h.attached
  objects := h.objects

/-- Both sides write the same attachments. -/
theorem setAttachments (rows : List (Id × TaskAttachment)) (h : Undisturbed held d d') :
    Undisturbed held (d.setAttachments rows) (d'.setAttachments rows) where
  keptUploads := h.keptUploads
  keptAttachments := h.keptAttachments.insertAll .refl rows
  uploads := h.uploads
  objects := h.objects
  attachments id s hl := Table.lookup_insertAll_congr (h.attachments id s hl)
  attached t hl id := by
    rintro ⟨a, ha, htask, hactive⟩
    rcases Table.lookup_insertAll_cases rows d.attachments id with
      ⟨v, hv, hlookup⟩ | ⟨hnone, hlookup⟩
    · -- The row is among those written, on both sides.
      exact ⟨a, (Table.lookup_insertAll_eq hv).trans ha, htask, hactive⟩
    · have hbefore : d'.attachments.lookup id = some a :=
        (Table.lookup_insertAll_of_notMem hnone).symm.trans ha
      obtain ⟨a₀, ha₀, hrest⟩ := h.attached t hl id ⟨a, hbefore, htask, hactive⟩
      exact ⟨a₀, hlookup.trans ha₀, hrest⟩

end Undisturbed

/-- What the commits of others may do while the locks `held` are held. -/
structure Interferes (held : List (Lock Row)) (d d' : Db) : Prop extends Undisturbed held d d' where
  keeps : ∀ t r, d.task t = some r → ∃ r', d'.task t = some r' ∧ r.Keeps r'
  locked : ∀ t s, ⟨.task t, s⟩ ∈ held → d'.task t = d.task t
  children : ∀ t, ⟨.task t, .update⟩ ∈ held → ∀ c r', d'.task c = some r' →
    r'.row.parentTaskId = some t → ∃ r, d.task c = some r ∧ r.row.parentTaskId = some t
  dependents : ∀ t, ⟨.task t, .update⟩ ∈ held → ∀ c r', d'.task c = some r' →
    t ∈ r'.dependencyIds → ∃ r, d.task c = some r ∧ t ∈ r.dependencyIds
  claims : ∀ id, ⟨.claim id, .update⟩ ∈ held → ∀ t r', d'.task t = some r' →
    r'.HasClaim id → ∃ r, d.task t = some r ∧ r.HasClaim id

namespace Interferes

variable {d₂ d₃ : Db}

theorem refl (held : List (Lock Row)) (d : Db) : Interferes held d d where
  toUndisturbed := .refl held d
  keeps _ r h := ⟨r, h, .refl r⟩
  locked _ _ _ := rfl
  children _ _ _ r' h hp := ⟨r', h, hp⟩
  dependents _ _ _ r' h hp := ⟨r', h, hp⟩
  claims _ _ _ r' h hk := ⟨r', h, hk⟩

theorem trans (h₁ : Interferes held d₁ d₂) (h₂ : Interferes held d₂ d₃) :
    Interferes held d₁ d₃ where
  toUndisturbed := h₁.toUndisturbed.trans h₂.toUndisturbed
  keeps t r h := by
    obtain ⟨r₂, hr₂, hk₂⟩ := h₁.keeps t r h
    obtain ⟨r₃, hr₃, hk₃⟩ := h₂.keeps t r₂ hr₂
    exact ⟨r₃, hr₃, hk₂.trans hk₃⟩
  locked t s hl := (h₂.locked t s hl).trans (h₁.locked t s hl)
  children t hl c r' h hp := by
    obtain ⟨r₂, hr₂, hp₂⟩ := h₂.children t hl c r' h hp
    exact h₁.children t hl c r₂ hr₂ hp₂
  dependents t hl c r' h hp := by
    obtain ⟨r₂, hr₂, hp₂⟩ := h₂.dependents t hl c r' h hp
    exact h₁.dependents t hl c r₂ hr₂ hp₂
  claims id hl t r' h hk := by
    obtain ⟨r₂, hr₂, hk₂⟩ := h₂.claims id hl t r' h hk
    exact h₁.claims id hl t r₂ hr₂ hk₂

theorem weaken (hle : held ⊆ held') (h : Interferes held' d d') : Interferes held d d' where
  toUndisturbed := h.toUndisturbed.weaken hle
  keeps := h.keeps
  locked t s hl := h.locked t s (hle hl)
  children t hl := h.children t (hle hl)
  dependents t hl := h.dependents t (hle hl)
  claims id hl := h.claims id (hle hl)

/-- The holder of a Task's lock may write the Task: others still cannot tell. -/
theorem setTask (r : TaskRecord) (h : Interferes held d d') :
    Interferes held (d.setTask t r) (d'.setTask t r) where
  toUndisturbed := h.toUndisturbed.congr rfl rfl rfl rfl h.objects
  keeps t' r₁ h₁ := by
    rw [Db.task_setTask] at h₁ ⊢
    split at h₁
    case isTrue ht => exact ⟨r, by rw [if_pos ht], Option.some.inj h₁ ▸ .refl _⟩
    case isFalse ht =>
      rw [if_neg ht]
      exact h.keeps t' r₁ h₁
  locked t' s hl := by rw [Db.task_setTask, Db.task_setTask, h.locked t' s hl]
  children t' hl c r' hc hp := by
    rw [Db.task_setTask] at hc ⊢
    split at hc
    case isTrue ht => exact ⟨r', by rw [if_pos ht]; exact hc, hp⟩
    case isFalse ht =>
      rw [if_neg ht]
      exact h.children t' hl c r' hc hp
  dependents t' hl c r' hc hp := by
    rw [Db.task_setTask] at hc ⊢
    split at hc
    case isTrue ht => exact ⟨r', by rw [if_pos ht]; exact hc, hp⟩
    case isFalse ht =>
      rw [if_neg ht]
      exact h.dependents t' hl c r' hc hp
  claims id hl c r' hc hk := by
    rw [Db.task_setTask] at hc ⊢
    split at hc
    case isTrue ht => exact ⟨r', by rw [if_pos ht]; exact hc, hk⟩
    case isFalse ht =>
      rw [if_neg ht]
      exact h.claims id hl c r' hc hk

/-- The tables beside the Tasks may be written as long as that disturbs nobody. -/
theorem sideTables (h : Interferes held d d') (ht : e.tasks = d.tasks) (ht' : e'.tasks = d'.tasks)
    (hside : Undisturbed held e e') : Interferes held e e' := by
  have htask : ∀ t, e.task t = d.task t := fun t => by unfold Db.task; rw [ht]
  have htask' : ∀ t, e'.task t = d'.task t := fun t => by unfold Db.task; rw [ht']
  refine ⟨hside, ?_, ?_, ?_, ?_, ?_⟩ <;> simp only [htask, htask']
  · exact h.keeps
  · exact h.locked
  · exact h.children
  · exact h.dependents
  · exact h.claims

end Interferes

/-! ## Isolating relies -/

/-- A rely under which the locks of the stores protect what they are taken for: it promises at
least `Interferes`, and does not mind the writes the stores make under their locks. -/
structure Isolates (R : Rely Db Row) : Prop where
  interferes : ∀ {held : List (Lock Row)} {d d' : Db}, R.rel held d d' → Interferes held d d'
  setTask : ∀ {held : List (Lock Row)} {d d' : Db} (t : TaskId) (r : TaskRecord),
    R.rel held d d' → R.rel held (d.setTask t r) (d'.setTask t r)
  sideTables : ∀ {held : List (Lock Row)} {d d' e e' : Db}, R.rel held d d' →
    e.tasks = d.tasks → e'.tasks = d'.tasks → Undisturbed held e e' → R.rel held e e'

/-- The rely of the system. With `graph`, a transaction also relies on it that nobody adds a
dependency while it runs; the locks alone do not give that. -/
def rely (graph : Prop) : Rely Db Row where
  rel held d d' := Interferes held d d' ∧ (graph → ∀ t, d'.dependencies t ⊆ d.dependencies t)
  refl held d := ⟨.refl held d, fun _ _ => List.Subset.refl _⟩
  trans _ _ _ _ h₁ h₂ := ⟨h₁.1.trans h₂.1, fun hg t => List.Subset.trans (h₂.2 hg t) (h₁.2 hg t)⟩
  weaken _ _ _ _ hle h := ⟨h.1.weaken hle, h.2⟩

theorem Db.dependencies_setTask (d : Db) (t t' : TaskId) (r : TaskRecord) :
    (d.setTask t r).dependencies t' = if t' = t then r.dependencyIds else d.dependencies t' := by
  unfold Db.dependencies
  rw [Db.task_setTask]
  by_cases h : t' = t <;> simp [h]

theorem isolates_rely (graph : Prop) : Isolates (rely graph) where
  interferes h := h.1
  setTask t r h := by
    refine ⟨h.1.setTask r, fun hg t' => ?_⟩
    rw [Db.dependencies_setTask, Db.dependencies_setTask]
    split
    · exact List.Subset.refl _
    · exact h.2 hg t'
  sideTables h ht ht' hside := by
    refine ⟨h.1.sideTables ht ht' hside, fun hg t => ?_⟩
    have hsubset := h.2 hg t
    unfold Db.dependencies Db.task at hsubset ⊢
    rw [ht, ht']
    exact hsubset

/-- The uploads, the attachments and the objects are left as they were. -/
structure SameAside (d d' : Db) : Prop where
  uploads : d'.uploads = d.uploads
  attachments : d'.attachments = d.attachments
  objects : d'.objects = d.objects

theorem SameAside.refl (d : Db) : SameAside d d := ⟨rfl, rfl, rfl⟩

theorem SameAside.trans {d₂ d₃} (h₁ : SameAside d₁ d₂) (h₂ : SameAside d₂ d₃) :
    SameAside d₁ d₃ :=
  ⟨h₂.uploads.trans h₁.uploads, h₂.attachments.trans h₁.attachments, h₂.objects.trans h₁.objects⟩

theorem Db.sameAside_modifyTask (d : Db) (t : TaskId) (f : TaskRecord → TaskRecord) :
    SameAside d (d.modifyTask t f) := by
  unfold Db.modifyTask
  cases d.task t <;> exact ⟨rfl, rfl, rfl⟩

/-- A commit that has changed the rows of one Task, which it has locked, and no other. -/
structure OnTask (t : TaskId) (held : List (Lock Row)) (d d' : Db) (r r' : TaskRecord) :
    Prop where
  locked : ⟨.task t, .update⟩ ∈ held
  before : d.task t = some r
  after : d'.task t = some r'
  other : ∀ t' ≠ t, d'.task t' = d.task t'
  aside : SameAside d d'

namespace Isolates

variable {R : Rely Db Row} (hR : Isolates R)

include hR

/-! ### Guarded writes -/

theorem safe_setTask (t : TaskId) (r : TaskRecord) : R.Safe held (Db.setTask t r) :=
  fun _ _ _ _ h => hR.setTask t r h

theorem safe_modifyTask (hl : ⟨.task t, .update⟩ ∈ held) (f : TaskRecord → TaskRecord) :
    R.Safe held (Db.modifyTask t f) := by
  intro held' hle d d' h
  have heq : d'.task t = d.task t := (hR.interferes h).locked t .update (hle hl)
  unfold Db.modifyTask
  rw [heq]
  cases d.task t with
  | none => exact h
  | some r => exact hR.setTask t (f r) h

theorem safe_observations (f : Db → Table CodeChangeObservation) :
    R.Safe held fun d => { d with observations := f d } :=
  fun _ _ _ _ h => hR.sideTables h rfl rfl
    ((hR.interferes h).toUndisturbed.congr rfl rfl rfl rfl (hR.interferes h).objects)

theorem safe_repositories (f : Db → Table ProjectRepository) :
    R.Safe held fun d => { d with repositories := f d } :=
  fun _ _ _ _ h => hR.sideTables h rfl rfl
    ((hR.interferes h).toUndisturbed.congr rfl rfl rfl rfl (hR.interferes h).objects)

theorem safe_putObject (key : String) (content : Bytes) :
    R.Safe held fun d => { d with objects := d.objects.insert key content } := by
  intro held' _ d d' h
  refine hR.sideTables h rfl rfl
    ((hR.interferes h).toUndisturbed.congr rfl rfl rfl rfl fun key' s hl => ?_)
  by_cases hkey : key' = key
  · subst hkey
    rw [AList.lookup_insert, AList.lookup_insert]
  · rw [AList.lookup_insert_ne hkey, AList.lookup_insert_ne hkey]
    exact (hR.interferes h).objects key' s hl

theorem safe_deleteObject (key : String) :
    R.Safe held fun d => { d with objects := d.objects.erase key } := by
  intro held' _ d d' h
  refine hR.sideTables h rfl rfl
    ((hR.interferes h).toUndisturbed.congr rfl rfl rfl rfl fun key' s hl => ?_)
  by_cases hkey : key' = key
  · subst hkey
    rw [AList.lookup_erase, AList.lookup_erase]
  · rw [AList.lookup_erase_ne hkey, AList.lookup_erase_ne hkey]
    exact (hR.interferes h).objects key' s hl

theorem safe_setUploads (rows : List (Id × AttachmentUploadSession)) :
    R.Safe held (Db.setUploads rows) :=
  fun _ _ _ _ h => hR.sideTables h rfl rfl ((hR.interferes h).toUndisturbed.setUploads rows)

theorem safe_setAttachments (rows : List (Id × TaskAttachment)) :
    R.Safe held (Db.setAttachments rows) :=
  fun _ _ _ _ h => hR.sideTables h rfl rfl ((hR.interferes h).toUndisturbed.setAttachments rows)

theorem safe_upload (id : Id) (session : AttachmentUploadSession) :
    R.Safe held fun d => { d with uploads := d.uploads.insert id session } :=
  hR.safe_setUploads [(id, session)]

theorem safe_attachment (id : Id) (attachment : TaskAttachment) :
    R.Safe held fun d => { d with attachments := d.attachments.insert id attachment } :=
  hR.safe_setAttachments [(id, attachment)]

/-! ### Owning a Task -/

theorem owns (t : TaskId) : R.Owns ⟨.task t, .update⟩ (taskCell t) where
  exact _ _ _ hl h := (hR.interferes h).locked t .update hl
  put _ _ _ r _ h := hR.setTask t r h

theorem guarded_withTask {α : Type} (t : TaskId) (body : TaskTx α) :
    (withTask t body).Guarded R held fun _ _ => True := by
  have hlocked : ⟨.task t, .update⟩ ∈ (⟨.task t, .update⟩ :: held : List (Lock Row)) :=
    List.mem_cons_self
  have h := Owned.guarded_toTxn (hR.owns t) .notFound body hlocked
  exact Txn.Guarded.mono h fun _ _ _ _ => trivial

/-- A command under a Task's lock finds the Task as it is in the database it commits on, and
changes nothing else. -/
theorem commits_withTask {α : Type} {body : TaskTx α} {a}
    (h : (withTask t body).Commits R held d a held' d') (hbody : ∃ k, body = .own k) :
    ∃ r r', OnTask t held' d d' r r' ∧
      body.Runs R (taskCell t) (⟨.task t, .update⟩ :: held) d r a held' r' := by
  unfold withTask at h
  cases hget : d.task t with
  | none =>
    obtain ⟨k, rfl⟩ := hbody
    exact absurd h (Owned.not_commits_own (hR.owns t) List.mem_cons_self hget)
  | some r =>
    obtain ⟨r', hrun, hget', hother, -, -, huploads, hattachments, hobjects⟩ :=
      Owned.runs_of_commits (hR.owns t) List.mem_cons_self hget ((taskCell t).else_refl d) h
    have hlocked : ⟨.task t, .update⟩ ∈ held' := hrun.held_subset List.mem_cons_self
    exact ⟨r, r', ⟨hlocked, hget, hget', hother, ⟨huploads, hattachments, hobjects⟩⟩, hrun⟩

/-- Under a Task's lock a locked key that no Claim has is free in the whole database. -/
theorem claim_free {d₀ : Db} {r₁ : TaskRecord} {id}
    (hrel : R.rel (⟨.claim id, .update⟩ :: held) d₀ d₁) (habsent : d₀.claim id = none)
    (hget : (taskCell t).get d₁ = some r₁) (helse : (taskCell t).Else d d₁) (hr : d.task t = some r)
    (hkeep : ∀ id, r.HasClaim id → r₁.HasClaim id) : d.claim id = none := by
  rw [Db.claim_eq_none] at habsent ⊢
  have hclaims := (hR.interferes hrel).claims id List.mem_cons_self
  intro t' r' hr' hclaim
  -- The Task itself has the Claims it had, and the others are as they were.
  have hlater : ∃ r₂, d₁.task t' = some r₂ ∧ r₂.HasClaim id := by
    by_cases ht : t' = t
    · subst ht
      rw [hr] at hr'
      cases hr'
      exact ⟨r₁, hget, hkeep id hclaim⟩
    · exact ⟨r', (helse.1 t' ht).trans hr', hclaim⟩
  obtain ⟨r₂, hr₂, hclaim₂⟩ := hlater
  obtain ⟨r₀, hr₀, hclaim₀⟩ := hclaims t' r₂ hr₂ hclaim₂
  exact habsent t' r₀ hr₀ hclaim₀

end Isolates

/-! ## Footprints -/

/-- What a commit that holds the locks `held` may have done to the uploads and attachments: it has
changed only rows it holds, and has added attachments only to Tasks it holds. -/
structure SideFootprint (held : List (Lock Row)) (d d' : Db) : Prop where
  keptUploads : d.uploads.Kept AttachmentUploadSession.Keeps d'.uploads
  keptAttachments : d.attachments.Kept TaskAttachment.Keeps d'.attachments
  uploads : ∀ id, ⟨.upload id, .update⟩ ∉ held → d'.uploads.lookup id = d.uploads.lookup id
  attachments : ∀ id, ⟨.attachment id, .update⟩ ∉ held →
    d'.attachments.lookup id = d.attachments.lookup id
  attached : ∀ t id, d'.Attached t id → d.Attached t id ∨ ⟨.task t, .update⟩ ∈ held
  objects : ∀ key, ⟨.object key, .update⟩ ∉ held → d'.objects.lookup key = d.objects.lookup key

theorem SideFootprint.undisturbed (h : SideFootprint held d d') (hc : Compatible held held') :
    Undisturbed held' d d' where
  keptUploads := h.keptUploads
  keptAttachments := h.keptAttachments
  objects key _ hl := h.objects key (hc.symm.not_update hl)
  uploads id _ hl := h.uploads id (hc.symm.not_update hl)
  attachments id _ hl := h.attachments id (hc.symm.not_update hl)
  attached t hl id hattached := by
    rcases h.attached t id hattached with hold | hlocked
    · exact hold
    · exact absurd hlocked (hc.symm.not_update hl)

/-- A commit that leaves these tables alone. -/
theorem SideFootprint.of_eq (hu : d'.uploads = d.uploads) (ha : d'.attachments = d.attachments)
    (hobjects : ∀ key, ⟨.object key, .update⟩ ∉ held →
      d'.objects.lookup key = d.objects.lookup key) :
    SideFootprint held d d' where
  keptUploads := by rw [hu]; exact .refl .refl _
  keptAttachments := by rw [ha]; exact .refl .refl _
  objects := hobjects
  uploads _ _ := by rw [hu]
  attachments _ _ := by rw [ha]
  attached t id hattached := by
    unfold Db.Attached at hattached ⊢
    rw [← ha]
    exact .inl hattached

theorem SameAside.sideFootprint (h : SameAside d d') : SideFootprint held d d' :=
  .of_eq h.uploads h.attachments fun _ _ => by rw [h.objects]

/-- What a commit that holds the locks `held` may have done: it has changed only Tasks it holds
`FOR UPDATE`, has made Tasks children or dependents only of Tasks it holds, and has added Claims
only under keys it holds. -/
structure Footprint (held : List (Lock Row)) (d d' : Db) : Prop
    extends SideFootprint held d d' where
  tasks : ∀ t, ⟨.task t, .update⟩ ∉ held → d'.task t = d.task t
  keeps : ∀ t r, d.task t = some r → ∃ r', d'.task t = some r' ∧ r.Keeps r'
  children : ∀ c r' p, d'.task c = some r' → r'.row.parentTaskId = some p →
    (∃ r, d.task c = some r ∧ r.row.parentTaskId = some p) ∨ ∃ s, ⟨.task p, s⟩ ∈ held
  dependents : ∀ c r' p, d'.task c = some r' → p ∈ r'.dependencyIds →
    (∃ r, d.task c = some r ∧ p ∈ r.dependencyIds) ∨ ∃ s, ⟨.task p, s⟩ ∈ held
  claims : ∀ t r' id, d'.task t = some r' → r'.HasClaim id →
    (∃ r, d.task t = some r ∧ r.HasClaim id) ∨ ⟨.claim id, .update⟩ ∈ held

/-- Nobody with compatible locks is disturbed beyond `Interferes`. -/
theorem Footprint.interferes (h : Footprint held d d') (hc : Compatible held held') :
    Interferes held' d d' where
  toUndisturbed := h.toSideFootprint.undisturbed hc
  keeps := h.keeps
  locked t _ hl := h.tasks t (hc.symm.not_update hl)
  children t hl c r' hr' hp := by
    rcases h.children c r' t hr' hp with hold | ⟨s, hs⟩
    · exact hold
    · exact absurd hs (hc.symm.not_locked hl s)
  dependents t hl c r' hr' hp := by
    rcases h.dependents c r' t hr' hp with hold | ⟨s, hs⟩
    · exact hold
    · exact absurd hs (hc.symm.not_locked hl s)
  claims id hl t r' hr' hk := by
    rcases h.claims t r' id hr' hk with hold | hs
    · exact hold
    · exact absurd hs (hc.symm.not_update hl)

/-- What is finished stays finished. -/
theorem Footprint.unfinished (h : Footprint held d d') (ht : d.unfinished t = false) :
    d'.unfinished t = false := by
  obtain ⟨r, hr, hterminal⟩ := Db.unfinished_eq_false.mp ht
  obtain ⟨r', hr', hkeeps⟩ := h.keeps t r hr
  exact Db.unfinished_eq_false.mpr ⟨r', hr', (hkeeps.terminal hterminal) ▸ hterminal⟩

/-- A change of one Task that leaves its relationships alone. -/
structure TaskRecord.Local (r r' : TaskRecord) : Prop extends r.Keeps r' where
  milestone : r'.row.milestoneId = r.row.milestoneId
  parent : r'.row.parentTaskId = r.row.parentTaskId
  dependencies : r'.dependencyIds = r.dependencyIds

/-- A Task that is there after a change of one Task is the changed one, or was there. -/
theorem Db.task_cases {c} {r' rc : TaskRecord} (hafter : d'.task t = some r')
    (hother : ∀ t' ≠ t, d'.task t' = d.task t') (hrc : d'.task c = some rc) :
    c = t ∧ rc = r' ∨ d.task c = some rc := by
  by_cases hc : c = t
  · subst hc
    exact .inl ⟨rfl, Option.some.inj (hrc.symm.trans hafter)⟩
  · exact .inr ((hother c hc).symm.trans hrc)

/-- A commit on one Task, and perhaps on uploads and attachments. -/
theorem Footprint.of_local {r' : TaskRecord} (hlocal : r.Local r')
    (hclaims : ∀ id, r'.HasClaim id → r.HasClaim id ∨ ⟨.claim id, .update⟩ ∈ held)
    (hlocked : ⟨.task t, .update⟩ ∈ held) (hbefore : d.task t = some r)
    (hafter : d'.task t = some r') (hother : ∀ t' ≠ t, d'.task t' = d.task t')
    (hside : SideFootprint held d d') : Footprint held d d' where
  toSideFootprint := hside
  tasks t' hl' := hother t' fun heq => hl' (heq ▸ hlocked)
  keeps t' r₁ hr₁ := by
    by_cases ht : t' = t
    · subst ht
      rw [hbefore] at hr₁
      cases hr₁
      exact ⟨r', hafter, hlocal.toKeeps⟩
    · exact ⟨r₁, (hother t' ht).trans hr₁, .refl r₁⟩
  children c r₁ p hr₁ hp := by
    rcases Db.task_cases hafter hother hr₁ with ⟨rfl, rfl⟩ | hold
    · exact .inl ⟨r, hbefore, hlocal.parent ▸ hp⟩
    · exact .inl ⟨r₁, hold, hp⟩
  dependents c r₁ p hr₁ hp := by
    rcases Db.task_cases hafter hother hr₁ with ⟨rfl, rfl⟩ | hold
    · exact .inl ⟨r, hbefore, hlocal.dependencies ▸ hp⟩
    · exact .inl ⟨r₁, hold, hp⟩
  claims c r₁ id hr₁ hk := by
    rcases Db.task_cases hafter hother hr₁ with ⟨rfl, rfl⟩ | hold
    · exact (hclaims id hk).imp_left fun hold => ⟨r, hbefore, hold⟩
    · exact .inl ⟨r₁, hold, hk⟩

/-- A commit that leaves all Tasks alone. -/
theorem Footprint.of_tasks_eq (htasks : d'.tasks = d.tasks) (hside : SideFootprint held d d') :
    Footprint held d d' := by
  have htask : ∀ t, d'.task t = d.task t := fun t => by unfold Db.task; rw [htasks]
  refine ⟨hside, ?_, ?_, ?_, ?_, ?_⟩
  · exact fun t _ => htask t
  · exact fun t r hr => ⟨r, (htask t).trans hr, .refl r⟩
  · exact fun c r' p hr' hp => .inl ⟨r', (htask c).symm.trans hr', hp⟩
  · exact fun c r' p hr' hp => .inl ⟨r', (htask c).symm.trans hr', hp⟩
  · exact fun t r' id hr' hk => .inl ⟨r', (htask t).symm.trans hr', hk⟩

end Pactline
