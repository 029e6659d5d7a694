import Pactline.Model.WorkspaceSystem

/-!
# Isolation in the workspace

What the transactions of the workspace may do to each other. A row that is locked is left alone;
whoever holds a Project `FOR UPDATE` also finds that it gets no new unfinished Tasks, because the
`INSERT` of a Task locks the Project; whoever holds a Thread finds that it does not get resolved;
and whoever holds a Connection `FOR UPDATE` finds that no Project gets bound to it
(`WorkInterferes`).

Two things are not protected by any lock: that the users read by a membership command stay active,
and that the Thread read by an edit stays open. They hold only where certain transactions do not
overlap, and are therefore parameters of the rely.
-/

set_option autoImplicit false

namespace Pactline

open ReadCommitted Workspace List

/-! ## Unfinished Tasks and resolved Threads -/

/-- The Task belongs to the Project and is neither done nor cancelled. -/
def Db.Unfinished (d : Db) (p : Id) (t : TaskId) : Prop :=
  ∃ r, d.task t = some r ∧ r.row.projectId = p ∧ ¬ r.row.lifecycle.phase.Terminal

theorem Db.countUnfinished_eq_zero {d : Db} {p} :
    d.countUnfinished (fun t => t.projectId = p) = 0 ↔ ∀ t, ¬ d.Unfinished p t := by
  simp only [countUnfinished, length_eq_zero_iff, filter_eq_nil_iff, Bool.and_eq_true,
    decide_eq_true_eq, Bool.not_eq_true', decide_eq_false_iff_not, not_and, not_not]
  constructor
  · rintro h t ⟨r, hr, hproject, hphase⟩
    exact hphase (h ⟨t, r⟩ (AList.mem_lookup_iff.mp hr) hproject)
  · rintro h ⟨t, r⟩ hmem hproject
    by_contra hphase
    exact h t ⟨r, AList.mem_lookup_iff.mpr hmem, hproject, hphase⟩

theorem Db.mem_threads {d : Db} {threadId t} {x : Thread} :
    (t, x) ∈ d.threads threadId ↔ ∃ r, d.task t = some r ∧ x ∈ r.threads ∧ x.id = threadId := by
  simp only [threads, mem_flatMap, mem_map, mem_filter, decide_eq_true_eq, Prod.mk.injEq]
  constructor
  · rintro ⟨⟨t', r⟩, hmem, x', ⟨hx, hid⟩, rfl, rfl⟩
    exact ⟨r, AList.mem_lookup_iff.mpr hmem, hx, hid⟩
  · rintro ⟨r, hr, hx, hid⟩
    exact ⟨⟨t, r⟩, AList.mem_lookup_iff.mp hr, x, ⟨hx, hid⟩, rfl, rfl⟩

theorem Db.resolved_iff {d : Db} {threadId} :
    d.resolved threadId = true ↔ ∃ t r x, d.task t = some r ∧ x ∈ r.threads ∧ x.id = threadId ∧
      x.issueStatus = some .resolved := by
  simp only [resolved, any_eq_true, decide_eq_true_eq]
  constructor
  · rintro ⟨⟨t, x⟩, hmem, hstatus⟩
    obtain ⟨r, hr, hx, hid⟩ := mem_threads.mp hmem
    exact ⟨t, r, x, hr, hx, hid, hstatus⟩
  · rintro ⟨t, r, x, hr, hx, hid, hstatus⟩
    exact ⟨(t, x), mem_threads.mpr ⟨r, hr, hx, hid⟩, hstatus⟩

/-- The Project has a repository of the Connection that is not unbound. -/
def ProjectRecord.Binds (r : ProjectRecord) (connectionId : Id) : Prop :=
  ∃ b ∈ r.repositories.entries, b.2.connectionId = connectionId ∧ b.2.unboundAt = none

/-- The Project exists and is bound to the Connection. -/
def Workspace.Bound (d : Workspace) (p connectionId : Id) : Prop :=
  ∃ r, d.project p = some r ∧ r.Binds connectionId

theorem Workspace.bound_iff {d : Workspace} {connectionId} :
    d.bound connectionId = true ↔ ∃ p, d.Bound p connectionId := by
  simp only [bound, any_eq_true, Bool.and_eq_true, decide_eq_true_eq, Option.isNone_iff_eq_none]
  constructor
  · rintro ⟨⟨p, r⟩, hmem, b, hb, hconnection, hactive⟩
    exact ⟨p, r, AList.mem_lookup_iff.mpr hmem, b, hb, hconnection, hactive⟩
  · rintro ⟨p, r, hr, b, hb, hconnection, hactive⟩
    exact ⟨⟨p, r⟩, AList.mem_lookup_iff.mp hr, b, hb, hconnection, hactive⟩

/-! ## Interference -/

/-- What the commits of others may do while the locks `held` are held. -/
structure WorkInterferes (keepsActive keepsOpen : Prop) (held : List (Lock WorkRow))
    (d d' : Workspace) : Prop where
  projects : projectTable.Untouched .project held d d'
  users : userTable.Untouched .user held d d'
  messages : messageTable.Untouched .message held d d'
  connections : connectionTable.Untouched .connection held d d'
  conversations : conversationTable.Untouched .conversation held d d'
  unfinished : ∀ p, ⟨.project p, .update⟩ ∈ held →
    ∀ t, d'.tasks.Unfinished p t → d.tasks.Unfinished p t
  threads : ∀ x s, ⟨.task (.thread x), s⟩ ∈ held →
    d'.tasks.resolved x = true → d.tasks.resolved x = true
  bindings : ∀ k, ⟨.connection k, .update⟩ ∈ held → ∀ p, d'.Bound p k → d.Bound p k
  active : keepsActive → ∀ u, d.Active u → d'.Active u
  «open» : keepsOpen → ∀ x, d'.tasks.resolved x = true → d.tasks.resolved x = true

/-- What a transaction outside the Task system relies on. -/
def workRely (keepsActive keepsOpen : Prop) : Rely Workspace WorkRow where
  rel := WorkInterferes keepsActive keepsOpen
  refl _ _ :=
    { projects := .of_eq rfl, users := .of_eq rfl, messages := .of_eq rfl, connections := .of_eq rfl
      conversations := .of_eq rfl, unfinished := fun _ _ _ h => h, threads := fun _ _ _ h => h
      bindings := fun _ _ _ h => h, active := fun _ _ h => h, «open» := fun _ _ h => h }
  trans _ _ _ _ h₁ h₂ :=
    { projects := h₁.projects.trans h₂.projects
      users := h₁.users.trans h₂.users
      messages := h₁.messages.trans h₂.messages
      connections := h₁.connections.trans h₂.connections
      conversations := h₁.conversations.trans h₂.conversations
      unfinished := fun p hp t h => h₁.unfinished p hp t (h₂.unfinished p hp t h)
      threads := fun x s hs h => h₁.threads x s hs (h₂.threads x s hs h)
      bindings := fun k hk p h => h₁.bindings k hk p (h₂.bindings k hk p h)
      active := fun ha u h => h₂.active ha u (h₁.active ha u h)
      «open» := fun ho x h => h₁.open ho x (h₂.open ho x h) }
  weaken _ _ _ _ hle h :=
    { projects := h.projects.weaken hle
      users := h.users.weaken hle
      messages := h.messages.weaken hle
      connections := h.connections.weaken hle
      conversations := h.conversations.weaken hle
      unfinished := fun p hp => h.unfinished p (hle hp)
      threads := fun x s hs => h.threads x s (hle hs)
      bindings := fun k hk => h.bindings k (hle hk)
      active := h.active, «open» := h.open }

section Owners

variable {keepsActive keepsOpen : Prop} (id : Id)

@[simp] theorem owns_project : (workRely keepsActive keepsOpen).Owns ⟨.project id, .update⟩
    (projectTable.cell id) where
  exact _ _ _ hl h := h.projects id .update hl
  put _ _ _ v _ h := { h with
    projects := h.projects.put id v
    bindings := by
      intro k hk p hbound
      have hkept := h.bindings k hk p
      unfold Workspace.Bound project at hkept hbound ⊢
      simp only [Lens.cell, projectTable] at hbound ⊢
      by_cases hid : p = id
      · subst hid
        rw [AList.lookup_insert] at hbound ⊢
        exact hbound
      · rw [AList.lookup_insert_ne hid] at hbound ⊢
        exact hkept hbound }

@[simp] theorem owns_user : (workRely keepsActive keepsOpen).Owns ⟨.user id, .update⟩
    (userTable.cell id) where
  exact _ _ _ hl h := h.users id .update hl
  put _ _ _ v _ h := { h with
    users := h.users.put id v
    active := by
      intro ha u hu
      have hkept := h.active ha u
      unfold Workspace.Active at hkept hu ⊢
      simp only [Lens.cell, userTable] at hu ⊢
      by_cases hid : u = id
      · subst hid
        rw [AList.lookup_insert] at hu ⊢
        exact hu
      · rw [AList.lookup_insert_ne hid] at hu ⊢
        exact hkept hu }

@[simp] theorem owns_message : (workRely keepsActive keepsOpen).Owns ⟨.message id, .update⟩
    (messageTable.cell id) where
  exact _ _ _ hl h := h.messages id .update hl
  put _ _ _ v _ h := { h with messages := h.messages.put id v }

@[simp] theorem owns_connection : (workRely keepsActive keepsOpen).Owns ⟨.connection id, .update⟩
    (connectionTable.cell id) where
  exact _ _ _ hl h := h.connections id .update hl
  put _ _ _ v _ h := { h with connections := h.connections.put id v }

@[simp] theorem owns_conversation :
    (workRely keepsActive keepsOpen).Owns ⟨.conversation id, .update⟩
    (conversationTable.cell id) where
  exact _ _ _ hl h := h.conversations id .update hl
  put _ _ _ v _ h := { h with conversations := h.conversations.put id v }

end Owners

/-! ## Commits on one row -/

/-- A commit has changed one row, under its lock, and nothing else. -/
structure OnRow {V : Type} (table : Lens Workspace (Table V)) (row : Id → WorkRow) (id : Id)
    (held : List (Lock WorkRow)) (d d' : Workspace) (v v' : V) : Prop where
  locked : ⟨row id, .update⟩ ∈ held
  before : (table.get d).lookup id = some v
  after : (table.get d').lookup id = some v'
  other : (table.cell id).Else d d'

/-- A commit has added one row and changed nothing else. -/
structure Inserted {V : Type} (table : Lens Workspace (Table V)) (row : Id → WorkRow) (id : Id)
    (held : List (Lock WorkRow)) (d d' : Workspace) (v' : V) : Prop where
  locked : ⟨row id, .update⟩ ∈ held
  absent : (table.get d).lookup id = none
  after : (table.get d').lookup id = some v'
  other : (table.cell id).Else d d'

/-- What a commit does to a table: nothing, or one row changes or is added. -/
inductive TableChange {V : Type} (table : Lens Workspace (Table V)) (row : Id → WorkRow)
    (held : List (Lock WorkRow)) (d d' : Workspace) (change : Id → Option V → V → Prop) : Prop
  | same (heq : table.get d' = table.get d)
  | step {id v v'} (on : OnRow table row id held d d' v v') (hchange : change id (some v) v')
  | insert {id v'} (new : Inserted table row id held d d' v') (hchange : change id none v')

section Rows

variable {V α : Type} {table : Lens Workspace (Table V)} {row : Id → WorkRow} {id : Id}
  {R : Rely Workspace WorkRow} {held held' : List (Lock WorkRow)} {d d' : Workspace} {a : α}

namespace TableChange

variable {change : Id → Option V → V → Prop} {v v' : V}

theorem after (h : TableChange table row held d d' change) (hrefl : ∀ k v, change k (some v) v)
    (hv' : (table.get d').lookup id = some v') : change id ((table.get d).lookup id) v' := by
  have hsame : (table.get d').lookup id = (table.get d).lookup id →
      change id ((table.get d).lookup id) v' := by
    intro heq
    rw [← heq, hv']
    exact hrefl id v'
  cases h with
  | same heq => exact hsame (by rw [heq])
  | @step k v w on hchange =>
    by_cases hk : id = k
    · subst hk
      cases on.after.symm.trans hv'
      rwa [on.before]
    · exact hsame (Lens.lookup_of_else on.other hk)
  | @insert k w new hchange =>
    by_cases hk : id = k
    · subst hk
      cases new.after.symm.trans hv'
      rwa [new.absent]
    · exact hsame (Lens.lookup_of_else new.other hk)

theorem before (h : TableChange table row held d d' change) (hrefl : ∀ k v, change k (some v) v)
    (hv : (table.get d).lookup id = some v) :
    ∃ v', (table.get d').lookup id = some v' ∧ change id (some v) v' := by
  have hthere : ∃ v', (table.get d').lookup id = some v' := by
    cases h with
    | same heq => exact ⟨v, heq ▸ hv⟩
    | @step k _ w on =>
      by_cases hk : id = k
      · exact ⟨w, hk ▸ on.after⟩
      · exact ⟨v, (Lens.lookup_of_else on.other hk).trans hv⟩
    | @insert k w new =>
      by_cases hk : id = k
      · exact ⟨w, hk ▸ new.after⟩
      · exact ⟨v, (Lens.lookup_of_else new.other hk).trans hv⟩
  obtain ⟨v', hv'⟩ := hthere
  have hchange := h.after hrefl hv'
  rw [hv] at hchange
  exact ⟨v', hv', hchange⟩

theorem untouched (h : TableChange table row held d d' change)
    (hcompatible : Compatible held held') :
    table.Untouched row held' d d' := by
  cases h with
  | same heq => exact .of_eq heq
  | step on => exact .of_else on.other on.locked hcompatible
  | insert new => exact .of_else new.other new.locked hcompatible

end TableChange

@[simp] theorem guarded_withRow (hown : R.Owns ⟨row id, .update⟩ (table.cell id))
    {body : V → RowTx V α} :
    (withRow table row id body).Guarded R held fun _ _ => True := by
  have hlocked : ⟨row id, .update⟩ ∈ (⟨row id, .update⟩ :: held : List (Lock WorkRow)) :=
    mem_cons_self
  have hguarded := Owned.guarded_toTxn hown .notFound (Owned.own body) hlocked
  exact Txn.Guarded.mono hguarded fun _ _ _ _ => trivial

@[simp] theorem guarded_insertRow (hown : R.Owns ⟨row id, .update⟩ (table.cell id)) {v : V}
    {index : String} {body : RowTx V α} :
    (insertRow table row id v index body).Guarded R held fun _ _ => True :=
  Txn.Guarded.mono (Owned.guarded_create hown) fun _ _ _ _ => trivial

theorem commits_withRow (hown : R.Owns ⟨row id, .update⟩ (table.cell id)) {body}
    (h : (withRow table row id body).Commits R held d a held' d') :
    ∃ v v', OnRow table row id held' d d' v v' ∧
      (body v).Runs R (table.cell id) (⟨row id, .update⟩ :: held) d v a held' v' := by
  unfold withRow at h
  have hmem : ⟨row id, .update⟩ ∈ (⟨row id, .update⟩ :: held : List (Lock WorkRow)) :=
    mem_cons_self
  cases hget : (table.get d).lookup id with
  | none => exact absurd h (Owned.not_commits_own hown hmem hget)
  | some v =>
    obtain ⟨v', hrun, hafter, hother⟩ :=
      Owned.runs_of_commits hown hmem hget ((table.cell id).else_refl d) h
    exact ⟨v, v', ⟨hrun.held_subset hmem, hget, hafter, hother⟩, hrun⟩

theorem commits_insertRow (hown : R.Owns ⟨row id, .update⟩ (table.cell id)) {v index}
    {body : RowTx V α}
    (h : (insertRow table row id v index body).Commits R held d a held' d') :
    ∃ v', Inserted table row id held' d d' v' ∧
      body.Runs R (table.cell id) (⟨row id, .update⟩ :: held) d v a held' v' := by
  obtain ⟨habsent, v', hrun, hafter, hother⟩ := Owned.runs_of_create hown h
  exact ⟨v', ⟨hrun.held_subset mem_cons_self, habsent, hafter, hother⟩, hrun⟩

end Rows

end Pactline
