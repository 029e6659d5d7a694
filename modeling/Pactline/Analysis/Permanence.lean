import Pactline.Model.AttachmentCleanup

/-!
# What no command undoes

Some of what is stored stays for good, whichever commands commit later: the Project of a Task, a
terminal phase, the columns of a Claim that say whose it is and until when, the end of a Claim,
the file of an upload session or of an attachment, and the deletion of an attachment.
-/

set_option autoImplicit false

namespace Pactline

/-! ## Claims -/

/-- A Claim with the columns that updates write blanked out. -/
def TaskStageClaim.fixed (c : TaskStageClaim) : TaskStageClaim :=
  { c with status := .active, outcome := none, version := 0, updatedAt := 0, completedAt := none }

theorem TaskStageClaim.fixed_eq {c c' : TaskStageClaim} (h : c'.fixed = c.fixed) :
    c'.id = c.id ∧ c'.taskNumber = c.taskNumber ∧ c'.stage = c.stage ∧
      c'.expiresAt = c.expiresAt ∧
        ∀ actor operation, c'.OwnedBy actor operation ↔ c.OwnedBy actor operation := by
  simp only [fixed, TaskStageClaim.mk.injEq] at h
  obtain ⟨hid, htask, hstage, hactor, hsubject, hmethod, htoken, -, hrun, -, -, -, -, -, hexpires,
    -⟩ := h
  refine ⟨hid, htask, hstage, hexpires, fun actor operation => ?_⟩
  unfold OwnedBy
  rw [hactor, hsubject, hmethod, htoken, hrun]

/-- The Claim is still there, and has not come back to life. -/
structure TaskStageClaim.Keeps (c c' : TaskStageClaim) : Prop where
  fixed : c'.fixed = c.fixed
  ended : c.status ≠ .active → c'.status ≠ .active

theorem TaskStageClaim.Keeps.refl (c : TaskStageClaim) : c.Keeps c := ⟨rfl, fun h => h⟩

theorem TaskStageClaim.Keeps.trans {c₁ c₂ c₃ : TaskStageClaim} (h₁ : c₁.Keeps c₂)
    (h₂ : c₂.Keeps c₃) : c₁.Keeps c₃ :=
  ⟨h₂.fixed.trans h₁.fixed, fun hended => h₂.ended (h₁.ended hended)⟩

/-! ## Tasks -/

/-- Every Claim of the Task is still there. -/
def TaskRecord.KeepsClaims (r r' : TaskRecord) : Prop :=
  ∀ k ∈ r.claims, ∃ k' ∈ r'.claims, k.Keeps k'

theorem TaskRecord.KeepsClaims.of_eq {r r' : TaskRecord} (h : r'.claims = r.claims) :
    r.KeepsClaims r' :=
  fun k hk => ⟨k, h ▸ hk, .refl k⟩

theorem TaskRecord.KeepsClaims.trans {r₁ r₂ r₃ : TaskRecord} (h₁ : r₁.KeepsClaims r₂)
    (h₂ : r₂.KeepsClaims r₃) : r₁.KeepsClaims r₃ := by
  intro k hk
  obtain ⟨k₂, hk₂, hkeeps₂⟩ := h₁ k hk
  obtain ⟨k₃, hk₃, hkeeps₃⟩ := h₂ k₂ hk₂
  exact ⟨k₃, hk₃, hkeeps₂.trans hkeeps₃⟩

/-- What stays of a Task. -/
structure TaskRecord.Keeps (r r' : TaskRecord) : Prop where
  project : r'.row.projectId = r.row.projectId
  terminal : r.row.lifecycle.phase.Terminal → r'.row.lifecycle.phase = r.row.lifecycle.phase
  claims : r.KeepsClaims r'

namespace TaskRecord.Keeps

variable {r₁ r₂ r₃ : TaskRecord}

theorem refl (r : TaskRecord) : r.Keeps r := ⟨rfl, fun _ => rfl, .of_eq rfl⟩

theorem trans (h₁ : r₁.Keeps r₂) (h₂ : r₂.Keeps r₃) : r₁.Keeps r₃ where
  project := h₂.project.trans h₁.project
  terminal ht := by
    have hphase := h₁.terminal ht
    rw [h₂.terminal (by rw [hphase]; exact ht), hphase]
  claims := h₁.claims.trans h₂.claims

end TaskRecord.Keeps

/-! ## Uploads and attachments -/

/-- An upload session with the columns that updates write blanked out. -/
def AttachmentUploadSession.fixed (s : AttachmentUploadSession) : AttachmentUploadSession :=
  { s with status := .pending, attachmentId := none }

/-- An upload session leaves the state `pending` once. -/
structure AttachmentUploadSession.Keeps (s s' : AttachmentUploadSession) : Prop where
  fixed : s'.fixed = s.fixed
  settled : s.status ≠ .pending → s' = s

theorem AttachmentUploadSession.Keeps.refl (s : AttachmentUploadSession) : s.Keeps s :=
  ⟨rfl, fun _ => rfl⟩

theorem AttachmentUploadSession.Keeps.trans {s₁ s₂ s₃ : AttachmentUploadSession}
    (h₁ : s₁.Keeps s₂) (h₂ : s₂.Keeps s₃) : s₁.Keeps s₃ where
  fixed := h₂.fixed.trans h₁.fixed
  settled hs := by
    have heq := h₁.settled hs
    subst heq
    exact h₂.settled hs

/-- An attachment with the columns that updates write blanked out. -/
def TaskAttachment.fixed (a : TaskAttachment) : TaskAttachment :=
  { a with
    version := 0, deletedAt := none, cleanupAttemptedAt := none, cleanupError := none
    cleanedAt := none }

theorem TaskAttachment.fixed_eq {a a' : TaskAttachment} (h : a'.fixed = a.fixed) :
    a'.taskId = a.taskId ∧ a'.filename = a.filename ∧ a'.mediaType = a.mediaType ∧
      a'.objectKey = a.objectKey ∧ a'.sizeBytes = a.sizeBytes := by
  simp only [fixed, TaskAttachment.mk.injEq] at h
  obtain ⟨htask, -, hfilename, hmedia, hsize, -, hkey, -⟩ := h
  exact ⟨htask, hfilename, hmedia, hkey, hsize⟩

theorem AttachmentUploadSession.fixed_eq {s s' : AttachmentUploadSession}
    (h : s'.fixed = s.fixed) :
    s'.taskId = s.taskId ∧ s'.objectKey = s.objectKey ∧ s'.expectedSize = s.expectedSize := by
  simp only [fixed, AttachmentUploadSession.mk.injEq] at h
  obtain ⟨htask, -, -, hkey, -, -, hsize, -⟩ := h
  exact ⟨htask, hkey, hsize⟩

/-- The file of an attachment stays, and a deletion is never taken back. -/
structure TaskAttachment.Keeps (a a' : TaskAttachment) : Prop where
  fixed : a'.fixed = a.fixed
  deleted : a.deletedAt ≠ none → a'.deletedAt ≠ none

theorem TaskAttachment.Keeps.refl (a : TaskAttachment) : a.Keeps a := ⟨rfl, fun h => h⟩

theorem TaskAttachment.Keeps.trans {a₁ a₂ a₃ : TaskAttachment} (h₁ : a₁.Keeps a₂)
    (h₂ : a₂.Keeps a₃) : a₁.Keeps a₃ :=
  ⟨h₂.fixed.trans h₁.fixed, fun hdeleted => h₂.deleted (h₁.deleted hdeleted)⟩

/-! ## Tables -/

/-- No row is removed, and `K` relates each row to what it has become. -/
def Table.Kept {V : Type} (K : V → V → Prop) (table table' : Table V) : Prop :=
  ∀ id v, table.lookup id = some v → ∃ v', table'.lookup id = some v' ∧ K v v'

namespace Table.Kept

variable {V : Type} {K : V → V → Prop} {table table' t₁ t₂ t₃ : Table V}

theorem refl (hK : ∀ v, K v v) (table : Table V) : Kept K table table :=
  fun _ v hv => ⟨v, hv, hK v⟩

theorem trans (hK : ∀ v₁ v₂ v₃, K v₁ v₂ → K v₂ v₃ → K v₁ v₃) (h₁ : Kept K t₁ t₂)
    (h₂ : Kept K t₂ t₃) : Kept K t₁ t₃ := by
  intro id v hv
  obtain ⟨v₂, hv₂, hk₂⟩ := h₁ id v hv
  obtain ⟨v₃, hv₃, hk₃⟩ := h₂ id v₂ hv₂
  exact ⟨v₃, hv₃, hK v v₂ v₃ hk₂ hk₃⟩

/-- Both sides write the same rows. -/
theorem insertAll (hK : ∀ v, K v v) (rows : List (Nat × V)) (h : Kept K table table') :
    Kept K (table.insertAll rows) (table'.insertAll rows) := by
  intro id v hv
  rcases Table.lookup_insertAll_cases rows table id with ⟨w, hw, -⟩ | ⟨hnone, hlookup⟩
  · exact ⟨v, (Table.lookup_insertAll_eq hw).trans hv, hK v⟩
  · obtain ⟨v', hv', hk⟩ := h id v (hlookup.symm.trans hv)
    exact ⟨v', (Table.lookup_insertAll_of_notMem hnone).trans hv', hk⟩

/-- Rows are written that come from what they replace. -/
theorem of_rows (hK : ∀ v, K v v) {rows}
    (h : ∀ e ∈ rows, ∀ v, table.lookup e.1 = some v → K v e.2) :
    Kept K table (table.insertAll rows) := by
  intro id v hv
  rcases Table.lookup_insertAll_cases rows table id with ⟨w, hw, hlookup⟩ | ⟨-, hlookup⟩
  · exact ⟨w, hlookup, h _ hw v hv⟩
  · exact ⟨v, hlookup.trans hv, hK v⟩

end Table.Kept

end Pactline
