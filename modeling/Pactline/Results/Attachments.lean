import Pactline.Analysis.AttachmentClients
import Pactline.Results.WorkflowState

/-!
# Attachments, their uploads and their objects

The rows of uploads and attachments are always in order, and the cleanup deletes no object that is
still needed (`attachments_in_order`). Two things depend on how the calls interleave: an expired
session is handed to the cleanup unless a late completion marked it (`expired_uploads_handed_over`),
and an attachment keeps the object that was inspected unless a call acts on what it read too long
ago (`attachments_keep_inspected_object`).
-/

set_option autoImplicit false

namespace Pactline

open ReadCommitted List

variable {id : Id} {a : TaskAttachment} {e : Entry} {older : List Entry}

/-! ## Rows and deletions -/

/-- Clients around one upload of two bytes to Task 1, which is completed at `completion` as
attachment 21 and deleted at once; the cleanup works at `cleanup`. -/
def uploadClients (completion cleanup : Time) : List ServiceClient :=
  [.script [sampleCreate 1 none []],
    AttachmentService.startUpload asciiPlatform 1 7 11 "a.txt" "text/plain" 2 fun _ => 200,
    AttachmentService.uploadLocal 1 11 7 (asciiBytes "ok") 2 300,
    AttachmentService.uploadLocal 1 11 7 (asciiBytes "no") 2 300,
    AttachmentService.completeUpload asciiPlatform 11 7 1 sampleOperation 21 completion,
    .script [.softDelete 1 21 1 completion],
    AttachmentCleanup.runOnce [21] [11] "" fun _ => cleanup]

/-- The clients connect; then the sessions work in turns of the given lengths. -/
def uploadSchedule (completion cleanup : Time) (turns : List (Nat × Nat)) : Schedule :=
  (uploadClients completion cleanup).map .connect ++
    turns.flatMap fun turn => advances turn.1 turn.2

theorem serves_uploadSchedule (completion cleanup : Time) (turns : List (Nat × Nat)) :
    (uploadSchedule completion cleanup turns).Serves asciiPlatform := by
  intro client hmem
  rcases mem_append.mp hmem with hclient | hturn
  · obtain ⟨client', hclient, heq⟩ := mem_map.mp hclient
    cases heq
    simp only [uploadClients, mem_cons, not_mem_nil, or_false] at hclient
    rcases hclient with rfl | rfl | rfl | rfl | rfl | rfl | rfl
    · exact .other _ ⟨rfl, fun _ => trivial⟩
    · exact .startUpload _ _ _ _ _ _ _
    · exact .uploadLocal _ _ _ _ _ _
    · exact .uploadLocal _ _ _ _ _ _
    · exact .completeUpload _ _ _ _ _ _
    · exact .other _ ⟨rfl, fun _ => trivial⟩
    · exact .runOnce _ _ _ _
  · obtain ⟨turn, -, hadvance⟩ := mem_flatMap.mp hturn
    cases eq_of_mem_replicate hadvance

/-- In every run in which every completion comes in time for the session it finds, an expired
session has been handed to the cleanup exactly once. -/
theorem expired_uploads_handed_over {platform : Platform} {es : Schedule} {cfg : SystemConfig}
    (h : runFrom platform Db.empty es = some cfg) (hlog : ∀ e ∈ cfg.log, CompletesInTime e)
    {id : Id} {s : AttachmentUploadSession} (hs : cfg.db.uploads.lookup id = some s)
    (hexpired : s.status = .expired) : handedOver id cfg.log = 1 := by
  have hhistory := history_of_runFrom lawful_empty h
  have hpos := hhistory.handedOver_pos hlog hs hexpired
  have hle := (hhistory.ledger id).handedOver
  rw [hs, Option.map_some, hexpired, if_pos rfl] at hle
  omega

/-- Nobody completes the upload, and the cleanup takes it. -/
theorem expired_uploads_handed_over_once :
    ∃ cfg s, runFrom asciiPlatform Db.empty
        (uploadSchedule 400 1800000400 [(0, 10), (1, 6), (2, 7), (6, 14)]) = some cfg ∧
      cfg.db.uploads.lookup 11 = some s ∧ s.status = .expired ∧ handedOver 11 cfg.log = 1 := by
  obtain ⟨cfg, hcfg, hlog, s, hs, hexpired⟩ : ∃ cfg, runFrom asciiPlatform Db.empty
        (uploadSchedule 400 1800000400 [(0, 10), (1, 6), (2, 7), (6, 14)]) = some cfg ∧
      (∀ e ∈ cfg.log, CompletesInTime e) ∧
      ∃ s, cfg.db.uploads.lookup 11 = some s ∧ s.status = .expired := by decide +kernel
  exact ⟨cfg, s, hcfg, hs, hexpired, expired_uploads_handed_over hcfg hlog hs hexpired⟩

/-- The completion comes too late and marks the session; the cleanup that follows does not find
it, and its object stays. -/
theorem late_completion_hides_upload :
    ∃ cfg s, runFrom asciiPlatform Db.empty (uploadSchedule 1800000300 1800000400
        [(0, 10), (1, 6), (2, 7), (4, 16), (6, 10)]) = some cfg ∧
      cfg.db.uploads.lookup 11 = some s ∧ s.status = .expired ∧ handedOver 11 cfg.log = 0 ∧
      cfg.db.objects.lookup s.objectKey = some (asciiBytes "ok") := by
  simp only [exists_and_left]
  decide +kernel

/-! ## Inspected objects -/

/-- The key whose object the command replaces or removes for an upload that is under way. -/
def Cmd.disturbs : Cmd → Option String
  | .putObject key _ | .deleteObject key .refused => some key
  | _ => none

/-- The command still finds what the call it belongs to has read: no session with the key is
completed when content is put or refused, and the object is the inspected one when the session is
completed. -/
def StillAsRead (e : Entry) : Prop :=
  (∀ key ∈ e.cmd.disturbs, ∀ u ∈ e.before.uploads.entries, u.2.objectKey = key →
    u.2.status ≠ .completed) ∧
  ∀ x ∈ e.cmd.completion, ∀ s ∈ e.before.uploads.lookup x.1, s.status = .pending →
    x.2.1 ≤ s.expiresAt → e.before.objects.lookup s.objectKey = some x.2.2
deriving Decidable

/-- The commit has completed a session as the attachment `id` after `inspected` was looked at. -/
def Inspected (id : Id) (inspected : Bytes) (e : Entry) : Prop :=
  ∃ sessionId uploaderId info v actor now,
    e.cmd = .completeUpload sessionId uploaderId info v actor id now inspected

section Objects

variable {platform : Platform} {d : Db} {log : List Entry}

/-- Every attachment was made by a completion. -/
theorem History.attachment_made (h : History platform Db.empty log d)
    (ha : d.attachments.lookup id = some a) : ∃ e ∈ log, ∃ inspected, Inspected id inspected e := by
  refine Serial.history (P := fun log d => ∀ a, d.attachments.lookup id = some a →
    ∃ e ∈ log, ∃ inspected, Inspected id inspected e) h ?_ ?_ a ha
  · intro a ha
    cases ha
  · intro e older hv ih a ha
    have hchange := attachmentChange_of_valid hv id
    rw [ha] at hchange
    generalize hfound : e.before.attachments.lookup id = found at hchange
    have hold : ∀ a₀, e.before.attachments.lookup id = some a₀ →
        ∃ e' ∈ e :: older, ∃ inspected, Inspected id inspected e' := by
      intro a₀ ha₀
      obtain ⟨e', he', hmade⟩ := ih a₀ ha₀
      exact ⟨e', mem_cons_of_mem e he', hmade⟩
    cases hchange with
    | same => exact hold a hfound
    | rewrite => exact hold _ hfound
    | store cmd => exact ⟨e, mem_cons_self, _, _, _, _, _, _, _, cmd⟩

/-- Content is at the key of a session that it fits. -/
theorem History.object_fits (h : History platform Db.empty log d)
    (hobeys : Obeys (SourcedEntry platform) log) {key} {content : Bytes}
    (hcontent : d.objects.lookup key = some content) :
    ∃ id s, d.uploads.lookup id = some s ∧ s.objectKey = key ∧
      (content.length : Int) = s.expectedSize := by
  refine Serial.history (P := fun log d => Obeys (SourcedEntry platform) log →
    ∀ content, d.objects.lookup key = some content → ∃ id s, d.uploads.lookup id = some s ∧
      s.objectKey = key ∧ (content.length : Int) = s.expectedSize) h ?_ ?_ hobeys content hcontent
  · intro _ content hcontent
    cases hcontent
  · intro e older hv ih hobeys content hcontent
    have hone : History platform e.before [e] e.after := ⟨rfl, hv, rfl⟩
    have hcarry : (∃ id s, e.before.uploads.lookup id = some s ∧ s.objectKey = key ∧
        (content.length : Int) = s.expectedSize) → ∃ id s, e.after.uploads.lookup id = some s ∧
          s.objectKey = key ∧ (content.length : Int) = s.expectedSize := by
      rintro ⟨id, s, hs, hkey, hsize⟩
      obtain ⟨s', hs', hkey', hsize', -⟩ := hone.session_kept hs
      exact ⟨id, s', hs', hkey'.trans hkey, hsize.trans hsize'.symm⟩
    have hchange := objectChange_of_valid hv key
    rw [hcontent] at hchange
    generalize hfound : e.before.objects.lookup key = found at hchange
    cases hchange with
    | same => exact hcarry (ih hobeys.2 content hfound)
    | put cmd =>
      have hsourced := hobeys.1
      unfold SourcedEntry at hsourced
      rw [cmd] at hsourced
      cases hsourced with
      | putObject found key_eq size => exact hcarry ⟨_, _, found, key_eq, size⟩
      | other h => cases h

/-- A commit that still finds what its call has read leaves the object of an attachment alone. -/
theorem object_kept (hv : e.Valid (prog platform) fun _ => rely False)
    (h : History platform Db.empty older e.before) (hobeys : Obeys (SourcedEntry platform) older)
    (hsourced : SourcedEntry platform older e) (hstill : StillAsRead e)
    (ha : e.before.attachments.lookup id = some a) (hactive : a.deletedAt = none) :
    e.after.objects.lookup a.objectKey = e.before.objects.lookup a.objectKey := by
  obtain ⟨sessionId, s, hcomes⟩ := h.attachment_session ha
  have hdisturbs : a.objectKey ∉ e.cmd.disturbs := fun hmem =>
    hstill.1 a.objectKey hmem ⟨sessionId, s⟩ (AList.mem_lookup_iff.mp hcomes.found) hcomes.objectKey
      hcomes.completed
  have hchange := objectChange_of_valid hv a.objectKey
  generalize e.after.objects.lookup a.objectKey = after at hchange
  cases hchange with
  | same => rfl
  | put cmd => exact absurd (by rw [cmd]; rfl) hdisturbs
  | @delete reason cmd =>
    by_cases hreason : reason = .refused
    · subst hreason
      exact absurd (by rw [cmd]; rfl) hdisturbs
    · unfold SourcedEntry at hsourced
      rw [cmd] at hsourced
      exact absurd rfl (hsourced.not_attached h hobeys hreason ha hactive)

/-- The object of the attachment is the one that passed the inspection when it was made. -/
def AsInspected (log : List Entry) (d : Db) (id : Id) (a : TaskAttachment) : Prop :=
  ∃ e ∈ log, ∃ inspected, Inspected id inspected e ∧
    d.objects.lookup a.objectKey = some inspected ∧
    validateAttachmentContentSignature (signatureHeader (inspected.take 512)) = .ok ()

/-- A commit that leaves the object leaves it as inspected. -/
theorem AsInspected.step {a' : TaskAttachment} (h : AsInspected older e.before id a)
    (hkey : a'.objectKey = a.objectKey)
    (hkept : e.after.objects.lookup a.objectKey = e.before.objects.lookup a.objectKey) :
    AsInspected (e :: older) e.after id a' := by
  obtain ⟨e', he', inspected, hinspected, hobject, hsignature⟩ := h
  refine ⟨e', mem_cons_of_mem e he', inspected, hinspected, ?_, hsignature⟩
  rw [hkey, hkept, hobject]

/-- A completion that still finds the inspected object makes an attachment of it. -/
theorem asInspected_store {sessionId uploaderId info v actor now inspected}
    {s : AttachmentUploadSession}
    {mediaType} (hv : e.Valid (prog platform) fun _ => rely False)
    (hsourced : SourcedEntry platform older e) (hstill : StillAsRead e)
    (cmd : e.cmd = .completeUpload sessionId uploaderId info v actor id now inspected)
    (found : e.before.uploads.lookup sessionId = some s) (pending : s.status = .pending)
    (deadline : now ≤ s.expiresAt) :
    AsInspected (e :: older) e.after id (s.attachment mediaType) := by
  have hobject : e.before.objects.lookup s.objectKey = some inspected :=
    hstill.2 (sessionId, now, inspected) (by rw [cmd]; rfl) s found pending deadline
  have hsame : e.after.objects.lookup s.objectKey = e.before.objects.lookup s.objectKey := by
    have hchange := objectChange_of_valid hv s.objectKey
    generalize e.after.objects.lookup s.objectKey = after at hchange
    cases hchange with
    | same => rfl
    | put cmd' | delete cmd' =>
      rw [cmd] at cmd'
      cases cmd'
  refine ⟨e, mem_cons_self, inspected, ⟨_, _, _, _, _, _, cmd⟩, hsame.trans hobject, ?_⟩
  unfold SourcedEntry at hsourced
  rw [cmd] at hsourced
  cases hsourced with
  | complete _ _ _ _ signature => exact signature
  | other h => cases h

/-- The objects of the attachments are those that were inspected. -/
theorem History.asInspected (h : History platform Db.empty log d)
    (hobeys : Obeys (SourcedEntry platform) log) (hlog : ∀ e ∈ log, StillAsRead e)
    (ha : d.attachments.lookup id = some a) (hactive : a.deletedAt = none) :
    AsInspected log d id a := by
  refine (Serial.history (P := fun log d => Obeys (SourcedEntry platform) log →
    (∀ e ∈ log, StillAsRead e) → History platform Db.empty log d ∧
      ∀ a, d.attachments.lookup id = some a → a.deletedAt = none → AsInspected log d id a)
    h ?_ ?_ hobeys hlog).2 a ha hactive
  · refine fun _ _ => ⟨rfl, fun a ha => ?_⟩
    cases ha
  · intro e older hv ih hobeys hlog
    obtain ⟨hsourced, holder⟩ := hobeys
    obtain ⟨hhistory, ih⟩ := ih holder fun e' he' => hlog e' (mem_cons_of_mem e he')
    refine ⟨⟨rfl, hv, hhistory⟩, fun a ha hactive => ?_⟩
    have hstill := hlog e mem_cons_self
    have hchange := attachmentChange_of_valid hv id
    rw [ha] at hchange
    generalize hfound : e.before.attachments.lookup id = found at hchange
    cases hchange with
    | same =>
      exact (ih a hfound hactive).step rfl
        (object_kept hv hhistory holder hsourced hstill hfound hactive)
    | @rewrite a₀ _ keeps =>
      have hactive₀ : a₀.deletedAt = none := by
        by_contra hdeleted
        exact keeps.deleted hdeleted hactive
      obtain ⟨-, -, -, hkey, -⟩ := TaskAttachment.fixed_eq keeps.fixed
      exact (ih a₀ hfound hactive₀).step hkey
        (object_kept hv hhistory holder hsourced hstill hfound hactive₀)
    | store cmd found pending deadline =>
      exact asInspected_store hv hsourced hstill cmd found pending deadline

end Objects

/-- In every run of the services in which every command still finds what its call has read, each
attachment that is not deleted has an object, and its bytes are those that were inspected, in size
and signature, when its session was completed. -/
theorem attachments_keep_inspected_object {platform : Platform} {es : Schedule}
    {cfg : SystemConfig} (hclients : es.Serves platform)
    (h : runFrom platform Db.empty es = some cfg) (hlog : ∀ e ∈ cfg.log, StillAsRead e) {id : Id}
    {a : TaskAttachment} (ha : cfg.db.attachments.lookup id = some a)
    (hactive : a.deletedAt = none) :
    ∃ e ∈ cfg.log, ∃ inspected, Inspected id inspected e ∧
      cfg.db.objects.lookup a.objectKey = some inspected ∧
      (inspected.length : Int) = a.sizeBytes ∧
      validateAttachmentContentSignature (signatureHeader (inspected.take 512)) = .ok () := by
  have hhistory := history_of_runFrom lawful_empty h
  have hobeys := sourced_of_runFrom hclients h
  obtain ⟨e, he, inspected, hinspected, hobject, hsignature⟩ :=
    hhistory.asInspected hobeys hlog ha hactive
  refine ⟨e, he, inspected, hinspected, hobject, ?_, hsignature⟩
  obtain ⟨id', s', hs', hkey', hsize'⟩ := hhistory.object_fits hobeys hobject
  obtain ⟨sessionId, s, hcomes⟩ := hhistory.attachment_session ha
  have hsame := hhistory.session_unique hobeys hs' hcomes.found (hkey'.trans hcomes.objectKey.symm)
  subst hsame
  have heq := hs'.symm.trans hcomes.found
  cases heq
  exact hsize'.trans hcomes.size

/-- The upload is completed, and its object is the inspected one. -/
theorem attachments_keep_inspected_object_completed :
    ∃ cfg a, runFrom asciiPlatform Db.empty
        (uploadSchedule 400 600 [(0, 10), (1, 6), (2, 7), (4, 26)]) = some cfg ∧
      cfg.db.attachments.lookup 21 = some a ∧ a.deletedAt = none ∧
      ∃ e ∈ cfg.log, ∃ inspected, Inspected 21 inspected e ∧
        cfg.db.objects.lookup a.objectKey = some inspected := by
  obtain ⟨cfg, hcfg, hlog, a, ha, hactive⟩ : ∃ cfg, runFrom asciiPlatform Db.empty
        (uploadSchedule 400 600 [(0, 10), (1, 6), (2, 7), (4, 26)]) = some cfg ∧
      (∀ e ∈ cfg.log, StillAsRead e) ∧
      ∃ a, cfg.db.attachments.lookup 21 = some a ∧ a.deletedAt = none := by decide +kernel
  obtain ⟨e, he, inspected, hinspected, hobject, -⟩ :=
    attachments_keep_inspected_object (serves_uploadSchedule _ _ _) hcfg hlog ha hactive
  exact ⟨cfg, a, hcfg, ha, hactive, e, he, inspected, hinspected, hobject⟩

/-- A second upload reads the session while it is pending and puts its content after the session
has been completed with the first one. -/
theorem late_put_replaces_object :
    ∃ cfg a, (uploadSchedule 400 600
        [(0, 10), (1, 6), (2, 7), (3, 4), (4, 26), (3, 3)]).Serves asciiPlatform ∧
      runFrom asciiPlatform Db.empty (uploadSchedule 400 600
        [(0, 10), (1, 6), (2, 7), (3, 4), (4, 26), (3, 3)]) = some cfg ∧
      cfg.db.attachments.lookup 21 = some a ∧ a.deletedAt = none ∧
      (∃ e ∈ cfg.log, Inspected 21 (asciiBytes "ok") e) ∧
      cfg.db.objects.lookup a.objectKey = some (asciiBytes "no") ∧
      ∀ e ∈ cfg.log, ∀ inspected, Inspected 21 inspected e →
        cfg.db.objects.lookup a.objectKey ≠ some inspected := by
  obtain ⟨cfg, hcfg, hcompletions, a, ha, hactive, hobject⟩ : ∃ cfg,
      runFrom asciiPlatform Db.empty (uploadSchedule 400 600
        [(0, 10), (1, 6), (2, 7), (3, 4), (4, 26), (3, 3)]) = some cfg ∧
      (∀ e ∈ cfg.log, ∀ x ∈ e.cmd.completion, x.2.2 = asciiBytes "ok") ∧
      ∃ a, cfg.db.attachments.lookup 21 = some a ∧ a.deletedAt = none ∧
        cfg.db.objects.lookup a.objectKey = some (asciiBytes "no") := by decide +kernel
  have hinspected : ∀ e ∈ cfg.log, ∀ inspected, Inspected 21 inspected e →
      inspected = asciiBytes "ok" := by
    rintro e he inspected ⟨sessionId, uploaderId, info, v, actor, now, hcmd⟩
    exact hcompletions e he (sessionId, now, inspected) (by rw [hcmd]; rfl)
  refine ⟨cfg, a, serves_uploadSchedule _ _ _, hcfg, ha, hactive, ?_, hobject, ?_⟩
  · obtain ⟨e, he, inspected, hin⟩ :=
      (history_of_runFrom lawful_empty hcfg).attachment_made ha
    exact ⟨e, he, hinspected e he inspected hin ▸ hin⟩
  · intro e he inspected hin
    rw [hinspected e he inspected hin, hobject]
    decide

end Pactline
