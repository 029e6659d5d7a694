import Mathlib.Algebra.Ring.Nat
import Pactline.Analysis.History

/-!
# Upload sessions and attachments over a history

What a commit may do to one upload session (`UploadChange`) and to one attachment
(`AttachmentChange`), and what follows for a whole history: how often a session has been handed to
the cleanup and has become an attachment (`History.ledger`), which session an attachment comes from
(`History.attachment_session`), and how many attachments a Task has
(`History.activeAttachments_le`).
-/

set_option autoImplicit false

namespace Pactline

open ReadCommitted AList AttachmentUploadSession List

variable {log : List Entry} {id : Id} {d d' : Db} {s : AttachmentUploadSession} {a : TaskAttachment}
  {platform : Platform} {e : Entry} {t : TaskId}

/-! ## What stays -/

section Kept

variable {R : Rely Db Row} {held : List (Lock Row)} {c : Cmd}

theorem Step.sideFootprint (h : Step platform R held d d' c) : SideFootprint held d d' := by
  cases h with
  | onTask on => exact on.aside.sideFootprint
  | create created => exact created.aside.sideFootprint
  | update updated => exact updated.aside.sideFootprint
  | completeUpload pending completed => exact completed.sideFootprint pending
  | side side => exact side.sideFootprint

theorem History.keptUploads (h : History platform d log d') :
    d.uploads.Kept AttachmentUploadSession.Keeps d'.uploads := by
  refine h.invariant (P := fun d' => d.uploads.Kept AttachmentUploadSession.Keeps d'.uploads)
    (.refl .refl _) fun e hv hkept => ?_
  exact hkept.trans (fun _ _ _ => .trans) (step_of_valid hv).sideFootprint.keptUploads

theorem History.keptAttachments (h : History platform d log d') :
    d.attachments.Kept TaskAttachment.Keeps d'.attachments := by
  refine h.invariant (P := fun d' => d.attachments.Kept TaskAttachment.Keeps d'.attachments)
    (.refl .refl _) fun e hv hkept => ?_
  exact hkept.trans (fun _ _ _ => .trans) (step_of_valid hv).sideFootprint.keptAttachments

end Kept

/-! ## One session -/

/-- The sessions that a reply hands to the cleanup. -/
def Reply.expiredIds : Reply → List Id
  | .expiredUploads claimed => claimed.map fun e => e.1
  | _ => []

/-- The reply says that an attachment has been stored. -/
def Reply.stored : Reply → Bool
  | .completion result => result.stored
  | _ => false

/-- The command completes the session. -/
def Cmd.completes (id : Id) : Cmd → Bool
  | .completeUpload id' _ _ _ _ _ _ _ => id' = id
  | _ => false

/-- The commit has made an attachment of the session. -/
def produces (id : Id) (e : Entry) : Bool := e.cmd.completes id && e.reply.stored

/-- The command may write upload sessions. -/
def Cmd.onUploads : Cmd → Bool
  | .createUpload _ _ _ | .completeUpload _ _ _ _ _ _ _ _ | .claimExpiredUploads _ _ _ => true
  | _ => false

/-- What a commit may do to the upload session `id`. -/
inductive UploadChange (id : Id) (e : Entry) :
    Option AttachmentUploadSession → Option AttachmentUploadSession → Prop
  | same {found} (returned : id ∉ e.reply.expiredIds)
      (produced : produces id e = false) : UploadChange id e found found
  | start {session : AttachmentUploadSession} {now}
      (cmd : e.cmd = .createUpload id session now) (returned : id ∉ e.reply.expiredIds)
      (produced : produces id e = false) : UploadChange id e none (some session.started)
  | late {uploaderId info v actor attachmentId now inspected} {s : AttachmentUploadSession}
      (cmd : e.cmd = .completeUpload id uploaderId info v actor attachmentId now inspected)
      (pending : s.status = .pending) (late : s.expiresAt < now)
      (returned : id ∉ e.reply.expiredIds) (produced : produces id e = false) :
      UploadChange id e (some s) (some s.expired)
  | claim {s : AttachmentUploadSession} (pending : s.status = .pending)
      (returned : e.reply.expiredIds.count id = 1) (produced : produces id e = false) :
      UploadChange id e (some s) (some s.expired)
  | complete {uploaderId info v actor attachmentId now inspected} {s : AttachmentUploadSession}
      (cmd : e.cmd = .completeUpload id uploaderId info v actor attachmentId now inspected)
      (pending : s.status = .pending) (deadline : now ≤ s.expiresAt)
      (returned : id ∉ e.reply.expiredIds) (produced : produces id e = true) :
      UploadChange id e (some s) (some (s.completed attachmentId))

section Changes

/-- Only the batches of expired sessions hand sessions over. -/
theorem expiredIds_of_onUploads (hv : e.Valid (prog platform) fun _ => rely False)
    (hc : e.cmd.onUploads = false) : e.reply.expiredIds = [] := by
  obtain ⟨c, reply, held, d, d'⟩ := e
  simp only [Commit.Valid] at hv
  cases c <;> simp only [prog] at hv <;> obtain ⟨_, rfl, -⟩ := Txn.commits_of_bind_pure hv
  case claimExpiredUploads => cases hc
  all_goals rfl

theorem produces_of_onUploads (hc : e.cmd.onUploads = false) : produces id e = false := by
  obtain ⟨c, reply, held, d, d'⟩ := e
  unfold produces
  cases c
  case completeUpload => cases hc
  all_goals rfl

theorem Step.uploads_eq {R held} {c : Cmd}
    (h : Step platform R held d d' c) (hc : c.onUploads = false) : d'.uploads = d.uploads := by
  cases h with
  | onTask on => exact on.aside.uploads
  | create created => exact created.aside.uploads
  | update updated => exact updated.aside.uploads
  | completeUpload => cases hc
  | side side =>
    cases side with
    | provide _ _ aside => exact aside.uploads
    | startUpload | expireUpload | claimExpired => cases hc
    | rewrite _ _ _ after =>
      rw [after]
      rfl
    | put _ after | delete _ after => rw [after]
    | read _ same => rw [same]

/-- What a commit does to an upload session. -/
theorem uploadChange_of_valid (hv : e.Valid (prog platform) fun _ => rely False) (id : Id) :
    UploadChange id e (e.before.uploads.lookup id) (e.after.uploads.lookup id) := by
  by_cases hc : e.cmd.onUploads = false
  · have hreturned := expiredIds_of_onUploads hv hc
    rw [(step_of_valid hv).uploads_eq hc]
    exact .same (by rw [hreturned]; exact not_mem_nil) (produces_of_onUploads hc)
  obtain ⟨c, reply, held, d, d'⟩ := e
  have hR := isolates_rely False
  simp only [Commit.Valid] at hv
  cases c <;> simp only [prog] at hv <;> obtain ⟨result, rfl, h⟩ := Txn.commits_of_bind_pure hv
  case createUpload id' session now =>
    have hstarted := createUploadSession_commits hR h
    have hafter := hstarted.after
    subst hafter
    by_cases hid : id = id'
    · subst hid
      simp only [lookup_insert, hstarted.absent]
      exact .start rfl not_mem_nil rfl
    · simp only [lookup_insert_ne hid]
      exact .same not_mem_nil rfl
  case completeUpload id' uploaderId info v actor attachmentId now inspected =>
    obtain ⟨s, hpending, ⟨hlate, hresult, hafter⟩ | ⟨hstored, r, hcompleted⟩⟩ :=
      completeUploadSession_commits hR h
    · subst hresult hafter
      have hproduced : produces id ⟨.completeUpload id' uploaderId info v actor attachmentId now
          inspected, .completion .expired, held, d, d.setUploads [(id', s.expired)]⟩ = false := by
        unfold produces
        exact Bool.and_false _
      by_cases hid : id = id'
      · subst hid
        rw [hpending.found]
        have hlookup : (d.setUploads [(id, s.expired)]).uploads.lookup id = some s.expired :=
          lookup_insert _
        rw [hlookup]
        exact .late rfl hpending.pending hlate not_mem_nil hproduced
      · have hlookup : (d.setUploads [(id', s.expired)]).uploads.lookup id = d.uploads.lookup id :=
          lookup_insert_ne hid
        rw [hlookup]
        exact .same not_mem_nil hproduced
    · simp only [hcompleted.uploads]
      by_cases hid : id = id'
      · subst hid
        rw [hpending.found, lookup_insert]
        refine .complete rfl hpending.pending hcompleted.deadline not_mem_nil ?_
        simp [produces, Cmd.completes, Reply.stored, hstored]
      · rw [lookup_insert_ne hid]
        refine .same not_mem_nil ?_
        simp [produces, Cmd.completes, Ne.symm hid]
  case claimExpiredUploads limit ids now =>
    obtain ⟨hnodup, -, hfound, hafter⟩ := claimExpiredUploadSessions_commits hR h
    subst hafter
    rcases Table.lookup_insertAll_cases result d.uploads id with
      ⟨s', hs', hlookup⟩ | ⟨hnone, hlookup⟩
    · obtain ⟨s, hs, hpending, -, rfl⟩ := hfound _ hs'
      have hmem : id ∈ result.map fun e => e.1 := mem_map.mpr ⟨_, hs', rfl⟩
      refine (hlookup.trans rfl : (d.setUploads result).uploads.lookup id = some s.expired) ▸ ?_
      rw [hs]
      exact .claim hpending (count_eq_one_of_mem hnodup hmem) rfl
    · refine (hlookup : (d.setUploads result).uploads.lookup id = d.uploads.lookup id) ▸ ?_
      refine .same (fun hmem => ?_) rfl
      obtain ⟨e, he, heq⟩ := mem_map.mp hmem
      exact hnone e he heq
  all_goals exact absurd rfl hc

end Changes

/-! ## Ledgers -/

/-- How often the commits of a log have handed the session to the cleanup. -/
def handedOver (id : Id) (log : List Entry) : Nat :=
  (log.map fun e => e.reply.expiredIds.count id).sum

/-- How often the commits of a log have made an attachment of the session. -/
def produced (id : Id) (log : List Entry) : Nat := log.countP (produces id)

/-- What the log knows of the session: completed sessions have become one attachment and no others
have, and only an expired session has been handed over, once. -/
structure Ledger (id : Id) (log : List Entry) (found : Option AttachmentUploadSession) : Prop where
  produced : produced id log = if found.map (·.status) = some .completed then 1 else 0
  handedOver : handedOver id log ≤ if found.map (·.status) = some .expired then 1 else 0

/-- The session that a completion names, its time and the content its caller has inspected. -/
def Cmd.completion : Cmd → Option (Id × Time × Bytes)
  | .completeUpload id _ _ _ _ _ now inspected => some (id, now, inspected)
  | _ => none

/-- The completion comes in time for the session it finds. -/
def CompletesInTime (e : Entry) : Prop :=
  ∀ x ∈ e.cmd.completion, ∀ s ∈ e.before.uploads.lookup x.1, s.status = .pending →
    x.2.1 ≤ s.expiresAt
deriving Decidable

section Ledgers

variable {found found' : Option AttachmentUploadSession}

theorem handedOver_cons : handedOver id (e :: log) = e.reply.expiredIds.count id +
    handedOver id log := rfl

theorem produced_cons : produced id (e :: log) = produced id log +
    if produces id e = true then 1 else 0 :=
  countP_cons

/-- A commit keeps the ledger of a session. -/
theorem UploadChange.ledger (h : UploadChange id e found found') (hledger : Ledger id log found) :
    Ledger id (e :: log) found' := by
  obtain ⟨hproduced, hhanded⟩ := hledger
  constructor
  · rw [produced_cons, hproduced]
    cases h with
    | same _ produced => simp [produced]
    | start _ _ produced => simp [produced, started]
    | late _ pending _ _ produced | claim pending _ produced =>
      simp [produced, pending, expired]
    | complete _ pending _ _ produced =>
      simp [produced, pending, completed]
  · rw [handedOver_cons]
    cases h with
    | same returned | start _ returned =>
      rw [count_eq_zero_of_not_mem returned, Nat.zero_add]
      exact hhanded
    | late _ pending _ returned =>
      simp only [Option.map_some, pending, Option.some.injEq, reduceCtorEq, if_false] at hhanded
      simp [count_eq_zero_of_not_mem returned, expired]
      omega
    | claim pending returned =>
      simp only [Option.map_some, pending, Option.some.injEq, reduceCtorEq, if_false] at hhanded
      simp [returned, expired]
      omega
    | complete _ pending _ returned =>
      simp only [Option.map_some, pending, Option.some.injEq, reduceCtorEq, if_false] at hhanded
      simp [count_eq_zero_of_not_mem returned, completed]
      omega

/-- The ledger of every session is in order. -/
theorem History.ledger (h : History platform Db.empty log d) (id : Id) :
    Ledger id log (d.uploads.lookup id) := by
  refine Serial.history (P := fun log d => Ledger id log (d.uploads.lookup id)) h ?_ ?_
  · exact ⟨rfl, Nat.le_refl _⟩
  · exact fun e older hv hledger => (uploadChange_of_valid hv id).ledger hledger

/-- If every completion comes in time, an expired session has been handed over. -/
theorem History.handedOver_pos (h : History platform Db.empty log d)
    (hlog : ∀ e ∈ log, CompletesInTime e) (hs : d.uploads.lookup id = some s)
    (hexpired : s.status = .expired) : 0 < handedOver id log := by
  refine Serial.history (P := fun log d => (∀ e ∈ log, CompletesInTime e) →
    ∀ s, d.uploads.lookup id = some s → s.status = .expired → 0 < handedOver id log)
    h ?_ ?_ hlog s hs hexpired
  · intro _ s hs
    cases hs
  · intro e older hv ih hlog s hs hexpired
    have holder := ih fun e' he' => hlog e' (mem_cons_of_mem e he')
    have hchange := uploadChange_of_valid hv id
    rw [hs] at hchange
    rw [handedOver_cons]
    generalize hfound : e.before.uploads.lookup id = found at hchange
    cases hchange with
    | same => exact Nat.add_pos_right _ (holder s hfound hexpired)
    | start | complete => cases hexpired
    | late cmd pending late =>
      have hintime := hlog e mem_cons_self (id, _, _) (by rw [cmd]; rfl) _ hfound pending
      exact absurd late (not_lt.mpr hintime)
    | claim _ returned => omega

end Ledgers

/-! ## One attachment -/

/-- What a commit may do to the attachment `id`. -/
inductive AttachmentChange (id : Id) (e : Entry) :
    Option TaskAttachment → Option TaskAttachment → Prop
  | same {found} : AttachmentChange id e found found
  | rewrite {a a' : TaskAttachment} (keeps : a.Keeps a') : AttachmentChange id e (some a) (some a')
  | store {sessionId uploaderId info v actor now inspected} {s : AttachmentUploadSession}
      {mediaType}
      (cmd : e.cmd = .completeUpload sessionId uploaderId info v actor id now inspected)
      (found : e.before.uploads.lookup sessionId = some s) (pending : s.status = .pending)
      (deadline : now ≤ s.expiresAt)
      (after : e.after.uploads.lookup sessionId = some (s.completed id)) :
      AttachmentChange id e none (some (s.attachment mediaType))

section Attachments

/-- What a commit does to an attachment. -/
theorem attachmentChange_of_valid (hv : e.Valid (prog platform) fun _ => rely False) (id : Id) :
    AttachmentChange id e (e.before.attachments.lookup id) (e.after.attachments.lookup id) := by
  have hsame : e.after.attachments = e.before.attachments →
      AttachmentChange id e (e.before.attachments.lookup id) (e.after.attachments.lookup id) :=
    fun heq => heq ▸ .same
  generalize hc : e.cmd = c at *
  have h := step_of_valid hv
  rw [hc] at h
  cases h with
  | onTask on => exact hsame on.aside.attachments
  | create created => exact hsame created.aside.attachments
  | update updated => exact hsame updated.aside.attachments
  | @completeUpload _ _ _ _ _ attachmentId _ _ session r pending completed =>
    rw [completed.attachments]
    by_cases hid : id = attachmentId
    · subst hid
      rw [completed.absent, lookup_insert]
      refine .store hc pending.found pending.pending completed.deadline ?_
      rw [completed.uploads, lookup_insert]
    · rw [lookup_insert_ne hid]
      exact .same
  | side side =>
    cases side with
    | provide _ _ aside => exact hsame aside.attachments
    | startUpload started =>
      apply hsame
      rw [started.after]
    | expireUpload _ _ after | claimExpired _ _ after =>
      apply hsame
      rw [after]
      rfl
    | put _ after | delete _ after =>
      apply hsame
      rw [after]
    | @rewrite _ rows _ _ found after =>
      have hcases := Table.lookup_insertAll_cases rows e.before.attachments id
      have hafter : e.after.attachments = e.before.attachments.insertAll rows := by
        rw [after]
        rfl
      rw [← hafter] at hcases
      rcases hcases with ⟨a', ha', hlookup⟩ | ⟨-, hlookup⟩
      · obtain ⟨a, ha, hkeeps⟩ := found _ ha'
        rw [hlookup, ha]
        exact .rewrite hkeeps
      · rw [hlookup]
        exact .same
    | read _ same =>
      apply hsame
      rw [same]

/-- An attachment comes from a completed session, which names it and has its object. -/
structure ComesFrom (d : Db) (id : Id) (a : TaskAttachment) (sessionId : Id)
    (s : AttachmentUploadSession) : Prop where
  found : d.uploads.lookup sessionId = some s
  completed : s.status = .completed
  names : s.attachmentId = some id
  objectKey : s.objectKey = a.objectKey
  size : s.expectedSize = a.sizeBytes

theorem ComesFrom.of_keeps {sessionId a'} (h : ComesFrom d id a sessionId s)
    (hkept : d.uploads.Kept AttachmentUploadSession.Keeps d'.uploads) (hkeeps : a.Keeps a') :
    ComesFrom d' id a' sessionId s := by
  obtain ⟨s', hs', hsettled⟩ := hkept sessionId s h.found
  have heq : s' = s := hsettled.settled (by rw [h.completed]; decide)
  subst heq
  obtain ⟨-, -, -, hkey, hsize⟩ := TaskAttachment.fixed_eq hkeeps.fixed
  exact ⟨hs', h.completed, h.names, h.objectKey.trans hkey.symm, h.size.trans hsize.symm⟩

/-- Every attachment comes from a completed session. -/
theorem History.attachment_session (h : History platform Db.empty log d)
    (ha : d.attachments.lookup id = some a) : ∃ sessionId s, ComesFrom d id a sessionId s := by
  refine Serial.history (P := fun _ d => ∀ a, d.attachments.lookup id = some a →
    ∃ sessionId s, ComesFrom d id a sessionId s) h ?_ ?_ a ha
  · intro a ha
    cases ha
  · intro e older hv ih a ha
    have hkept := (step_of_valid hv).sideFootprint.keptUploads
    have hchange := attachmentChange_of_valid hv id
    rw [ha] at hchange
    generalize hfound : e.before.attachments.lookup id = found at hchange
    cases hchange with
    | same =>
      obtain ⟨sessionId, s, hcomes⟩ := ih a hfound
      exact ⟨sessionId, s, hcomes.of_keeps hkept (.refl a)⟩
    | rewrite keeps =>
      obtain ⟨sessionId, s, hcomes⟩ := ih _ hfound
      exact ⟨sessionId, s, hcomes.of_keeps hkept keeps⟩
    | @store sessionId _ _ _ _ _ _ s _ _ _ _ _ after =>
      exact ⟨sessionId, s.completed id, after, rfl, rfl, rfl, rfl⟩

end Attachments

/-! ## One object -/

/-- What a commit may do to the object `key`. -/
inductive ObjectChange (key : String) (e : Entry) : Option Bytes → Option Bytes → Prop
  | same {found} : ObjectChange key e found found
  | put {found content} (cmd : e.cmd = .putObject key content) :
      ObjectChange key e found (some content)
  | delete {found reason} (cmd : e.cmd = .deleteObject key reason) :
      ObjectChange key e found none

/-- What a commit does to an object. -/
theorem objectChange_of_valid (hv : e.Valid (prog platform) fun _ => rely False) (key : String) :
    ObjectChange key e (e.before.objects.lookup key) (e.after.objects.lookup key) := by
  have hsame : e.after.objects = e.before.objects →
      ObjectChange key e (e.before.objects.lookup key) (e.after.objects.lookup key) :=
    fun heq => heq ▸ .same
  generalize hc : e.cmd = c at *
  have h := step_of_valid hv
  rw [hc] at h
  cases h with
  | onTask on => exact hsame on.aside.objects
  | create created => exact hsame created.aside.objects
  | update updated => exact hsame updated.aside.objects
  | completeUpload _ completed => exact hsame completed.objects
  | side side =>
    cases side with
    | provide _ _ aside => exact hsame aside.objects
    | startUpload started =>
      apply hsame
      rw [started.after]
    | expireUpload _ _ after | claimExpired _ _ after | rewrite _ _ _ after =>
      apply hsame
      rw [after]
      rfl
    | @put key' content _ after =>
      rw [after]
      by_cases hkey : key = key'
      · subst hkey
        rw [lookup_insert]
        exact .put hc
      · rw [lookup_insert_ne hkey]
        exact .same
    | @delete key' reason _ after =>
      rw [after]
      by_cases hkey : key = key'
      · subst hkey
        rw [lookup_erase]
        exact .delete hc
      · rw [lookup_erase_ne hkey]
        exact .same
    | read _ same =>
      apply hsame
      rw [same]

/-! ## How many attachments a Task has -/

namespace Db

end Db

theorem AttachmentChange.attached
    (h : AttachmentChange id e (e.before.attachments.lookup id) (e.after.attachments.lookup id))
    (hid : e.after.Attached t id) :
    e.before.Attached t id ∨ ∃ sessionId uploaderId info v actor now inspected,
      e.cmd = .completeUpload sessionId uploaderId info v actor id now inspected := by
  obtain ⟨a, ha, htask, hactive⟩ := hid
  rw [ha] at h
  generalize hfound : e.before.attachments.lookup id = found at h
  cases h with
  | same => exact .inl ⟨a, hfound, htask, hactive⟩
  | @rewrite a₀ _ keeps =>
    refine .inl ⟨a₀, hfound, (TaskAttachment.fixed_eq keeps.fixed).1.symm.trans htask, ?_⟩
    by_contra hdeleted
    exact keeps.deleted hdeleted hactive
  | store cmd => exact .inr ⟨_, _, _, _, _, _, _, cmd⟩

end Pactline
