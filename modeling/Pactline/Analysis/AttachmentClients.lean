import Pactline.Analysis.Uploads
import Pactline.Model.AttachmentService

/-!
# What the attachment services do over several transactions

A service call acts on what it has read before, while others commit in between. `Sourced` says what
is still certain when one of its commands commits: that a session's object key is the one made for
it, that content goes to the key of a session it fits, that a completion has read the content it was
given, and that the cleanup deletes the objects of deleted attachments and expired sessions only.
-/

set_option autoImplicit false

namespace Pactline

open ReadCommitted AttachmentCleanup List

variable {c : Cmd} {limit : Int} {ids : List Id} {platform : Platform} {a : TaskAttachment}

variable {id id' : Id} {newer : List Entry} {d' : Db} {s session : AttachmentUploadSession}
  {e : Entry} {now : Time} {claimed : List (Id × TaskAttachment)}

/-! ## Object keys -/

theorem toList_toString (n : Nat) : (toString n).toList = Nat.toDigits 10 n := by
  rw [Nat.toString_eq_ofList_toDigits, String.toList_ofList]

theorem slash_notMem_digits (n : Nat) : '/' ∉ Nat.toDigits 10 n := by
  intro hmem
  have hdigit := Nat.isDigit_of_mem_toDigits (by decide) (by decide) hmem
  revert hdigit
  decide

/-- The last element of the key is the identity of its session. -/
theorem takeWhile_objectKey (t : TaskId) (id : Id) :
    (AttachmentService.objectKey t id).toList.reverse.takeWhile (· ≠ '/') =
      (Nat.toDigits 10 id).reverse := by
  unfold AttachmentService.objectKey
  simp only [String.toList_append, reverse_append, append_assoc, toList_toString]
  rw [takeWhile_append_of_pos]
  · change _ ++ takeWhile _ ('/' :: _) = _
    simp
  · intro c hc
    have hne : c ≠ '/' := fun heq => slash_notMem_digits id (heq ▸ mem_reverse.mp hc)
    exact decide_eq_true hne

theorem objectKey_injective {t t'}
    (h : AttachmentService.objectKey t id = AttachmentService.objectKey t' id') : id = id' := by
  have hdigits : Nat.toDigits 10 id = Nat.toDigits 10 id' := by
    apply reverse_injective
    rw [← takeWhile_objectKey t id, ← takeWhile_objectKey t' id', h]
  have hvalue := congrArg (fun digits => Nat.ofDigitChars 10 digits 0) hdigits
  simpa only [Nat.ofDigitChars_ten_toDigits] using hvalue

/-! ## Where the arguments come from -/

/-- What is certain about a command of the services when it commits on `d` after the commits of
`older`. -/
inductive Sourced (platform : Platform) (older : List Entry) (d : Db) : Cmd → Prop
  | createUpload {id : Id} {session : AttachmentUploadSession} {now : Time}
      (key : session.objectKey = AttachmentService.objectKey session.taskId id) :
      Sourced platform older d (.createUpload id session now)
  | putObject {key} {content : Bytes} {id} {s : AttachmentUploadSession}
      (found : d.uploads.lookup id = some s) (key_eq : s.objectKey = key)
      (size : (content.length : Int) = s.expectedSize) :
      Sourced platform older d (.putObject key content)
  | refuse {key id} {s : AttachmentUploadSession}
      (found : d.uploads.lookup id = some s) (key_eq : s.objectKey = key) :
      Sourced platform older d (.deleteObject key .refused)
  | complete {id uploaderId info v actor attachmentId now} {inspected : Bytes}
      {s : AttachmentUploadSession}
      {e : Entry} (found : d.uploads.lookup id = some s) (read : e ∈ older)
      (cmd : e.cmd = .openObject s.objectKey) (reply : e.reply = .content inspected)
      (signature : validateAttachmentContentSignature (signatureHeader (inspected.take 512)) =
        .ok ()) :
      Sourced platform older d
        (.completeUpload id uploaderId info v actor attachmentId now inspected)
  | cleanAttachment {key id} {a : TaskAttachment}
      (found : d.attachments.lookup id = some a) (key_eq : a.objectKey = key)
      (deleted : a.deletedAt ≠ none) : Sourced platform older d (.deleteObject key (.attachment id))
  | cleanUpload {key id} {s : AttachmentUploadSession}
      (found : d.uploads.lookup id = some s) (key_eq : s.objectKey = key)
      (expired : s.status = .expired) : Sourced platform older d (.deleteObject key (.upload id))
  | other {c : Cmd} (h : c.ofService = false) : Sourced platform older d c

/-- The commit's command is sourced. -/
def SourcedEntry (platform : Platform) (older : List Entry) (e : Entry) : Prop :=
  Sourced platform older e.before e.cmd

/-- The client's commands are sourced from here on. -/
abbrev RespectsSources (platform : Platform) (client : ServiceClient) (log : List Entry) (d : Db) :
    Prop :=
  client.Respects (prog platform) (fun _ => rely False) (SourcedEntry platform) log d

section Calls

variable {log : List Entry} {d : Db}

/-- One call and no more. -/
theorem respectsSources_last
    (h : ∀ newer d', History platform d newer d' → Sourced platform (newer ++ log) d' c) :
    RespectsSources platform (.call c fun _ => .stop) log d := by
  refine Client.respects_last fun newer e hserial _ hc => ?_
  unfold SourcedEntry
  rw [hc]
  exact h newer e.before hserial

/-- A command that no service owns, after which the client goes on only if it has committed. -/
theorem respectsSources_expect {next}
    (hc : c.ofService = false) (hfail : ∀ err, next (.failed err) = .stop)
    (habort : next .aborted = .stop)
    (hcommit : ∀ (newer : List Entry) (e : Entry), History platform d (e :: newer) e.after →
      e.Valid (prog platform) (fun _ => rely False) → e.cmd = c →
      RespectsSources platform (next (.committed e.reply)) (e :: (newer ++ log)) e.after) :
    RespectsSources platform (.call c next) log d :=
  Client.respects_expect (fun _ _ _ he => .other (he ▸ hc)) hfail habort hcommit

/-- What a session's row keeps until a later command commits. -/
theorem History.session_kept (h : History platform d newer d') (hs : d.uploads.lookup id = some s) :
    ∃ s', d'.uploads.lookup id = some s' ∧ s'.objectKey = s.objectKey ∧
      s'.expectedSize = s.expectedSize ∧ (s.status ≠ .pending → s'.status = s.status) := by
  obtain ⟨s', hs', hkeeps⟩ := h.keptUploads id s hs
  obtain ⟨-, hkey, hsize⟩ := AttachmentUploadSession.fixed_eq hkeeps.fixed
  exact ⟨s', hs', hkey, hsize, fun hsettled => by rw [hkeeps.settled hsettled]⟩

/-- The session that a read gives back is in the database. -/
theorem getUpload_reply (hv : e.Valid (prog platform) fun _ => rely False)
    (hc : e.cmd = .getUpload id) (hreply : e.reply = .upload session) :
    ∃ s, e.after.uploads.lookup id = some s ∧ s.objectKey = session.objectKey ∧
      s.expectedSize = session.expectedSize := by
  obtain ⟨c, reply, held, d, d'⟩ := e
  subst hc hreply
  simp only [Commit.Valid, prog] at hv
  obtain ⟨result, heq, h⟩ := Txn.commits_of_bind_pure hv
  cases heq
  obtain ⟨⟨d₀, hrel, hfound, -⟩, rfl⟩ := getUploadSession_commits h
  -- It was there when it was read, and sessions stay.
  obtain ⟨s, hs, hkeeps⟩ := ((isolates_rely False).interferes hrel).keptUploads id session hfound
  obtain ⟨-, hkey, hsize⟩ := AttachmentUploadSession.fixed_eq hkeeps.fixed
  exact ⟨s, hs, hkey, hsize⟩

theorem startUpload_respects (taskId : TaskId) (uploaderId sessionId : Id)
    (filename mediaType : String) (size : Int) (clock : Nat → Time) :
    RespectsSources platform (AttachmentService.startUpload platform taskId uploaderId sessionId
      filename mediaType size clock) log d := by
  unfold AttachmentService.startUpload
  split
  case h_1 => trivial
  case h_2 session hsession =>
    refine respectsSources_last fun newer d' _ => .createUpload ?_
    simp only [startUpload, bind, Except.bind, pure, Except.pure] at hsession
    split at hsession
    · cases hsession
    · cases hsession
      rfl

theorem checkContent_ok {uploaderId} {body : Bytes} {contentLength}
    (h : AttachmentService.checkContent session uploaderId body contentLength now = .ok ()) :
    (body.length : Int) = session.expectedSize := by
  simp only [AttachmentService.checkContent, guard_eq_ok, not_not] at h
  obtain ⟨-, -, -, hlength, -, hwritten, -⟩ := h
  omega

theorem uploadLocal_respects (taskId : TaskId) (sessionId uploaderId : Id) (body : Bytes)
    (contentLength : Int) (now : Time) :
    RespectsSources platform (AttachmentService.uploadLocal taskId sessionId uploaderId body
      contentLength now) log d := by
  unfold AttachmentService.uploadLocal
  refine respectsSources_expect rfl (fun _ => rfl) rfl fun newer e _ hv hc => ?_
  split
  case h_1 session hreply =>
    split
    · trivial
    split
    · trivial
    case h_2 hcontent =>
      obtain ⟨s, hs, hkey, hsize⟩ := getUpload_reply hv hc (Outcome.committed.inj hreply)
      refine respectsSources_last fun newer d' hhistory => ?_
      obtain ⟨s', hs', hkey', hsize', -⟩ := hhistory.session_kept hs
      refine .putObject hs' (hkey'.trans hkey) ?_
      rw [checkContent_ok hcontent, hsize', hsize]
  case h_2 => trivial

/-- What the inspection lets through is not executable. -/
theorem inspectUpload_ok {info info'} {content : Bytes}
    (h : inspectUpload platform session info content = .ok info') :
    validateAttachmentContentSignature (signatureHeader (content.take 512)) = .ok () := by
  simp only [inspectUpload, bind, Except.bind] at h
  split at h
  · cases h
  case h_2 hsignature => exact hsignature

theorem completeUpload_respects (sessionId uploaderId : Id) (expectedTaskVersion : Nat)
    (actor : OperationActor) (attachmentId : Id) (now : Time) :
    RespectsSources platform (AttachmentService.completeUpload platform sessionId uploaderId
      expectedTaskVersion actor attachmentId now) log d := by
  unfold AttachmentService.completeUpload
  refine respectsSources_expect rfl (fun _ => rfl) rfl fun newer e _ hv hc => ?_
  split
  case h_2 => trivial
  case h_1 session hreply =>
    obtain ⟨s, hs, hkey, -⟩ := getUpload_reply hv hc (Outcome.committed.inj hreply)
    split
    · trivial
    refine respectsSources_expect rfl (fun _ => rfl) rfl fun newer₁ e₁ hhistory₁ _ _ => ?_
    split
    case h_2 => trivial
    obtain ⟨s₁, hs₁, hkey₁, -⟩ := hhistory₁.session_kept hs
    refine respectsSources_expect rfl (fun _ => rfl) rfl fun newer₂ e₂ hhistory₂ _ hc₂ => ?_
    split
    case h_2 => trivial
    case h_1 content hcontent =>
      obtain ⟨s₂, hs₂, hkey₂, -⟩ := hhistory₂.session_kept hs₁
      split
      · refine respectsSources_last fun newer₃ d₃ hhistory₃ => ?_
        obtain ⟨s₃, hs₃, hkey₃, -⟩ := hhistory₃.session_kept hs₂
        exact .refuse hs₃ (by rw [hkey₃, hkey₂, hkey₁, hkey])
      case h_2 hinspect =>
        refine respectsSources_last fun newer₃ d₃ hhistory₃ => ?_
        obtain ⟨s₃, hs₃, hkey₃, -⟩ := hhistory₃.session_kept hs₂
        have hread : e₂ ∈ newer₃ ++ e₂ :: (newer₂ ++ (e₁ :: (newer₁ ++ (e :: (newer ++ log))))) :=
          mem_append_right _ mem_cons_self
        refine .complete hs₃ hread ?_ (Outcome.committed.inj hcontent) (inspectUpload_ok hinspect)
        rw [hc₂, hkey₃, hkey₂, hkey₁, hkey]

/-! ### The cleanup -/

/-- The rows of a batch, as they are when a later command commits. -/
def Deleted (d : Db) (claimed : List (Id × TaskAttachment)) : Prop :=
  ∀ e ∈ claimed, ∃ a, d.attachments.lookup e.1 = some a ∧ a.objectKey = e.2.objectKey ∧
    a.deletedAt ≠ none

theorem Deleted.of_history (h : Deleted d claimed) (hhistory : History platform d newer d') :
    Deleted d' claimed := by
  intro e he
  obtain ⟨a, ha, hkey, hdeleted⟩ := h e he
  obtain ⟨a', ha', hkeeps⟩ := hhistory.keptAttachments e.1 a ha
  obtain ⟨-, -, -, hsame, -⟩ := TaskAttachment.fixed_eq hkeeps.fixed
  exact ⟨a', ha', hsame.trans hkey, hkeeps.deleted hdeleted⟩

theorem cleanAttachments_respects {failure rest}
    (hrest : ∀ log d, RespectsSources platform rest log d) :
    ∀ {log d}, Deleted d claimed →
      RespectsSources platform
        (cleanAttachments failure now rest claimed) log d := by
  induction claimed with
  | nil => exact fun _ => hrest _ _
  | cons first batch ih =>
    intro log d hdeleted
    obtain ⟨id, attachment⟩ := first
    -- After a mark the loop goes on with the rest of the batch, or ends.
    have hmark : ∀ {c : Cmd} {next : Outcome DomainError Reply → ServiceClient}
        {log : List Entry} {d : Db}, c.ofService = false →
        (∀ reply, next (.committed reply) =
          cleanAttachments failure now rest batch) →
        (∀ err, next (.failed err) = .stop) → next .aborted = .stop →
        Deleted d ((id, attachment) :: batch) →
          RespectsSources platform (.call c next) log d := by
      intro c next log d hc hnext hfail habort hdeleted
      refine respectsSources_expect hc hfail habort fun newer e hhistory _ _ => ?_
      rw [hnext]
      apply ih
      exact fun e' he' => hdeleted.of_history hhistory e' (mem_cons_of_mem _ he')
    unfold cleanAttachments
    split
    · exact hmark rfl (fun _ => rfl) (fun _ => rfl) rfl hdeleted
    · intro newer d' hhistory _
      have hdeleted' := hdeleted.of_history hhistory
      refine ⟨fun e hc hd hv => ⟨?_, ?_⟩,
        fun err => hmark rfl (fun _ => rfl) (fun _ => rfl) rfl hdeleted',
        hmark rfl (fun _ => rfl) (fun _ => rfl) rfl hdeleted'⟩
      · obtain ⟨a, ha, hkey, hgone⟩ := hdeleted' _ mem_cons_self
        have hsourced : Sourced platform (newer ++ log) d'
            (.deleteObject attachment.objectKey (.attachment id)) :=
          .cleanAttachment ha hkey hgone
        rw [← hc, ← hd] at hsourced
        exact hsourced
      · have hone : History platform d' [e] e.after := ⟨rfl, hv, hd⟩
        exact hmark rfl (fun _ => rfl) (fun _ => rfl) rfl (hdeleted'.of_history hone)

/-- The rows of a batch of expired sessions, as they are when a later command commits. -/
def Expired (d : Db) (claimed : List (Id × AttachmentUploadSession)) : Prop :=
  ∀ e ∈ claimed, ∃ s, d.uploads.lookup e.1 = some s ∧ s.objectKey = e.2.objectKey ∧
    s.status = .expired

theorem Expired.of_history {claimed} (h : Expired d claimed)
    (hhistory : History platform d newer d') : Expired d' claimed := by
  intro e he
  obtain ⟨s, hs, hkey, hexpired⟩ := h e he
  obtain ⟨s', hs', hsame, -, hstatus⟩ := hhistory.session_kept hs
  exact ⟨s', hs', hsame.trans hkey, (hstatus (by rw [hexpired]; decide)).trans hexpired⟩

theorem cleanUploads_respects {claimed} :
    ∀ {log d}, Expired d claimed →
      RespectsSources platform (cleanUploads claimed) log d := by
  induction claimed with
  | nil => exact fun _ => trivial
  | cons first batch ih =>
    intro log d hexpired
    obtain ⟨id, session⟩ := first
    have htail : ∀ {d' : Db}, Expired d' ((id, session) :: batch) → Expired d' batch :=
      fun h e he => h e (mem_cons_of_mem _ he)
    unfold cleanUploads
    split
    · exact ih (htail hexpired)
    · intro newer d' hhistory _
      have hexpired' := hexpired.of_history hhistory
      refine ⟨fun e hc hd hv => ⟨?_, ?_⟩, fun err => ih (htail hexpired'), ih (htail hexpired')⟩
      · obtain ⟨s, hs, hkey, hstatus⟩ := hexpired' _ mem_cons_self
        have hsourced : Sourced platform (newer ++ log) d'
            (.deleteObject session.objectKey (.upload id)) := .cleanUpload hs hkey hstatus
        rw [← hc, ← hd] at hsourced
        exact hsourced
      · have hone : History platform d' [e] e.after := ⟨rfl, hv, hd⟩
        exact ih (htail (hexpired'.of_history hone))

/-- The attachments that a batch gives back are deleted. -/
theorem claimCleanupBatch_reply (hv : e.Valid (prog platform) fun _ => rely False)
    (hc : e.cmd = .claimCleanupBatch limit ids now) (hreply : e.reply = .cleanup claimed) :
    Deleted e.after claimed := by
  obtain ⟨c, reply, held, d, d'⟩ := e
  subst hc hreply
  simp only [Commit.Valid, prog] at hv
  obtain ⟨result, heq, h⟩ := Txn.commits_of_bind_pure hv
  cases heq
  obtain ⟨-, hfound, rfl⟩ := claimCleanupBatch_commits (isolates_rely False) h
  intro e he
  obtain ⟨a, ha, hawaits, heq⟩ := hfound e he
  have hlookup : (d.setAttachments claimed).attachments.lookup e.1 = some e.2 := by
    refine Table.lookup_insertAll_of_mem (fun v hv => ?_) he
    obtain ⟨a', ha', -, heq'⟩ := hfound _ hv
    rw [ha] at ha'
    cases ha'
    exact heq'.trans heq.symm
  exact ⟨e.2, hlookup, rfl, by rw [heq]; exact hawaits.1⟩

/-- The sessions that a batch gives back are expired. -/
theorem claimExpiredUploads_reply (hv : e.Valid (prog platform) fun _ => rely False)
    (hc : e.cmd = .claimExpiredUploads limit ids now)
    {claimed} (hreply : e.reply = .expiredUploads claimed) :
    Expired e.after claimed := by
  obtain ⟨c, reply, held, d, d'⟩ := e
  subst hc hreply
  simp only [Commit.Valid, prog] at hv
  obtain ⟨result, heq, h⟩ := Txn.commits_of_bind_pure hv
  cases heq
  obtain ⟨-, -, hfound, rfl⟩ := claimExpiredUploadSessions_commits (isolates_rely False) h
  intro e he
  obtain ⟨s, hs, -, -, heq⟩ := hfound e he
  have hlookup : (d.setUploads claimed).uploads.lookup e.1 = some e.2 := by
    refine Table.lookup_insertAll_of_mem (fun v hv => ?_) he
    obtain ⟨s', hs', -, -, heq'⟩ := hfound _ hv
    rw [hs] at hs'
    cases hs'
    exact heq'.trans heq.symm
  exact ⟨e.2, hlookup, rfl, by rw [heq]; rfl⟩

theorem runOnce_respects (attachmentIds sessionIds : List Id) (failure : String)
    (clock : Nat → Time) :
    RespectsSources platform
      (runOnce attachmentIds sessionIds failure clock) log d := by
  unfold runOnce
  refine respectsSources_expect rfl (fun _ => rfl) rfl fun newer e _ hv hc => ?_
  split
  case h_2 => trivial
  case h_1 claimed hreply =>
    have hdeleted := claimCleanupBatch_reply hv hc (Outcome.committed.inj hreply)
    refine cleanAttachments_respects (fun log d => ?_) hdeleted
    refine respectsSources_expect rfl (fun _ => rfl) rfl fun newer' e' _ hv' hc' => ?_
    split
    case h_2 => trivial
    case h_1 expired hreply' =>
      exact cleanUploads_respects
        (claimExpiredUploads_reply hv' hc' (Outcome.committed.inj hreply'))

end Calls

/-- The services respect the sources of their arguments. -/
theorem Serves.respects {client} (h : Serves platform client) (log : List Entry)
    (d : Db) : RespectsSources platform client log d := by
  cases h with
  | startUpload => exact startUpload_respects _ _ _ _ _ _ _
  | uploadLocal => exact uploadLocal_respects _ _ _ _ _ _
  | completeUpload => exact completeUpload_respects _ _ _ _ _ _
  | runOnce => exact runOnce_respects _ _ _ _
  | other client h => exact h.respects (fun _ _ _ hc => .other hc) log d

/-! ## Runs of the services -/

/-- Every client that connects is one of the system's own. -/
def Schedule.Serves (platform : Platform) (es : Schedule) : Prop :=
  ∀ client, .connect client ∈ es → Pactline.Serves platform client

/-- In a run of the services every commit is sourced. -/
theorem sourced_of_runFrom {es : Schedule} {cfg : SystemConfig} (hclients : es.Serves platform)
    (h : runFrom platform Db.empty es = some cfg) : Obeys (SourcedEntry platform) cfg.log :=
  (lockProtocol platform).obeys lawful_empty
    (fun client hmem log d _ _ => (hclients client hmem).respects log d) h

section Keys

variable {d : Db} {log : List Entry}

/-- The object key of every session is the one made for it. -/
theorem History.session_key (h : History platform Db.empty log d)
    (hobeys : Obeys (SourcedEntry platform) log) (hs : d.uploads.lookup id = some s) :
    s.objectKey = AttachmentService.objectKey s.taskId id := by
  refine Serial.history (P := fun log d => Obeys (SourcedEntry platform) log →
    ∀ s, d.uploads.lookup id = some s → s.objectKey = AttachmentService.objectKey s.taskId id)
    h ?_ ?_ hobeys s hs
  · intro _ s hs
    cases hs
  · intro e older hv ih hobeys s hs
    have hchange := uploadChange_of_valid hv id
    rw [hs] at hchange
    generalize hfound : e.before.uploads.lookup id = found at hchange
    cases hchange with
    | same => exact ih hobeys.2 s hfound
    | start cmd =>
      have hsourced := hobeys.1
      unfold SourcedEntry at hsourced
      rw [cmd] at hsourced
      cases hsourced with
      | createUpload key => exact key
      | other h => cases h
    | @late _ _ _ _ _ _ _ s | @claim s | @complete _ _ _ _ _ _ _ s =>
      exact ih hobeys.2 s hfound

/-- No two sessions share an object. -/
theorem History.session_unique (h : History platform Db.empty log d)
    (hobeys : Obeys (SourcedEntry platform) log) {s' : AttachmentUploadSession}
    (hs : d.uploads.lookup id = some s) (hs' : d.uploads.lookup id' = some s')
    (hkey : s.objectKey = s'.objectKey) : id = id' := by
  rw [h.session_key hobeys hs, h.session_key hobeys hs'] at hkey
  exact objectKey_injective hkey

/-- No two attachments share an object. -/
theorem History.attachment_unique (h : History platform Db.empty log d)
    (hobeys : Obeys (SourcedEntry platform) log) {a' : TaskAttachment}
    (ha : d.attachments.lookup id = some a) (ha' : d.attachments.lookup id' = some a')
    (hkey : a.objectKey = a'.objectKey) : id = id' := by
  obtain ⟨_, s, hs⟩ := h.attachment_session ha
  obtain ⟨_, s', hs'⟩ := h.attachment_session ha'
  have hsame := h.session_unique hobeys hs.found hs'.found
    (by rw [hs.objectKey, hs'.objectKey, hkey])
  subst hsame
  have heq := hs.found.symm.trans hs'.found
  cases heq
  exact Option.some.inj (hs.names.symm.trans hs'.names)

/-- The objects that the cleanup deletes belong to no attachment that is still there. -/
theorem Sourced.not_attached (h : History platform Db.empty log d)
    (hobeys : Obeys (SourcedEntry platform) log) {key reason}
    (hsourced : Sourced platform log d (.deleteObject key reason)) (hreason : reason ≠ .refused)
    (ha : d.attachments.lookup id = some a) (hactive : a.deletedAt = none) : a.objectKey ≠ key := by
  intro hkey
  cases hsourced with
  | refuse => exact hreason rfl
  | cleanAttachment found key_eq deleted =>
    have hsame := h.attachment_unique hobeys ha found (hkey.trans key_eq.symm)
    subst hsame
    rw [ha] at found
    cases found
    exact deleted hactive
  | cleanUpload found key_eq expired =>
    obtain ⟨_, s, hs⟩ := h.attachment_session ha
    have hsame := h.session_unique hobeys hs.found found
      (by rw [hs.objectKey, hkey, key_eq])
    subst hsame
    have heq := hs.found.symm.trans found
    cases heq
    have hcompleted := hs.completed
    rw [expired] at hcompleted
    cases hcompleted
  | other h => cases h

end Keys

end Pactline
