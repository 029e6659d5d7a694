import Pactline.Results.Attachments

/-!
# Versions of a Task

No commit takes a version back, so every version is used up by at most one version-checked commit. A
command that expects another version fails, which leaves no trace, with one exception:
`CompleteUploadSession` looks at the deadline of its session before it looks at the Task, and marks
a session that is past it as expired (`late_completion_ignores_version`).
-/

set_option autoImplicit false

namespace Pactline

open ReadCommitted

/-! ## What a command expects -/

/-- The Task whose version a command checks, and the version it expects. The Task of an upload is
the one its session names. -/
def Cmd.expects (d : Db) : Cmd → Option (TaskId × Nat)
  | .update t v _ _ _ | .setArchived t v _ _ _ => v.map fun v => (t, v)
  | .markReady t v _ _ _ | .withdrawReadiness t v _ _ _ _ | .claim t v _ _ _ _ _ _
  | .resolveIssue t v _ _ _ _ _ _ _ | .cancelTask t v _ _ _ _ _ => some (t, v)
  | .releaseClaim call _ | .completeExecution call _ _ | .requestChanges call _
  | .requestResolution call _ _ | .acceptTask call _ | .link call _ _ | .unlink call _ =>
    some (call.taskNumber, call.expectedTaskVersion)
  | .completeUpload id _ _ v _ _ _ _ => (d.uploads.lookup id).map fun s => (s.taskId, v)
  | _ => none

/-- The commit has found the Task at version `v` and has left it at the next. -/
def BumpsVersion (e : Entry) (t : TaskId) (v : Nat) : Prop :=
  ∃ r r', e.before.task t = some r ∧ r.row.version = v ∧ e.after.task t = some r' ∧
    r'.row.version = v + 1

/-- The commit has done nothing but mark an upload session that is past its deadline. -/
def ExpiresUpload (e : Entry) : Prop :=
  ∃ id uploaderId info v actor attachmentId now inspected session,
    e.cmd = .completeUpload id uploaderId info v actor attachmentId now inspected ∧
      e.before.uploads.lookup id = some session ∧ session.status = .pending ∧
      session.expiresAt < now ∧ e.after = e.before.setUploads [(id, session.expired)]

section Steps

variable {platform : Platform} {d : Db} {t t' : TaskId} {c : Cmd} {r r' : TaskRecord} {v : Nat}

theorem Cmd.expects_eq_none (h : (c.provides || c.rewrites || c.reads) = true) :
    c.expects d = none := by
  cases c <;> first | rfl | cases h

theorem TaskStep.expects (h : TaskStep d t c r r') (hc : c.expects d = some (t', v)) :
    t' = t ∧ r.row.version = v ∧ r'.row.version = v + 1 := by
  cases h with
  | markReady _ hversion | withdrawReadiness _ hversion | resolveIssue _ hversion =>
    cases hc
    exact ⟨rfl, hversion, congrArg (· + 1) hversion⟩
  | claim _ hversion hexpiry =>
    cases hc
    refine ⟨rfl, hversion, ?_⟩
    change _ + 1 = _
    rw [TaskRecord.addClaim_row, hexpiry.row.1, hversion]
  | cancelTask _ hversion hcleared =>
    cases hc
    refine ⟨rfl, hversion, ?_⟩
    change _ + 1 = _
    rw [hcleared.row.1, hversion]
  | releaseClaim howns | completeExecution howns | requestChanges howns | requestResolution howns
  | acceptTask howns | link howns | unlink howns =>
    cases hc
    exact ⟨rfl, howns.version, congrArg (· + 1) howns.version⟩
  | setArchived hversion =>
    obtain ⟨w, hw, heq⟩ := Option.map_eq_some_iff.mp hc
    cases heq
    have hfound := hversion v hw
    exact ⟨rfl, hfound, congrArg (· + 1) hfound⟩
  | _ => cases hc

/-- No step takes a version back. -/
theorem TaskStep.version_le (h : TaskStep d t c r r') : r.row.version ≤ r'.row.version := by
  cases h with
  | claim _ _ hexpiry =>
    change _ ≤ _ + 1
    rw [TaskRecord.addClaim_row, hexpiry.row.1]
    exact Nat.le_succ _
  | cancelTask _ _ hcleared =>
    change _ ≤ _ + 1
    rw [hcleared.row.1]
    exact Nat.le_succ _
  | keepClaim | recordWorkSubmission | recordAcceptanceCheck | recordClaimProgress => exact le_rfl
  | _ => exact Nat.le_succ _

theorem TaskChange.version_le (h : TaskChange d t c (some r) r') :
    r.row.version ≤ r'.row.version := by
  cases h with
  | same => exact le_rfl
  | step step => exact step.version_le
  | update _ edited =>
    rw [edited.version]
    exact Nat.le_succ _
  | follow _ _ _ follows => exact follows.version
  | attach => exact Nat.le_succ _

/-- What a commit of a version-checked command has done. -/
theorem Step.expects {e : Entry} (h : Step platform (rely False) e.held e.before e.after e.cmd)
    (hc : e.cmd.expects e.before = some (t, v)) : BumpsVersion e t v ∨ ExpiresUpload e := by
  generalize hcmd : e.cmd = c at h hc
  cases h with
  | onTask on step =>
    obtain ⟨rfl, hbefore, hafter⟩ := step.expects hc
    exact .inl ⟨_, _, on.before, hbefore, on.after, hafter⟩
  | create => cases hc
  | update updated =>
    obtain ⟨w, hw, heq⟩ := Option.map_eq_some_iff.mp hc
    cases heq
    have hfound := updated.expected v hw
    exact .inl ⟨_, _, updated.before, hfound, updated.after, by rw [updated.version, hfound]⟩
  | completeUpload pending completed =>
    obtain ⟨s, hs, heq⟩ := Option.map_eq_some_iff.mp hc
    cases heq
    rw [pending.found] at hs
    cases hs
    refine .inl ⟨_, _, completed.before, completed.expected, completed.after, ?_⟩
    exact congrArg (· + 1) completed.expected
  | side side =>
    cases side with
    | expireUpload pending late after =>
      exact .inr ⟨_, _, _, _, _, _, _, _, _, hcmd, pending.found, pending.pending, late, after⟩
    | startUpload | claimExpired | put | delete => cases hc
    | provide hother | rewrite hother | read hother =>
      rw [Cmd.expects_eq_none (by simp [hother])] at hc
      cases hc

end Steps

/-- Along a history versions only grow. -/
theorem History.version_le {platform} {d d' : Db} {log}
    (h : History platform d log d') (hlaw : Lawful d) {t} {r r' : TaskRecord}
    (hr : d.task t = some r) (hr' : d'.task t = some r') : r.row.version ≤ r'.row.version := by
  obtain ⟨r₁, hr₁, -, hle⟩ := h.keeps_along hlaw hr (K := fun r' => r.row.version ≤ r'.row.version)
    le_rfl fun hchange hle => hle.trans hchange.version_le
  rw [hr'] at hr₁
  cases hr₁
  exact hle

/-! ## The result -/

/-- Over every schedule: a version-checked command that commits has found the expected version and
has left the next one, or it was the completion of an upload past its deadline and has marked the
session; of two that bump the version of one Task, the later one expected more; and whatever does
not commit leaves the database as it was. -/
theorem version_checked_commits {platform : Platform} {es : Schedule} {cfg : SystemConfig}
    (h : runFrom platform Db.empty es = some cfg) :
    (∀ e ∈ cfg.log, ∀ t v, e.cmd.expects e.before = some (t, v) →
      BumpsVersion e t v ∨ ExpiresUpload e) ∧
    (∀ newer between older e e' t v v', cfg.log = newer ++ e :: (between ++ e' :: older) →
      e.cmd.expects e.before = some (t, v) → e'.cmd.expects e'.before = some (t, v') →
      ¬ ExpiresUpload e → ¬ ExpiresUpload e' → v' < v) ∧
    ∀ ev cfg', step (prog platform) cfg ev = some cfg' →
      cfg'.db = cfg.db ∧ cfg'.log = cfg.log ∨
        ∃ e, cfg'.log = e :: cfg.log ∧ e.before = cfg.db ∧ e.after = cfg'.db := by
  refine ⟨fun e he t v hc => ?_, ?_, fun ev cfg' hstep => step_db hstep⟩
  · obtain ⟨-, -, -, -, -, hstep⟩ := commit_of_runFrom h he
    exact hstep.expects hc
  · intro newer between older e e' t v v' hlog hc hc' hnot hnot'
    have hhistory := history_of_runFrom lawful_empty h
    rw [hlog] at hhistory
    obtain ⟨-, hv, hbefore⟩ := Serial.split hhistory
    obtain ⟨hbetween, hv', hbefore'⟩ := Serial.split hbefore
    obtain ⟨r, -, hr, hversion, -⟩ := ((step_of_valid hv).expects hc).resolve_right hnot
    obtain ⟨-, r', -, -, hr', hversion'⟩ := ((step_of_valid hv').expects hc').resolve_right hnot'
    have hlaw : Lawful e'.after :=
      (step_of_valid hv').lawful (History.lawful hbefore' lawful_empty)
    have hle := History.version_le hbetween hlaw hr' hr
    omega

/-- The Claim of `claimScript` has found version 2 and left version 3. -/
theorem version_checked_commits_claim :
    ∃ cfg e, runFrom asciiPlatform Db.empty
        (.connect (.script claimScript) :: advances 0 33) = some cfg ∧ e ∈ cfg.log ∧
      e.cmd.expects e.before = some (1, 2) ∧ (BumpsVersion e 1 2 ∨ ExpiresUpload e) := by
  obtain ⟨cfg, hcfg, e, he, hexpects⟩ : ∃ cfg, runFrom asciiPlatform Db.empty
        (.connect (.script claimScript) :: advances 0 33) = some cfg ∧
      ∃ e ∈ cfg.log, e.cmd.expects e.before = some (1, 2) := by decide +kernel
  exact ⟨cfg, e, hcfg, he, hexpects, (version_checked_commits hcfg).1 e he 1 2 hexpects⟩

/-- An upload to Task 1 is started, and completed after its deadline for a version that the Task
never had. -/
def staleUploadSchedule : Schedule :=
  [.connect (.script [sampleCreate 1 none []]),
    .connect (AttachmentService.startUpload asciiPlatform 1 7 11 "a.txt" "text/plain" 2
      fun _ => 200),
    .connect (.script
      [.completeUpload 11 7 ⟨2, "text/plain"⟩ 99 sampleOperation 21 1800000300 []])] ++
    advances 0 10 ++ advances 1 6 ++ advances 2 5

/-- The completion expects a version that the Task does not have, and changes the session. -/
theorem late_completion_ignores_version :
    ∃ cfg e t v r, runFrom asciiPlatform Db.empty staleUploadSchedule = some cfg ∧ e ∈ cfg.log ∧
      e.cmd.expects e.before = some (t, v) ∧ e.before.task t = some r ∧ r.row.version ≠ v ∧
      e.after.uploads.lookup 11 ≠ e.before.uploads.lookup 11 := by
  obtain ⟨cfg, hcfg, e, he, ⟨t, v⟩, hexpects, r, hr, hversion, hchanged⟩ : ∃ cfg,
      runFrom asciiPlatform Db.empty staleUploadSchedule = some cfg ∧
      ∃ e ∈ cfg.log, ∃ x, e.cmd.expects e.before = some x ∧
      ∃ r, e.before.task x.1 = some r ∧ r.row.version ≠ x.2 ∧
        e.after.uploads.lookup 11 ≠ e.before.uploads.lookup 11 := by decide +kernel
  exact ⟨cfg, e, t, v, r, hcfg, he, hexpects, hr, hversion, hchanged⟩

end Pactline
