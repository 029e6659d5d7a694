import Pactline.Analysis.Claims

/-!
# Deliveries

What a Task holds of its deliveries: the work submissions and the checks of its execution, each
stamped with a review cycle, and the execution completions that list them. Three commands add to
them, and all others leave them alone (`TaskRecord.SameDelivery`). Over a history the stamps come
out right (`Delivers`): what bears the stamp of the current cycle is what was recorded since the
last completion.
-/

set_option autoImplicit false

namespace Pactline

open ReadCommitted List

variable {item : ThreadItem} {l : TaskLifecycle} {now : Time} {main : Thread} {actor : Actor}
  {fresh : Nat → Id} {call : ClaimCall} {claim : TaskStageClaim} {event : BusinessAuditEvent}

/-! ## The rows -/

namespace TaskRecord

def reviewCycle (r : TaskRecord) : Nat := r.row.lifecycle.reviewCycle

def mainId (r : TaskRecord) : Option Id := r.mainThread.map Thread.id

def submissions (r : TaskRecord) : List ThreadItem :=
  r.items.filter fun i => i.kind = .workSubmission

def executionChecks (r : TaskRecord) : List AcceptanceCheck :=
  r.checks.filter fun k => k.purpose = some .executionVerification

/-- The payloads of the execution completions. -/
def payloads (r : TaskRecord) : List ExecutionCompletedPayload :=
  r.items.filterMap fun i => i.executionCompleted

def HasCriterion (r : TaskRecord) (id : Id) : Prop := id ∈ r.criteria.map (·.id)

/-- Nothing that concerns a delivery has changed. -/
structure SameDelivery (r r' : TaskRecord) : Prop where
  cycle : r'.reviewCycle = r.reviewCycle
  main : r'.mainId = r.mainId
  submissions : r'.submissions = r.submissions
  payloads : r'.payloads = r.payloads
  checks : r'.executionChecks = r.executionChecks
  criteria : ∀ k ∈ r.executionChecks, r.HasCriterion k.criterionId → r'.HasCriterion k.criterionId

namespace SameDelivery

variable {r r₁ r₂ r₃ : TaskRecord}

theorem refl (r : TaskRecord) : r.SameDelivery r := ⟨rfl, rfl, rfl, rfl, rfl, fun _ _ h => h⟩

theorem trans (h₁ : r₁.SameDelivery r₂) (h₂ : r₂.SameDelivery r₃) : r₁.SameDelivery r₃ where
  cycle := h₂.cycle.trans h₁.cycle
  main := h₂.main.trans h₁.main
  submissions := h₂.submissions.trans h₁.submissions
  payloads := h₂.payloads.trans h₁.payloads
  checks := h₂.checks.trans h₁.checks
  criteria k hk hc := h₂.criteria k (h₁.checks ▸ hk) (h₁.criteria k hk hc)

/-- Only the rows that deliveries are made of count. -/
theorem of_tables (hcycle : r₂.reviewCycle = r₁.reviewCycle) (hmain : r₂.mainId = r₁.mainId)
    (hitems : r₂.items = r₁.items) (hchecks : r₂.checks = r₁.checks)
    (hcriteria : r₂.criteria.map (·.id) = r₁.criteria.map (·.id)) : r₁.SameDelivery r₂ where
  cycle := hcycle
  main := hmain
  submissions := by rw [TaskRecord.submissions, hitems]; rfl
  payloads := by rw [TaskRecord.payloads, hitems]; rfl
  checks := by rw [executionChecks, hchecks]; rfl
  criteria k _ hc := by
    unfold HasCriterion
    rw [hcriteria]
    exact hc

theorem addItem (h : r.SameDelivery r₁) (hkind : item.kind ≠ .workSubmission)
    (hpayload : item.executionCompleted = none) : r.SameDelivery (r₁.addItem item) where
  cycle := h.cycle
  main := h.main
  submissions := by simpa [TaskRecord.submissions, hkind] using h.submissions
  payloads := by simpa [TaskRecord.payloads, hpayload] using h.payloads
  checks := h.checks
  criteria := h.criteria

theorem addCheck {check : AcceptanceCheck} (h : r.SameDelivery r₁)
    (hpurpose : check.purpose ≠ some .executionVerification) :
    r.SameDelivery (r₁.addCheck check) where
  cycle := h.cycle
  main := h.main
  submissions := h.submissions
  payloads := h.payloads
  checks := by simpa [executionChecks, hpurpose] using h.checks
  criteria := h.criteria

theorem addAudit {e} (h : r.SameDelivery r₁) :
    r.SameDelivery (r₁.addAudit e) :=
  h.trans (.of_tables rfl rfl rfl rfl rfl)

theorem advance {issue} (h : r.SameDelivery r₁) (hl : l.reviewCycle = r₁.reviewCycle) :
    r.SameDelivery (r₁.advance l issue now) :=
  h.trans (.of_tables hl rfl rfl rfl rfl)

theorem endClaim {c outcome} (h : r.SameDelivery r₁) :
    r.SameDelivery (r₁.endClaim c outcome now) :=
  h.trans (.of_tables rfl rfl rfl rfl rfl)

theorem addClaim {c} (h : r.SameDelivery r₁) : r.SameDelivery (r₁.addClaim c) :=
  h.trans (.of_tables rfl rfl rfl rfl rfl)

theorem bump (h : r.SameDelivery r₁) : r.SameDelivery r₁.bump :=
  h.trans (.of_tables rfl rfl rfl rfl rfl)

/-- An Issue is not the Main Thread. -/
theorem addThread {thread : Thread} (h : r.SameDelivery r₁) (hrole : thread.role ≠ .main) :
    r.SameDelivery (r₁.addThread thread) := by
  refine h.trans (.of_tables rfl ?_ rfl rfl rfl)
  unfold mainId mainThread
  rw [addThread_threads, find?_append, find?_singleton, if_neg (by simpa using hrole),
    Option.or_none]

/-- Updates of Threads that leave their identities and roles leave the Main Thread. -/
theorem mainId_map {f} (hid : ∀ thread, (f thread).id = thread.id)
    (hrole : ∀ thread, (f thread).role = thread.role) (threads : List Thread) :
    ((threads.map f).find? fun thread => thread.role = .main).map Thread.id =
      (threads.find? fun thread => thread.role = .main).map Thread.id := by
  rw [find?_map, Option.map_map]
  have hsame : (fun thread : Thread => decide (thread.role = .main)) ∘ f =
      fun thread => decide (thread.role = .main) := by
    funext thread
    simp [hrole]
  rw [hsame, show Thread.id ∘ f = Thread.id from funext hid]

theorem setThread {thread version} (h : r.SameDelivery r₁) :
    r.SameDelivery (r₁.setThread thread version) := by
  refine h.trans (.of_tables rfl ?_ rfl rfl rfl)
  unfold mainId mainThread
  rw [setThread_threads]
  refine mainId_map (fun old => ?_) (fun old => ?_) r₁.threads
  · split <;> rfl
  · split <;> rfl

theorem map_replaceCriterion (r : TaskRecord) (criterion : AcceptanceCriterion) :
    (r.replaceCriterion criterion).criteria.map (·.id) = r.criteria.map (·.id) := by
  rw [TaskRecord.replaceCriterion, setCriteria_criteria, map_map]
  apply map_congr_left
  intro c _
  dsimp only [Function.comp]
  split
  case isTrue hid => exact hid.symm
  case isFalse => rfl

theorem replaceCriterion {criterion} (h : r.SameDelivery r₁) :
    r.SameDelivery (r₁.replaceCriterion criterion) :=
  h.trans (.of_tables rfl rfl rfl rfl (map_replaceCriterion r₁ criterion))

/-- Criteria may be added, and removed as long as no check is about them. -/
theorem setCriteria {criteria : List AcceptanceCriterion} (h : r.SameDelivery r₁)
    (hcriteria : ∀ k ∈ r₁.checks, r₁.HasCriterion k.criterionId →
      k.criterionId ∈ criteria.map (·.id)) :
    r.SameDelivery (r₁.setCriteria criteria) :=
  h.trans ⟨rfl, rfl, rfl, rfl, rfl,
    fun k hk hc => hcriteria k (mem_of_mem_filter hk) hc⟩

end SameDelivery

end TaskRecord

/-! ## The steps -/

/-- The Task to whose delivery a command may add. -/
def Cmd.delivers : Cmd → Option TaskId
  | .completeExecution call _ _ | .recordWorkSubmission call _ | .recordAcceptanceCheck call _ =>
    some call.taskNumber
  | _ => none

section Steps

variable {d : Db} {t : TaskId} {c : Cmd} {r r' : TaskRecord}

open TaskRecord

theorem Expiry.sameDelivery {itemId} (h : Expiry main now itemId r r' l) :
    r.SameDelivery r' ∧ l.reviewCycle = r.reviewCycle := by
  cases h with
  | notDue => exact ⟨.refl r, rfl⟩
  | due claim => exact ⟨.addItem (.endClaim (.refl r)) nofun rfl, rfl⟩

theorem resolveThread_sameDelivery (r : TaskRecord) {issue request resolution} :
    r.SameDelivery (r.resolveThread main issue request resolution actor now fresh) := by
  exact .addItem (.setThread (.addItem (.refl r) nofun rfl)) nofun rfl

theorem Cleared.sameDelivery {reason issueId}
    (h : Cleared main reason actor now fresh r r' issueId) : r.SameDelivery r' := by
  cases h with
  | idle => exact .refl r
  | claim claim => exact .endClaim (.refl r)
  | issue issue request => exact resolveThread_sameDelivery r

/-- All commands but three leave the delivery of their Task alone. -/
theorem TaskStep.sameDelivery (h : TaskStep d t c r r') (hc : c.delivers = none) :
    r.SameDelivery r' := by
  have hr := SameDelivery.refl r
  cases h with
  | recordWorkSubmission | completeExecution | recordAcceptanceCheck => cases hc
  | keepClaim => exact hr
  | markReady | withdrawReadiness => exact .addAudit (.addItem (.advance hr rfl) nofun rfl)
  | claim _ _ hexpiry hclaim =>
    obtain ⟨hsame, hcycle⟩ := hexpiry.sameDelivery
    refine .addAudit (.addItem (.advance (.addClaim hsame) ?_) nofun rfl)
    obtain ⟨-, -, hkept, -⟩ := TaskLifecycle.claim_ok hclaim
    rw [hkept, hcycle]
    exact hsame.cycle.symm
  | expireDueClaim =>
    exact .addAudit (.advance (.addItem (.endClaim hr) nofun rfl) rfl)
  | releaseClaim | requestChanges | acceptTask =>
    exact .addAudit (.addItem (.advance (.endClaim hr) rfl) nofun rfl)
  | requestResolution _ _ hissue =>
    have hrole := (Thread.newIssue_ok hissue).2.1.1
    refine .addAudit (.addItem (.advance (.endClaim (.addItem (.addThread hr ?_) nofun rfl)) rfl)
      nofun rfl)
    rw [hrole]
    nofun
  | resolveIssue =>
    exact .addAudit (.advance (resolveThread_sameDelivery r) rfl)
  | cancelTask _ _ hcleared =>
    have hsame := hcleared.sameDelivery
    exact .addAudit (.addItem (.advance hsame hsame.cycle.symm) nofun rfl)
  | recordClaimProgress => exact .addAudit (.addItem hr nofun rfl)
  | createCriterion =>
    refine .addAudit (.addAudit (.bump (.setCriteria hr fun k _ hk => ?_)))
    rw [map_append]
    exact mem_append_left _ hk
  | updateCriterion | archiveCriterion =>
    exact .addAudit (.addAudit (.bump (.replaceCriterion hr)))
  | addCheck _ _ _ _ _ hpurpose =>
    refine .addAudit (.addAudit (.bump (.replaceCriterion (.addCheck hr ?_))))
    rw [hpurpose]
    nofun
  | deleteCriterion _ _ _ hchecks =>
    refine .addAudit (.addAudit (.bump (.setCriteria hr fun k hk hcriterion => ?_)))
    obtain ⟨criterion, hmem, hid⟩ := mem_map.mp hcriterion
    refine mem_map.mpr ⟨criterion, mem_filter.mpr ⟨hmem, ?_⟩, hid⟩
    exact decide_eq_true fun heq => hchecks k hk (hid.symm.trans heq)
  | link | unlink => exact .of_tables rfl rfl rfl rfl rfl
  | setArchived _ _ haudit =>
    subst haudit
    split <;> exact .of_tables rfl rfl rfl rfl rfl

theorem TaskStep.delivers_cases (h : TaskStep d t c r r') :
    c.delivers = none ∨ c.delivers = some t := by
  cases h <;> first | exact .inl rfl | exact .inr rfl

theorem TaskChange.sameDelivery (h : TaskChange d t c (some r) r') (hc : c.delivers ≠ some t) :
    r.SameDelivery r' := by
  cases h with
  | same => exact .refl r
  | step step => exact step.sameDelivery (step.delivers_cases.resolve_right hc)
  | update _ edited =>
    rw [edited.rows]
    refine .of_tables ?_ rfl rfl rfl rfl
    exact congrArg TaskLifecycle.reviewCycle edited.patched.lifecycle
  | follow _ _ _ follows =>
    obtain ⟨-, hthreads, hitems, hcriteria, hchecks, -⟩ := follows.tables
    refine .of_tables ?_ ?_ hitems hchecks ?_
    · exact congrArg TaskLifecycle.reviewCycle follows.lifecycle
    · unfold mainId mainThread
      rw [hthreads]
    · rw [hcriteria]
  | attach => exact .of_tables rfl rfl rfl rfl rfl

theorem Cmd.delivers_of_aside (h : c.aside = true) : c.delivers = none := by
  cases c <;> first | rfl | cases h

/-- A command that adds to the delivery of a Task is a step of that Task. -/
theorem Step.delivers {platform R held d'}
    (h : Step platform R held d d' c) (hc : c.delivers = some t) :
    Refines t held d d' c := by
  cases h with
  | onTask on step =>
    rcases step.delivers_cases with hnone | hsome
    · rw [hnone] at hc
      cases hc
    · rw [hsome] at hc
      cases hc
      exact ⟨_, _, on, step⟩
  | create | update | completeUpload => cases hc
  | side side =>
    rw [Cmd.delivers_of_aside side.aside] at hc
    cases hc

end Steps

/-! ## Links -/

section Links

variable {platform : Platform} {d : Db} {t : TaskId} {c : Cmd} {r r' : TaskRecord}

theorem Expiry.codeChanges {itemId} (h : Expiry main now itemId r r' l) :
    r'.codeChanges = r.codeChanges := by
  cases h <;> rfl

theorem Cleared.codeChanges {reason issueId}
    (h : Cleared main reason actor now fresh r r' issueId) : r'.codeChanges = r.codeChanges := by
  cases h <;> rfl

/-- Ending a link does not change its identity. -/
theorem map_unlinked {link : TaskCodeChange} {linkId} (hid : link.id = linkId)
    (call : ClaimCall) (claim : TaskStageClaim) (links : List TaskCodeChange) :
    (links.map fun l => if l.id = linkId then link.unlinked call claim else l).map (·.id) =
      links.map (·.id) := by
  rw [map_map]
  apply map_congr_left
  intro l _
  dsimp only [Function.comp]
  split
  case isTrue heq => exact hid.trans heq.symm
  case isFalse => rfl

theorem TaskStep.nodup_links (h : TaskStep d t c r r') (hr : (r.codeChanges.map (·.id)).Nodup) :
    (r'.codeChanges.map (·.id)).Nodup := by
  cases h with
  | link _ _ hid =>
    change ((r.codeChanges ++ [_]).map _).Nodup
    rw [map_append]
    refine List.Nodup.append hr (nodup_singleton _) ?_
    rw [map_singleton, disjoint_singleton]
    intro hmem
    obtain ⟨l, hl, heq⟩ := mem_map.mp hmem
    exact hid l hl heq
  | unlink _ _ _ hid =>
    change ((r.codeChanges.map _).map _).Nodup
    rw [map_unlinked hid]
    exact hr
  | claim _ _ hexpiry =>
    rw [← hexpiry.codeChanges] at hr
    exact hr
  | cancelTask _ _ hcleared =>
    rw [← hcleared.codeChanges] at hr
    exact hr
  | setArchived _ _ haudit =>
    subst haudit
    change ((ite _ _ _ : TaskRecord).codeChanges.map _).Nodup
    split <;> exact hr
  | _ => exact hr

/-- No two links of a Task share an identity. -/
theorem History.nodup_links {log} (h : History platform Db.empty log d)
    (hr : d.task t = some r) : (r.codeChanges.map (·.id)).Nodup := by
  refine h.task_history (P := fun _ _ r => (r.codeChanges.map (·.id)).Nodup) ?_ t r hr
  intro e older t r' _ hbefore hchange
  replace hbefore := hbefore t
  generalize e.before.task t = found at hchange hbefore
  cases hchange with
  | same => exact hbefore _ rfl
  | step step => exact step.nodup_links (hbefore _ rfl)
  | create => exact nodup_nil
  | update _ edited =>
    have hold := hbefore _ rfl
    rw [edited.rows]
    exact hold
  | follow _ _ _ follows =>
    obtain ⟨-, -, -, -, -, hlinks⟩ := follows.tables
    rw [hlinks]
    exact hbefore _ rfl
  | attach =>
    have hold := hbefore _ rfl
    exact hold

/-- Snapshots of the active links, each once, are of exactly these links. -/
theorem TaskRecord.Snapshots.perm {codeChanges : List CodeChangeSnapshot}
    (h : r.Snapshots codeChanges) (hnodup : (r.codeChanges.map (·.id)).Nodup) :
    (codeChanges.map (·.taskCodeChangeId)).Perm (r.activeLinks.map (·.id)) := by
  have hactive : (r.activeLinks.map (·.id)).Nodup :=
    hnodup.sublist (filter_sublist.map _)
  have hsubperm := subperm_of_subset hactive h.covers
  refine (hsubperm.perm_of_length_le ?_).symm
  rw [h.length, length_map]

end Links

/-! ## The history of a delivery -/

/-- The command completes the execution of the Task. -/
def Cmd.completesExecution (t : TaskId) : Cmd → Bool
  | .completeExecution call _ _ => call.taskNumber = t
  | _ => false

theorem Cmd.completesExecution_iff {t} {c : Cmd} : c.completesExecution t = true ↔
    ∃ call summary codeChanges, c = .completeExecution call summary codeChanges ∧
      call.taskNumber = t := by
  cases c <;> simp [Cmd.completesExecution]

/-- The work submission on the Task that a commit has recorded. -/
def submission (t : TaskId) (e : Entry) : Option Id :=
  match e.cmd with
  | .recordWorkSubmission call _ => if call.taskNumber = t then some (call.fresh 0) else none
  | _ => none

/-- The check on the Task that a commit has recorded through an execution Claim. -/
def executionCheck (t : TaskId) (e : Entry) : Option Id :=
  match e.cmd with
  | .recordAcceptanceCheck call _ =>
    if call.taskNumber = t ∧ (e.before.claim call.claimId).any fun k => k.stage = .execution then
      some (call.fresh 0)
    else none
  | _ => none

/-- What was recorded since the last completion of the Task's execution, oldest first. -/
def recordedSince (t : TaskId) (record : Entry → Option Id) : List Entry → List Id
  | [] => []
  | e :: older =>
    if e.cmd.completesExecution t then [] else recordedSince t record older ++ (record e).toList

/-- The payload lists submissions and checks of its own cycle. -/
def ExecutionCompletedPayload.Lists (p : ExecutionCompletedPayload) (r : TaskRecord) : Prop :=
  ∃ n, p.reviewCycle = n + 1 ∧
    (∀ id ∈ p.submissionItemIds, ∃ i ∈ r.submissions, i.id = id ∧
      i.taskReviewCycle = some (n + 1)) ∧
    ∀ id ∈ p.executionCheckIds, ∃ k ∈ r.executionChecks, k.id = id ∧ k.taskReviewCycle = some n

/-- The rows of a Task's delivery after the commits of a log. -/
structure Delivers (t : TaskId) (log : List Entry) (r : TaskRecord) : Prop where
  thread : ∀ i ∈ r.submissions, r.mainId = some i.threadId
  submissionCycle : ∀ i ∈ r.submissions, ∃ n, i.taskReviewCycle = some n ∧ n ≤ r.reviewCycle + 1
  submissionIds : (r.submissions.map (·.id)).Nodup
  checkCycle : ∀ k ∈ r.executionChecks, ∃ n, k.taskReviewCycle = some n ∧ n ≤ r.reviewCycle
  checkIds : (r.executionChecks.map (·.id)).Nodup
  criteria : ∀ k ∈ r.executionChecks, r.HasCriterion k.criterionId
  submissions : (r.submissions.filter fun i =>
    i.taskReviewCycle = some (r.reviewCycle + 1)).map (·.id) = recordedSince t (submission t) log
  checks : (r.executionChecks.filter fun k =>
    k.taskReviewCycle = some r.reviewCycle).map (·.id) = recordedSince t (executionCheck t) log
  payloads : ∀ p ∈ r.payloads, p.Lists r

section History

variable {platform : Platform} {t : TaskId} {e : Entry} {log : List Entry} {r r' : TaskRecord}

/-- A commit that adds nothing to the delivery of the Task. -/
theorem recordedSince_other (hc : e.cmd.delivers ≠ some t) :
    recordedSince t (submission t) (e :: log) = recordedSince t (submission t) log ∧
      recordedSince t (executionCheck t) (e :: log) = recordedSince t (executionCheck t) log := by
  have hnone : e.cmd.completesExecution t = false ∧ submission t e = none ∧
      executionCheck t e = none := by
    unfold submission executionCheck
    generalize e.cmd = c at hc
    cases c <;> simp_all [Cmd.delivers, Cmd.completesExecution]
  obtain ⟨hcompletes, hsubmission, hcheck⟩ := hnone
  simp [recordedSince, hcompletes, hsubmission, hcheck]

/-- A Task without items and checks. -/
theorem Delivers.of_empty (hitems : r.items = []) (hchecks : r.checks = [])
    (hsubmitted : recordedSince t (submission t) log = [])
    (hchecked : recordedSince t (executionCheck t) log = []) : Delivers t log r := by
  have hsubmissions : r.submissions = [] := by rw [TaskRecord.submissions, hitems]; rfl
  have hpayloads : r.payloads = [] := by rw [TaskRecord.payloads, hitems]; rfl
  have hnone : r.executionChecks = [] := by rw [TaskRecord.executionChecks, hchecks]; rfl
  constructor <;> simp [hsubmissions, hpayloads, hnone, hsubmitted, hchecked]

theorem Delivers.of_same (h : Delivers t log r) (hsame : r.SameDelivery r')
    {log'}
    (hsubmissions : recordedSince t (submission t) log' = recordedSince t (submission t) log)
    (hchecks : recordedSince t (executionCheck t) log' = recordedSince t (executionCheck t) log) :
    Delivers t log' r' where
  thread := by rw [hsame.submissions, hsame.main]; exact h.thread
  submissionCycle := by rw [hsame.submissions, hsame.cycle]; exact h.submissionCycle
  submissionIds := by rw [hsame.submissions]; exact h.submissionIds
  checkCycle := by rw [hsame.checks, hsame.cycle]; exact h.checkCycle
  checkIds := by rw [hsame.checks]; exact h.checkIds
  criteria k hk := by
    rw [hsame.checks] at hk
    exact hsame.criteria k hk (h.criteria k hk)
  submissions := by rw [hsame.submissions, hsame.cycle, hsubmissions]; exact h.submissions
  checks := by rw [hsame.checks, hsame.cycle, hchecks]; exact h.checks
  payloads p hp := by
    rw [hsame.payloads] at hp
    obtain ⟨n, hcycle, hsubmitted, hchecked⟩ := h.payloads p hp
    refine ⟨n, hcycle, ?_, ?_⟩
    · rw [hsame.submissions]
      exact hsubmitted
    · rw [hsame.checks]
      exact hchecked

theorem idsInOrder_perm (rows : List (Time × Id)) : (idsInOrder rows).Perm (rows.map Prod.snd) :=
  (perm_insertionSort _ rows).map Prod.snd

/-- The submissions that a completion lists are those with the stamp of its cycle. -/
theorem Delivers.submissionItemIds_perm (h : Delivers t log r) (hmain : r.mainThread = some main)
    (cycle : Nat) :
    (r.submissionItemIds main.id cycle).Perm
      ((r.submissions.filter fun i => i.taskReviewCycle = some cycle).map (·.id)) := by
  have hrows : (r.items.filter fun i => i.threadId = main.id ∧ i.kind = .workSubmission ∧
      i.taskReviewCycle = some cycle) =
        r.submissions.filter fun i => i.taskReviewCycle = some cycle := by
    rw [TaskRecord.submissions, filter_filter]
    apply filter_congr
    intro i hi
    by_cases hkind : i.kind = .workSubmission
    · have hthread := h.thread i (mem_filter.mpr ⟨hi, decide_eq_true hkind⟩)
      rw [TaskRecord.mainId, hmain, Option.map_some, Option.some.injEq] at hthread
      simp [hkind, hthread]
    · simp [hkind]
  unfold TaskRecord.submissionItemIds
  rw [hrows]
  refine (idsInOrder_perm _).trans ?_
  rw [map_map]
  exact .refl _

/-- The checks that a completion lists are those with the stamp of the cycle before. -/
theorem Delivers.executionCheckIds_perm (h : Delivers t log r) (cycle : Nat) :
    (r.executionCheckIds (cycle + 1)).Perm
      ((r.executionChecks.filter fun k => k.taskReviewCycle = some cycle).map (·.id)) := by
  have hrows : (r.checks.filter fun k => k.purpose = some .executionVerification ∧
      k.taskReviewCycle = some (cycle + 1 - 1) ∧ k.criterionId ∈ r.criteria.map (·.id)) =
        r.executionChecks.filter fun k => k.taskReviewCycle = some cycle := by
    rw [TaskRecord.executionChecks, filter_filter]
    apply filter_congr
    intro k hk
    by_cases hpurpose : k.purpose = some .executionVerification
    · have hcriterion := h.criteria k (mem_filter.mpr ⟨hk, decide_eq_true hpurpose⟩)
      unfold TaskRecord.HasCriterion at hcriterion
      simp [hpurpose, hcriterion]
    · simp [hpurpose]
  unfold TaskRecord.executionCheckIds
  rw [hrows]
  refine (idsInOrder_perm _).trans ?_
  rw [map_map]
  exact .refl _

/-- A work submission gets the stamp of the coming cycle. -/
theorem Delivers.submit {summary} (h : Delivers call.taskNumber log r)
    (hcmd : e.cmd = .recordWorkSubmission call summary) (hmain : r.mainThread = some main)
    (hitem : item = deliveryItem (call.fresh 0) main.id .workSubmission call.actor summary
      claim.id (r.row.lifecycle.reviewCycle + 1) none call.now) (haccepts : r.AcceptsItem item) :
    Delivers call.taskNumber (e :: log) ((r.addItem item.stored).addAudit event) := by
  have hsubmissions : ((r.addItem item.stored).addAudit event).submissions =
      r.submissions ++ [item.stored] := by
    rw [hitem]
    simp [TaskRecord.submissions]
  have hpayloads : ((r.addItem item.stored).addAudit event).payloads = r.payloads := by
    rw [hitem]
    simp [TaskRecord.payloads]
  have hlog : recordedSince call.taskNumber (submission call.taskNumber) (e :: log) =
      recordedSince call.taskNumber (submission call.taskNumber) log ++ [call.fresh 0] := by
    simp [recordedSince, submission, hcmd, Cmd.completesExecution]
  have hlog' : recordedSince call.taskNumber (executionCheck call.taskNumber) (e :: log) =
      recordedSince call.taskNumber (executionCheck call.taskNumber) log := by
    simp [recordedSince, executionCheck, hcmd, Cmd.completesExecution]
  refine ⟨?_, ?_, ?_, h.checkCycle, h.checkIds, h.criteria, ?_, ?_, ?_⟩
  · rw [hsubmissions]
    intro i hi
    rcases mem_append.mp hi with hold | hnew
    · exact h.thread i hold
    · rw [mem_singleton.mp hnew, hitem]
      exact congrArg (Option.map Thread.id) hmain
  · rw [hsubmissions]
    intro i hi
    rcases mem_append.mp hi with hold | hnew
    · exact h.submissionCycle i hold
    · rw [mem_singleton.mp hnew, hitem]
      exact ⟨_, rfl, le_rfl⟩
  · rw [hsubmissions, map_append]
    refine List.Nodup.append h.submissionIds (nodup_singleton _) ?_
    rw [map_singleton, disjoint_singleton]
    intro hmem
    obtain ⟨i, hi, hid⟩ := mem_map.mp hmem
    exact haccepts.1 i (mem_of_mem_filter hi) hid
  · rw [hsubmissions, hlog, ← h.submissions, filter_append, map_append]
    congr 1
    rw [hitem]
    simp [TaskRecord.reviewCycle]
  · rw [hlog', ← h.checks]
    rfl
  · rw [hpayloads]
    intro p hp
    obtain ⟨n, hcycle, hsubmitted, hchecked⟩ := h.payloads p hp
    refine ⟨n, hcycle, fun id hid => ?_, hchecked⟩
    obtain ⟨i, hi, hrest⟩ := hsubmitted id hid
    rw [hsubmissions]
    exact ⟨i, mem_append_left _ hi, hrest⟩

/-- A check through an execution Claim gets the stamp of the current cycle. -/
theorem Delivers.check {check : AcceptanceCheck} {criterion : AcceptanceCriterion}
    (h : Delivers call.taskNumber log r) (hcmd : e.cmd = .recordAcceptanceCheck call check)
    (hclaim : e.before.claim call.claimId = some claim) (hcriterion : criterion ∈ r.activeCriteria)
    (hid : check.criterionId = criterion.id) (hfresh : ∀ x ∈ r.checks, x.id ≠ call.fresh 0) :
    Delivers call.taskNumber (e :: log)
      ((r.addCheck
        (recordedCheck call check claim r.row.lifecycle.reviewCycle)).addAudit event) := by
  have hlog : recordedSince call.taskNumber (submission call.taskNumber) (e :: log) =
      recordedSince call.taskNumber (submission call.taskNumber) log := by
    simp [recordedSince, submission, hcmd, Cmd.completesExecution]
  by_cases hstage : claim.stage = .execution
  case neg =>
    -- A check of the review is none of the execution.
    have hlog' : recordedSince call.taskNumber (executionCheck call.taskNumber) (e :: log) =
        recordedSince call.taskNumber (executionCheck call.taskNumber) log := by
      simp [recordedSince, executionCheck, hcmd, Cmd.completesExecution, hclaim, hstage]
    refine h.of_same (.addAudit (.addCheck (.refl r) ?_)) hlog hlog'
    simp [hstage]
  have hlog' : recordedSince call.taskNumber (executionCheck call.taskNumber) (e :: log) =
      recordedSince call.taskNumber (executionCheck call.taskNumber) log ++ [call.fresh 0] := by
    simp [recordedSince, executionCheck, hcmd, Cmd.completesExecution, hclaim, hstage]
  have hchecks : ((r.addCheck (recordedCheck call check claim
      r.row.lifecycle.reviewCycle)).addAudit event).executionChecks = r.executionChecks ++
        [recordedCheck call check claim r.row.lifecycle.reviewCycle] := by
    simp [TaskRecord.executionChecks, hstage]
  refine ⟨h.thread, h.submissionCycle, h.submissionIds, ?_, ?_, ?_, ?_, ?_, ?_⟩
  · rw [hchecks]
    intro k hk
    rcases mem_append.mp hk with hold | hnew
    · exact h.checkCycle k hold
    · rw [mem_singleton.mp hnew]
      exact ⟨_, rfl, le_rfl⟩
  · rw [hchecks, map_append]
    refine List.Nodup.append h.checkIds (nodup_singleton _) ?_
    rw [map_singleton, disjoint_singleton]
    intro hmem
    obtain ⟨k, hk, heq⟩ := mem_map.mp hmem
    exact hfresh k (mem_of_mem_filter hk) heq
  · rw [hchecks]
    intro k hk
    rcases mem_append.mp hk with hold | hnew
    · exact h.criteria k hold
    · rw [mem_singleton.mp hnew]
      exact mem_map.mpr ⟨criterion, mem_of_mem_filter hcriterion, hid.symm⟩
  · rw [hlog, ← h.submissions]
    rfl
  · rw [hchecks, hlog', ← h.checks, filter_append, map_append]
    congr 1
    simp [TaskRecord.reviewCycle]
  · intro p hp
    obtain ⟨n, hcycle, hsubmitted, hchecked⟩ := h.payloads p hp
    refine ⟨n, hcycle, hsubmitted, fun id hid => ?_⟩
    obtain ⟨k, hk, hrest⟩ := hchecked id hid
    rw [hchecks]
    exact ⟨k, mem_append_left _ hk, hrest⟩

/-- A completion lists what bears the stamps of its cycle, and nothing bears those of the next. -/
theorem Delivers.complete {summary codeChanges issue outcome} (h : Delivers call.taskNumber log r)
    (hcmd : e.cmd = .completeExecution call summary codeChanges) (hmain : r.mainThread = some main)
    (hitem : item = deliveryItem (call.fresh 0) main.id .executionCompleted call.actor summary
      claim.id (r.row.lifecycle.reviewCycle + 1)
      (some (r.completionPayload main (r.row.lifecycle.reviewCycle + 1) codeChanges)) call.now) :
    Delivers call.taskNumber (e :: log)
      ((((r.endClaim claim outcome now).advance
        ⟨.inReview, .available, r.row.lifecycle.reviewCycle + 1⟩ issue now).addItem
          item.stored).addAudit event) := by
  have hsubmissions : ((((r.endClaim claim outcome now).advance
      ⟨.inReview, .available, r.row.lifecycle.reviewCycle + 1⟩ issue now).addItem
        item.stored).addAudit event).submissions = r.submissions := by
    rw [hitem]
    simp [TaskRecord.submissions]
  have hpayloads : ((((r.endClaim claim outcome now).advance
      ⟨.inReview, .available, r.row.lifecycle.reviewCycle + 1⟩ issue now).addItem
        item.stored).addAudit event).payloads = r.payloads ++
          [r.completionPayload main (r.row.lifecycle.reviewCycle + 1) codeChanges] := by
    rw [hitem]
    simp [TaskRecord.payloads]
  have hlog : ∀ record, recordedSince call.taskNumber record (e :: log) = [] := by
    intro record
    simp [recordedSince, hcmd, Cmd.completesExecution]
  have hlists :
      (r.completionPayload main (r.row.lifecycle.reviewCycle + 1) codeChanges).Lists r := by
    refine ⟨_, rfl, fun id hid => ?_, fun id hid => ?_⟩
    · obtain ⟨i, hi, heq⟩ := mem_map.mp ((h.submissionItemIds_perm hmain _).mem_iff.mp hid)
      exact ⟨i, mem_of_mem_filter hi, heq, of_decide_eq_true (mem_filter.mp hi).2⟩
    · obtain ⟨k, hk, heq⟩ := mem_map.mp ((h.executionCheckIds_perm _).mem_iff.mp hid)
      exact ⟨k, mem_of_mem_filter hk, heq, of_decide_eq_true (mem_filter.mp hk).2⟩
  refine ⟨?_, ?_, ?_, ?_, h.checkIds, h.criteria, ?_, ?_, ?_⟩
  · rw [hsubmissions]
    exact h.thread
  · rw [hsubmissions]
    intro i hi
    obtain ⟨n, hn, hle⟩ := h.submissionCycle i hi
    exact ⟨n, hn, hle.trans (Nat.le_succ _)⟩
  · rw [hsubmissions]
    exact h.submissionIds
  · intro k hk
    obtain ⟨n, hn, hle⟩ := h.checkCycle k hk
    exact ⟨n, hn, hle.trans (Nat.le_succ _)⟩
  · rw [hsubmissions, hlog, map_eq_nil_iff, filter_eq_nil_iff]
    intro i hi heq
    obtain ⟨n, hn, hle⟩ := h.submissionCycle i hi
    have hcycle : i.taskReviewCycle = some (r.reviewCycle + 1 + 1) := of_decide_eq_true heq
    rw [hn, Option.some.injEq] at hcycle
    omega
  · rw [hlog, map_eq_nil_iff, filter_eq_nil_iff]
    intro k hk heq
    obtain ⟨n, hn, hle⟩ := h.checkCycle k hk
    have hcycle : k.taskReviewCycle = some (r.reviewCycle + 1) := of_decide_eq_true heq
    rw [hn, Option.some.injEq] at hcycle
    omega
  · rw [hpayloads]
    intro p hp
    have hlisted : p.Lists r := by
      rcases mem_append.mp hp with hold | hnew
      · exact h.payloads p hold
      · rw [mem_singleton.mp hnew]
        exact hlists
    obtain ⟨n, hcycle, hsubmitted, hchecked⟩ := hlisted
    refine ⟨n, hcycle, ?_, hchecked⟩
    rw [hsubmissions]
    exact hsubmitted

variable {d : Db}

/-- Nothing has been recorded on a Task that is not there. -/
theorem History.recordedSince_absent (h : History platform Db.empty log d)
    (hnone : d.task t = none) :
    recordedSince t (submission t) log = [] ∧ recordedSince t (executionCheck t) log = [] := by
  induction log generalizing d with
  | nil => exact ⟨rfl, rfl⟩
  | cons e older ih =>
    obtain ⟨rfl, hv, hbefore⟩ := h
    have hstep := step_of_valid hv
    have habsent : e.before.task t = none := by
      cases hr : e.before.task t with
      | none => rfl
      | some r =>
        have hlaw := History.lawful hbefore lawful_empty
        obtain ⟨r', hr', -⟩ := (hstep.footprint hlaw).keeps t r hr
        rw [hnone] at hr'
        cases hr'
    have hother : e.cmd.delivers ≠ some t := by
      intro hc
      obtain ⟨r, r', hon, -⟩ := hstep.delivers hc
      have hafter := hon.after
      rw [hnone] at hafter
      cases hafter
    rw [(recordedSince_other hother).1, (recordedSince_other hother).2]
    exact ih hbefore habsent

/-- Every Task's rows agree with the log. -/
theorem History.delivers (h : History platform Db.empty log d) (hr : d.task t = some r) :
    Delivers t log r := by
  induction log generalizing d r with
  | nil =>
    rw [show d = Db.empty from h] at hr
    cases hr
  | cons e older ih =>
    obtain ⟨rfl, hv, hbefore⟩ := h
    have hstep := step_of_valid hv
    by_cases hc : e.cmd.delivers = some t
    · obtain ⟨r₀, r₁, hon, step⟩ := hstep.delivers hc
      rw [hon.after] at hr
      cases hr
      have hdelivers := ih hbefore hon.before
      generalize hcmd : e.cmd = c at step hc
      cases step with
      | recordWorkSubmission howns _ _ _ hitem haccepts =>
        exact hdelivers.submit hcmd howns.mainThread hitem haccepts
      | completeExecution howns _ _ hitem =>
        exact hdelivers.complete hcmd howns.mainThread hitem
      | @recordAcceptanceCheck call _ _ _ claim _ howns _ hcriterion hid _ hfresh =>
        have hmem := (TaskRecord.mem_of_activeClaim howns.active).1
        have hclaim : e.before.claim call.claimId = some claim :=
          howns.id_eq ▸ (History.claimsUnique hbefore).claim_eq hon.before hmem
        exact hdelivers.check hcmd hclaim hcriterion hid hfresh
      | _ => cases hc
    · obtain ⟨hsubmissions, hchecks⟩ := @recordedSince_other t e older hc
      have hchange := hstep.taskChange hr
      cases hfound : e.before.task t with
      | some r₀ =>
        rw [hfound] at hchange
        exact (ih hbefore hfound).of_same (hchange.sameDelivery hc) hsubmissions hchecks
      | none =>
        obtain ⟨hnone, hnone'⟩ := History.recordedSince_absent hbefore hfound
        rw [hfound] at hchange
        cases hchange with
        | create => exact .of_empty rfl rfl (hsubmissions.trans hnone) (hchecks.trans hnone')

end History

end Pactline
