import Pactline.Analysis.History

/-!
# The work on a Task

What a Task's phase and activity are for: at any time a Task is idle, or is worked on through one
Claim, or is blocked by one Issue. `Work` says which, with the Claim or the Issue itself, so that
a Task cannot be claimed and blocked at once. The rows of three tables have to agree about it
(`TaskRecord.Doing`), and every commit keeps them in agreement.
-/

set_option autoImplicit false

namespace Pactline

open ReadCommitted TaskRecord List

variable {main : Thread}

variable {c : TaskStageClaim} {i : Thread} {outcome : TaskClaimOutcome} {now : Time} {actor : Actor}
  {l : TaskLifecycle}

/-! ## The abstract state -/

inductive Work
  | idle
  | claimed (claim : TaskStageClaim)
  | blocked (issue : Thread)

namespace Work

def claims : Work → List TaskStageClaim
  | claimed c => [c]
  | _ => []

def issues : Work → List Thread
  | blocked i => [i]
  | _ => []

/-- A lifecycle that says that this is what goes on. -/
def Fits : Work → TaskLifecycle → Prop
  | idle, l => l.activity = if l.phase.Active then .available else .unset
  | claimed c, l => l.WorkingAt c.stage
  | blocked i, l =>
    l.activity = .needsResolution ∧ l.phase.Active ∧ i.openedFromPhase = some l.phase

end Work

namespace TaskRecord

def activeClaims (r : TaskRecord) : List TaskStageClaim :=
  r.claims.filter fun c => c.status = .active

def openIssues (r : TaskRecord) : List Thread :=
  r.threads.filter fun i => i.OpenIssue

/-- The rows of the Task, of its Claims and of its Threads agree about the work. -/
structure Doing (r : TaskRecord) (w : Work) : Prop where
  claims : r.activeClaims = w.claims
  issues : r.openIssues = w.issues
  issue : r.row.activeIssueThreadId = w.issues.head?.map Thread.id
  fits : w.Fits r.row.lifecycle
  archived : r.row.archivedAt.isSome → w = .idle
  cycle : r.row.lifecycle.phase = .inReview → 1 ≤ r.row.lifecycle.reviewCycle

/-- What `Doing` reads of a Task. -/
def workflow (r : TaskRecord) :
    TaskLifecycle × Option Id × Option Time × List TaskStageClaim × List Thread :=
  (r.row.lifecycle, r.row.activeIssueThreadId, r.row.archivedAt, r.claims, r.threads)

theorem Follows.workflow {projectId} {r r' : TaskRecord} (h : r.Follows projectId r') :
    r'.workflow = r.workflow := by
  have heq : r'.unmoved.workflow = r.unmoved.workflow := congrArg _ h.unmoved
  exact heq

/-! ## Changes of the tables -/

section Tables

variable {r : TaskRecord}

theorem activeClaim_eq_head? (r : TaskRecord) : r.activeClaim = r.activeClaims.head? :=
  (head?_filter).symm

theorem activeClaims_eq_nil : r.activeClaims = [] ↔ ∀ c ∈ r.claims, c.status ≠ .active := by
  simp [activeClaims, filter_eq_nil_iff]

theorem openIssues_eq_nil : r.openIssues = [] ↔ ∀ i ∈ r.threads, ¬ i.OpenIssue := by
  simp [openIssues, filter_eq_nil_iff]

theorem activeClaims_addClaim (hnone : r.activeClaims = []) (hactive : c.status = .active) :
    (r.addClaim c).activeClaims = [c] := by
  unfold activeClaims at hnone ⊢
  rw [addClaim_claims, filter_append, hnone]
  simp [hactive]

theorem openIssues_addThread (hnone : r.openIssues = []) (hopen : i.OpenIssue) :
    (r.addThread i).openIssues = [i] := by
  unfold openIssues at hnone ⊢
  rw [addThread_threads, filter_append, hnone]
  simp [hopen]

/-- A Claim that ends was the active one, so none is left. -/
theorem activeClaims_endClaim (h : r.activeClaims = [c]) :
    (r.endClaim c outcome now).activeClaims = [] := by
  rw [activeClaims_eq_nil, endClaim, setClaim_claims]
  intro x hx
  obtain ⟨old, hold, rfl⟩ := mem_map.mp hx
  split
  · exact TaskStageClaim.endStatus_ne_active outcome
  · intro hactive
    have hmem : old ∈ r.activeClaims := mem_filter.mpr ⟨hold, decide_eq_true hactive⟩
    rw [h, mem_singleton] at hmem
    subst hmem
    exact absurd ⟨rfl, rfl⟩ ‹¬ (_ ∧ _)›

/-- An Issue that is resolved was the open one, so none is left. -/
theorem openIssues_closeIssueThread (h : r.openIssues = [i]) :
    (r.closeIssueThread i actor now).openIssues = [] := by
  rw [openIssues_eq_nil, closeIssueThread, setThread_threads]
  intro x hx
  obtain ⟨old, hold, rfl⟩ := mem_map.mp hx
  split
  · rintro ⟨-, hstatus⟩
    cases hstatus
  · intro hopen
    have hmem : old ∈ r.openIssues := mem_filter.mpr ⟨hold, decide_eq_true hopen⟩
    rw [h, mem_singleton] at hmem
    subst hmem
    exact absurd ⟨rfl, rfl, hopen.2⟩ ‹¬ (_ ∧ _ ∧ _)›

end Tables

/-! ## What goes on -/

namespace Doing

variable {r r' : TaskRecord} {w : Work}

/-- Only the part of the rows that `workflow` gives counts. -/
theorem congr (h : r.Doing w) (heq : r'.workflow = r.workflow) : r'.Doing w := by
  simp only [workflow, Prod.mk.injEq] at heq
  obtain ⟨hlifecycle, hissue, harchived, hclaims, hthreads⟩ := heq
  constructor
  · rw [← h.claims, activeClaims, activeClaims, hclaims]
  · rw [← h.issues, openIssues, openIssues, hthreads]
  · rw [hissue, h.issue]
  · rw [hlifecycle]
    exact h.fits
  · rw [harchived]
    exact h.archived
  · rw [hlifecycle]
    exact h.cycle

theorem eq_claimed (h : r.Doing w) (hactive : r.activeClaim = some c) : w = .claimed c := by
  rw [activeClaim_eq_head?, h.claims] at hactive
  cases w with
  | claimed => exact congrArg _ (Option.some.inj hactive)
  | idle => cases hactive
  | blocked => cases hactive

theorem eq_blocked (h : r.Doing w) (hmem : i ∈ r.threads) (hopen : i.OpenIssue) :
    w = .blocked i := by
  have hi : i ∈ r.openIssues := mem_filter.mpr ⟨hmem, decide_eq_true hopen⟩
  rw [h.issues] at hi
  cases w with
  | blocked => exact congrArg _ (mem_singleton.mp hi).symm
  | idle => cases hi
  | claimed => cases hi

theorem working_iff (h : r.Doing w) :
    r.row.lifecycle.activity = .working ↔ ∃ c, w = .claimed c := by
  have hfits := h.fits
  cases w with
  | idle =>
    unfold Work.Fits at hfits
    rw [hfits]
    split <;> simp
  | claimed c => exact iff_of_true hfits.activity ⟨c, rfl⟩
  | blocked i => simp [hfits.1]

theorem needsResolution_iff (h : r.Doing w) :
    r.row.lifecycle.activity = .needsResolution ↔ ∃ i, w = .blocked i := by
  have hfits := h.fits
  cases w with
  | idle =>
    unfold Work.Fits at hfits
    rw [hfits]
    split <;> simp
  | claimed c => simp [hfits.activity]
  | blocked i => exact iff_of_true hfits.1 ⟨i, rfl⟩

theorem eq_idle (h : r.Doing w) (hworking : r.row.lifecycle.activity ≠ .working)
    (hneeds : r.row.lifecycle.activity ≠ .needsResolution) : w = .idle := by
  cases w with
  | idle => rfl
  | claimed => exact absurd h.fits.activity hworking
  | blocked => exact absurd h.fits.1 hneeds

/-- A Task that stays idle may get a new lifecycle. -/
theorem setLifecycle (h : r.Doing .idle) (hl : Work.idle.Fits l)
    (hcycle : l.phase = .inReview → 1 ≤ l.reviewCycle) :
    (r.setRow { r.row with lifecycle := l }).Doing .idle :=
  ⟨h.claims, h.issues, h.issue, hl, fun _ => rfl, hcycle⟩

/-- The work ends with its Claim. -/
theorem endClaim (h : r.Doing (.claimed c)) (hl : Work.idle.Fits l)
    (hcycle : l.phase = .inReview → 1 ≤ l.reviewCycle) :
    ((r.endClaim c outcome now).setRow { r.row with lifecycle := l }).Doing .idle :=
  ⟨activeClaims_endClaim h.claims, h.issues, h.issue, hl, fun _ => rfl, hcycle⟩

/-- A Task whose Claim has ended may be claimed again. -/
theorem release (h : r.Doing (.claimed c)) :
    ((r.endClaim c outcome now).setRow
      { r.row with lifecycle := { r.row.lifecycle with activity := .available } }).Doing .idle := by
  refine h.endClaim ?_ h.cycle
  exact (if_pos h.fits.phase).symm

/-- An idle Task is worked on once a Claim of its phase's stage has been added. -/
theorem addClaim (h : r.Doing .idle) (hactive : c.status = .active) (hl : l.WorkingAt c.stage)
    (harchived : r.row.archivedAt.isSome = false)
    (hcycle : l.phase = .inReview → 1 ≤ l.reviewCycle) :
    ((r.addClaim c).setRow { r.row with lifecycle := l }).Doing (.claimed c) :=
  ⟨activeClaims_addClaim h.claims hactive, h.issues, h.issue, hl,
    fun hsome => absurd hsome (by simp [harchived]), hcycle⟩

/-- The Claim gives way to an Issue. -/
theorem block (h : r.Doing (.claimed c)) (hopen : i.OpenIssue)
    (hphase : i.openedFromPhase = some r.row.lifecycle.phase) :
    (((r.addThread i).endClaim c outcome now).setRow
      { r.row with
        lifecycle := { r.row.lifecycle with activity := .needsResolution }
        activeIssueThreadId := some i.id }).Doing (.blocked i) where
  claims := activeClaims_endClaim (r := r.addThread i) h.claims
  issues := openIssues_addThread h.issues hopen
  issue := rfl
  fits := ⟨rfl, h.fits.phase, hphase⟩
  archived hsome := nomatch h.archived hsome
  cycle := h.cycle

/-- The Task is free again once its Issue is resolved. -/
theorem closeIssue (h : r.Doing (.blocked i)) (hl : Work.idle.Fits l)
    (hcycle : l.phase = .inReview → 1 ≤ l.reviewCycle) :
    ((r.closeIssueThread i actor now).setRow
      { r.row with lifecycle := l, activeIssueThreadId := none }).Doing .idle :=
  ⟨h.claims, openIssues_closeIssueThread h.issues, rfl, hl, fun _ => rfl, hcycle⟩

end Doing

end TaskRecord

/-! ## The steps of a Task -/

section Steps

variable {d : Db} {t : TaskId} {c : Cmd} {r r' : TaskRecord} {w : Work}

/-- Ending a Claim that is due leaves the Task idle; otherwise nothing has happened yet. -/
theorem Expiry.doing {itemId} (h : Expiry main now itemId r r' l) (hr : r.Doing w)
    (hl : l.activity ≠ .working) (hneeds : l.activity ≠ .needsResolution) :
    (r'.setRow { r.row with lifecycle := l }).Doing .idle := by
  cases h with
  | notDue =>
    have hw := hr.eq_idle hl hneeds
    subst hw
    exact hr.setLifecycle hr.fits hr.cycle
  | due claim hactive hdue hwork =>
    have hw := hr.eq_claimed hactive
    subst hw
    exact hr.release.congr rfl

/-- A cancelled Task is idle. -/
theorem Cleared.doing {reason fresh issueId}
    (h : Cleared main reason actor now fresh r r' issueId) (hr : r.Doing w) :
    (r'.setRow { r.row with
      lifecycle := { r.row.lifecycle with phase := .cancelled, activity := .unset }
      activeIssueThreadId := issueId }).Doing .idle := by
  cases h with
  | idle hworking hneeds =>
    have hw := hr.eq_idle hworking hneeds
    subst hw
    exact hr.setLifecycle rfl nofun
  | claim claim _ hactive =>
    have hw := hr.eq_claimed hactive
    subst hw
    exact hr.endClaim rfl nofun
  | issue issue request _ _ hmem hopen =>
    have hw := hr.eq_blocked hmem hopen
    subst hw
    refine (hr.closeIssue ?_ ?_).congr rfl
    · rfl
    · exact nofun

/-- Every command on a Task leaves rows that agree again. -/
theorem TaskStep.doing (h : TaskStep d t c r r') (hr : r.Doing w) : ∃ w', r'.Doing w' := by
  cases h with
  | markReady _ _ _ hactivity | withdrawReadiness _ _ _ hactivity =>
    have hw := hr.eq_idle (by simp [hactivity]) (by simp [hactivity])
    subst hw
    refine ⟨_, (hr.setLifecycle ?_ ?_).congr rfl⟩
    · exact hactivity
    · exact nofun
  | @claim _ _ _ _ _ _ _ _ _ _ _ _ _ claim _ _ _ hexpiry hclaim hnew =>
    obtain ⟨harchived, hwork, hcycle, hbefore⟩ := TaskLifecycle.claim_ok hclaim
    obtain ⟨-, -, hstage, hactive, -⟩ := TaskStageClaim.new_ok hnew
    -- The new Claim comes upon an idle Task, whether or not an old one had to end first.
    have hidle := hexpiry.doing hr
      (by rcases hbefore with ⟨-, h, -⟩ | ⟨-, h, -⟩ <;> simp [h])
      (by rcases hbefore with ⟨-, h, -⟩ | ⟨-, h, -⟩ <;> simp [h])
    have hclaimed := hidle.addClaim (c := { claim with claimedBy := storedActor claim.claimedBy })
      hactive (hstage ▸ hwork) harchived ?_
    · exact ⟨_, hclaimed.congr (by simp [workflow, hexpiry.row.1])⟩
    · intro hreview
      rw [hcycle]
      rcases hbefore with ⟨-, -, hprogress⟩ | ⟨-, -, hphase⟩
      · rw [hprogress] at hreview
        cases hreview
      · exact hidle.cycle (hphase ▸ hreview)
  | keepClaim => exact ⟨w, hr⟩
  | expireDueClaim _ hactive _ hwork =>
    have hw := hr.eq_claimed hactive
    subst hw
    exact ⟨_, hr.release.congr rfl⟩
  | releaseClaim howns hwork =>
    have hw := hr.eq_claimed howns.active
    subst hw
    exact ⟨_, hr.release.congr rfl⟩
  | completeExecution howns =>
    have hw := hr.eq_claimed howns.active
    subst hw
    refine ⟨_, (hr.endClaim ?_ ?_).congr rfl⟩
    · rfl
    · exact fun _ => Nat.le_add_left _ _
  | requestChanges howns | acceptTask howns =>
    have hw := hr.eq_claimed howns.active
    subst hw
    refine ⟨_, (hr.endClaim ?_ ?_).congr rfl⟩
    · rfl
    · exact nofun
  | @requestResolution call _ _ _ _ issue claim howns _ hissue =>
    have hw := hr.eq_claimed howns.active
    subst hw
    obtain ⟨-, hopen, hphase, -⟩ := Thread.newIssue_ok hissue
    exact ⟨_, (hr.block (i := { issue with openedBy := issue.openedBy.map storedActor }) hopen
      hphase).congr rfl⟩
  | resolveIssue _ _ _ _ _ hmem hopen hphase =>
    have hw := hr.eq_blocked hmem hopen
    subst hw
    refine ⟨_, (hr.closeIssue ?_ ?_).congr rfl⟩
    · exact (if_pos hphase).symm
    · exact hr.cycle
  | cancelTask _ _ hcleared =>
    refine ⟨_, (hcleared.doing hr).congr ?_⟩
    simp [workflow, hcleared.row.1]
  | @setArchived _ _ archived _ _ _ r₁ _ hidle haudit =>
    have htables : r₁.claims = r.claims ∧ r₁.threads = r.threads := by
      rw [haudit]
      split <;> exact ⟨rfl, rfl⟩
    refine ⟨w, ?_, ?_, hr.issue, hr.fits, ?_, hr.cycle⟩
    · change r₁.claims.filter _ = _
      rw [htables.1]
      exact hr.claims
    · change r₁.threads.filter _ = _
      rw [htables.2]
      exact hr.issues
    · intro hsome
      -- Archiving asks for an idle Task, unless it was archived before.
      cases harchived : r.row.archivedAt with
      | some => exact hr.archived (by simp [harchived])
      | none =>
        have harchive : archived = true := by
          by_contra hnot
          simp [hnot] at hsome
        obtain ⟨hworking, hneeds⟩ := hidle harchive harchived
        exact hr.eq_idle hworking hneeds
  | _ => exact ⟨w, hr.congr rfl⟩

/-- A Task is idle when it is created, and every commit leaves rows that agree. -/
theorem TaskChange.doing {before} (h : TaskChange d t c before r')
    (hbefore : ∀ r ∈ before, ∃ w, r.Doing w) : ∃ w', r'.Doing w' := by
  cases h with
  | same => exact hbefore _ rfl
  | step step =>
    obtain ⟨w, hw⟩ := hbefore _ rfl
    exact step.doing hw
  | create => exact ⟨.idle, rfl, rfl, rfl, rfl, nofun, nofun⟩
  | update _ edited =>
    obtain ⟨w, hw⟩ := hbefore _ rfl
    refine ⟨w, hw.congr ?_⟩
    rw [edited.rows]
    simp [workflow, edited.patched.lifecycle, edited.patched.issue, edited.patched.archived]
  | follow _ _ _ follows =>
    obtain ⟨w, hw⟩ := hbefore _ rfl
    exact ⟨w, hw.congr follows.workflow⟩
  | attach =>
    obtain ⟨w, hw⟩ := hbefore _ rfl
    exact ⟨w, hw.congr rfl⟩

/-- Every Task is idle, worked on or blocked. -/
theorem History.doing {platform log}
    (h : History platform Db.empty log d) (hr : d.task t = some r) : ∃ w, r.Doing w := by
  refine h.task_history (P := fun _ _ r => ∃ w, r.Doing w) ?_ t r hr
  intro e older t r' _ hbefore hchange
  exact hchange.doing (hbefore t)

end Steps

end Pactline
