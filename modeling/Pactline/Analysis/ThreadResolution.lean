import Pactline.Analysis.Issues
import Pactline.Analysis.WorkIsolation

/-!
# The resolution of Threads

Which commands resolve an Issue, under which locks, and what becomes of an Issue that is resolved:
only `ResolveIssue` and `CancelTask` resolve one, they hold its Thread `FOR UPDATE`
(`commits_resolved`), and no command on Tasks adds an Item to it any more
(`TaskChange.keepsThread`).
-/

set_option autoImplicit false

namespace Pactline

open ReadCommitted List

variable {item : ThreadItem} {main : Thread} {now : Time}

/-- The commands that resolve an Issue. -/
def Cmd.Resolves : Cmd → Prop
  | .resolveIssue .. => True
  | .cancelTask .. => True
  | _ => False

namespace TaskRecord

variable {r : TaskRecord} {issue thread : Thread} {resolution : String} {actor : Actor}
  {fresh : Nat → Id}

/-- The Items of one Thread. -/
def threadItems (r : TaskRecord) (threadId : Id) : List ThreadItem :=
  r.items.filter fun i => i.threadId = threadId

/-- A resolution touches only the Thread it is about. -/
theorem mem_threads_resolveThread (text : String)
    (h : thread ∈ (r.resolveThread main issue text resolution actor now fresh).threads) :
    thread ∈ r.threads ∨ thread.id = issue.id := by
  rw [resolveThread, addItem_threads, closeIssueThread, setThread_threads, addItem_threads,
    mem_map] at h
  obtain ⟨old, hold, rfl⟩ := h
  by_cases hid : old.id = issue.id
  · right
    split <;> exact hid
  · left
    rw [if_neg fun h => hid h.1]
    exact hold

theorem threadItems_addItem (r : TaskRecord) {id} (hid : item.threadId ≠ id) :
    (r.addItem item).threadItems id = r.threadItems id := by
  unfold threadItems
  rw [addItem_items, filter_append, filter_singleton]
  simp [hid]

end TaskRecord

/-! ## What resolves a Thread -/

section Steps

variable {d d' : Db} {t : TaskId} {c : Cmd} {r r' : TaskRecord} {thread : Thread}

/-- A Thread that a step leaves resolved was resolved, or is the one that the command is about. -/
theorem TaskStep.resolved (h : TaskStep d t c r r') (hthread : thread ∈ r'.threads)
    (hstatus : thread.issueStatus = some .resolved) :
    thread ∈ r.threads ∨
      (∃ v w resolution actor operation now fresh,
        c = .resolveIssue t v thread.id w resolution actor operation now fresh) ∨
      (∃ v reason actor operation now fresh, c = .cancelTask t v reason actor operation now fresh) ∧
        r.row.lifecycle.activity = .needsResolution ∧
        r.row.activeIssueThreadId = some thread.id := by
  cases h with
  | claim _ _ hexpiry =>
    left
    have hsame := hexpiry.sameIssues.threads
    rw [← hsame]
    exact hthread
  | setArchived _ _ haudit =>
    left
    subst haudit
    rw [TaskRecord.setRow_threads] at hthread
    split at hthread <;> exact hthread
  | @requestResolution _ _ _ _ _ issue _ _ _ hissue =>
    left
    obtain ⟨-, hopen, -⟩ := Thread.newIssue_ok hissue
    rcases mem_append.mp hthread with hold | hnew
    · exact hold
    · -- The new Issue is open.
      rw [mem_singleton.mp hnew] at hstatus
      exact absurd (hopen.2.symm.trans hstatus) (by decide)
  | resolveIssue _ _ _ hid =>
    subst hid
    rw [TaskRecord.addAudit_threads, TaskRecord.advance_threads] at hthread
    rcases TaskRecord.mem_threads_resolveThread _ hthread with hold | hid
    · exact .inl hold
    · right; left
      rw [hid]
      exact ⟨_, _, _, _, _, _, _, rfl⟩
  | cancelTask _ _ hcleared =>
    cases hcleared with
    | idle | claim => exact .inl hthread
    | issue issue request hblocked hactive =>
      rw [TaskRecord.addAudit_threads, TaskRecord.addItem_threads,
        TaskRecord.advance_threads] at hthread
      rcases TaskRecord.mem_threads_resolveThread _ hthread with hold | hid
      · exact .inl hold
      · right; right
        rw [hid]
        exact ⟨⟨_, _, _, _, _, _, rfl⟩, hblocked, hactive⟩
  | _ => exact .inl hthread

/-- Whoever resolves a Thread holds it. -/
theorem commits_resolved {platform R} (hR : Isolates R)
    {held reply x}
    (h : (prog platform c).Commits R [] d reply held d') (hbefore : d.resolved x = false)
    (hafter : d'.resolved x = true) : c.Resolves ∧ ⟨.thread x, .update⟩ ∈ held := by
  obtain ⟨t, r', thread, hr', hthread, rfl, hstatus⟩ := Db.resolved_iff.mp hafter
  have hfresh : ∀ r, d.task t = some r → thread ∉ r.threads := by
    intro r hr hold
    have hresolved := Db.resolved_iff.mpr ⟨t, r, thread, hr, hold, rfl, hstatus⟩
    rw [hbefore] at hresolved
    cases hresolved
  have hchange := (step_of_commits hR h).taskChange hr'
  generalize hold : d.task t = old at hchange hfresh
  cases hchange with
  | same => exact (hfresh r' rfl hthread).elim
  | create =>
    rw [mem_singleton.mp hthread] at hstatus
    cases hstatus
  | update _ edited =>
    rw [edited.rows] at hthread
    exact (hfresh _ rfl hthread).elim
  | follow _ _ _ follows =>
    rw [follows.tables.2.1] at hthread
    exact (hfresh _ rfl hthread).elim
  | attach => exact (hfresh _ rfl hthread).elim
  | step step =>
    rcases step.resolved hthread hstatus with hsame | hcmd | ⟨hcmd, hblocked, hactive⟩
    · exact (hfresh _ rfl hsame).elim
    · obtain ⟨_, _, _, _, _, _, _, rfl⟩ := hcmd
      simp only [prog] at h
      obtain ⟨_, -, h⟩ := Txn.commits_of_bind_pure h
      exact ⟨trivial, (resolveIssue_refines hR h).1⟩
    · obtain ⟨_, _, _, _, _, _, rfl⟩ := hcmd
      simp only [prog] at h
      obtain ⟨_, -, h⟩ := Txn.commits_of_bind_pure h
      obtain ⟨r₀, _, hon, -, hlocked⟩ := cancelTask_refines hR h
      obtain rfl := Option.some.inj (hon.before.symm.trans hold)
      exact ⟨trivial, hlocked hblocked _ hactive⟩

/-! ## What becomes of a resolved Issue -/

theorem mainThread_ne (hids : (r.threads.map (·.id)).Nodup) (hmain : r.mainThread = some main)
    (hthread : thread ∈ r.threads) (hrole : thread.role = .issue) : main.id ≠ thread.id := by
  intro hid
  have hmatch := find?_some hmain
  have hmem := mem_of_find?_eq_some hmain
  obtain rfl : main = thread := inj_on_of_nodup_map hids hmem hthread hid
  rw [of_decide_eq_true hmatch] at hrole
  cases hrole

/-- The Thread and its Items are as they were. -/
structure TaskRecord.KeepsThread (r r' : TaskRecord) (thread : Thread) : Prop where
  kept : thread ∈ r'.threads
  items : r'.threadItems thread.id = r.threadItems thread.id

namespace TaskRecord.KeepsThread

theorem of_tables (hthread : thread ∈ r.threads) (hthreads : r'.threads = r.threads)
    (hitems : r'.items = r.items) : r.KeepsThread r' thread where
  kept := by rw [hthreads]; exact hthread
  items := by unfold threadItems; rw [hitems]

theorem of_addItem (hthread : thread ∈ r.threads) (hthreads : r'.threads = r.threads)
    (hitems : r'.items = r.items ++ [item]) (hother : item.threadId ≠ thread.id) :
    r.KeepsThread r' thread where
  kept := by rw [hthreads]; exact hthread
  items := by
    have hadded := threadItems_addItem r hother
    unfold threadItems at hadded ⊢
    rw [hitems, ← addItem_items]
    exact hadded

theorem trans {r₁ r₂ r₃ : TaskRecord} (h₁ : r₁.KeepsThread r₂ thread)
    (h₂ : r₂.KeepsThread r₃ thread) : r₁.KeepsThread r₃ thread :=
  ⟨h₂.kept, h₂.items.trans h₁.items⟩

/-- Resolving one Issue keeps every other. -/
theorem resolveThread (hids : (r.threads.map (·.id)).Nodup) {issue : Thread}
    (hmain : r.mainThread = some main) (hissue : issue ∈ r.threads) (hopen : issue.OpenIssue)
    (text resolution : String) (actor : Actor) (now : Time) (fresh : Nat → Id)
    (hthread : thread ∈ r.threads) (hrole : thread.role = .issue)
    (hstatus : thread.issueStatus = some .resolved) :
    r.KeepsThread (r.resolveThread main issue text resolution actor now fresh) thread := by
  have hne : issue.id ≠ thread.id := by
    intro hid
    obtain rfl : issue = thread := inj_on_of_nodup_map hids hissue hthread hid
    exact absurd (hopen.2.symm.trans hstatus) (by decide)
  constructor
  · rw [TaskRecord.resolveThread, addItem_threads, closeIssueThread, setThread_threads,
      addItem_threads, mem_map]
    exact ⟨thread, hthread, if_neg fun h => hne h.1.symm⟩
  · rw [TaskRecord.resolveThread, threadItems_addItem]
    · exact threadItems_addItem r hne
    · exact mainThread_ne hids hmain hthread hrole

end TaskRecord.KeepsThread

theorem Expiry.keepsThread {itemId l} (h : Expiry main now itemId r r' l)
    (hthread : thread ∈ r.threads) (hmain : main.id ≠ thread.id) : r.KeepsThread r' thread := by
  cases h with
  | notDue => exact .of_tables hthread rfl rfl
  | due => exact .of_addItem hthread rfl rfl hmain

theorem Cleared.keepsThread {reason actor fresh issueId}
    (h : Cleared main reason actor now fresh r r' issueId)
    (hids : (r.threads.map (·.id)).Nodup) (hmain : r.mainThread = some main)
    (hthread : thread ∈ r.threads) (hrole : thread.role = .issue)
    (hstatus : thread.issueStatus = some .resolved) : r.KeepsThread r' thread := by
  cases h with
  | idle | claim => exact .of_tables hthread rfl rfl
  | issue issue request _ _ hissue hopen =>
    exact .resolveThread hids hmain hissue hopen _ _ _ _ _ hthread hrole hstatus

/-- A step leaves a resolved Issue alone. -/
theorem TaskStep.keepsThread (h : TaskStep d t c r r') (hids : (r.threads.map (·.id)).Nodup)
    (hthread : thread ∈ r.threads) (hrole : thread.role = .issue)
    (hstatus : thread.issueStatus = some .resolved) : r.KeepsThread r' thread := by
  have hne : ∀ {main : Thread}, r.mainThread = some main → main.id ≠ thread.id := fun hmain =>
    mainThread_ne hids hmain hthread hrole
  cases h with
  | markReady hmain | withdrawReadiness hmain | expireDueClaim hmain
  | recordClaimProgress hmain => exact .of_addItem hthread rfl rfl (hne hmain)
  | releaseClaim howns | requestChanges howns | acceptTask howns =>
    exact .of_addItem hthread rfl rfl (hne howns.mainThread)
  | recordWorkSubmission howns _ _ _ hitem | completeExecution howns _ _ hitem =>
    subst hitem
    exact .of_addItem hthread rfl rfl (hne howns.mainThread)
  | claim hmain _ hexpiry =>
    have hexpired := hexpiry.keepsThread hthread (hne hmain)
    exact hexpired.trans (.of_addItem hexpired.kept rfl rfl (hne hmain))
  | setArchived _ _ haudit =>
    subst haudit
    refine .of_tables hthread ?_ ?_
    · rw [TaskRecord.setRow_threads]
      split <;> rfl
    · rw [TaskRecord.setRow_items]
      split <;> rfl
  | @requestResolution call _ request _ _ issue _ howns _ _ hid =>
    have hissue : issue.id ≠ thread.id := fun heq => hid thread hthread heq.symm
    have hopened : r.KeepsThread ((r.addThread { issue with
        openedBy := issue.openedBy.map storedActor }).addItem (workflowItem (call.fresh 1) issue.id
          .resolutionRequest call.actor request none call.now).stored) thread :=
      ⟨mem_append_left _ hthread, TaskRecord.threadItems_addItem _ hissue⟩
    exact hopened.trans (.of_addItem hopened.kept rfl rfl (hne howns.mainThread))
  | @resolveIssue _ _ _ _ resolution actor _ now fresh _ _ _ request hmain _ _ _ _ hissue hopen =>
    have hkept := TaskRecord.KeepsThread.resolveThread hids hmain hissue hopen request.body
      resolution actor now fresh hthread hrole hstatus
    exact hkept.trans (.of_tables hkept.kept rfl rfl)
  | cancelTask hmain _ hcleared =>
    have hkept := hcleared.keepsThread hids hmain hthread hrole hstatus
    exact hkept.trans (.of_addItem hkept.kept rfl rfl (hne hmain))
  | _ => exact .of_tables hthread rfl rfl

/-- No command on Tasks changes a resolved Issue. -/
theorem TaskChange.keepsThread (h : TaskChange d t c (some r) r')
    (hids : (r.threads.map (·.id)).Nodup) (hthread : thread ∈ r.threads)
    (hrole : thread.role = .issue) (hstatus : thread.issueStatus = some .resolved) :
    r.KeepsThread r' thread := by
  cases h with
  | same | attach => exact .of_tables hthread rfl rfl
  | step step => exact step.keepsThread hids hthread hrole hstatus
  | update _ edited =>
    rw [edited.rows]
    exact .of_tables hthread rfl rfl
  | follow _ _ _ follows =>
    obtain ⟨-, hthreads, hitems, -⟩ := follows.tables
    exact .of_tables hthread hthreads hitems

end Steps

end Pactline
