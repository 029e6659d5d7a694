import Pactline.Analysis.Delivery

/-!
# Issues over a history

What the Items of a Task say about its Issues: an open Issue has one request, and a resolved one has
a request, a resolution and a summary in the Main Thread that repeats both
(`TaskRecord.Recorded`). A resolution copies its summary from rows that an earlier command has
written, so that is kept as an invariant of the Task (`History.issuesRecorded`).
-/

set_option autoImplicit false

namespace Pactline

open List

/-! ## The Items of an Issue -/

/-- The kinds of the Items that make up the record of an Issue. -/
def ThreadItemKind.ofIssue : ThreadItemKind → Bool
  | .resolutionRequest | .resolution | .issueResolution => true
  | _ => false

/-- The Thread that the Item is about: its own, or the one that it summarises. -/
def ThreadItem.issueId (i : ThreadItem) : Option Id :=
  if i.kind = .issueResolution then i.issueResolution.map (·.issueThreadId) else some i.threadId

namespace TaskRecord

/-- The Items of the given kind about an Issue. -/
def issueItems (r : TaskRecord) (kind : ThreadItemKind) (id : Id) : List ThreadItem :=
  r.items.filter fun i => i.kind = kind ∧ i.issueId = some id

/-- The requests that an Issue contains. -/
def requests (r : TaskRecord) : Id → List ThreadItem := r.issueItems .resolutionRequest

/-- The resolutions that an Issue contains. -/
def resolutions (r : TaskRecord) : Id → List ThreadItem := r.issueItems .resolution

/-- The Items that summarise an Issue. -/
def summaries (r : TaskRecord) : Id → List ThreadItem := r.issueItems .issueResolution

theorem issueItems_addItem (r : TaskRecord) (item : ThreadItem) (kind : ThreadItemKind) (id : Id) :
    (r.addItem item).issueItems kind id = r.issueItems kind id ++
      if item.kind = kind ∧ item.issueId = some id then [item] else [] := by
  unfold issueItems
  rw [addItem_items, filter_append, filter_singleton]
  simp

/-- The one request of an Issue, with the actor and the time at which the Issue was opened. -/
structure Opened (r : TaskRecord) (thread : Thread) (request : ThreadItem) : Prop where
  requests : r.requests thread.id = [request]
  openedBy : thread.openedBy = some request.author
  openedAt : request.createdAt = thread.createdAt

/-- The one resolution of an Issue and its one summary, which stands in the Main Thread and has the
texts, the actors and the times of the request and of the resolution. The columns of the resolution
and of the Thread keep an actor as `storedActor` does, and the microseconds of a time. -/
structure Closed (r : TaskRecord) (thread : Thread) (request resolution summary : ThreadItem)
    (payload : IssueResolutionPayload) : Prop where
  resolutions : r.resolutions thread.id = [resolution]
  summaries : r.summaries thread.id = [summary]
  main : r.mainId = some summary.threadId
  payload_eq : summary.issueResolution = some payload
  issueType : payload.issueType = thread.issueType
  request_eq : payload.request = request.body
  resolution_eq : payload.resolution = resolution.body
  openedBy : payload.openedBy = some request.author
  openedAt : payload.openedAt = request.createdAt.instant
  author : resolution.author = storedActor payload.resolvedBy
  resolvedBy : thread.resolvedBy = some resolution.author
  resolvedAt : resolution.createdAt = payload.resolvedAt.column
  closedAt : thread.resolvedAt = some payload.resolvedAt.column

/-- What the Items say about an Issue. -/
inductive Recorded (r : TaskRecord) (thread : Thread) : Prop
  | opened {request} (status : thread.issueStatus = some .open)
      (opened : r.Opened thread request) (resolutions : r.resolutions thread.id = [])
      (summaries : r.summaries thread.id = []) : Recorded r thread
  | resolved {request resolution summary payload}
      (status : thread.issueStatus = some .resolved) (opened : r.Opened thread request)
      (closed : r.Closed thread request resolution summary payload) : Recorded r thread

/-- Threads have different identities, the Items of Issues are about Threads of the Task, and every
Issue is recorded. -/
structure IssuesRecorded (r : TaskRecord) : Prop where
  ids : (r.threads.map (·.id)).Nodup
  strays : ∀ kind id, kind.ofIssue = true → id ∉ r.threads.map (·.id) → r.issueItems kind id = []
  issues : ∀ thread ∈ r.threads, thread.role = .issue → r.Recorded thread

section Frame

variable {r r' : TaskRecord} {thread : Thread}

/-- The record of an Issue is made of the Items about it. -/
theorem Recorded.congr (h : r.Recorded thread) (hmain : r'.mainId = r.mainId)
    (hitems : ∀ kind, kind.ofIssue = true →
      r'.issueItems kind thread.id = r.issueItems kind thread.id) : r'.Recorded thread := by
  have hrequests : r'.requests thread.id = r.requests thread.id := hitems _ rfl
  have hresolutions : r'.resolutions thread.id = r.resolutions thread.id := hitems _ rfl
  have hsummaries : r'.summaries thread.id = r.summaries thread.id := hitems _ rfl
  cases h with
  | opened status opened resolutions summaries =>
    exact .opened status { opened with requests := hrequests.trans opened.requests }
      (hresolutions.trans resolutions) (hsummaries.trans summaries)
  | resolved status opened closed =>
    exact .resolved status { opened with requests := hrequests.trans opened.requests }
      { closed with
        resolutions := hresolutions.trans closed.resolutions
        summaries := hsummaries.trans closed.summaries
        main := hmain.trans closed.main }

/-- Nothing that concerns the Issues has changed. -/
structure SameIssues (r r' : TaskRecord) : Prop where
  threads : r'.threads = r.threads
  items : ∀ kind, kind.ofIssue = true → ∀ id, r'.issueItems kind id = r.issueItems kind id

namespace SameIssues

variable {r₁ r₂ r₃ : TaskRecord}

theorem of_tables (hthreads : r₂.threads = r₁.threads) (hitems : r₂.items = r₁.items) :
    r₁.SameIssues r₂ := by
  refine ⟨hthreads, fun kind _ id => ?_⟩
  unfold issueItems
  rw [hitems]

theorem of_addItem {item : ThreadItem} (hthreads : r₂.threads = r₁.threads)
    (hitems : r₂.items = r₁.items ++ [item]) (hplain : item.kind.ofIssue = false) :
    r₁.SameIssues r₂ := by
  refine ⟨hthreads, fun kind hkind id => ?_⟩
  have hne : item.kind ≠ kind := by
    rintro rfl
    rw [hplain] at hkind
    cases hkind
  have hsame : r₂.issueItems kind id = (r₁.addItem item).issueItems kind id := by
    unfold issueItems
    rw [hitems, addItem_items]
  rw [hsame, issueItems_addItem, if_neg (fun h => hne h.1), append_nil]

theorem trans (h₁ : r₁.SameIssues r₂) (h₂ : r₂.SameIssues r₃) : r₁.SameIssues r₃ :=
  ⟨h₂.threads.trans h₁.threads,
    fun kind hkind id => (h₂.items kind hkind id).trans (h₁.items kind hkind id)⟩

end SameIssues

/-- What leaves the Issues and their Items alone leaves their records in order. -/
theorem IssuesRecorded.congr (h : r.IssuesRecorded) (hsame : r.SameIssues r') :
    r'.IssuesRecorded := by
  have hmain : r'.mainId = r.mainId := by
    unfold mainId mainThread
    rw [hsame.threads]
  refine ⟨?_, fun kind id hkind hid => ?_, fun thread hthread hrole => ?_⟩
  · rw [hsame.threads]
    exact h.ids
  · rw [hsame.items kind hkind]
    rw [hsame.threads] at hid
    exact h.strays kind id hkind hid
  · rw [hsame.threads] at hthread
    exact (h.issues thread hthread hrole).congr hmain fun kind hkind => hsame.items kind hkind _

end Frame

/-! ## Opening and resolving -/

section Issues

variable {r : TaskRecord} {main issue : Thread} {request : ThreadItem}

/-- A new Issue with its request. -/
theorem IssuesRecorded.openIssue (h : r.IssuesRecorded) (hid : ∀ x ∈ r.threads, x.id ≠ issue.id)
    (hopen : issue.OpenIssue) (hkind : request.kind = .resolutionRequest)
    (hthread : request.threadId = issue.id) (hauthor : issue.openedBy = some request.author)
    (htime : request.createdAt = issue.createdAt) :
    ((r.addThread issue).addItem request).IssuesRecorded := by
  have hnew : issue.id ∉ r.threads.map (·.id) := by
    simpa using hid
  have hissue : request.issueId = some issue.id := by
    rw [ThreadItem.issueId, hkind, if_neg (by decide), hthread]
  -- The Items about any other Thread stay as they are.
  have hitems : ∀ kind id, id ≠ issue.id →
      ((r.addThread issue).addItem request).issueItems kind id = r.issueItems kind id := by
    intro kind id hne
    rw [issueItems_addItem, if_neg, append_nil]
    · rfl
    · rintro ⟨-, heq⟩
      rw [hissue, Option.some.injEq] at heq
      exact hne heq.symm
  have hmain : ((r.addThread issue).addItem request).mainId = r.mainId := by
    have hsame : r.SameDelivery (r.addThread issue) :=
      .addThread (.refl r) (by rw [hopen.1]; decide)
    exact hsame.main
  refine ⟨?_, fun kind id hkinds hout => ?_, fun thread hmem hrole => ?_⟩
  · rw [addItem_threads, addThread_threads, map_append]
    exact nodup_append.mpr ⟨h.ids, nodup_singleton _, by simpa using hid⟩
  · rw [addItem_threads, addThread_threads, map_append, mem_append, not_or] at hout
    have hne : id ≠ issue.id := by simpa using hout.2
    rw [hitems kind id hne]
    exact h.strays kind id hkinds hout.1
  · rw [addItem_threads, addThread_threads, mem_append, mem_singleton] at hmem
    rcases hmem with hold | rfl
    · exact (h.issues thread hold hrole).congr hmain fun kind _ => hitems kind _ (hid thread hold)
    · have hkept : ∀ kind : ThreadItemKind, kind.ofIssue = true →
          ((r.addThread thread).addItem request).issueItems kind thread.id =
            if request.kind = kind then [request] else [] := by
        intro kind hkinds
        rw [issueItems_addItem, hissue]
        have hnone : (r.addThread thread).issueItems kind thread.id = [] :=
          h.strays kind thread.id hkinds hnew
        rw [hnone, nil_append]
        simp
      have hrequests := hkept .resolutionRequest rfl
      have hresolutions := hkept .resolution rfl
      have hsummaries := hkept .issueResolution rfl
      rw [hkind, if_pos rfl] at hrequests
      rw [hkind, if_neg (by decide)] at hresolutions hsummaries
      exact .opened hopen.2 ⟨hrequests, hauthor, htime⟩ hresolutions hsummaries

section Resolve

variable {resolution : String} {actor : Actor} {now : Instant} {fresh : Nat → Id}

/-- A resolution adds two Items about the Issue. -/
theorem issueItems_resolveThread (text : String) (kind : ThreadItemKind) (id : Id) :
    (r.resolveThread main issue text resolution actor now fresh).issueItems kind id =
      r.issueItems kind id ++
        (if kind = .resolution ∧ id = issue.id then
          [(workflowItem (fresh 0) issue.id .resolution actor resolution none now.column).stored]
          else []) ++
        if kind = .issueResolution ∧ id = issue.id then
          [(issueSummary (fresh 1) main.id issue text resolution actor now).stored] else [] := by
  have hclosed : ∀ r : TaskRecord,
      (r.closeIssueThread issue actor now.column).issueItems kind id = r.issueItems kind id :=
    fun _ => rfl
  have hsummary : (issueSummary (fresh 1) main.id issue text resolution actor now).stored.issueId =
      some issue.id := rfl
  rw [resolveThread, issueItems_addItem, hclosed, issueItems_addItem, hsummary]
  have hresolution : (workflowItem (fresh 0) issue.id .resolution actor resolution none
      now.column).stored.issueId = some issue.id := rfl
  rw [hresolution]
  simp only [Option.some.injEq, eq_comm, ThreadItem.stored_kind, workflowItem_kind, issueSummary]

/-- The resolution of an Issue closes its Thread and leaves the others. -/
theorem threads_resolveThread (hids : (r.threads.map (·.id)).Nodup) (hmem : issue ∈ r.threads)
    (hopen : issue.OpenIssue) (text : String) {thread : Thread}
    (h : thread ∈ (r.resolveThread main issue text resolution actor now fresh).threads) :
    thread ∈ r.threads ∧ thread.id ≠ issue.id ∨
      thread = { issue with
        issueStatus := some .resolved, resolvedBy := some (storedActor actor)
        version := issue.version + 1, updatedAt := now.column, resolvedAt := some now.column } := by
  rw [resolveThread, addItem_threads, closeIssueThread, setThread_threads, addItem_threads,
    mem_map] at h
  obtain ⟨old, hold, rfl⟩ := h
  by_cases hid : old.id = issue.id
  · obtain rfl : old = issue := inj_on_of_nodup_map hids hold hmem hid
    rw [if_pos ⟨rfl, rfl, hopen.2⟩]
    exact .inr rfl
  · rw [if_neg (fun heq => hid heq.1)]
    exact .inl ⟨hold, hid⟩

/-- A resolution records what the request and the resolver have said. -/
theorem IssuesRecorded.resolveThread (h : r.IssuesRecorded) (hmain : r.mainThread = some main)
    (hmem : issue ∈ r.threads) (hopen : issue.OpenIssue) (hrequest : r.Requests issue request) :
    (r.resolveThread main issue request.body resolution actor now fresh).IssuesRecorded := by
  have hmain' : (r.resolveThread main issue request.body resolution actor now fresh).mainId =
      r.mainId := (resolveThread_sameDelivery r).main
  have hids : (r.resolveThread main issue request.body resolution actor now
      fresh).threads.map (·.id) = r.threads.map (·.id) := by
    rw [TaskRecord.resolveThread, addItem_threads, closeIssueThread, setThread_threads,
      addItem_threads, map_map]
    apply map_congr_left
    intro old _
    dsimp only [Function.comp]
    split <;> rfl
  have hother : ∀ kind id, id ≠ issue.id →
      (r.resolveThread main issue request.body resolution actor now fresh).issueItems kind id =
        r.issueItems kind id := by
    intro kind id hne
    rw [issueItems_resolveThread, if_neg (fun heq => hne heq.2), if_neg (fun heq => hne heq.2),
      append_nil, append_nil]
  refine ⟨hids ▸ h.ids, fun kind id hkind hout => ?_, fun thread hthread hrole => ?_⟩
  · rw [hids] at hout
    have hne : id ≠ issue.id := by
      rintro rfl
      exact hout (mem_map_of_mem hmem)
    rw [hother kind id hne]
    exact h.strays kind id hkind hout
  · rcases threads_resolveThread h.ids hmem hopen request.body hthread with ⟨hold, hne⟩ | rfl
    · exact (h.issues thread hold hrole).congr hmain' fun kind _ => hother kind _ hne
    · cases h.issues issue hmem hopen.1 with
      | resolved status =>
        rw [hopen.2] at status
        cases status
      | @opened request' status opened resolutions summaries =>
        -- The request that was found is the only one there is.
        have hissue : request.issueId = some issue.id := by
          rw [ThreadItem.issueId, hrequest.kind, if_neg (by decide), hrequest.thread]
        have hfound : request ∈ r.requests issue.id :=
          mem_filter.mpr ⟨hrequest.stored, decide_eq_true ⟨hrequest.kind, hissue⟩⟩
        rw [opened.requests, mem_singleton] at hfound
        subst hfound
        have hrequests : (r.resolveThread main issue request.body resolution actor now
            fresh).requests issue.id = [request] := by
          rw [← opened.requests, TaskRecord.requests, issueItems_resolveThread]
          simp [TaskRecord.requests]
        have hresolutions : (r.resolveThread main issue request.body resolution actor now
            fresh).resolutions issue.id = [(workflowItem (fresh 0) issue.id .resolution actor
              resolution none now.column).stored] := by
          rw [TaskRecord.resolutions] at resolutions ⊢
          rw [issueItems_resolveThread, resolutions]
          simp
        have hsummaries : (r.resolveThread main issue request.body resolution actor now
            fresh).summaries issue.id = [(issueSummary (fresh 1) main.id issue request.body
              resolution actor now).stored] := by
          rw [TaskRecord.summaries] at summaries ⊢
          rw [issueItems_resolveThread, summaries]
          simp
        have hmainId : r.mainId = some main.id := by rw [mainId, hmain, Option.map_some]
        exact .resolved rfl ⟨hrequests, opened.openedBy, opened.openedAt⟩
          { resolutions := hresolutions, summaries := hsummaries, main := hmain'.trans hmainId
            payload_eq := rfl, issueType := rfl, request_eq := rfl, resolution_eq := rfl
            openedBy := opened.openedBy, openedAt := congrArg Time.instant opened.openedAt.symm
            author := rfl, resolvedBy := rfl, resolvedAt := rfl, closedAt := rfl }

end Resolve

end Issues

end TaskRecord

/-! ## Steps and histories -/

section Steps

variable {d : Db} {t : TaskId} {c : Cmd} {r r' : TaskRecord} {main : Thread} {now : Time}

theorem Expiry.sameIssues {itemId l} (h : Expiry main now itemId r r' l) :
    r.SameIssues r' := by
  cases h with
  | notDue => exact .of_tables rfl rfl
  | due => exact .of_addItem rfl rfl rfl

/-- A cancellation records the Issue that it resolves. -/
theorem Cleared.issuesRecorded {reason actor fresh issueId}
    (h : Cleared main reason actor now fresh r r' issueId)
    (hmain : r.mainThread = some main) (hr : r.IssuesRecorded) : r'.IssuesRecorded := by
  cases h with
  | idle => exact hr
  | claim => exact hr.congr (.of_tables rfl rfl)
  | issue issue request _ _ hmem hopen hrequest =>
    exact hr.resolveThread hmain hmem hopen hrequest

/-- Only a request opens an Issue, and only a resolution or a cancellation closes one. -/
theorem TaskStep.issuesRecorded (h : TaskStep d t c r r') (hr : r.IssuesRecorded) :
    r'.IssuesRecorded := by
  cases h with
  | markReady | withdrawReadiness | expireDueClaim | releaseClaim | requestChanges | acceptTask
  | recordClaimProgress => exact hr.congr (.of_addItem rfl rfl rfl)
  | recordWorkSubmission _ _ _ _ hitem | completeExecution _ _ _ hitem =>
    subst hitem
    exact hr.congr (.of_addItem rfl rfl rfl)
  | claim _ _ hexpiry =>
    exact hr.congr (hexpiry.sameIssues.trans (.of_addItem rfl rfl rfl))
  | keepClaim => exact hr
  | setArchived _ _ haudit =>
    subst haudit
    refine hr.congr (.of_tables ?_ ?_)
    · rw [TaskRecord.setRow_threads]
      split <;> rfl
    · rw [TaskRecord.setRow_items]
      split <;> rfl
  | @requestResolution call _ request _ _ issue _ _ _ hissue hid =>
    obtain ⟨-, hopen, -, hopenedBy, hcreated⟩ := Thread.newIssue_ok hissue
    have hauthor : issue.openedBy.map storedActor = some (storedActor call.actor) := by
      rw [hopenedBy, Option.map_some]
    have hopened : ((r.addThread { issue with openedBy := issue.openedBy.map storedActor }).addItem
        (workflowItem (call.fresh 1) issue.id .resolutionRequest call.actor request none
          call.now).stored).IssuesRecorded :=
      hr.openIssue hid hopen rfl rfl hauthor hcreated.symm
    exact hopened.congr (.of_addItem rfl rfl rfl)
  | resolveIssue hmain _ _ _ _ hmem hopen _ _ hrequest =>
    exact (hr.resolveThread hmain hmem hopen hrequest).congr (.of_tables rfl rfl)
  | cancelTask hmain _ hcleared =>
    exact (hcleared.issuesRecorded hmain hr).congr (.of_addItem rfl rfl rfl)
  | _ => exact hr.congr (.of_tables rfl rfl)

/-- A new Task has its Main Thread and no Items. -/
theorem TaskChange.issuesRecorded {before} (h : TaskChange d t c before r')
    (hbefore : ∀ r ∈ before, r.IssuesRecorded) : r'.IssuesRecorded := by
  cases h with
  | same => exact hbefore _ rfl
  | step step => exact step.issuesRecorded (hbefore _ rfl)
  | create =>
    refine ⟨nodup_singleton _, fun _ _ _ _ => rfl, fun thread hthread hrole => ?_⟩
    rw [mem_singleton.mp hthread] at hrole
    cases hrole
  | update _ edited =>
    rw [edited.rows]
    exact (hbefore _ rfl).congr (.of_tables rfl rfl)
  | follow _ _ _ follows =>
    obtain ⟨-, hthreads, hitems, -⟩ := follows.tables
    exact (hbefore _ rfl).congr (.of_tables hthreads hitems)
  | attach => exact (hbefore _ rfl).congr (.of_tables rfl rfl)

/-- Every Issue of every Task is recorded. -/
theorem History.issuesRecorded {platform log}
    (h : History platform Db.empty log d) (hr : d.task t = some r) : r.IssuesRecorded := by
  refine h.task_history (P := fun _ _ r => r.IssuesRecorded) ?_ t r hr
  intro e older t r' _ hbefore hchange
  exact hchange.issuesRecorded (hbefore t)

end Steps

end Pactline
