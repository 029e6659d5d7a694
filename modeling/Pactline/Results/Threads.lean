import Pactline.Results.Connections
import Pactline.Results.Issues

/-!
# Resolved Issue Threads

Adding an Item locks its Thread, and so does resolving one; editing or deleting a message locks only
the message, and reads the status of the Thread on the way. So an edit that has read the Thread as
open may commit after the Thread was resolved.
-/

set_option autoImplicit false

namespace Pactline

open ReadCommitted Workspace

variable {threadId : Id}

/-- The Items of a Thread are the same: those the workflow has written, and those of callers, with
their mentions. -/
structure Workspace.SameThread (d d' : Workspace) (t : TaskId) (threadId : Id) : Prop where
  items : (d'.tasks.task t).map (·.threadItems threadId) =
    (d.tasks.task t).map (·.threadItems threadId)
  messages : ∀ id, (d'.messages.lookup id).filter (fun m => m.item.threadId = threadId) =
    (d.messages.lookup id).filter fun m => m.item.threadId = threadId

section Steps

variable {platform : Platform} {active opened : Prop} {held : List (Lock WorkRow)}
  {d d' : Workspace} {c : Command} {t : TaskId} {thread : Thread}

/-- The records of the Issues of all Tasks are in order. -/
def Workspace.Recorded (d : Workspace) : Prop :=
  ∀ t r, d.tasks.task t = some r → r.IssuesRecorded

theorem WorkStep.recorded (h : WorkStep platform active opened held d d' c) (hd : d.Recorded) :
    d'.Recorded := by
  intro t r' hr'
  obtain ⟨c', hchange⟩ := h.taskChange hr'
  exact hchange.issuesRecorded (hd t)

/-- The Thread is a resolved Issue of the Task. -/
structure Workspace.HasResolved (d : Workspace) (t : TaskId) (thread : Thread) : Prop where
  role : thread.role = .issue
  status : thread.issueStatus = some .resolved
  mem : ∃ r, d.tasks.task t = some r ∧ thread ∈ r.threads

theorem Workspace.HasResolved.resolved (h : d.HasResolved t thread) :
    d.tasks.resolved thread.id = true := by
  obtain ⟨r, hr, hthread⟩ := h.mem
  exact Db.resolved_iff.mpr ⟨t, r, thread, hr, hthread, rfl, h.status⟩

/-- Tasks are never deleted, and no command on them changes a resolved Issue. -/
theorem WorkStep.keepsThread (h : WorkStep platform active opened held d d' c)
    (hlaw : Lawful d.tasks) (hrecorded : d.Recorded) (hresolved : d.HasResolved t thread) :
    d'.HasResolved t thread ∧ (d'.tasks.task t).map (·.threadItems thread.id) =
      (d.tasks.task t).map (·.threadItems thread.id) := by
  obtain ⟨r, hr, hthread⟩ := hresolved.mem
  have hstays : ∃ r', d'.tasks.task t = some r' := by
    rcases h.tasks with hsame | ⟨c', ls, -, step, -⟩
    · exact ⟨r, by rw [hsame, hr]⟩
    · obtain ⟨r', hr', -⟩ := (step.footprint hlaw).keeps t r hr
      exact ⟨r', hr'⟩
  obtain ⟨r', hr'⟩ := hstays
  obtain ⟨c', hchange⟩ := h.taskChange hr'
  rw [hr] at hchange
  have hkeeps := hchange.keepsThread (hrecorded t r hr).ids hthread hresolved.role hresolved.status
  refine ⟨⟨hresolved.role, hresolved.status, r', hr', hkeeps.kept⟩, ?_⟩
  rw [hr, hr', Option.map_some, Option.map_some, hkeeps.items]

/-- A message that changes its row is one of a Thread that is not resolved. -/
theorem WorkStep.keepsMessages (h : WorkStep platform active True held d d' c)
    (hresolved : d.tasks.resolved threadId = true) (id : Id) :
    (d'.messages.lookup id).filter (fun m => m.item.threadId = threadId) =
      (d.messages.lookup id).filter fun m => m.item.threadId = threadId := by
  have hopen : ∀ x, d.tasks.resolved x = false → x ≠ threadId := by
    rintro x hx rfl
    rw [hresolved] at hx
    cases hx
  have hchange : ∀ {m}, d'.messages.lookup id = some m → d.messages.lookup id = some m ∨
      (True → d.tasks.resolved m.item.threadId = false) ∧
        ∀ m₀, d.messages.lookup id = some m₀ → m.item.threadId = m₀.item.threadId :=
    h.changes.messages.after fun _ _ => .inl rfl
  cases hafter : d'.messages.lookup id with
  | none =>
    cases hbefore : d.messages.lookup id with
    | none => rfl
    | some m₀ =>
      obtain ⟨m, hm, -⟩ := h.changes.messages.before (fun _ _ => .inl rfl) hbefore
      cases hafter.symm.trans hm
  | some m =>
    rcases hchange hafter with hsame | ⟨hnotResolved, hthread⟩
    · rw [hsame]
    · have hne := hopen _ (hnotResolved trivial)
      cases hbefore : d.messages.lookup id with
      | none => simp [Option.filter, hne]
      | some m₀ => simp [Option.filter, ← hthread m₀ hbefore, hne]

end Steps

/-- In every schedule in which no edit or deletion of a message runs at the same time as a
`ResolveIssue` or `CancelTask`: after a commit that leaves an Issue Thread resolved, no commit
inserts, edits or deletes an Item or a mention of the Thread. -/
theorem resolved_thread_unchanged {platform : Platform} {es : WorkSchedule} {cfg : WorkConfig}
    (hoverlap : Along (program platform) (Config.Admits fun c c' => c.Resolves → ¬ c'.EditsMessage)
      (Config.initial empty) es)
    (h : runWork platform empty es = some cfg)
    {newer middle older : List WorkEntry} {e e' : WorkEntry}
    (hlog : cfg.log = newer ++ e' :: (middle ++ e :: older)) {t : TaskId} {r : TaskRecord}
    {thread : Thread} (hr : e.after.tasks.task t = some r) (hthread : thread ∈ r.threads)
    (hrole : thread.role = .issue) (hstatus : thread.issueStatus = some .resolved) :
    e'.before.SameThread e'.after t thread.id := by
  have hadmits : Along (program platform) (Config.Admits (Command.MayOverlap False True))
      (Config.initial empty) es := by
    refine hoverlap.mono fun cfg hcfg => ?_
    intro i j s s' hij hs hs' c hc c' hc'
    exact ⟨fun hfalse => hfalse.elim, fun _ => hcfg i j s s' hij hs hs' c hc c' hc'⟩
  have hserial := ((workProtocol platform False True).sound lawful_empty hadmits h).serial
  rw [hlog] at hserial
  obtain ⟨-, hv', hbefore'⟩ := Serial.split hserial
  obtain ⟨hmiddle, hv, hearlier⟩ := Serial.split hbefore'
  -- What holds of every committed database.
  have hgood : ∀ log d, WorkHistory platform False True empty log d →
      Lawful d.tasks ∧ d.Recorded := by
    intro log d hhistory
    refine Serial.invariant hhistory (P := fun d => Lawful d.tasks ∧ d.Recorded)
      ⟨lawful_empty, fun t r hr => by cases hr⟩ ?_
    rintro e hv ⟨hlaw, hrecorded⟩
    have hstep := workStep_of_valid hv
    exact ⟨hstep.lawful hlaw, hstep.recorded hrecorded⟩
  have hafter := hgood _ _ (show WorkHistory platform False True empty (e :: older) e.after
    from ⟨rfl, hv, hearlier⟩)
  have hstays : Lawful e'.before.tasks ∧ e'.before.Recorded ∧ e'.before.HasResolved t thread := by
    refine Serial.invariant hmiddle (P := fun d => Lawful d.tasks ∧ d.Recorded ∧
      d.HasResolved t thread) ⟨hafter.1, hafter.2, hrole, hstatus, r, hr, hthread⟩ ?_
    rintro e'' hv'' ⟨hlaw, hrecorded, hresolved⟩
    have hstep := workStep_of_valid hv''
    exact ⟨hstep.lawful hlaw, hstep.recorded hrecorded,
      (hstep.keepsThread hlaw hrecorded hresolved).1⟩
  obtain ⟨hlaw, hrecorded, hresolved⟩ := hstays
  have hstep := workStep_of_valid hv'
  exact ⟨(hstep.keepsThread hlaw hrecorded hresolved).2, hstep.keepsMessages hresolved.resolved⟩

/-! ## Samples -/

/-- Work on Task 1 needs a decision, and a message is added to the Thread of the Issue. -/
def messageScript : List Command :=
  sampleProject ++ claimScript.map .task ++
    [.task (.requestResolution (sampleCall 3001 3 400) .decisionRequired "which one?"),
      .addItem 90 4000 .message "text" none [] sampleActor sampleOperation 450]

def sampleEdit : Command := .editMessage 90 1 "edited" [] sampleActor sampleOperation 460

def sampleResolve : Command :=
  .task (.resolveIssue 1 4 4000 1 "the first" sampleActor sampleOperation 500000 fun n => 5000 + n)

/-- The message is edited, the Issue resolved, and a message is added to the Main Thread. -/
def resolvedSchedule : WorkSchedule :=
  .connect (.script (messageScript ++ [sampleEdit, sampleResolve,
    .addItem 91 1001 .message "later" none [] sampleActor sampleOperation 600])) ::
      workAdvances 0 109

/-- The Task has a resolved Issue Thread with the given identity. -/
def Workspace.hasResolved (d : Workspace) (t : TaskId) (threadId : Id) : Bool :=
  (d.tasks.task t).any fun r => r.threads.any fun x => x.id = threadId ∧ x.role = .issue ∧
    x.issueStatus = some .resolved

theorem Workspace.hasResolved_sound {d : Workspace} {t}
    (h : d.hasResolved t threadId = true) : ∃ r thread, d.tasks.task t = some r ∧
      thread ∈ r.threads ∧ thread.id = threadId ∧ thread.role = .issue ∧
      thread.issueStatus = some .resolved := by
  unfold hasResolved at h
  simpa only [Option.any_eq_true, List.any_eq_true, decide_eq_true_eq, exists_and_left] using h

theorem resolved_thread_unchanged_later :
    ∃ cfg e' e older, runWork asciiPlatform empty resolvedSchedule = some cfg ∧
      cfg.log = [] ++ e' :: ([] ++ e :: older) ∧ e.after.hasResolved 1 4000 = true ∧
      e'.after.messages.lookup 91 ≠ none ∧ e'.before.SameThread e'.after 1 4000 := by
  obtain ⟨cfg, hcfg, e', he', hmessage, e, he, hresolved⟩ : ∃ cfg,
      runWork asciiPlatform empty resolvedSchedule = some cfg ∧
      ∃ e', cfg.log.head? = some e' ∧ e'.after.messages.lookup 91 ≠ none ∧
      ∃ e, cfg.log.tail.head? = some e ∧ e.after.hasResolved 1 4000 = true := by decide +kernel
  obtain ⟨tail, htail⟩ := List.head?_eq_some_iff.mp he'
  rw [htail, List.tail_cons] at he
  obtain ⟨older, holder⟩ := List.head?_eq_some_iff.mp he
  have hlog : cfg.log = [] ++ e' :: ([] ++ e :: older) := by rw [htail, holder]; rfl
  obtain ⟨r, thread, hr, hthread, hid, hrole, hstatus⟩ := hasResolved_sound hresolved
  refine ⟨cfg, e', e, older, hcfg, hlog, hresolved, hmessage, ?_⟩
  rw [← hid]
  exact resolved_thread_unchanged (along_single _ _ _) hcfg hlog hr hthread hrole hstatus

/-- The edit has gone through all its statements when the Issue is resolved, and commits after
that. -/
def editRaceSchedule : WorkSchedule :=
  .connect (.script messageScript) :: workAdvances 0 75 ++
    [.connect (.script [sampleEdit]), .connect (.script [sampleResolve])] ++
    workAdvances 1 7 ++ workAdvances 2 16 ++ workAdvances 1 1

theorem resolved_thread_edited :
    ∃ cfg e' e older, runWork asciiPlatform empty editRaceSchedule = some cfg ∧
      cfg.log = e' :: e :: older ∧ e.after.hasResolved 1 4000 = true ∧
      ((e'.before.messages.lookup 90).map (·.item.body) = some "text" ∧
        (e'.after.messages.lookup 90).map (·.item.body) = some "edited" ∧
        (e'.after.messages.lookup 90).map (·.item.threadId) = some 4000) := by
  obtain ⟨cfg, hcfg, e', he', hmessage, e, he, hresolved⟩ : ∃ cfg,
      runWork asciiPlatform empty editRaceSchedule = some cfg ∧
      ∃ e', cfg.log.head? = some e' ∧
        ((e'.before.messages.lookup 90).map (·.item.body) = some "text" ∧
          (e'.after.messages.lookup 90).map (·.item.body) = some "edited" ∧
          (e'.after.messages.lookup 90).map (·.item.threadId) = some 4000) ∧
      ∃ e, cfg.log.tail.head? = some e ∧ e.after.hasResolved 1 4000 = true := by decide +kernel
  obtain ⟨tail, htail⟩ := List.head?_eq_some_iff.mp he'
  rw [htail, List.tail_cons] at he
  obtain ⟨older, holder⟩ := List.head?_eq_some_iff.mp he
  exact ⟨cfg, e', e, older, hcfg, by rw [htail, holder], hresolved, hmessage⟩

end Pactline
