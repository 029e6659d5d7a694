import Pactline.Analysis.WorkSteps

/-!
# Histories of the workspace

Every schedule of clients has a history: its commits, in their order, each a step from the database
before it. What a step may do to one Project, to the unfinished Tasks of a Project, to a user, to a
Connection and to a conversation is said once; the properties of the workspace are proved from that.
-/

set_option autoImplicit false

namespace Pactline

open ReadCommitted

variable {platform : Platform} {d₀ : Workspace} {active opened : Prop} {p k : Id}
  {r' : ProjectRecord} {t : TaskId}

abbrev WorkEntry := Commit Workspace WorkRow Command WorkReply

abbrev WorkConfig := Config Workspace WorkRow DomainError Command WorkReply

abbrev WorkSchedule := List (Event Command DomainError WorkReply)

/-- The configuration that a schedule of any clients leads to, from a database on which nobody
works. -/
def runWork (platform : Platform) (d : Workspace) (es : WorkSchedule) : Option WorkConfig :=
  run (program platform) (Config.initial d) es

/-- The log is one of commits that follow each other. -/
def WorkHistory (platform : Platform) (active opened : Prop) (d₀ : Workspace)
    (log : List WorkEntry) (d : Workspace) : Prop :=
  Serial (program platform) (Command.rely active opened) d₀ log d

/-- Where nothing is relied on beyond the locks, any two commands may overlap. -/
theorem workLockProtocol (platform : Platform) :
    Protocol (program platform) (Command.rely False False) (fun _ _ => True)
      fun d => Lawful d.tasks :=
  { workProtocol platform False False with
    guarantee := fun c d a held d' h hlaw c' held' _ hcompatible =>
      (workProtocol platform False False).guarantee c d a held d' h hlaw c' held'
        ⟨fun hfalse => hfalse.elim, fun hfalse => hfalse.elim⟩ hcompatible }

theorem workHistory_of_runWork {es} {cfg : WorkConfig} (hlaw : Lawful d₀.tasks)
    (h : runWork platform d₀ es = some cfg) : WorkHistory platform False False d₀ cfg.log cfg.db :=
  (workLockProtocol platform).serial hlaw h

/-- A commit of a history is a step. -/
theorem workStep_of_valid {e : WorkEntry}
    (h : e.Valid (program platform) (Command.rely active opened)) :
    WorkStep platform active opened e.held e.before e.after e.cmd :=
  workStep_of_commits h

/-- A property that every step keeps, on lawful databases, holds at the end of a history. -/
theorem WorkHistory.invariant {d : Workspace} {log : List WorkEntry} {P : Workspace → Prop}
    (h : WorkHistory platform active opened d₀ log d) (hlaw : Lawful d₀.tasks) (h₀ : P d₀)
    (hstep : ∀ e ∈ log, WorkStep platform active opened e.held e.before e.after e.cmd →
      Lawful e.before.tasks → P e.before → P e.after) : P d := by
  have hboth := Serial.history (P := fun log d => (∀ e ∈ log,
    WorkStep platform active opened e.held e.before e.after e.cmd → Lawful e.before.tasks →
      P e.before → P e.after) → Lawful d.tasks ∧ P d) h (fun _ => ⟨hlaw, h₀⟩) ?_ hstep
  · exact hboth.2
  · intro e older hv ih hsteps
    obtain ⟨hlawful, hP⟩ := ih fun e' he' => hsteps e' (List.mem_cons_of_mem _ he')
    have hwork := workStep_of_valid hv
    exact ⟨hwork.lawful hlawful, hsteps e List.mem_cons_self hwork hlawful hP⟩

/-! ## What a step may do -/

section Changes

variable {held : List (Lock WorkRow)} {d d' : Workspace} {c : Command}

theorem WorkStep.projectChange (h : WorkStep platform active opened held d d' c)
    (hr' : d'.project p = some r') :
    ProjectChange (active ∧ c.ChangesAdmins) held d p c (d.project p) r' :=
  h.changes.projects.after (fun _ _ => .same) hr'

/-- What a commit may do to the rows of one Task. -/
theorem WorkStep.taskChange (h : WorkStep platform active opened held d d' c) {r'}
    (hr' : d'.tasks.task t = some r') : ∃ c', TaskChange d.tasks t c' (d.tasks.task t) r' := by
  rcases h.tasks with hsame | ⟨c', ls, -, step, -⟩
  · -- Any command leaves a Task as it is.
    exact ⟨.getClaim 0, .of_eq (hsame ▸ hr')⟩
  · exact ⟨c', step.taskChange hr'⟩

/-- An unfinished Task was unfinished before, or is new. -/
theorem WorkStep.unfinished (h : WorkStep platform active opened held d d' c)
    (hlaw : Lawful d.tasks) (ht : d'.tasks.Unfinished p t) :
    d.tasks.Unfinished p t ∨ c.insertsInto = some p := by
  rcases h.tasks with hsame | ⟨c', ls, rfl, step, -⟩
  · rw [hsame] at ht
    exact .inl ht
  · exact step.unfinished hlaw ht

/-- A user stays active until a deactivation. -/
theorem WorkStep.staysActive (h : WorkStep platform active opened held d d' c) {u}
    (hu : d.Active u) : d'.Active u ∨ c = .deactivateUser u := by
  obtain ⟨x, hx, hactive⟩ := hu
  obtain ⟨x', hx', hchange⟩ := h.changes.users.before (fun _ _ _ h => .inl (Option.some.inj h)) hx
  rcases hchange x rfl with rfl | ⟨f, change, rfl⟩
  · exact .inl ⟨x', hx', hactive⟩
  · by_cases hdeactivates : c.Deactivates
    · right
      cases c <;> cases hdeactivates
      cases change
      rfl
    · exact .inl ⟨f x, hx', userChange_active change hdeactivates⟩

/-- What a commit may do to one Connection that exists. -/
theorem WorkStep.connectionChange (h : WorkStep platform active opened held d d' c)
    {x} (hx : d.connections.lookup k = some x) :
    ∃ x', d'.connections.lookup k = some x' ∧ (x' = x ∨ ConnectionStep d k c x x') := by
  obtain ⟨x', hx', hchange⟩ :=
    h.changes.connections.before (fun _ _ _ h => .inl (Option.some.inj h)) hx
  exact ⟨x', hx', hchange x rfl⟩

theorem WorkStep.conversationChange (h : WorkStep platform active opened held d d' c)
    {r'} (hr' : d'.conversations.lookup k = some r') :
    ConversationChange k c (d.conversations.lookup k) r' :=
  h.changes.conversations.after (fun _ _ => .same) hr'

/-- Conversations are never deleted. -/
theorem WorkStep.conversation_some (h : WorkStep platform active opened held d d' c)
    {r} (hr : d.conversations.lookup k = some r) :
    ∃ r', d'.conversations.lookup k = some r' := by
  obtain ⟨r', hr', -⟩ := h.changes.conversations.before (fun _ _ => .same) hr
  exact ⟨r', hr'⟩

end Changes

end Pactline
