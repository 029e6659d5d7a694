import Pactline.Analysis.ProjectStep
import Pactline.Analysis.ThreadResolution

/-!
# The steps of the workspace

`WorkStep` says what a commit of a command of the workspace has found and what it has left. Every
commit is such a step (`workStep_of_commits`), and the transactions form a protocol
(`workProtocol`).

Two of the reads that the stores make without a lock can be relied on only where certain commands do
not overlap. Which of the two a result needs is chosen by `active` and `opened`.
-/

set_option autoImplicit false

namespace Pactline

open ReadCommitted Workspace Txn ProjectRecord

/-! ## Kinds of commands -/

namespace Command

/-- The command can take an active user away. -/
def Deactivates : Command → Prop
  | .deactivateUser _ => True
  | _ => False

/-- The command can take an administrator away. -/
def ChangesAdmins : Command → Prop
  | .mutateMember .. => True
  | .removeMember .. => True
  | _ => False

/-- The command edits or deletes a message. -/
def EditsMessage : Command → Prop
  | .editMessage .. => True
  | .deleteMessage .. => True
  | _ => False

/-- The command resolves an Issue. -/
def Resolves : Command → Prop
  | .task c => c.Resolves
  | _ => False

/-- What the command does to a user. -/
def userChange : Command → Option (Id × (UserRow → UserRow))
  | .deactivateUser u => some (u, fun row => { row with active := false })
  | .reactivateUser u => some (u, fun row => { row with active := true })
  | .bootstrapAdmin u => some (u, fun _ => { active := true, platformRole := .admin })
  | _ => none

/-- The command only reads. -/
def Reads : Command → Prop
  | .getProject _ => True
  | .getMembership .. => True
  | .milestoneBelongs .. => True
  | .getConversation _ => True
  | .getTask _ => True
  | _ => False

/-- What a command relies on. -/
def rely (active opened : Prop) : Command → Rely Workspace WorkRow
  | .task _ => (Pactline.rely False).pull taskTables .task
  | c => workRely (active ∧ c.ChangesAdmins) (opened ∧ c.EditsMessage)

/-- `c` may commit while `c'` is running. -/
def MayOverlap (active opened : Prop) (c c' : Command) : Prop :=
  (active → c.Deactivates → ¬ c'.ChangesAdmins) ∧ (opened → c.Resolves → ¬ c'.EditsMessage)

end Command

/-! ## The steps -/

/-- The Connection after the provider has confirmed it. -/
def RepositoryConnection.validated (c : RepositoryConnection)
    (validation : RepositoryConnectionValidation) (replacement : Option CredentialReplacement) :
    RepositoryConnection :=
  { c with
    version := c.version + 1, pathWithNamespace := validation.pathWithNamespace
    pathLookupKey := validation.pathLookupKey, canonicalWebURL := validation.webURL
    defaultBranch := validation.defaultBranch
    credentialCiphertext := replacement.elim c.credentialCiphertext (·.ciphertext)
    encryptionKeyId := replacement.elim c.encryptionKeyId (·.encryptionKeyId)
    credentialExpiresAt := replacement.elim c.credentialExpiresAt (·.expiresAt)
    lastValidatedAt := validation.validatedAt, updatedAt := validation.validatedAt }

/-- What a command does to the Connection it locks. -/
inductive ConnectionStep (d : Workspace) (id : Id) :
    Command → ConnectionRecord → ConnectionRecord → Prop
  | validate {v} {validation : RepositoryConnectionValidation}
      {replacement eventType operation}
      {r : ConnectionRecord} (hactive : r.connection.status = .active) :
      ConnectionStep d id (.updateValidated id v validation replacement eventType operation) r
        ⟨r.connection.validated validation replacement, r.audit ++
          [⟨validation.validatedAt, operation, "repository_connection", id, eventType⟩]⟩
  | disable {v} {operation : OperationActor} {now} {r : ConnectionRecord}
      (hfree : ∀ p, ¬ d.Bound p id) :
      ConnectionStep d id (.disableConnection id v operation now) r
        ⟨{ r.connection with
            version := r.connection.version + 1, status := .disabled
            disabledBy := some operation.userId, disabledAt := some now, updatedAt := now },
          r.audit ++ [⟨now, operation, "repository_connection", id, "disabled"⟩]⟩

/-- What a command does to the message it locks. -/
structure MessageStep (opened : Prop) (d : Workspace) (id : Id) (operation : OperationActor)
    (now : Time) (action : String) (m m' : MessageRecord) : Prop where
  thread : m'.item.threadId = m.item.threadId
  «open» : opened → d.tasks.resolved m.item.threadId = false
  audit : m'.audit = m.audit ++ [⟨now, operation, "task_thread_item", id, action⟩]

/-- What a command does to the conversation it locks. -/
inductive ConversationStep (id : Id) : Command → ConversationRecord → ConversationRecord → Prop
  | observe {new provider tenantId externalId name actorId now}
      {r : ConversationRecord} {name' lastSeenAt} :
      ConversationStep id (.observe new provider tenantId externalId name actorId now) r
        { r with conversation := { r.conversation with name := name', lastSeenAt } }
  | update {v} {patch : AgentConversationPatch} {actorId now}
      {r : ConversationRecord} {context} (hversion : r.conversation.version = v) :
      ConversationStep id (.updateConversation id v patch actorId now) r
        ⟨patch.apply r.conversation context actorId now,
          r.revisions ++ [(patch.apply r.conversation context actorId now).revision]⟩

/-- What a commit of a command does. -/
inductive WorkStep (platform : Platform) (active opened : Prop) (held : List (Lock WorkRow))
    (d d' : Workspace) : Command → Prop
  | task {c : Cmd} {ls} (holds : Holds .task ls held)
      (step : Step platform (rely False) ls d.tasks d'.tasks c)
      (resolved : ∀ x, d.tasks.resolved x = false → d'.tasks.resolved x = true →
        c.Resolves ∧ ⟨.task (.thread x), .update⟩ ∈ held)
      (project : ∀ p ∈ c.insertsInto, ⟨.project p, .share⟩ ∈ held)
      (other : d' = { d with tasks := d'.tasks }) :
      WorkStep platform active opened held d d' (.task c)
  | project {p} {c : Command} {r r'}
      (on : OnRow projectTable .project p held d d' r r')
      (step : ProjectStep (active ∧ c.ChangesAdmins) held d p c r r') :
      WorkStep platform active opened held d d' c
  | createProject {p name description creatorId actor membershipId now}
      (new : Inserted projectTable .project p held d d'
        ⟨⟨1, name, description, creatorId, none⟩,
          (∅ : Table ProjectMembership).insert creatorId ⟨membershipId, .admin⟩, ∅, ∅,
          [⟨now, actor, "project", p, "created"⟩]⟩) :
      WorkStep platform active opened held d d'
        (.createProject p name description creatorId actor membershipId now)
  | user {u f} {c : Command} {row}
      (change : c.userChange = some (u, f))
      (on : OnRow userTable .user u held d d' row (f row)) :
      WorkStep platform active opened held d d' c
  | createUser {u row}
      (new : Inserted userTable .user u held d d' row) :
      WorkStep platform active opened held d d' (.createUser u row)
  | addItem {id threadId kind body replyToItemId mentionedUserIds author operation now}
      {m : MessageRecord} (thread : m.item.threadId = threadId)
      (locked : ⟨.task (.thread threadId), .update⟩ ∈ held)
      («open» : d.tasks.resolved threadId = false)
      (audit : ∃ action, m.audit = [⟨now, operation, "task_thread_item", id, action⟩])
      (new : Inserted messageTable .message id held d d' m) :
      WorkStep platform active opened held d d'
        (.addItem id threadId kind body replyToItemId mentionedUserIds author operation now)
  | editMessage {id v body mentionedUserIds author operation now m m'}
      (on : OnRow messageTable .message id held d d' m m')
      (step : MessageStep opened d id operation now "message_edited" m m') :
      WorkStep platform active opened held d d'
        (.editMessage id v body mentionedUserIds author operation now)
  | deleteMessage {id v author operation now m m'}
      (on : OnRow messageTable .message id held d d' m m')
      (step : MessageStep opened d id operation now "message_deleted" m m') :
      WorkStep platform active opened held d d' (.deleteMessage id v author operation now)
  | connection {id c r r'}
      (on : OnRow connectionTable .connection id held d d' r r')
      (step : ConnectionStep d id c r r') : WorkStep platform active opened held d d' c
  | createConnection {id} {connection : RepositoryConnection} {operation}
      (new : Inserted connectionTable .connection id held d d' ⟨connection,
        [⟨connection.createdAt, operation, "repository_connection", id, "created"⟩]⟩) :
      WorkStep platform active opened held d d' (.createConnection id connection operation)
  | conversation {id c r r'}
      (on : OnRow conversationTable .conversation id held d d' r r')
      (step : ConversationStep id c r r') : WorkStep platform active opened held d d' c
  | newConversation {id provider tenantId externalId name actorId now} {r : ConversationRecord}
      (new : Inserted conversationTable .conversation id held d d' r)
      (version : r.conversation.version = 1) (revisions : r.revisions = [r.conversation.revision]) :
      WorkStep platform active opened held d d'
        (.observe id provider tenantId externalId name actorId now)
  | read {c : Command} (reads : c.Reads) (same : d' = d) :
      WorkStep platform active opened held d d' c

/-- What a commit may do to the rows of one Project. -/
inductive ProjectChange (keepsActive : Prop) (held : List (Lock WorkRow)) (d : Workspace) (p : Id)
    (c : Command) : Option ProjectRecord → ProjectRecord → Prop
  | same {r} : ProjectChange keepsActive held d p c (some r) r
  | step {r r'} (step : ProjectStep keepsActive held d p c r r') :
      ProjectChange keepsActive held d p c (some r) r'
  | create {name description creatorId actor membershipId now} :
      ProjectChange keepsActive held d p c none ⟨⟨1, name, description, creatorId, none⟩,
        (∅ : Table ProjectMembership).insert creatorId ⟨membershipId, .admin⟩, ∅, ∅,
        [⟨now, actor, "project", p, "created"⟩]⟩

/-- What a commit may do to one conversation. -/
inductive ConversationChange (k : Id) (c : Command) :
    Option ConversationRecord → ConversationRecord → Prop
  | same {r} : ConversationChange k c (some r) r
  | step {r r'} (step : ConversationStep k c r r') :
      ConversationChange k c (some r) r'
  | create {r : ConversationRecord} (version : r.conversation.version = 1)
      (revisions : r.revisions = [r.conversation.revision]) : ConversationChange k c none r

/-- The Project that the command gives a new Task. -/
def Command.insertsInto : Command → Option Id
  | .task c => c.insertsInto
  | _ => none

/-- What a commit does to the tables beside those of the Tasks. -/
structure WorkChange (active opened : Prop) (held : List (Lock WorkRow)) (d d' : Workspace)
    (c : Command) : Prop where
  projects : TableChange projectTable .project held d d' fun p =>
    ProjectChange (active ∧ c.ChangesAdmins) held d p c
  users : TableChange userTable .user held d d' fun u old row =>
    ∀ row₀, old = some row₀ → row = row₀ ∨ ∃ f, c.userChange = some (u, f) ∧ row = f row₀
  messages : TableChange messageTable .message held d d' fun _ old m => old = some m ∨
    (opened → d.tasks.resolved m.item.threadId = false) ∧
      ∀ m₀, old = some m₀ → m.item.threadId = m₀.item.threadId
  connections : TableChange connectionTable .connection held d d' fun k old x =>
    ∀ x₀, old = some x₀ → x = x₀ ∨ ConnectionStep d k c x₀ x
  conversations : TableChange conversationTable .conversation held d d' fun k =>
    ConversationChange k c

/-! ## Commits -/

variable {reply : WorkReply} {f : UserRow → UserRow} {m m' : MessageRecord}
  {event : BusinessAuditEvent} {body provider tenantId externalId : String} {author : Actor}
  {k : Id} {c' : Command}

variable {p id actorId : Id} {name : String} {now : Time} {c : Command}
  {R : Rely Workspace WorkRow} {u : Unit} {operation : OperationActor} {v : Nat}
  {a : RepositoryConnection} {r : ProjectRecord}

section Commits

variable {platform : Platform} {active opened keepsActive keepsOpen : Prop}
  {held held' : List (Lock WorkRow)} {d d' : Workspace}

/-- A commit on the tables of the Tasks is one of the Task system. -/
theorem task_commits {c}
    (h : (program platform (.task c)).Commits ((Command.task c).rely active opened) [] d reply held'
      d') : WorkStep platform active opened held' d d' (.task c) := by
  simp only [program, rules] at h
  obtain ⟨r, held₁, d₁, hzoom, _, held₂, d₂, hproject, -, rfl, rfl⟩ := h
  obtain ⟨ls, hls, hcommit, hother⟩ := commits_of_zoom (Holds.nil _ _) hzoom
  -- The foreign key adds a lock and leaves the database alone.
  have hafter : d' = d₁ ∧ held₁ ⊆ held' ∧ ∀ p ∈ c.insertsInto, ⟨.project p, .share⟩ ∈ held' := by
    cases hinto : c.insertsInto with
    | none =>
      rw [hinto] at hproject
      obtain ⟨-, rfl, rfl⟩ := hproject
      exact ⟨rfl, List.Subset.refl _, fun p hp => by cases hp⟩
    | some p =>
      rw [hinto] at hproject
      simp only [requireProjectRow, rules, peel] at hproject
      obtain ⟨_, -, -, rfl, rfl⟩ := hproject
      refine ⟨rfl, fun l hl => List.mem_cons_of_mem _ hl, fun p' hp' => ?_⟩
      obtain rfl := Option.some.inj hp'
      exact List.mem_cons_self
  obtain ⟨rfl, hsubset, hlocks⟩ := hafter
  have hstep := step_of_commits (isolates_rely False) hcommit
  refine .task (fun l hl => hsubset (hls l hl)) hstep (fun x hbefore hx => ?_) hlocks hother
  obtain ⟨hresolves, hlocked⟩ := commits_resolved (isolates_rely False) hcommit hbefore hx
  exact ⟨hresolves, hsubset (hls _ hlocked)⟩

theorem createProject_commits {description creatorId actor membershipId a}
    (h : (createProject p name description creatorId actor membershipId now).Commits
      (workRely keepsActive keepsOpen) held d a held' d') :
    WorkStep platform active opened held' d d'
      (.createProject p name description creatorId actor membershipId now) := by
  simp only [createProject, rules, peel] at h
  obtain ⟨r, hnew, hrun⟩ := commits_insertRow (owns_project p) h.2.2.2
  simp only [Owned.rules, runs_auditProject, peel] at hrun
  obtain ⟨_, -, -, -, -, -, rfl⟩ := hrun
  exact .createProject hnew

theorem updateUser_commits {u a} (hc : c.userChange = some (u, f))
    (h : (updateUser u f).Commits (workRely keepsActive keepsOpen) held d a held' d') :
    WorkStep platform active opened held' d d' c := by
  obtain ⟨row, row', hon, hrun⟩ := commits_withRow (owns_user u) h
  obtain ⟨-, rfl⟩ := Owned.runs_update.mp hrun
  exact .user hc hon

@[simp] theorem runs_auditMessage {c} :
    (auditMessage event).Runs R c held d m u held' m' ↔
      event.validate = .ok () ∧ held' = held ∧ m' = { m with audit := m.audit ++ [event] } := by
  simp [auditMessage, Unique.exists_iff]

@[simp] theorem runs_replaceThreadItemMentions {c userIds} :
    (replaceThreadItemMentions userIds).Runs R c held d m u held' m' ↔ 0 ∉ userIds ∧ held' = held ∧
      m' = { m with item := { m.item with mentionedUserIds := userIds.dedup } } := by
  simp [replaceThreadItemMentions, Unique.exists_iff]

theorem addItem_commits {threadId kind replyToItemId mentionedUserIds a}
    (h : (addItem id threadId kind body replyToItemId mentionedUserIds author operation now).Commits
      (workRely keepsActive keepsOpen) held d a held' d') :
    WorkStep platform active opened held' d d'
      (.addItem id threadId kind body replyToItemId mentionedUserIds author operation now) := by
  simp only [addItem, rules, peel] at h
  obtain ⟨-, -, -, -, found, ⟨d₀, hR, rfl⟩, -, hopen, -, _, -, -, h⟩ := h
  obtain ⟨m, hnew, hrun⟩ := commits_insertRow (owns_message id) h
  have hsubset := hrun.held_subset
  simp only [Owned.rules, runs_replaceThreadItemMentions, runs_auditMessage, peel] at hrun
  obtain ⟨-, -, -, -, rfl⟩ := hrun
  have hlocked : ⟨.task (.thread threadId), .update⟩ ∈
      (⟨.task (.thread threadId), .update⟩ :: held : List (Lock WorkRow)) := List.mem_cons_self
  -- The Thread was open when it was read, and its lock has kept it open.
  have hthread : d₀.tasks.resolved threadId = false := by
    rw [← Bool.not_eq_true, Db.resolved, List.any_eq_true]
    rintro ⟨x, hx, hresolved⟩
    have hnot := List.all_eq_true.mp hopen x hx
    exact of_decide_eq_true hnot (of_decide_eq_true hresolved)
  have hstill : d.tasks.resolved threadId = false := by
    rw [← Bool.not_eq_true]
    intro hresolved
    have hearlier := hR.threads threadId .update hlocked hresolved
    rw [hthread] at hearlier
    cases hearlier
  exact .addItem rfl (hsubset (List.mem_cons_of_mem _ hlocked)) hstill ⟨_, rfl⟩ hnew

/-- What editing and deleting a message have in common. -/
theorem mutateMessage_commits {mutate action a}
    (hmutate : ∀ m m', mutate m = .ok m' → m'.threadId = m.threadId)
    (h : (mutateMessage id v author operation now mutate action).Commits
      (workRely keepsActive keepsOpen) held d a held' d') :
    ∃ m m', OnRow messageTable .message id held' d d' m m' ∧
      MessageStep keepsOpen d id operation now action m m' := by
  simp only [mutateMessage, rules, peel] at h
  obtain ⟨m, m', hon, hrun⟩ := commits_withRow (owns_message id) h.2
  simp only [Owned.rules, runs_replaceThreadItemMentions, runs_auditMessage, peel] at hrun
  obtain ⟨resolved, ⟨d₀, d₁, hR, -, hother, rfl⟩, -, hopen, -, item, hitem, -, -, -, -, rfl⟩ := hrun
  refine ⟨m, _, hon, hmutate m.item item hitem, fun hkeeps => ?_, rfl⟩
  have htasks : d₁.tasks = d.tasks := by
    obtain ⟨table, rfl, -⟩ := hother
    rfl
  rw [← Bool.not_eq_true, ← htasks]
  intro hresolved
  rw [hR.open hkeeps _ hresolved] at hopen
  cases hopen

theorem ThreadMessage.edit_threadId {m m' : ThreadMessage} {ids}
    (h : m.edit body ids now = .ok m') : m'.threadId = m.threadId := by
  simp only [edit, ok_rules] at h
  obtain ⟨-, -, rfl⟩ := h
  rfl

theorem ThreadMessage.delete_threadId {m m' : ThreadMessage} (h : m.delete now = .ok m') :
    m'.threadId = m.threadId := by
  simp only [delete, ok_rules] at h
  obtain ⟨-, rfl⟩ := h
  rfl

@[simp] theorem runs_auditConnection {c r r'} :
    (auditConnection event).Runs R c held d r u held' r' ↔
      event.validate = .ok () ∧ held' = held ∧ r' = { r with audit := r.audit ++ [event] } := by
  simp [auditConnection, Unique.exists_iff]

theorem createConnection_commits {connection}
    (h : (createConnection id connection operation).Commits (workRely keepsActive keepsOpen)
      held d a held' d') :
    WorkStep platform active opened held' d d' (.createConnection id connection operation) := by
  simp only [createConnection, rules, peel] at h
  obtain ⟨r, hnew, hrun⟩ := commits_insertRow (owns_connection id) h.2.2
  simp only [Owned.rules, runs_auditConnection, peel] at hrun
  obtain ⟨-, -, -, rfl⟩ := hrun
  exact .createConnection hnew

theorem requireActiveConnection_ok {c : RepositoryConnection} {text}
    (h : requireActiveConnection c v text = .ok ()) : c.status = .active := by
  simp only [requireActiveConnection, ok_rules, not_not] at h
  exact h.2.1

theorem updateValidated_commits {validation replacement eventType}
    (h : (updateValidated id v validation replacement eventType operation).Commits
      (workRely keepsActive keepsOpen) held d a held' d') :
    WorkStep platform active opened held' d d'
      (.updateValidated id v validation replacement eventType operation) := by
  simp only [updateValidated, rules, peel] at h
  obtain ⟨r, r', hon, hrun⟩ := commits_withRow (owns_connection id) h.2
  simp only [Owned.rules, runs_auditConnection, peel] at hrun
  obtain ⟨hactive, -, -, -, -, -, -, -, rfl⟩ := hrun
  exact .connection hon (.validate (requireActiveConnection_ok hactive))

theorem disableConnection_commits
    (h : (disableConnection id v operation now).Commits (workRely keepsActive keepsOpen) held d a
      held' d') :
    WorkStep platform active opened held' d d' (.disableConnection id v operation now) := by
  simp only [disableConnection, rules, peel] at h
  obtain ⟨r, r', hon, hrun⟩ := commits_withRow (owns_connection id) h.2
  simp only [Owned.rules, runs_auditConnection, peel] at hrun
  obtain ⟨-, bound, ⟨d₀, d₁, hR, -, hother, rfl⟩, hfree, -, -, -, rfl⟩ := hrun
  refine .connection hon (.disable fun p hp => ?_)
  have hprojects : d₁.projects = d.projects := by
    obtain ⟨table, rfl, -⟩ := hother
    rfl
  -- A binding at the commit would have been there when the bindings were counted.
  have hlater : d₁.Bound p id := by
    unfold Workspace.Bound project at hp ⊢
    rw [hprojects]
    exact hp
  have hearlier := bound_iff.mpr ⟨p, hR.bindings id List.mem_cons_self p hlater⟩
  rw [hfree] at hearlier
  cases hearlier

set_option linter.constructorNameAsVariable false in
theorem observe_commits {a}
    (h : (observe id provider tenantId externalId name actorId now).Commits
      (workRely keepsActive keepsOpen) held d a held' d') :
    WorkStep platform active opened held' d d'
      (.observe id provider tenantId externalId name actorId now) := by
  simp only [observe, rules, peel] at h
  obtain ⟨-, -, -, -, -, found, -, h⟩ := h
  cases found with
  | none =>
    simp only [observeNew, rules, peel] at h
    obtain ⟨r, hnew, hrun⟩ := commits_insertRow (owns_conversation id) h.2
    obtain ⟨-, rfl⟩ := Owned.runs_update.mp hrun
    exact .newConversation hnew rfl rfl
  | some known =>
    obtain ⟨r, r', hon, hrun⟩ := commits_withRow (owns_conversation known) h
    obtain ⟨-, rfl⟩ := Owned.runs_update.mp hrun
    exact .conversation hon .observe

theorem updateConversation_commits {patch a}
    (h : (updateConversation id v patch actorId now).Commits (workRely keepsActive keepsOpen) held d
      a held' d') :
    WorkStep platform active opened held' d d' (.updateConversation id v patch actorId now) := by
  simp only [updateConversation, rules, peel] at h
  obtain ⟨-, -, -, h⟩ := h
  obtain ⟨r, r', hon, hrun⟩ := commits_withRow (owns_conversation id) h
  simp only [Owned.rules, peel] at hrun
  obtain ⟨hversion, context, -, -, -, -, rfl⟩ := hrun
  exact .conversation hon (.update hversion)

theorem reads_commits {α : Type} {q a}
    (h : (query q >>= fun found => demand found .notFound : WorkTx α).Commits
      (workRely keepsActive keepsOpen) held d a held' d') : d' = d := by
  simp only [rules, peel] at h
  obtain ⟨_, -, -, -, rfl⟩ := h
  rfl

/-- A commit on a Project, for a command that is not one on Tasks. -/
theorem WorkStep.of_onProject (h : OnProject (active ∧ c.ChangesAdmins) held' d d' p c) :
    WorkStep platform active opened held' d d' c := by
  obtain ⟨r, r', hon, hstep⟩ := h
  exact .project hon hstep

/-- Every commit is a step. -/
theorem workStep_of_commits
    (h : (program platform c).Commits (c.rely active opened) [] d reply held' d') :
    WorkStep platform active opened held' d d' c := by
  cases c
  case task c => exact task_commits h
  case observe =>
      simp only [program, Command.rely] at h
      -- `‹_›` and not `h`, whose type would be evaluated as far as the names can be trimmed.
      obtain ⟨_, -, _⟩ := commits_of_bind_pure ‹_›
      exact observe_commits ‹_›
  all_goals simp only [program, Command.rely] at h; obtain ⟨a, -, h⟩ := commits_of_bind_pure h
  case createProject => exact createProject_commits h
  case updateProject => exact .of_onProject (updateProject_refines h)
  case projectLifecycle => exact .of_onProject (applyProjectLifecycle_refines h)
  case mutateMember => exact .of_onProject (mutateMember_refines h)
  case removeMember => exact .of_onProject (removeMember_refines h)
  case createMilestone => exact .of_onProject (createMilestone_refines h)
  case updateMilestone => exact .of_onProject (updateMilestone_refines h)
  case milestoneLifecycle => exact .of_onProject (applyMilestoneLifecycle_refines h)
  case createMilestoneCriterion => exact .of_onProject (createMilestoneCriterion_refines h)
  case updateMilestoneCriterion =>
      obtain ⟨p, h⟩ := updateMilestoneCriterion_refines h
      exact .of_onProject h
  case addMilestoneCheck =>
      obtain ⟨p, h⟩ := addMilestoneCheck_refines h
      exact .of_onProject h
  case removeMilestoneCriterion =>
      obtain ⟨p, h⟩ := removeMilestoneCriterion_refines h
      exact .of_onProject h
  case bindRepository => exact .of_onProject (bindRepository_refines h)
  case unbindRepository => exact .of_onProject (unbindRepository_refines h)
  case createConnection => exact createConnection_commits h
  case updateValidated => exact updateValidated_commits h
  case disableConnection => exact disableConnection_commits h
  case addItem => exact addItem_commits h
  case editMessage =>
      unfold editMessage at h
      obtain ⟨m, m', hon, hstep⟩ :=
        mutateMessage_commits (fun _ _ hm => ThreadMessage.edit_threadId hm) h
      exact .editMessage hon ⟨hstep.thread, fun ho => hstep.open ⟨ho, trivial⟩, hstep.audit⟩
  case deleteMessage =>
      unfold deleteMessage at h
      obtain ⟨m, m', hon, hstep⟩ :=
        mutateMessage_commits (fun _ _ hm => ThreadMessage.delete_threadId hm) h
      exact .deleteMessage hon ⟨hstep.thread, fun ho => hstep.open ⟨ho, trivial⟩, hstep.audit⟩
  case createUser =>
      obtain ⟨row', hnew, hrun⟩ := commits_insertRow (owns_user _) h
      obtain ⟨-, -, rfl⟩ := hrun
      exact .createUser hnew
  case deactivateUser =>
      unfold deactivateUser at h
      exact updateUser_commits rfl h
  case reactivateUser =>
      unfold reactivateUser at h
      exact updateUser_commits rfl h
  case bootstrapAdmin =>
      simp only [bootstrapAdmin, rules, peel] at h
      obtain ⟨_, -, -, h⟩ := h
      exact updateUser_commits rfl h
  case updateConversation => exact updateConversation_commits h
  case milestoneBelongs =>
      obtain ⟨-, -, rfl⟩ := commits_query.mp h
      exact .read trivial rfl
  case getProject =>
      unfold getProject at h
      exact .read trivial (reads_commits h)
  case getMembership =>
      unfold getMembership at h
      exact .read trivial (reads_commits h)
  case getConversation =>
      unfold getConversation at h
      exact .read trivial (reads_commits h)
  case getTask =>
      unfold getTask at h
      exact .read trivial (reads_commits h)

/-! ## The protocol -/

@[simp] theorem guarded_observe {new : Id} :
    (observe new provider tenantId externalId name actorId now).Guarded
      (workRely keepsActive keepsOpen) held fun _ _ => True := by
  simp only [observe, guarded_bind, guarded_require, guarded_query]
  intro _ d
  cases d.conversationByExternal (trimSpace provider) (trimSpace tenantId)
    (trimSpace externalId) with
  | none => simp [observeNew]
  | some known => exact guarded_withRow (owns_conversation known)

/-- The writes of every command are guarded by its locks. -/
theorem guarded_program (c : Command) :
    (program platform c).Guarded (c.rely active opened) [] fun _ _ => True := by
  cases c
  case task c =>
      simp only [program, guarded_bind, guarded_pure]
      refine Txn.Guarded.mono (guarded_zoom (guarded_prog (isolates_rely False) platform c)
        (Holds.nil _ _)) fun _ _ _ _ => ?_
      cases c.insertsInto with
      | none => trivial
      | some p => simp [requireProjectRow]
  all_goals simp only [program, Command.rely, guarded_bind, guarded_pure]
  case createProject | updateProject | projectLifecycle | mutateMember | removeMember =>
      simp [createProject, withProject, updateProject, applyProjectLifecycle, mutateMember,
        removeMember]
  case createMilestone | updateMilestone | milestoneLifecycle =>
      simp [withProject, createMilestone, updateMilestone, applyMilestoneLifecycle]
  case createMilestoneCriterion | updateMilestoneCriterion | addMilestoneCheck
      | removeMilestoneCriterion =>
      simp [withProject, createMilestoneCriterion, withMilestoneCriterion, updateMilestoneCriterion,
        addMilestoneCheck, removeMilestoneCriterion]
  case bindRepository | unbindRepository | createConnection | updateValidated
      | disableConnection =>
      simp [withProject, bindRepository, unbindRepository, createConnection, updateValidated,
        disableConnection]
  case addItem | editMessage | deleteMessage =>
      simp [addItem, editMessage, deleteMessage, mutateMessage]
  case createUser | deactivateUser | reactivateUser | bootstrapAdmin =>
      simp [createUser, deactivateUser, reactivateUser, bootstrapAdmin, updateUser]
  case observe => simp
  case updateConversation => simp [updateConversation]
  case getProject | getMembership | milestoneBelongs | getConversation | getTask =>
      simp [getProject, getMembership, milestoneBelongsToProject, getConversation, getTask]

/-! ### What a commit lets others rely on -/

theorem ProjectRecord.binds_iff :
    r.Binds k ↔ ∃ id b, r.repositories.lookup id = some b ∧ b.connectionId = k ∧
      b.unboundAt = none := by
  constructor
  · rintro ⟨⟨id, b⟩, hb, hconnection, hactive⟩
    exact ⟨id, b, AList.mem_lookup_iff.mpr hb, hconnection, hactive⟩
  · rintro ⟨id, b, hb, hconnection, hactive⟩
    exact ⟨⟨id, b⟩, AList.mem_lookup_iff.mp hb, hconnection, hactive⟩

/-- A Project gets bound to a Connection only under its lock, and while it is active. -/
theorem ProjectStep.binds {r' : ProjectRecord} (h : ProjectStep keepsActive held d p c r r')
    (hbinds : r'.Binds k) :
    r.Binds k ∨ ⟨.connection k, .share⟩ ∈ held ∧
      ∃ x, d.connections.lookup k = some x ∧ x.connection.status = .active := by
  cases h with
  | @bind _ connectionId repositoryId _ _ _ x hlock hconnection hactive =>
    obtain ⟨id, b, hb, hk, hunbound⟩ := binds_iff.mp hbinds
    by_cases hid : id = repositoryId
    · subst hid
      obtain rfl := Option.some.inj ((AList.lookup_insert _).symm.trans hb)
      subst hk
      exact .inr ⟨hlock, x, hconnection, hactive⟩
    · exact .inl (binds_iff.mpr
        ⟨id, b, (AList.lookup_insert_ne hid).symm.trans hb, hk, hunbound⟩)
  | @unbind _ repositoryId =>
    obtain ⟨id, b, hb, hk, hunbound⟩ := binds_iff.mp hbinds
    by_cases hid : id = repositoryId
    · -- The repository has just been unbound.
      subst hid
      obtain rfl := Option.some.inj ((AList.lookup_insert _).symm.trans hb)
      cases hunbound
    · exact .inl (binds_iff.mpr
        ⟨id, b, (AList.lookup_insert_ne hid).symm.trans hb, hk, hunbound⟩)
  | _ => exact .inl hbinds

/-- Users stay active, but for the one that is deactivated. -/
theorem userChange_active {u row} (hc : c.userChange = some (u, f))
    (hnot : ¬ c.Deactivates) : (f row).active = true := by
  cases c <;> simp only [Command.userChange, reduceCtorEq, Option.some.injEq, Prod.mk.injEq] at hc
  case deactivateUser => exact absurd trivial hnot
  all_goals
    obtain ⟨-, rfl⟩ := hc
    rfl

theorem WorkStep.changes (h : WorkStep platform active opened held d d' c) :
    WorkChange active opened held d d' c := by
  cases h with
  | task _ _ _ _ other =>
    constructor <;> exact .same (by rw [other]; rfl)
  | project on step =>
    obtain ⟨table, rfl, -⟩ := on.other
    exact ⟨.step on (.step step), .same rfl, .same rfl, .same rfl, .same rfl⟩
  | createProject new =>
    obtain ⟨table, rfl, -⟩ := new.other
    exact ⟨.insert new .create, .same rfl, .same rfl, .same rfl, .same rfl⟩
  | user change on =>
    obtain ⟨table, rfl, -⟩ := on.other
    refine ⟨.same rfl, .step on ?_, .same rfl, .same rfl, .same rfl⟩
    rintro row ⟨⟩
    exact .inr ⟨_, change, rfl⟩
  | createUser new =>
    obtain ⟨table, rfl, -⟩ := new.other
    exact ⟨.same rfl, .insert new fun _ h => (by cases h), .same rfl, .same rfl, .same rfl⟩
  | addItem thread _ hopen _ new =>
    obtain ⟨table, rfl, -⟩ := new.other
    refine ⟨.same rfl, .same rfl, .insert new (.inr ⟨fun _ => thread ▸ hopen, ?_⟩), .same rfl,
      .same rfl⟩
    intro m₀ h
    cases h
  | editMessage on step | deleteMessage on step =>
    obtain ⟨table, rfl, -⟩ := on.other
    refine ⟨.same rfl, .same rfl, .step on (.inr ⟨?_, ?_⟩), .same rfl, .same rfl⟩
    · rw [step.thread]
      exact step.open
    · rintro m ⟨⟩
      exact step.thread
  | connection on step =>
    obtain ⟨table, rfl, -⟩ := on.other
    refine ⟨.same rfl, .same rfl, .same rfl, .step on ?_, .same rfl⟩
    rintro x ⟨⟩
    exact .inr step
  | createConnection new =>
    obtain ⟨table, rfl, -⟩ := new.other
    exact ⟨.same rfl, .same rfl, .same rfl, .insert new fun _ h => (by cases h), .same rfl⟩
  | conversation on step =>
    obtain ⟨table, rfl, -⟩ := on.other
    exact ⟨.same rfl, .same rfl, .same rfl, .same rfl, .step on (.step step)⟩
  | newConversation new version revisions =>
    obtain ⟨table, rfl, -⟩ := new.other
    exact ⟨.same rfl, .same rfl, .same rfl, .same rfl, .insert new (.create version revisions)⟩
  | read _ same =>
    subst same
    exact ⟨.same rfl, .same rfl, .same rfl, .same rfl, .same rfl⟩

/-- Only a command on Tasks changes the tables of the Tasks. -/
theorem WorkStep.tasks (h : WorkStep platform active opened held d d' c) : d'.tasks = d.tasks ∨
    ∃ c' ls, c = .task c' ∧ Step platform (rely False) ls d.tasks d'.tasks c' ∧
      Holds .task ls held ∧ (∀ x, d.tasks.resolved x = false → d'.tasks.resolved x = true →
        c'.Resolves ∧ ⟨.task (.thread x), .update⟩ ∈ held) ∧
      ∀ p ∈ c'.insertsInto, ⟨.project p, .share⟩ ∈ held := by
  cases h with
  | task holds step resolved project => exact .inr ⟨_, _, rfl, step, holds, resolved, project⟩
  | project on | user _ on | editMessage on | deleteMessage on | connection on | conversation on =>
    obtain ⟨table, rfl, -⟩ := on.other
    exact .inl rfl
  | createProject new | createUser new | addItem _ _ _ _ new | createConnection new
  | newConversation new =>
    obtain ⟨table, rfl, -⟩ := new.other
    exact .inl rfl
  | read _ same => exact .inl (by rw [same])

/-- A Task that is unfinished only now is a new one. -/
theorem Step.unfinished {c : Cmd} {R ls} {d d' : Db} {t} (step : Step platform R ls d d' c)
    (hlaw : Lawful d) (ht : d'.Unfinished p t) : d.Unfinished p t ∨ c.insertsInto = some p := by
  obtain ⟨r', hr', hproject, hphase⟩ := ht
  cases hr : d.task t with
  | some r =>
    obtain ⟨r₁, hr₁, hkeeps⟩ := (step.footprint hlaw).keeps t r hr
    obtain rfl := Option.some.inj (hr₁.symm.trans hr')
    refine .inl ⟨r, hr, hkeeps.project.symm.trans hproject, fun hterminal => hphase ?_⟩
    rw [hkeeps.terminal hterminal]
    exact hterminal
  | none =>
    have hchange := step.taskChange hr'
    rw [hr] at hchange
    cases hchange with
    | create cmd =>
      subst cmd
      exact .inr (congrArg some hproject)

/-- A commit keeps what others rely on. -/
theorem WorkStep.interferes (h : WorkStep platform active opened held d d' c)
    (hlaw : Lawful d.tasks) (hoverlap : c.MayOverlap active opened c')
    (hcompatible : Compatible held held') :
    WorkInterferes (active ∧ c'.ChangesAdmins) (opened ∧ c'.EditsMessage) held' d d' := by
  have hchanges := h.changes
  constructor
  case projects => exact hchanges.projects.untouched hcompatible
  case users => exact hchanges.users.untouched hcompatible
  case messages => exact hchanges.messages.untouched hcompatible
  case connections => exact hchanges.connections.untouched hcompatible
  case conversations => exact hchanges.conversations.untouched hcompatible
  case unfinished =>
    intro p hp t ht
    rcases h.tasks with hsame | ⟨c₀, ls, rfl, step, -, -, project⟩
    · rwa [hsame] at ht
    · -- the Project of a new Task is locked
      refine (step.unfinished hlaw ht).resolve_right fun hinserts => ?_
      exact hcompatible.not_update (project p hinserts) hp
  case threads =>
    intro x s hs hx
    rcases h.tasks with hsame | ⟨c₀, ls, rfl, -, -, resolved, -⟩
    · rwa [hsame] at hx
    · by_contra hbefore
      have hlocked := (resolved x (Bool.not_eq_true _ ▸ hbefore) hx).2
      exact hcompatible.not_locked hlocked s hs
  case bindings =>
    rintro k hk p ⟨r', hr', hbinds⟩
    have hchange := hchanges.projects.after (fun _ _ => .same) hr'
    generalize hold : (projectTable.get d).lookup p = old at hchange
    cases hchange with
    | same => exact ⟨r', hold, hbinds⟩
    | @step r _ step =>
      rcases step.binds hbinds with hbound | ⟨hlock, -⟩
      · exact ⟨r, hold, hbound⟩
      · exact absurd hk (hcompatible.not_update hlock)
    | create =>
      obtain ⟨b, hb, -⟩ := hbinds
      cases hb
  case active =>
    rintro ⟨hactive, hadmins⟩ u ⟨x, hx, hxactive⟩
    obtain ⟨x', hx', hchange⟩ := hchanges.users.before (fun _ _ _ h => .inl (Option.some.inj h)) hx
    refine ⟨x', hx', ?_⟩
    rcases hchange x rfl with rfl | ⟨f, change, rfl⟩
    · exact hxactive
    · exact userChange_active change fun hdeactivates =>
        hoverlap.1 hactive hdeactivates hadmins
  case «open» =>
    rintro ⟨hopened, hedits⟩ x hx
    rcases h.tasks with hsame | ⟨c₀, ls, rfl, -, -, resolved, -⟩
    · rwa [hsame] at hx
    · by_contra hbefore
      have hresolves := (resolved x (Bool.not_eq_true _ ▸ hbefore) hx).1
      exact hoverlap.2 hopened hresolves hedits

/-- A commit keeps what the transactions on Tasks rely on. -/
theorem WorkStep.pulls (h : WorkStep platform active opened held d d' c) (hlaw : Lawful d.tasks)
    (hcompatible : Compatible held held') :
    ((rely False).pull taskTables .task).rel held' d d' := by
  intro ls' hls'
  rcases h.tasks with hsame | ⟨c₀, ls, -, step, holds, -⟩
  · change (rely False).rel ls' d.tasks d'.tasks
    rw [hsame]
    exact (rely False).refl ls' d.tasks
  · have hls := holds.compatible hls' hcompatible
    exact ⟨(step.footprint hlaw).interferes hls, fun hfalse => hfalse.elim⟩

theorem WorkStep.lawful (h : WorkStep platform active opened held d d' c) (hlaw : Lawful d.tasks) :
    Lawful d'.tasks := by
  rcases h.tasks with hsame | ⟨_, _, -, step, -⟩
  · rwa [hsame]
  · exact step.lawful hlaw

end Commits

/-- The transactions of the workspace keep to what they rely on of each other. -/
theorem workProtocol (platform : Platform) (active opened : Prop) :
    Protocol (program platform) (Command.rely active opened) (Command.MayOverlap active opened)
      fun d => Lawful d.tasks where
  guarded := guarded_program
  inv _ _ _ _ _ h hlaw := (workStep_of_commits h).lawful hlaw
  guarantee c d _ held d' h hlaw c' held' hoverlap hcompatible := by
    have hstep := workStep_of_commits h
    have hothers := hstep.interferes hlaw hoverlap hcompatible
    cases c' with
    | task => exact hstep.pulls hlaw hcompatible
    | _ => exact hothers

end Pactline
