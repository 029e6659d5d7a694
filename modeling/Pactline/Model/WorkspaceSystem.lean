import Pactline.Model.System
import Pactline.Model.ThreadStore
import Pactline.Model.RepositoryStore
import Pactline.Model.ConversationStore

/-!
# The system of the workspace

Every transaction of the Project, identity, Thread, repository and conversation stores as one
command, beside the commands on Tasks. A command on Tasks is the transaction of the Task system,
run on the tables of the Tasks; the `INSERT` of a Task also locks the row of its Project, as its
foreign key makes PostgreSQL do.
-/

set_option autoImplicit false

namespace Pactline

open ReadCommitted

inductive Command
  | task (c : Cmd)
  | createProject (p : Id) (name description : String) (creatorId : Id) (actor : OperationActor)
      (membershipId : Id) (now : Time)
  | updateProject (p : Id) (expectedVersion : Nat) (patch : ProjectPatch) (actor : OperationActor)
      (now : Time)
  | projectLifecycle (p : Id) (expectedVersion : Option Nat) (action : ProjectLifecycleAction)
      (actor : Actor) (operation : OperationActor) (clock : Nat → Time)
  | mutateMember (p userId : Id) (role : ProjectRole) (expectedVersion : Nat)
      (actor : OperationActor) (mode : MembershipMode) (membershipId : Id) (now : Time)
  | removeMember (p userId : Id) (expectedVersion : Nat) (actor : OperationActor) (now : Time)
  /-- The API gives no status. -/
  | createMilestone (p : Id) (expectedVersion : Nat) (m : Id) (draft : MilestoneDraft)
      (actor : OperationActor) (now : Time)
  | updateMilestone (p : Id) (expectedProjectVersion : Nat) (m : Id) (expectedVersion : Nat)
      (patch : MilestonePatch) (actor : OperationActor) (now : Time)
  | milestoneLifecycle (p : Id) (expectedProjectVersion : Nat) (m : Id) (expectedVersion : Nat)
      (action : MilestoneLifecycleAction) (actor : OperationActor) (reason : String)
      (clock : Nat → Time)
  | createMilestoneCriterion (p : Id) (expectedProjectVersion : Nat) (m : Id)
      (expectedVersion : Nat) (criterion : AcceptanceCriterion) (actor : OperationActor)
      (clock : Nat → Time) (fresh : Nat → Id)
  | updateMilestoneCriterion (criterionId : Id) (expectedVersion : Nat)
      (text instructions : Option String) (position : Option Int) (actor : OperationActor)
      (clock : Nat → Time)
  | addMilestoneCheck (criterionId : Id) (expectedVersion : Nat) (check : AcceptanceCheck)
      (actor : OperationActor) (clock : Nat → Time) (fresh : Nat → Id)
  | removeMilestoneCriterion (criterionId : Id) (expectedVersion : Nat) (actor : OperationActor)
      (reason : String) (clock : Nat → Time)
  | bindRepository (p : Id) (expectedVersion : Nat) (connectionId repositoryId : Id)
      (operation : OperationActor) (now : Time)
  | unbindRepository (p : Id) (expectedVersion : Nat) (repositoryId : Id)
      (operation : OperationActor) (now : Time)
  | createConnection (id : Id) (connection : RepositoryConnection) (operation : OperationActor)
  | updateValidated (id : Id) (expectedVersion : Nat)
      (validation : RepositoryConnectionValidation) (replacement : Option CredentialReplacement)
      (eventType : String) (operation : OperationActor)
  | disableConnection (id : Id) (expectedVersion : Nat) (operation : OperationActor) (now : Time)
  | addItem (id threadId : Id) (kind : ThreadItemKind) (body : String)
      (replyToItemId : Option Id) (mentionedUserIds : List Id) (author : Actor)
      (operation : OperationActor) (now : Time)
  | editMessage (itemId : Id) (expectedVersion : Nat) (body : String)
      (mentionedUserIds : List Id) (author : Actor) (operation : OperationActor) (now : Time)
  | deleteMessage (itemId : Id) (expectedVersion : Nat) (author : Actor)
      (operation : OperationActor) (now : Time)
  | createUser (u : Id) (row : UserRow)
  | deactivateUser (u : Id)
  | reactivateUser (u : Id)
  | bootstrapAdmin (u : Id)
  | observe (id : Id) (provider tenantId externalId name : String) (actorId : Id) (now : Time)
  | updateConversation (id : Id) (expectedVersion : Nat) (patch : AgentConversationPatch)
      (actorId : Id) (now : Time)
  | getProject (p : Id)
  | getMembership (p userId : Id)
  | milestoneBelongs (m p : Id)
  | getConversation (id : Id)
  | getTask (t : TaskId)

/-- What a committed command gives back. -/
inductive WorkReply
  | task (reply : Reply)
  | project (project : Project)
  | member (membership : ProjectMembership) (projectVersion : Nat)
  | milestone (milestone : Milestone) (projectVersion : Nat)
  | criterion (criterion : AcceptanceCriterion)
  | check (check : AcceptanceCheck)
  | connection (connection : RepositoryConnection)
  | message (message : ThreadMessage)
  | conversation (conversation : AgentConversation)
  | membership (membership : ProjectMembership)
  | version (projectVersion : Nat)
  | belongs (belongs : Bool)
  | taskRow (row : TaskRow)
  | done
deriving DecidableEq, Repr

/-- The Project whose row a command on Tasks names in an `INSERT`. -/
def Cmd.insertsInto : Cmd → Option Id
  | .create _ draft _ _ _ _ _ => some draft.projectId
  | _ => none

/-- The foreign key of `tasks.project_id`: the Project's row is locked against changes of its key
and against `FOR UPDATE` until the end, and has to exist. -/
def requireProjectRow : Option Id → WorkTx Unit
  | none => return ()
  | some p => do
      Txn.acquire (.project p) .share
      let found ← Txn.query fun d => d.project p
      Txn.require found.isSome (foreignKeyViolation "tasks" "tasks_project_id_fkey")

/-- `TaskStore.GetByNumber`, as far as the handlers use it. -/
def getTask (t : TaskId) : WorkTx TaskRow := do
  let found ← Txn.query fun d => (d.tasks.task t).map (·.row)
  Txn.demand found .notFound

/-- The program of each command. The lock of the foreign key is taken last; the code takes it
with the `INSERT` and keeps it, which leaves the others less room. -/
def program (platform : Platform) : Command → WorkTx WorkReply
  | .task c => do
      let reply ← onTasks (prog platform c)
      requireProjectRow c.insertsInto
      return .task reply
  | .createProject p name description creatorId actor membershipId now => do
      return .project (← createProject p name description creatorId actor membershipId now)
  | .updateProject p expectedVersion patch actor now => do
      return .project (← updateProject p expectedVersion patch actor now)
  | .projectLifecycle p expectedVersion action actor operation clock => do
      return .project (← applyProjectLifecycle p expectedVersion action actor operation clock)
  | .mutateMember p userId role expectedVersion actor mode membershipId now => do
      let r ← mutateMember p userId role expectedVersion actor mode membershipId now
      return .member r.1 r.2
  | .removeMember p userId expectedVersion actor now => do
      return .version (← removeMember p userId expectedVersion actor now)
  | .createMilestone p expectedVersion m draft actor now => do
      let r ← createMilestone p expectedVersion m { draft with status := none } actor now
      return .milestone r.1 r.2
  | .updateMilestone p expectedProjectVersion m expectedVersion patch actor now => do
      let r ← updateMilestone p expectedProjectVersion m expectedVersion patch actor now
      return .milestone r.1 r.2
  | .milestoneLifecycle p expectedProjectVersion m expectedVersion action actor reason clock => do
      let r ← applyMilestoneLifecycle p expectedProjectVersion m expectedVersion action actor
        reason clock
      return .milestone r.1 r.2
  | .createMilestoneCriterion p expectedProjectVersion m expectedVersion criterion actor clock
      fresh => do
      return .criterion (← createMilestoneCriterion p expectedProjectVersion m expectedVersion
        criterion actor clock fresh)
  | .updateMilestoneCriterion criterionId expectedVersion text instructions position actor
      clock => do
      return .criterion (← updateMilestoneCriterion criterionId expectedVersion text instructions
        position actor clock)
  | .addMilestoneCheck criterionId expectedVersion check actor clock fresh => do
      return .check (← addMilestoneCheck criterionId expectedVersion check actor clock fresh)
  | .removeMilestoneCriterion criterionId expectedVersion actor reason clock => do
      removeMilestoneCriterion criterionId expectedVersion actor reason clock
      return .done
  | .bindRepository p expectedVersion connectionId repositoryId operation now => do
      return .version (← bindRepository p expectedVersion connectionId repositoryId operation now)
  | .unbindRepository p expectedVersion repositoryId operation now => do
      return .version (← unbindRepository p expectedVersion repositoryId operation now)
  | .createConnection id connection operation => do
      return .connection (← createConnection id connection operation)
  | .updateValidated id expectedVersion validation replacement eventType operation => do
      return .connection (← updateValidated id expectedVersion validation replacement eventType
        operation)
  | .disableConnection id expectedVersion operation now => do
      return .connection (← disableConnection id expectedVersion operation now)
  | .addItem id threadId kind body replyToItemId mentionedUserIds author operation now => do
      return .message (← addItem id threadId kind body replyToItemId mentionedUserIds author
        operation now)
  | .editMessage itemId expectedVersion body mentionedUserIds author operation now => do
      return .message (← editMessage itemId expectedVersion body mentionedUserIds author operation
        now)
  | .deleteMessage itemId expectedVersion author operation now => do
      return .message (← deleteMessage itemId expectedVersion author operation now)
  | .createUser u row => do
      createUser u row
      return .done
  | .deactivateUser u => do
      deactivateUser u
      return .done
  | .reactivateUser u => do
      reactivateUser u
      return .done
  | .bootstrapAdmin u => do
      bootstrapAdmin u
      return .done
  | .observe id provider tenantId externalId name actorId now => do
      observe id provider tenantId externalId name actorId now
      return .done
  | .updateConversation id expectedVersion patch actorId now => do
      return .conversation (← updateConversation id expectedVersion patch actorId now)
  | .getProject p => do
      return .project (← getProject p)
  | .getMembership p userId => do
      return .membership (← getMembership p userId)
  | .milestoneBelongs m p => do
      return .belongs (← milestoneBelongsToProject m p)
  | .getConversation id => do
      return .conversation (← getConversation id)
  | .getTask t => do
      return .taskRow (← getTask t)

end Pactline
