import Pactline.Concurrency.Lens
import Pactline.Model.Project

/-!
# The workspace

The database as the Project, identity, Thread, repository and conversation stores see it: the
tables of the Tasks (`Db`), and beside them the Projects, the users, the Items that callers add to
Threads, the Repository Connections and the Agent conversations. Each of the tables is a component
(`Lens`) whose rows are locked and owned one at a time.
-/

set_option autoImplicit false

namespace Pactline

open ReadCommitted

/-! ## Rows -/

inductive PlatformRole
  | admin
  | user
deriving DecidableEq, Repr

/-- What the stores here read of a row of `users`. -/
structure UserRow where
  active : Bool
  platformRole : PlatformRole
deriving DecidableEq, Repr

/-- A row of `task_thread_items` that a caller has added, with its mentions. The Items the
workflow writes are kept with their Task. -/
structure ThreadMessage where
  threadId : Id
  kind : ThreadItemKind
  author : Actor
  body : String
  replyToItemId : Option Id
  mentionedUserIds : List Id
  version : Nat
  createdAt : Time
  updatedAt : Time
  deletedAt : Option Time
deriving DecidableEq, Repr

structure MessageRecord where
  item : ThreadMessage
  audit : List BusinessAuditEvent
deriving DecidableEq, Repr

inductive RepositoryConnectionStatus
  | active
  | disabled
deriving DecidableEq, Repr

structure RepositoryConnection where
  version : Nat
  label : String
  provider : RepositoryProvider
  origin : String
  providerRepositoryId : String
  pathWithNamespace : String
  pathLookupKey : String
  canonicalWebURL : String
  defaultBranch : String
  credentialCiphertext : List UInt8
  encryptionKeyId : String
  credentialExpiresAt : Option Time
  status : RepositoryConnectionStatus
  lastValidatedAt : Time
  createdBy : Id
  disabledBy : Option Id
  disabledAt : Option Time
  createdAt : Time
  updatedAt : Time
deriving DecidableEq, Repr

structure ConnectionRecord where
  connection : RepositoryConnection
  audit : List BusinessAuditEvent
deriving DecidableEq, Repr

/-- A row of `agent_conversations`. -/
structure AgentConversation where
  provider : String
  tenantId : String
  externalId : String
  name : String
  enabled : Bool
  bindingActive : Bool
  defaultProjectId : Option Id
  businessContext : String
  version : Nat
  createdBy : Id
  updatedBy : Id
  lastSeenAt : Time
  createdAt : Time
  updatedAt : Time
deriving DecidableEq, Repr

/-- A row of `agent_conversation_revisions`. -/
structure AgentConversationRevision where
  version : Nat
  enabled : Bool
  bindingActive : Bool
  defaultProjectId : Option Id
  businessContext : String
  updatedBy : Id
  createdAt : Time
deriving DecidableEq, Repr

/-- A conversation with its revisions, in the order of their inserts. -/
structure ConversationRecord where
  conversation : AgentConversation
  revisions : List AgentConversationRevision
deriving DecidableEq, Repr

/-! ## The database -/

structure Workspace where
  projects : Table ProjectRecord
  users : Table UserRow
  messages : Table MessageRecord
  connections : Table ConnectionRecord
  conversations : Table ConversationRecord
  tasks : Db

inductive WorkRow
  | project (id : Id)
  | user (id : Id)
  | message (id : Id)
  | connection (id : Id)
  | conversation (id : Id)
  | task (row : Row)
deriving DecidableEq, Repr

namespace Workspace

def empty : Workspace := ⟨∅, ∅, ∅, ∅, ∅, Db.empty⟩

def projectTable : Lens Workspace (Table ProjectRecord) where
  get d := d.projects
  set projects d := { d with projects }
  get_set _ _ := rfl
  set_get _ := rfl
  set_set _ _ _ := rfl

def userTable : Lens Workspace (Table UserRow) where
  get d := d.users
  set users d := { d with users }
  get_set _ _ := rfl
  set_get _ := rfl
  set_set _ _ _ := rfl

def messageTable : Lens Workspace (Table MessageRecord) where
  get d := d.messages
  set messages d := { d with messages }
  get_set _ _ := rfl
  set_get _ := rfl
  set_set _ _ _ := rfl

def connectionTable : Lens Workspace (Table ConnectionRecord) where
  get d := d.connections
  set connections d := { d with connections }
  get_set _ _ := rfl
  set_get _ := rfl
  set_set _ _ _ := rfl

def conversationTable : Lens Workspace (Table ConversationRecord) where
  get d := d.conversations
  set conversations d := { d with conversations }
  get_set _ _ := rfl
  set_get _ := rfl
  set_set _ _ _ := rfl

/-- The tables of the Tasks. -/
def taskTables : Lens Workspace Db where
  get d := d.tasks
  set tasks d := { d with tasks }
  get_set _ _ := rfl
  set_get _ := rfl
  set_set _ _ _ := rfl

def project (d : Workspace) (p : Id) : Option ProjectRecord := d.projects.lookup p

/-- The user exists and is active. -/
def Active (d : Workspace) (u : Id) : Prop := ∃ row, d.users.lookup u = some row ∧ row.active

instance (d : Workspace) (u : Id) : Decidable (d.Active u) :=
  decidable_of_iff ((d.users.lookup u).any (·.active) = true) (by
    cases h : d.users.lookup u <;> simp [Active, h])

end Workspace

/-! ## Programs -/

abbrev WorkTx := Txn Workspace WorkRow DomainError

/-- The part of a transaction that owns one row of a table. -/
abbrev RowTx (V : Type) := Owned Workspace WorkRow DomainError V

/-- `SELECT … FOR UPDATE` of one row, and the rest of the transaction under that lock. -/
def withRow {V α : Type} (table : Lens Workspace (Table V)) (row : Id → WorkRow) (id : Id)
    (body : V → RowTx V α) : WorkTx α :=
  Txn.lock ⟨row id, .update⟩ ((Owned.own body).toTxn (table.cell id) .notFound)

/-- `INSERT` of one row, and the rest of the transaction. -/
def insertRow {V α : Type} (table : Lens Workspace (Table V)) (row : Id → WorkRow) (id : Id)
    (v : V) (index : String) (body : RowTx V α) : WorkTx α :=
  Owned.create (table.cell id) ⟨row id, .update⟩ v (uniqueViolation index) body

/-- The message PostgreSQL gives with a violated foreign key. -/
def foreignKeyViolation (table key : String) : DomainError :=
  .invalidInput ("insert or update on table " ++ quoted table ++
    " violates foreign key constraint " ++ quoted key)

/-- A transaction on the tables of the Tasks. -/
def onTasks {α : Type} (p : Tx α) : WorkTx α := p.zoom Workspace.taskTables .task

end Pactline
