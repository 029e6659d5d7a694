import Pactline.Model.ProjectStore

/-!
# Repository Connections and the repositories of Projects

`internal/store/repository_connection_store.go` and `internal/store/project_repository_store.go`.
The table `repository_connection_events` is not modelled.
-/

set_option autoImplicit false

namespace Pactline

open ReadCommitted

/-! ## Connections -/

/-- `RepositoryConnection.Validate` with `RepositoryReference.Validate`
(`repository_delivery.go:30-37`, `88-108`). -/
def RepositoryConnection.validate (c : RepositoryConnection) (id : Id) :
    Except DomainError Unit := do
  if id = 0 ∨ c.version < 1 ∨ blank c.label ∨ blank c.providerRepositoryId ∨
      c.credentialCiphertext = [] ∨ blank c.encryptionKeyId ∨ c.lastValidatedAt = 0 ∨
      c.createdBy = 0 ∨ c.createdAt = 0 ∨ c.updatedAt = 0 then
    throw (.invalidInput "Repository Connection is incomplete")
  if blank c.origin ∨ blank c.pathWithNamespace ∨ blank c.pathLookupKey ∨
      blank c.canonicalWebURL then
    throw (.invalidInput "Repository Connection repository identity is inconsistent")
  if (c.status = .active ∧ (c.disabledBy ≠ none ∨ c.disabledAt ≠ none)) ∨
      (c.status = .disabled ∧
        (c.disabledBy = none ∨ c.disabledBy = some 0 ∨ c.disabledAt = none)) then
    throw (.invalidInput "Repository Connection status metadata is inconsistent")

abbrev ConnectionTx := RowTx ConnectionRecord

def auditConnection (event : BusinessAuditEvent) : ConnectionTx Unit := do
  event.validate
  Owned.update fun c => { c with audit := c.audit ++ [event] }

/-- `RepositoryConnectionStore.Create` (`repository_connection_store.go:75-125`). The unique indexes
on active Connections are left out: they only refuse more. -/
def createConnection (id : Id) (connection : RepositoryConnection) (operation : OperationActor) :
    WorkTx RepositoryConnection := do
  connection.validate id
  operation.validate
  insertRow Workspace.connectionTable .connection id ⟨connection, []⟩
      "repository_connections_pkey" do
    auditConnection ⟨connection.createdAt, operation, "repository_connection", id, "created"⟩
    return connection

/-- What the provider said of a repository, with the time. -/
structure RepositoryConnectionValidation where
  provider : RepositoryProvider
  origin : String
  providerRepositoryId : String
  pathWithNamespace : String
  pathLookupKey : String
  webURL : String
  defaultBranch : String
  validatedAt : Time

structure CredentialReplacement where
  ciphertext : List UInt8
  encryptionKeyId : String
  expiresAt : Option Time

/-- The Connection at the expected version and still active. -/
def requireActiveConnection (c : RepositoryConnection) (expectedVersion : Nat)
    (disabled : String) : Except DomainError Unit := do
  if c.version ≠ expectedVersion then
    throw (.versionConflict c.version)
  if c.status ≠ .active then
    throw (.conflict disabled)

/-- `updateValidated` (`repository_connection_store.go:190-276`), behind
`RotateCredential` and `RecordValidation`. -/
def updateValidated (id : Id) (expectedVersion : Nat)
    (validation : RepositoryConnectionValidation) (replacement : Option CredentialReplacement)
    (eventType : String) (operation : OperationActor) : WorkTx RepositoryConnection := do
  operation.validate
  withRow Workspace.connectionTable .connection id fun c => do
    requireActiveConnection c.connection expectedVersion "Repository Connection is disabled"
    Owned.require (c.connection.provider = validation.provider ∧
        c.connection.providerRepositoryId = validation.providerRepositoryId ∧
        c.connection.origin = validation.origin)
      (.conflict "Repository Connection repository identity changed")
    Owned.require (∀ r ∈ replacement, r.ciphertext ≠ [] ∧ r.encryptionKeyId ≠ "")
      (.invalidInput "encrypted credential is required")
    let updated := { c.connection with
      version := c.connection.version + 1, pathWithNamespace := validation.pathWithNamespace
      pathLookupKey := validation.pathLookupKey, canonicalWebURL := validation.webURL
      defaultBranch := validation.defaultBranch
      credentialCiphertext := replacement.elim c.connection.credentialCiphertext (·.ciphertext)
      encryptionKeyId := replacement.elim c.connection.encryptionKeyId (·.encryptionKeyId)
      credentialExpiresAt := replacement.elim c.connection.credentialExpiresAt (·.expiresAt)
      lastValidatedAt := validation.validatedAt, updatedAt := validation.validatedAt }
    Owned.update fun c => { c with connection := updated }
    auditConnection ⟨validation.validatedAt, operation, "repository_connection", id, eventType⟩
    return updated

/-- Some Project is still bound to the Connection. -/
def Workspace.bound (d : Workspace) (connectionId : Id) : Bool :=
  d.projects.entries.any fun e => e.2.repositories.entries.any fun b =>
    b.2.connectionId = connectionId && b.2.unboundAt.isNone

/-- `RepositoryConnectionStore.Disable` (`repository_connection_store.go:278-346`). -/
def disableConnection (id : Id) (expectedVersion : Nat) (operation : OperationActor) (now : Time) :
    WorkTx RepositoryConnection := do
  operation.validate
  withRow Workspace.connectionTable .connection id fun c => do
    requireActiveConnection c.connection expectedVersion
      "Repository Connection is already disabled"
    let bound ← Owned.query fun d => d.bound id
    Owned.require (bound = false) (.conflict "Repository Connection has active Project bindings")
    let updated := { c.connection with
      version := c.connection.version + 1, status := .disabled
      disabledBy := some operation.userId, disabledAt := some now, updatedAt := now }
    Owned.update fun c => { c with connection := updated }
    auditConnection ⟨now, operation, "repository_connection", id, "disabled"⟩
    return updated

/-! ## Repositories of a Project -/

/-- Bind and Unbind want a Project at the expected version that is not archived. -/
def requireOpenProject (r : ProjectRecord) (expectedVersion : Nat) : ProjectTx Unit := do
  requireProjectVersion r expectedVersion
  Owned.require (r.row.archivedAt = none) (.conflict "archived Projects are read-only")

/-- `Bind` (`project_repository_store.go:83-166`). -/
def bindRepository (p : Id) (expectedVersion : Nat) (connectionId repositoryId : Id)
    (operation : OperationActor) (now : Time) : WorkTx Nat := do
  operation.validate
  withProject p fun r => do
    requireOpenProject r expectedVersion
    Owned.acquire (.connection connectionId) .share
    let found ← Owned.query fun d => d.connections.lookup connectionId
    let c ← Owned.demand found .notFound
    Owned.require (c.connection.status = .active) (.conflict "Repository Connection is disabled")
    Owned.require (repositoryId ≠ 0 ∧ p ≠ 0 ∧ connectionId ≠ 0 ∧ operation.userId ≠ 0 ∧ now ≠ 0)
      (.invalidInput "Project repository binding is incomplete")
    Owned.require (r.repositories.lookup repositoryId).isNone
      (uniqueViolation "project_repositories_pkey")
    Owned.require (r.repositories.entries.all (fun b =>
        b.2.connectionId ≠ connectionId || b.2.unboundAt.isSome) = true)
      (uniqueViolation "project_repositories_active_binding")
    Owned.update (·.setRepository repositoryId ⟨connectionId, operation.userId, now, none, none⟩)
    let version ← incrementProjectVersion
    auditProject ⟨now, operation, "project_repository", repositoryId, "bound"⟩
    return version

/-- `Unbind` (`project_repository_store.go:168-253`). -/
def unbindRepository (p : Id) (expectedVersion : Nat) (repositoryId : Id)
    (operation : OperationActor) (now : Time) : WorkTx Nat := do
  operation.validate
  withProject p fun r => do
    requireOpenProject r expectedVersion
    let binding ← Owned.demand (r.repositories.lookup repositoryId) .notFound
    Owned.require (binding.unboundAt = none) (.conflict "Project repository is already unbound")
    Owned.update (·.setRepository repositoryId
      { binding with unboundBy := some operation.userId, unboundAt := some now })
    let version ← incrementProjectVersion
    auditProject ⟨now, operation, "project_repository", repositoryId, "unbound"⟩
    return version

end Pactline
