import Pactline.Model.AccessStore

/-!
# Agent conversations

`internal/store/agent_conversation_store.go`: the configuration of an external conversation, with
a revision for each of its versions.
-/

set_option autoImplicit false

namespace Pactline

open ReadCommitted

def maxAgentConversationContextRunes : Nat := 4000

/-- `NormalizeAgentConversationContext` (`agent_conversation.go:46-56`). -/
def normalizeAgentConversationContext (value : String) : Except DomainError String :=
  if (trimSpace value).length > maxAgentConversationContextRunes then
    .error (.invalidInput "Agent conversation business context exceeds 4000 characters")
  else .ok (trimSpace value)

/-- `AgentConversation.Validate` (`agent_conversation.go:58-83`). -/
def AgentConversation.validate (c : AgentConversation) (id : Id) : Except DomainError Unit := do
  if id = 0 ∨ blank c.provider ∨ blank c.tenantId ∨ blank c.externalId ∨ c.version < 1 ∨
      c.createdBy = 0 ∨ c.updatedBy = 0 ∨ c.lastSeenAt = 0 ∨ c.createdAt = 0 ∨
      c.updatedAt = 0 then
    throw (.invalidInput "")
  if c.provider ≠ "lark" then
    throw (.invalidInput "unsupported Agent conversation provider")
  if c.bindingActive = true ∧ c.defaultProjectId = none then
    throw (.invalidInput "active Agent conversation binding requires a Project")
  if c.defaultProjectId = some 0 then
    throw (.invalidInput "")
  let _ ← normalizeAgentConversationContext c.businessContext

/-- The revision `insertAgentConversationRevision` writes. -/
def AgentConversation.revision (c : AgentConversation) : AgentConversationRevision :=
  { version := c.version, enabled := c.enabled, bindingActive := c.bindingActive
    defaultProjectId := c.defaultProjectId, businessContext := c.businessContext
    updatedBy := c.updatedBy, createdAt := c.updatedAt }

/-- The conversation that is known under the external key. -/
def Workspace.conversationByExternal (d : Workspace) (provider tenantId externalId : String) :
    Option Id :=
  (d.conversations.entries.find? fun e => e.2.conversation.provider = provider &&
    e.2.conversation.tenantId = tenantId && e.2.conversation.externalId = externalId).map (·.1)

/-- The transaction of `Observe` on a conversation that is not known yet. -/
def observeNew (id : Id) (provider tenantId externalId name : String) (actorId : Id)
    (now : Time) : WorkTx Unit := do
  let conversation : AgentConversation :=
    { provider, tenantId, externalId, name, enabled := true, bindingActive := false
      defaultProjectId := none, businessContext := "", version := 1, createdBy := actorId
      updatedBy := actorId, lastSeenAt := now, createdAt := now, updatedAt := now }
  conversation.validate id
  insertRow Workspace.conversationTable .conversation id ⟨conversation, []⟩
    "agent_conversations_pkey"
    (Owned.update fun r => { r with revisions := r.revisions ++ [conversation.revision] })

/-- The transaction of `Observe` on a known conversation: only its name and the time it was last
seen change. -/
def observeKnown (id : Id) (name : String) (now : Time) : WorkTx Unit :=
  withRow Workspace.conversationTable .conversation id fun r =>
    Owned.update fun _ => { r with conversation := { r.conversation with
      name := if name = "" then r.conversation.name else name
      lastSeenAt := max r.conversation.lastSeenAt now } }

/-- `Observe` (`agent_conversation_store.go:42-117`). -/
def observe (id : Id) (provider tenantId externalId name : String) (actorId : Id) (now : Time) :
    WorkTx Unit := do
  Txn.require (trimSpace provider ≠ "" ∧ trimSpace tenantId ≠ "" ∧ trimSpace externalId ≠ "" ∧
    actorId ≠ 0 ∧ now ≠ 0) (.invalidInput "")
  let found ← Txn.query fun d =>
    d.conversationByExternal (trimSpace provider) (trimSpace tenantId) (trimSpace externalId)
  match found with
  | none =>
    observeNew id (trimSpace provider) (trimSpace tenantId) (trimSpace externalId)
      (trimSpace name) actorId now
  | some known => observeKnown known (trimSpace name) now

/-- `AgentConversationStore.Get`: the conversation with the revision of its version. -/
def getConversation (id : Id) : WorkTx AgentConversation := do
  let found ← Txn.query fun d =>
    (d.conversations.lookup id).bind fun r =>
      if r.revisions.any (fun v => v.version = r.conversation.version) then some r.conversation
      else none
  Txn.demand found .notFound

structure AgentConversationPatch where
  enabled : Option Bool
  bindingActive : Option Bool
  /-- The new default Project, where `DefaultProjectSet`. -/
  defaultProjectId : Option (Option Id)
  businessContext : Option String

/-- The conversation after a patch, before it is checked. -/
def AgentConversationPatch.apply (patch : AgentConversationPatch) (c : AgentConversation)
    (businessContext : String) (actorId : Id) (now : Time) : AgentConversation :=
  { c with
    enabled := patch.enabled.getD c.enabled
    bindingActive := patch.bindingActive.getD c.bindingActive
    defaultProjectId := patch.defaultProjectId.getD c.defaultProjectId
    businessContext, version := c.version + 1, updatedBy := actorId, updatedAt := now }

/-- `UpdateVersioned` (`agent_conversation_store.go:249-314`). There is no business audit. -/
def updateConversation (id : Id) (expectedVersion : Nat) (patch : AgentConversationPatch)
    (actorId : Id) (now : Time) : WorkTx AgentConversation := do
  Txn.require (id ≠ 0 ∧ actorId ≠ 0 ∧ 1 ≤ expectedVersion) (.invalidInput "")
  withRow Workspace.conversationTable .conversation id fun r => do
    Owned.require (r.conversation.version = expectedVersion)
      (.versionConflict r.conversation.version)
    let businessContext ← (patch.businessContext.map normalizeAgentConversationContext).getD
      (.ok r.conversation.businessContext)
    let updated := patch.apply r.conversation businessContext actorId now
    updated.validate id
    Owned.update fun r => ⟨updated, r.revisions ++ [updated.revision]⟩
    return updated

end Pactline
