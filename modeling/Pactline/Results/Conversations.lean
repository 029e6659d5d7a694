import Pactline.Analysis.Workspaces
import Pactline.Results.TaskStructure

/-!
# Revisions of Agent conversations

Every version of a conversation has one revision. The first observation inserts the first revision
with the conversation, an update inserts the next one with the row it changes, and a repeated
observation changes nothing that a revision says.
-/

set_option autoImplicit false

namespace Pactline

open ReadCommitted Workspace List

variable {k : Id} {c : Command} {r r' : ConversationRecord}

/-- The revisions are those of the versions 1 to that of the conversation, and the last one says
what the conversation says. -/
structure ConversationRecord.Complete (r : ConversationRecord) : Prop where
  versions : r.revisions.map (·.version) = range' 1 r.conversation.version
  last : ∃ v ∈ r.revisions, v.version = r.conversation.version ∧
    v.enabled = r.conversation.enabled ∧ v.bindingActive = r.conversation.bindingActive ∧
    v.defaultProjectId = r.conversation.defaultProjectId ∧
    v.businessContext = r.conversation.businessContext ∧ v.updatedBy = r.conversation.updatedBy

/-- A step adds the revision of the version it makes. -/
theorem ConversationStep.complete (h : ConversationStep k c r r') (hr : r.Complete) :
    r'.Complete := by
  cases h with
  | observe => exact ⟨hr.versions, hr.last⟩
  | @update v patch actorId now _ context hversion =>
    constructor
    · have hnext : (patch.apply r.conversation context actorId now).version =
          r.conversation.version + 1 := rfl
      rw [map_append, hr.versions, hnext, range'_concat]
      simp only [AgentConversation.revision, map_cons, map_nil, hnext, one_mul]
      rw [Nat.add_comm]
    · refine ⟨_, mem_append_right _ mem_cons_self, ?_⟩
      simp [AgentConversation.revision]

/-- A step takes no revision away. -/
theorem ConversationStep.revisions (h : ConversationStep k c r r') :
    r.revisions <+: r'.revisions := by
  cases h with
  | observe => exact prefix_refl _
  | update => exact prefix_append _ _

section Steps

variable {platform : Platform} {active opened : Prop} {held : List (Lock WorkRow)}
  {d d' : Workspace}

def Workspace.ConversationsComplete (d : Workspace) : Prop :=
  ∀ k r, d.conversations.lookup k = some r → r.Complete

/-- A commit leaves every conversation with its revisions. -/
theorem WorkStep.conversationsComplete (h : WorkStep platform active opened held d d' c)
    (hd : d.ConversationsComplete) : d'.ConversationsComplete := by
  intro k r' hr'
  have hchange := h.conversationChange hr'
  generalize hr : d.conversations.lookup k = old at hchange
  cases hchange with
  | same => exact hd k r' hr
  | step step => exact step.complete (hd k _ hr)
  | create version revisions =>
    constructor
    · rw [revisions, version]
      simp [AgentConversation.revision, version]
    · refine ⟨r'.conversation.revision, by rw [revisions]; exact mem_cons_self, ?_⟩
      simp [AgentConversation.revision]

theorem WorkStep.revisions (h : WorkStep platform active opened held d d' c)
    (hr : d.conversations.lookup k = some r) :
    ∃ r', d'.conversations.lookup k = some r' ∧ r.revisions <+: r'.revisions := by
  obtain ⟨r', hr'⟩ := h.conversation_some hr
  have hchange := h.conversationChange hr'
  rw [hr] at hchange
  cases hchange with
  | same => exact ⟨_, hr', prefix_refl _⟩
  | step step => exact ⟨_, hr', step.revisions⟩

end Steps

/-- In every committed database a conversation at version `n` has one revision for each version from
1 to `n` and no other, the last of them agrees with the conversation, and the revisions that a
commit leaves are still there, unchanged, after any commits that follow. -/
theorem revisions_complete_and_fixed {platform : Platform} {es : WorkSchedule} {cfg : WorkConfig}
    (h : runWork platform empty es = some cfg) :
    (∀ k r, cfg.db.conversations.lookup k = some r → r.Complete) ∧
    ∀ newer e older, cfg.log = newer ++ e :: older →
      ∀ k r, e.after.conversations.lookup k = some r →
        ∃ r', cfg.db.conversations.lookup k = some r' ∧ r.revisions <+: r'.revisions := by
  have hhistory := workHistory_of_runWork lawful_empty h
  constructor
  · have hempty : empty.ConversationsComplete := by
      intro k r hr
      cases hr
    exact hhistory.invariant lawful_empty hempty
      fun e _ hstep _ hbefore => hstep.conversationsComplete hbefore
  · intro newer e older hlog k r hr
    rw [hlog] at hhistory
    obtain ⟨hlater, -, -⟩ := Serial.split hhistory
    refine Serial.invariant hlater (P := fun d => ∃ r', d.conversations.lookup k = some r' ∧
      r.revisions <+: r'.revisions) ⟨r, hr, prefix_refl _⟩ ?_
    rintro e' hv' ⟨r₁, hr₁, hprefix⟩
    obtain ⟨r', hr', hmore⟩ := (workStep_of_valid hv').revisions hr₁
    exact ⟨r', hr', hprefix.trans hmore⟩

/-- A conversation is observed twice and updated once. -/
def observedSchedule : WorkSchedule :=
  .connect (.script [.observe 8 "lark" "tenant" "chat" "Chat" 7 50,
    .observe 9 "lark" "tenant" "chat" "" 7 60,
    .updateConversation 8 1 ⟨some false, none, none, some "ship it"⟩ 7 70]) ::
    replicate 18 (.advance 0)

theorem revisions_complete_and_fixed_observed :
    ∃ cfg r, runWork asciiPlatform empty observedSchedule = some cfg ∧
      cfg.db.conversations.lookup 8 = some r ∧ r.conversation.version = 2 ∧ r.Complete := by
  obtain ⟨cfg, hcfg, r, hr, hversion⟩ : ∃ cfg,
      runWork asciiPlatform empty observedSchedule = some cfg ∧
      ∃ r, cfg.db.conversations.lookup 8 = some r ∧ r.conversation.version = 2 := by decide +kernel
  exact ⟨cfg, r, hcfg, hr, hversion, (revisions_complete_and_fixed hcfg).1 8 r hr⟩

end Pactline
