import Pactline.Analysis.History

/-!
# Claims over time

The columns that say whose a Claim is, for which stage and until when are those of its creation, for
as long as the Task exists.
-/

set_option autoImplicit false

namespace Pactline

open ReadCommitted TaskStageClaim List

variable {log : List Entry} {e : Entry} {d' : Db} {fresh : Nat → Id} {main : Thread}

variable {k : TaskStageClaim} {platform : Platform} {d : Db} {t : TaskId} {r r' : TaskRecord}
  {c : Cmd} {now : Time}

/-! ## Claims -/

section Steps

variable {before : Option TaskRecord}

/-- A commit leaves whose the Claims are as it was, or adds one that is new. -/
theorem TaskChange.fixedClaims (h : TaskChange d t c before r') :
    r'.fixedClaims = (before.map TaskRecord.fixedClaims).getD [] ∨
      ∃ claim, Cmd.Makes t claim c ∧ d.claim claim.id = none ∧
        r'.fixedClaims = (before.map TaskRecord.fixedClaims).getD [] ++ [claim.fixed] := by
  cases h with
  | same => exact .inl rfl
  | step step => exact step.fixedClaims
  | create => exact .inl rfl
  | update _ edited =>
    left
    rw [edited.rows]
    rfl
  | follow _ _ _ follows =>
    left
    unfold TaskRecord.fixedClaims
    rw [follows.tables.1]
    rfl
  | attach => exact .inl rfl

/-- The Claims of before are still there. -/
theorem TaskChange.claim_persists (h : TaskChange d t c (some r) r') (hk : k ∈ r.claims) :
    ∃ k' ∈ r'.claims, k'.fixed = k.fixed := by
  have hmem : k.fixed ∈ r.fixedClaims := mem_map.mpr ⟨k, hk, rfl⟩
  have hmem' : k.fixed ∈ r'.fixedClaims := by
    rcases h.fixedClaims with heq | ⟨claim, -, -, heq⟩
    · rw [heq]
      exact hmem
    · rw [heq]
      exact mem_append_left _ hmem
  obtain ⟨k', hk', heq⟩ := mem_map.mp hmem'
  exact ⟨k', hk', heq⟩

end Steps

/-- Every Claim of a Task was made by a command in the log. -/
theorem History.claim_made (h : History platform Db.empty log d) (hr : d.task t = some r)
    (hk : k ∈ r.claims) : ∃ e ∈ log, ∃ claim, Cmd.Makes t claim e.cmd ∧ k.fixed = claim.fixed := by
  refine h.task_history (P := fun log t r => ∀ k ∈ r.claims,
    ∃ e ∈ log, ∃ claim, Cmd.Makes t claim e.cmd ∧ k.fixed = claim.fixed) ?_ t r hr k hk
  intro e older t r' _ hbefore hchange k hk
  have hmem : k.fixed ∈ r'.fixedClaims := mem_map.mpr ⟨k, hk, rfl⟩
  -- A Claim from before has its command in the older log.
  have hold : k.fixed ∈ ((e.before.task t).map TaskRecord.fixedClaims).getD [] →
      ∃ e' ∈ e :: older, ∃ claim, Cmd.Makes t claim e'.cmd ∧ k.fixed = claim.fixed := by
    intro hin
    cases hr : e.before.task t with
    | none =>
      rw [hr] at hin
      cases hin
    | some r =>
      rw [hr] at hin
      obtain ⟨k₀, hk₀, heq⟩ := mem_map.mp hin
      obtain ⟨e', he', claim, hmakes, hfixed⟩ := hbefore t r hr k₀ hk₀
      exact ⟨e', mem_cons_of_mem e he', claim, hmakes, heq ▸ hfixed⟩
  rcases hchange.fixedClaims with heq | ⟨claim, hmakes, -, heq⟩
  · rw [heq] at hmem
    exact hold hmem
  · rw [heq] at hmem
    rcases mem_append.mp hmem with hin | hnew
    · exact hold hin
    · exact ⟨e, mem_cons_self, claim, hmakes, mem_singleton.mp hnew⟩

/-! ## Identities -/

/-- No two Claims share an identity, on whichever Tasks they are. -/
structure Db.ClaimsUnique (d : Db) : Prop where
  once : ∀ t r, d.task t = some r → (r.claims.map (·.id)).Nodup
  apart : ∀ t r t' r', d.task t = some r → d.task t' = some r' →
    ∀ id, r.HasClaim id → r'.HasClaim id → t = t'

theorem Db.ClaimsUnique.eq (h : d.ClaimsUnique) {t'} {k' : TaskStageClaim}
    (hr : d.task t = some r) (hk : k ∈ r.claims) (hr' : d.task t' = some r') (hk' : k' ∈ r'.claims)
    (hid : k'.id = k.id) : t' = t ∧ k' = k := by
  have ht : t' = t := h.apart t' r' t r hr' hr k.id ⟨k', hk', hid⟩ ⟨k, hk, rfl⟩
  subst ht
  rw [hr] at hr'
  cases hr'
  exact ⟨rfl, inj_on_of_nodup_map (h.once _ _ hr) hk' hk hid⟩

/-- The Claim that a look-up finds is the one with the identity. -/
theorem Db.ClaimsUnique.claim_eq (h : d.ClaimsUnique) (hr : d.task t = some r) (hk : k ∈ r.claims) :
    d.claim k.id = some k := by
  cases hfound : d.claim k.id with
  | none => exact absurd ⟨k, hk, rfl⟩ (Db.claim_eq_none.mp hfound t r hr)
  | some k' =>
    obtain ⟨hid, t', r', hr', hk'⟩ := Db.exists_of_claim_eq_some hfound
    rw [(h.eq hr hk hr' hk' hid).2]

section Unique

/-- The Claims of a Task after a commit are those of before, up to how they end, with at most one
that no Task has had. -/
theorem TaskChange.claimIds {before : Option TaskRecord} (h : TaskChange d t c before r') :
    r'.claims.map (·.id) = (before.map fun r => r.claims.map (·.id)).getD [] ∨
      ∃ claim, Cmd.Makes t claim c ∧ d.claim claim.id = none ∧
        r'.claims.map (·.id) =
          (before.map fun r => r.claims.map (·.id)).getD [] ++ [claim.id] := by
  have hids : ∀ r : TaskRecord, r.fixedClaims.map (·.id) = r.claims.map (·.id) := by
    intro r
    rw [TaskRecord.fixedClaims, map_map]
    rfl
  have hbefore : ((before.map TaskRecord.fixedClaims).getD []).map (·.id) =
      (before.map fun r => r.claims.map (·.id)).getD [] := by
    cases before with
    | none => rfl
    | some r => exact hids r
  rw [← hids r', ← hbefore]
  rcases h.fixedClaims with heq | ⟨claim, hmakes, hnone, heq⟩
  · exact .inl (congrArg _ heq)
  · refine .inr ⟨claim, hmakes, hnone, ?_⟩
    rw [heq, map_append]
    rfl

/-- A commit keeps the identities of Claims apart. -/
theorem Db.ClaimsUnique.of_valid (h : e.before.ClaimsUnique)
    (hv : e.Valid (prog platform) fun _ => rely False) : e.after.ClaimsUnique := by
  -- A Claim is there from before, or is the new one.
  have hcases : ∀ t r', e.after.task t = some r' → ∀ id, r'.HasClaim id →
      (∃ r, e.before.task t = some r ∧ r.HasClaim id) ∨
        ∃ claim, Cmd.Makes t claim e.cmd ∧ e.before.claim claim.id = none ∧ claim.id = id := by
    intro t r' hr' id hid
    have hmem : id ∈ r'.claims.map (·.id) := mem_map.mpr hid
    have hold : id ∈ ((e.before.task t).map fun r => r.claims.map (·.id)).getD [] →
        ∃ r, e.before.task t = some r ∧ r.HasClaim id := by
      intro hin
      cases hr : e.before.task t with
      | none =>
        rw [hr] at hin
        cases hin
      | some r =>
        rw [hr] at hin
        exact ⟨r, rfl, mem_map.mp hin⟩
    rcases ((step_of_valid hv).taskChange hr').claimIds with heq | ⟨claim, hmakes, hnone, heq⟩
    · rw [heq] at hmem
      exact .inl (hold hmem)
    · rw [heq] at hmem
      rcases mem_append.mp hmem with hin | hnew
      · exact .inl (hold hin)
      · exact .inr ⟨claim, hmakes, hnone, (mem_singleton.mp hnew).symm⟩
  constructor
  · intro t r' hr'
    rcases ((step_of_valid hv).taskChange hr').claimIds with heq | ⟨claim, -, hnone, heq⟩
    · rw [heq]
      cases hr : e.before.task t with
      | none => exact nodup_nil
      | some r => exact h.once t r hr
    · rw [heq]
      cases hr : e.before.task t with
      | none => exact nodup_singleton _
      | some r =>
        refine List.Nodup.append (h.once t r hr) (nodup_singleton _) ?_
        rw [disjoint_singleton]
        exact fun hmem => Db.claim_eq_none.mp hnone t r hr (mem_map.mp hmem)
  · intro t r t' r' hr hr' id hid hid'
    rcases hcases t r hr id hid with ⟨r₀, hr₀, hold⟩ | ⟨claim, hmakes, hnone, rfl⟩
    · rcases hcases t' r' hr' id hid' with ⟨r₁, hr₁, hold'⟩ | ⟨claim, -, hnone, rfl⟩
      · exact h.apart t r₀ t' r₁ hr₀ hr₁ id hold hold'
      · exact absurd hold (Db.claim_eq_none.mp hnone t r₀ hr₀)
    · rcases hcases t' r' hr' _ hid' with ⟨r₁, hr₁, hold'⟩ | ⟨claim', hmakes', -, -⟩
      · exact absurd hold' (Db.claim_eq_none.mp hnone t' r₁ hr₁)
      · generalize e.cmd = c at hmakes hmakes'
        cases hmakes
        cases hmakes'
        rfl

/-- No two Claims of any Tasks have the same identity. -/
theorem History.claimsUnique (h : History platform Db.empty log d) : d.ClaimsUnique := by
  refine h.invariant (P := Db.ClaimsUnique) ⟨fun t r hr => ?_, fun t r t' r' hr => ?_⟩
    fun _ hv hunique => hunique.of_valid hv
  · cases hr
  · cases hr

/-- The column that names a Claim's Task is right. -/
theorem History.claim_task (h : History platform Db.empty log d) (hr : d.task t = some r)
    (hk : k ∈ r.claims) : k.taskNumber = t := by
  obtain ⟨e, -, claim, hmakes, hfixed⟩ := h.claim_made hr hk
  obtain ⟨-, htask, -⟩ := fixed_eq hfixed
  generalize e.cmd = c at hmakes
  cases hmakes with
  | claim _ task => exact htask.trans task

/-- A Claim is there as long as its Task is, and once it has ended it stays so. -/
theorem History.claim_kept {newer} (h : History platform d newer d') (hlaw : Lawful d)
    (hr : d.task t = some r) (hk : k ∈ r.claims) :
    ∃ r' k', d'.task t = some r' ∧ k' ∈ r'.claims ∧ k.Keeps k' := by
  obtain ⟨r', hr', hkeeps, -⟩ := h.keeps_along hlaw hr trivial fun _ _ => trivial
  obtain ⟨k', hk', hclaim⟩ := hkeeps.claims k hk
  exact ⟨r', k', hr', hk', hclaim⟩

/-- The Claim that a command in the log has made, with the maker it records. -/
theorem History.made_claim (h : History platform Db.empty log d) (he : e ∈ log)
    {v claimedBy operation clientKind clientSessionId}
    (hcmd : e.cmd = .claim t v claimedBy operation clientKind clientSessionId now fresh) :
    ∃ r k, d.task t = some r ∧ k ∈ r.claims ∧ k.id = fresh 1 ∧
      k.OwnedBy (storedActor claimedBy) operation := by
  obtain ⟨newer, older, rfl⟩ := append_of_mem he
  obtain ⟨hnewer, hv, holder⟩ := Serial.split h
  have hlaw : Lawful e.after := (step_of_valid hv).lawful (History.lawful holder lawful_empty)
  have hstep := step_of_valid hv
  rw [hcmd] at hstep
  cases hstep with
  | side side => cases side.aside
  | onTask on step =>
    cases step with
    | @claim _ _ _ _ _ _ _ _ _ _ _ _ _ claim _ _ _ _ _ hnew =>
      obtain ⟨hid, -, -, -, -, hsubject, hmethod, hactor, htoken, hrun⟩ :=
        new_ok hnew
      obtain ⟨r', k', hr', hk', hkeeps⟩ :=
        History.claim_kept hnewer hlaw on.after (mem_append_right _ (mem_singleton_self _))
      obtain ⟨hid', -, -, -, howned⟩ := fixed_eq hkeeps.fixed
      refine ⟨r', k', hr', hk', hid'.trans hid, (howned _ _).mpr ?_⟩
      exact ⟨hsubject, hmethod, congrArg storedActor hactor, htoken, hrun⟩

end Unique

/-! ## Commands through a Claim -/

/-- What a command says about the Claim it acts through and about its caller. -/
structure ClaimUse where
  taskNumber : TaskId
  claimId : Id
  actor : Actor
  operation : OperationActor
  now : Time
deriving DecidableEq

def ClaimCall.use (call : ClaimCall) : ClaimUse :=
  { taskNumber := call.taskNumber, claimId := call.claimId, actor := call.actor
    operation := call.operation, now := call.now }

/-- The commands that only the owner of a Claim may make. -/
def Cmd.claimUse : Cmd → Option ClaimUse
  | .releaseClaim call _ | .recordWorkSubmission call _ | .completeExecution call _ _
  | .requestChanges call _ | .requestResolution call _ _ | .recordAcceptanceCheck call _
  | .acceptTask call _ | .link call _ _ | .unlink call _ => some call.use
  | .recordClaimProgress t claimId _ actor operation now _ =>
    some { taskNumber := t, claimId, actor, operation, now }
  | _ => none

theorem TaskRecord.mem_of_activeClaim (h : r.activeClaim = some k) :
    k ∈ r.claims ∧ k.status = .active := by
  unfold activeClaim at h
  have hstatus := find?_some h
  exact ⟨mem_of_find?_eq_some h, of_decide_eq_true hstatus⟩

/-- Such a command finds its Claim active on its Task, made by its caller. -/
theorem TaskStep.claimUse (h : TaskStep d t c r r')
    {use : ClaimUse} (huse : c.claimUse = some use) :
    t = use.taskNumber ∧ ∃ claim, r.activeClaim = some claim ∧ claim.id = use.claimId ∧
      claim.OwnedBy use.actor use.operation := by
  cases h with
  | releaseClaim howns | recordWorkSubmission howns | completeExecution howns
  | requestChanges howns | requestResolution howns | recordAcceptanceCheck howns
  | acceptTask howns | link howns | unlink howns =>
    cases huse
    exact ⟨rfl, _, howns.active, howns.id_eq, howns.owner⟩
  | recordClaimProgress _ hactive hid howner =>
    cases huse
    exact ⟨rfl, _, hactive, hid, howner⟩
  | _ => cases huse

theorem Cmd.claimUse_of_aside (h : c.aside = true) : c.claimUse = none := by
  cases c <;> first | rfl | cases h

/-- A command through a Claim finds it active and owned by its caller. -/
theorem Step.claimUse {R held} (h : Step platform R held d d' c)
    {use : ClaimUse} (huse : c.claimUse = some use) :
    ∃ r r' claim, OnTask use.taskNumber held d d' r r' ∧ r.activeClaim = some claim ∧
      claim.id = use.claimId ∧ claim.OwnedBy use.actor use.operation := by
  cases h with
  | onTask on step =>
    obtain ⟨rfl, claim, hactive, hid, howner⟩ := step.claimUse huse
    exact ⟨_, _, claim, on, hactive, hid, howner⟩
  | create | update | completeUpload => cases huse
  | side side =>
    rw [Cmd.claimUse_of_aside side.aside] at huse
    cases huse

/-! ## Checks -/

/-- A check that names a purpose was recorded through a Claim of the Task, and the purpose follows
the stage of that Claim. -/
def TaskRecord.ChecksClaimed (r : TaskRecord) : Prop :=
  ∀ k ∈ r.checks, k.purpose = none ∨ ∃ claim ∈ r.claims, k.taskClaimId = some claim.id ∧
    k.purpose = some (if claim.stage = .execution then .executionVerification else .acceptance)

section Checks

variable {before : Option TaskRecord}

theorem Expiry.checks {itemId l} (h : Expiry main now itemId r r' l) :
    r'.checks = r.checks := by
  cases h <;> rfl

theorem Cleared.checks {reason actor issueId}
    (h : Cleared main reason actor now fresh r r' issueId) : r'.checks = r.checks := by
  cases h <;> rfl

/-- A check is there from before, or names no purpose, or has just been recorded. -/
theorem TaskStep.check_cases (h : TaskStep d t c r r') {k : AcceptanceCheck}
    (hk : k ∈ r'.checks) :
    k ∈ r.checks ∨ k.purpose = none ∨ ∃ claim ∈ r.claims, k.taskClaimId = some claim.id ∧
      k.purpose =
        some (if claim.stage = .execution then .executionVerification else .acceptance) := by
  cases h with
  | @recordAcceptanceCheck call check _ _ claim _ howns =>
    rcases mem_append.mp hk with hold | hnew
    · exact .inl hold
    · rw [mem_singleton.mp hnew]
      exact .inr (.inr ⟨claim, mem_of_find?_eq_some howns.active, rfl, rfl⟩)
  | addCheck _ _ _ _ _ hpurpose =>
    rcases mem_append.mp hk with hold | hnew
    · exact .inl hold
    · rw [mem_singleton.mp hnew]
      exact .inr (.inl hpurpose)
  | claim _ _ hexpiry => exact .inl (hexpiry.checks ▸ hk)
  | cancelTask _ _ hcleared => exact .inl (hcleared.checks ▸ hk)
  | setArchived _ _ haudit =>
    subst haudit
    left
    change k ∈ (ite _ _ _ : TaskRecord).checks at hk
    split at hk <;> exact hk
  | _ => exact .inl hk

/-- A check is recorded with the Claim of its Task. -/
theorem TaskChange.checksClaimed (h : TaskChange d t c before r')
    (hbefore : ∀ r ∈ before, r.ChecksClaimed) : r'.ChecksClaimed := by
  intro k hk
  -- Claims are never removed, so what held of a check from before still holds.
  have hkeep : ∀ r, before = some r → (k ∈ r.checks ∨ k.purpose = none ∨
      ∃ claim ∈ r.claims, k.taskClaimId = some claim.id ∧ k.purpose =
        some (if claim.stage = .execution then .executionVerification else .acceptance)) →
      k.purpose = none ∨ ∃ claim ∈ r'.claims, k.taskClaimId = some claim.id ∧ k.purpose =
        some (if claim.stage = .execution then .executionVerification else .acceptance) := by
    intro r hr hcases
    subst hr
    have hclaimed := hcases.elim (fun hold => hbefore r rfl k hold) id
    refine hclaimed.imp_right fun ⟨claim, hclaim, hid, hpurpose⟩ => ?_
    obtain ⟨claim', hclaim', hfixed⟩ := h.claim_persists hclaim
    obtain ⟨hsame, -, hstage, -⟩ := fixed_eq hfixed
    exact ⟨claim', hclaim', hsame ▸ hid, hstage ▸ hpurpose⟩
  cases h with
  | same => exact hbefore _ rfl k hk
  | @step r _ step => exact hkeep r rfl (step.check_cases hk)
  | create => cases hk
  | @update _ _ _ _ old _ _ edited =>
    refine hkeep old rfl (.inl ?_)
    rw [edited.rows] at hk
    exact hk
  | @follow _ _ _ _ _ _ r _ _ _ _ follows =>
    obtain ⟨-, -, -, -, hchecks, -⟩ := follows.tables
    exact hkeep r rfl (.inl (hchecks ▸ hk))
  | @attach _ _ _ _ _ _ _ _ r => exact hkeep r rfl (.inl hk)

end Checks

/-- Every check belongs to a Claim of its Task. -/
theorem History.checksClaimed (h : History platform Db.empty log d) (hr : d.task t = some r) :
    r.ChecksClaimed := by
  refine h.task_history (P := fun _ _ r => r.ChecksClaimed) ?_ t r hr
  intro e older t r' _ hbefore hchange
  exact hchange.checksClaimed (hbefore t)

end Pactline
