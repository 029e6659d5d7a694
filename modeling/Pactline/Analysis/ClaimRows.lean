import Pactline.Analysis.Permanence
import Pactline.Analysis.TaskStep

/-!
# The Claims of a Task

What a command may do to the Claims of the Task it locks. A Claim is inserted by the command that
makes it, and later updates write only its status, its outcome, its version and the times that go
with them.
-/

set_option autoImplicit false

namespace Pactline

open TaskStageClaim

open TaskRecord

variable {reason : String} {actor : Actor} {fresh : Nat → Id} {issueId : Option Id}

variable {id itemId : Id} {main : Thread} {now : Time} {l : TaskLifecycle}

/-! ## The columns that stay -/

def TaskRecord.fixedClaims (r : TaskRecord) : List TaskStageClaim :=
  r.claims.map fixed

@[simp] theorem TaskRecord.fixedClaims_endClaim (r : TaskRecord) (c : TaskStageClaim)
    (outcome : TaskClaimOutcome) (now : Time) :
    (r.endClaim c outcome now).fixedClaims = r.fixedClaims := by
  unfold fixedClaims endClaim
  rw [setClaim_claims, List.map_map]
  apply List.map_congr_left
  intro old _
  dsimp only [Function.comp]
  split <;> rfl

theorem TaskRecord.hasClaim_iff {r : TaskRecord} :
    r.HasClaim id ↔ ∃ k ∈ r.fixedClaims, k.id = id := by
  simp only [HasClaim, fixedClaims, List.mem_map, exists_exists_and_eq_and]
  rfl

/-- Ending a Claim is the only change of a Claim. -/
theorem TaskRecord.keepsClaims_endClaim (r : TaskRecord) (c : TaskStageClaim)
    (outcome : TaskClaimOutcome) (now : Time) : r.KeepsClaims (r.endClaim c outcome now) := by
  intro k hk
  refine ⟨_, List.mem_map.mpr ⟨k, hk, rfl⟩, ?_⟩
  split
  · exact ⟨rfl, fun _ => endStatus_ne_active outcome⟩
  · exact .refl k

/-- The identity of the Claim a command makes. -/
def Cmd.newClaimId : Cmd → Option Id
  | .claim _ _ _ _ _ _ _ fresh => some (fresh 1)
  | _ => none

/-- The command makes a Claim on the Task `t`, and this is its row. -/
inductive Cmd.Makes (t : TaskId) (claim : TaskStageClaim) : Cmd → Prop
  | claim {v claimedBy operation clientKind clientSessionId now fresh}
      (id_eq : claim.id = fresh 1) (task : claim.taskNumber = t)
      (owner : claim.OwnedBy (storedActor claimedBy) operation)
      (deadline : claim.expiresAt = now + taskClaimActiveLifetime) :
      Makes t claim (.claim t v claimedBy operation clientKind clientSessionId now fresh)

theorem Cmd.Makes.newClaimId {t} {claim : TaskStageClaim} {c : Cmd}
    (h : Cmd.Makes t claim c) : c.newClaimId = some claim.id := by
  cases h with
  | claim id_eq => exact congrArg some id_eq.symm

section Steps

variable {d : Db} {t : TaskId} {c : Cmd} {r r' : TaskRecord}

theorem Expiry.fixedClaims (h : Expiry main now itemId r r' l) :
    r'.fixedClaims = r.fixedClaims := by
  cases h with
  | notDue => rfl
  | due claim => exact r.fixedClaims_endClaim claim .deadlineElapsed now

theorem Expiry.hasClaim (h : Expiry main now itemId r r' l) : r'.HasClaim id ↔ r.HasClaim id := by
  rw [hasClaim_iff, hasClaim_iff, h.fixedClaims]

theorem Cleared.fixedClaims (h : Cleared main reason actor now fresh r r' issueId) :
    r'.fixedClaims = r.fixedClaims := by
  cases h with
  | idle => rfl
  | claim claim => exact r.fixedClaims_endClaim claim .taskCancelled _
  | issue => rfl

/-- A command leaves the Claims as they were, up to how they end, or adds the one it makes, whose
identity no Claim of any Task has had. -/
theorem TaskStep.fixedClaims (h : TaskStep d t c r r') :
    r'.fixedClaims = r.fixedClaims ∨
      ∃ claim, Cmd.Makes t claim c ∧ d.claim claim.id = none ∧
        r'.fixedClaims = r.fixedClaims ++ [claim.fixed] := by
  cases h with
  | @claim _ _ _ _ _ _ _ _ _ _ _ _ _ claim _ _ _ hexpiry _ hnew hnone =>
    right
    obtain ⟨hid, htask, -, -, hexpires, hsubject, hmethod, hactor, htoken, hrun⟩ :=
      new_ok hnew
    refine ⟨{ claim with claimedBy := storedActor claim.claimedBy },
      .claim hid htask ⟨hsubject, hmethod, ?_, htoken, hrun⟩ hexpires, hnone, ?_⟩
    · exact congrArg storedActor hactor
    · rw [← hexpiry.fixedClaims]
      exact List.map_append
  | expireDueClaim | releaseClaim | completeExecution | requestChanges | requestResolution
  | acceptTask => exact .inl (fixedClaims_endClaim _ _ _ _)
  | cancelTask _ _ hcleared => exact .inl hcleared.fixedClaims
  | setArchived _ _ haudit =>
    left
    subst haudit
    split <;> rfl
  | _ => exact .inl rfl

theorem Expiry.keepsClaims (h : Expiry main now itemId r r' l) : r.KeepsClaims r' := by
  cases h with
  | notDue => exact .of_eq rfl
  | due claim => exact r.keepsClaims_endClaim claim .deadlineElapsed now

theorem Cleared.keepsClaims (h : Cleared main reason actor now fresh r r' issueId) :
    r.KeepsClaims r' := by
  cases h with
  | idle => exact .of_eq rfl
  | claim claim => exact r.keepsClaims_endClaim claim .taskCancelled _
  | issue => exact .of_eq rfl

/-- A command removes no Claim, and revives none. -/
theorem TaskStep.keepsClaims (h : TaskStep d t c r r') : r.KeepsClaims r' := by
  cases h with
  | claim _ _ hexpiry =>
    intro k hk
    obtain ⟨k', hk', hkeeps⟩ := hexpiry.keepsClaims k hk
    exact ⟨k', List.mem_append_left _ hk', hkeeps⟩
  | expireDueClaim | releaseClaim | completeExecution | requestChanges | requestResolution
  | acceptTask => exact keepsClaims_endClaim _ _ _ _
  | cancelTask _ _ hcleared => exact hcleared.keepsClaims
  | setArchived _ _ haudit =>
    subst haudit
    split <;> exact .of_eq rfl
  | _ => exact .of_eq rfl

/-- A command adds no Claim but the one it makes. -/
theorem TaskStep.hasClaim_cases (h : TaskStep d t c r r') (hid : r'.HasClaim id) :
    r.HasClaim id ∨ c.newClaimId = some id := by
  rw [hasClaim_iff] at hid ⊢
  rcases h.fixedClaims with heq | ⟨claim, hmakes, -, heq⟩
  · rw [heq] at hid
    exact .inl hid
  · obtain ⟨k, hk, rfl⟩ := hid
    rw [heq] at hk
    rcases List.mem_append.mp hk with hold | hnew
    · exact .inl ⟨k, hold, rfl⟩
    · rw [List.mem_singleton.mp hnew]
      exact .inr hmakes.newClaimId

end Steps

end Pactline
