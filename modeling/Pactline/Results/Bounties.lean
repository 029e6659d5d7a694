import Pactline.Analysis.Legacy

/-!
# Bounties

A handler reads a bounty, decides by what it has read and writes the whole row back. Nothing ties
the write to the read, so two callers may both claim a bounty, and a score may be settled that the
row does not give any more. The results are about schedules in which each write finds the row that
its request has read.
-/

set_option autoImplicit false

namespace Pactline.Legacy

open ReadCommitted BountyStore List Option

variable {d₀ : Db} {es : List LegacyEvent} {cfg : LegacyConfig}

/-! ## Statuses -/

/-- The status of a bounty, if there is one. -/
def Db.status (d : Db) (id : Id) : Option Status := (d (.bounty id)).map (·.status)

/-- The commit moves the bounty as a request to transition it asks for. -/
def Entry.Transitions (e : Entry) (id : Id) (target : Status) : Prop :=
  ∃ me req now read b, e.cmd = .updateBounty (.transition me req now) id read b ∧
    req.target = target

/-- The commit is the one by which a request claims the bounty, which it has read as open. -/
def Entry.Claims (e : Entry) (id : Id) : Prop :=
  ∃ me req now read b, e.cmd = .updateBounty (.transition me req now) id read b ∧
    req.target = .claimed ∧ read.status = .open

/-- What a transition has done to the status, where it has found the row that was read. -/
theorem transition_status {e : Entry} (hrun : Runs e) (hissued : e.cmd.Issued)
    (hfresh : e.FreshUpdate) {me} {req : TransitionRequest} {now id}
    {read b : Bounty} (hc : e.cmd = .updateBounty (.transition me req now) id read b) :
    e.before.status id = some read.status ∧ req.target ∈ allowedTransitions read.status ∧
      e.after.status id = some req.target := by
  have hbefore : e.before (.bounty id) = some read := hfresh.before hc
  have hedit : (EditRequest.transition me req now).edit read = .ok b := by
    rw [hc] at hissued
    exact hissued
  obtain ⟨hallowed, hstatus, -⟩ := edit_transition hedit
  refine ⟨by rw [Db.status, hbefore]; rfl, hallowed, ?_⟩
  unfold Runs at hrun
  rw [hc] at hrun
  simp only [statements, update, Rowwise.steps] at hrun
  rcases hrun with ⟨-, a, hnone, -⟩ | ⟨old, new, -, hnew, -, -, -, -, hafter⟩
  · cases hnone
  · cases hnew
    rw [Db.status, hafter, Function.update_self, ← hstatus]
    rfl

/-- A commit keeps a terminal status. -/
theorem terminal_step {e : Entry} (hrun : Runs e) (hissued : e.cmd.Issued) (hfresh : e.FreshUpdate)
    {id} {s : Status} (hs : s.Terminal) (h : e.before.status id = some s) :
    e.after.status id = some s := by
  have hmoves := moves_of_runs hrun (.bounty id)
  obtain ⟨old, hold, rfl⟩ := map_eq_some_iff.mp h
  unfold Db.status
  rcases hmoves with hsame | hstep
  · rw [hsame, hold]
    rfl
  · rw [hold] at hstep
    generalize e.after (.bounty id) = new at hstep
    cases hstep with
    | @updateBounty request _ read b _ hc =>
      obtain rfl := some.inj ((hfresh.before hc).symm.trans hold)
      rw [hc] at hissued
      -- No edge leaves a terminal status.
      have hnone : allowedTransitions read.status = [] := by
        rcases hs with hs | hs <;> rw [hs] <;> rfl
      rcases edit_status hissued with hstatus | hmem
      · exact congrArg some hstatus
      · rw [hnone] at hmem
        cases hmem
    | settleBounty hc hnew =>
      unfold settled at hnew
      split at hnew
      · cases hnew
        rfl
      · cases hnew

/-- In every schedule of requests in which each update finds the row that its request has read:
every transition goes along an edge of the table from the status just before it, a terminal status
stays, and a bounty that has been claimed is open again before it is claimed once more. -/
theorem transitions_follow_table (hclients : ∀ client, .connect client ∈ es → Request client)
    (h : runLegacy d₀ es = some cfg) (hfresh : ∀ e ∈ cfg.log, Entry.FreshUpdate e) :
    (∀ e ∈ cfg.log, ∀ id target, Entry.Transitions e id target →
      ∃ s, Db.status e.before id = some s ∧ target ∈ allowedTransitions s ∧
        e.after.status id = some target) ∧
    (∀ newer e older, cfg.log = newer ++ e :: older → ∀ id s, s.Terminal →
      e.after.status id = some s → cfg.db.status id = some s) ∧
    ∀ newer e₂ mid e₁ older, cfg.log = newer ++ e₂ :: (mid ++ e₁ :: older) → ∀ id,
      Entry.Claims e₁ id → Entry.Claims e₂ id → ∃ e ∈ mid, e.after.status id = some .open := by
  have hserial := serial_of_run h
  have hruns : ∀ e ∈ cfg.log, Runs e := fun e he => runs_of_valid (hserial.valid he)
  have hissued : ∀ e ∈ cfg.log, e.cmd.Issued := fun e he => issued_of_run hclients h he
  refine ⟨?_, ?_, ?_⟩
  · rintro e he id target ⟨me, req, now, read, b, hc, rfl⟩
    obtain ⟨hbefore, hallowed, hafter⟩ :=
      transition_status (hruns e he) (hissued e he) (hfresh e he) hc
    exact ⟨read.status, hbefore, hallowed, hafter⟩
  · intro newer e older hlog id s hs hafter
    rw [hlog] at hserial
    obtain ⟨hlater, -, -⟩ := hserial.split
    refine keeps_later (P := fun d => d.status id = some s) hlater hafter fun e' he' hrun => ?_
    have hmem : e' ∈ cfg.log := by
      rw [hlog]
      exact mem_append_left _ he'
    exact terminal_step hrun (hissued e' hmem) (hfresh e' hmem) hs
  · rintro newer e₂ mid e₁ older hlog id ⟨_, req₁, _, _, _, hc₁, htarget₁, -⟩
      ⟨_, _, _, read₂, _, hc₂, -, hopen⟩
    have he₂ : e₂ ∈ cfg.log := by simp [hlog]
    have he₁ : e₁ ∈ cfg.log := by simp [hlog]
    obtain ⟨hbefore, -, -⟩ := transition_status (hruns e₂ he₂) (hissued e₂ he₂) (hfresh e₂ he₂) hc₂
    obtain ⟨-, -, hafter⟩ := transition_status (hruns e₁ he₁) (hissued e₁ he₁) (hfresh e₁ he₁) hc₁
    rw [hlog] at hserial
    obtain ⟨hbetween, -, -⟩ := hserial.split.2.2.split
    have hclaimed : e₁.after.status id ≠ some .open := by
      rw [hafter, htarget₁]
      decide
    rw [hopen] at hbefore
    obtain ⟨e, he, -, hturn⟩ := exists_turn (P := fun d => d.status id = some .open) hbetween
      hclaimed hbefore
    exact ⟨e, he, hturn⟩

/-! ### Samples -/

def openBounty : Bounty :=
  { type := .known .delivery, parentId := none, title := "Search", goal := ""
    acceptanceCriteria := "", visibility := .known .public_, restriction := "", directedTo := none
    businessLines := [], valueLevel := some .a, difficulty := some .m
    commitment := .known .committed, completion := none, status := .open, sponsorId := 7
    claimedBy := none, claimedAt := none, personDays := none, retrospective := ""
    settledScore := none, settledAt := none, completedAt := none }

/-- Bounty 1 is open, and there is nothing else. -/
def sampleBounties : Db
  | .bounty 1 => some openBounty
  | _ => none

/-- User `me` asks for a transition of bounty 1. -/
def moveTo (me : Id) (target : Status) : LegacyEvent :=
  .connect (BountyHandler.transition ⟨me, [.engineer]⟩ 1 (some ⟨.known target, "", none, none⟩)
    50).client

theorem request_moveTo {me target client}
    (h : Event.connect client = moveTo me target) : Request client := by
  cases h
  exact .transition _ _ _ _

def steps (i n : Nat) : List LegacyEvent := replicate n (.advance i)

/-- Who claims which bounty with the command. -/
def Cmd.claim : Cmd → Option (Id × Id)
  | .updateBounty (.transition me req _) id read _ =>
    if req.target = .claimed ∧ read.status = .open then some (me.id, id) else none
  | _ => none

theorem claims_of_claim {e : Entry} {me id} (h : e.cmd.claim = some (me, id)) :
    e.Claims id := by
  unfold Cmd.claim at h
  split at h
  case h_1 me' req now id' read b hc =>
    split at h
    case isTrue hclaim =>
      cases h
      exact ⟨me', req, now, read, b, hc, hclaim⟩
    case isFalse => cases h
  case h_2 => cases h

/-- User 8 claims the bounty and gives it back, and user 9 claims it. -/
def claimedAgain : List LegacyEvent :=
  moveTo 8 .claimed :: steps 0 8 ++ moveTo 8 .open :: steps 1 8 ++ moveTo 9 .claimed :: steps 2 8

theorem transitions_follow_table_again :
    ∃ cfg, runLegacy sampleBounties claimedAgain = some cfg ∧
      (∀ e ∈ cfg.log, Entry.FreshUpdate e) ∧ cfg.db.status 1 = some .claimed ∧
      ∀ e ∈ cfg.log, ∀ id target, Entry.Transitions e id target →
        ∃ s, Db.status e.before id = some s ∧ target ∈ allowedTransitions s ∧
          e.after.status id = some target := by
  obtain ⟨cfg, hcfg, hfresh, hstatus⟩ : ∃ cfg, runLegacy sampleBounties claimedAgain = some cfg ∧
      (∀ e ∈ cfg.log, Entry.FreshUpdate e) ∧ cfg.db.status 1 = some .claimed := by decide +kernel
  have hclients : ∀ client, .connect client ∈ claimedAgain → Request client := by
    intro client hmem
    simp only [claimedAgain, steps, cons_append, append_assoc, mem_cons,
      mem_append, mem_replicate, reduceCtorEq, and_false, false_or, or_false] at hmem
    rcases hmem with h | h | h
    · exact request_moveTo h
    · exact request_moveTo h
    · exact request_moveTo h
  exact ⟨cfg, hcfg, hfresh, hstatus, (transitions_follow_table hclients hcfg hfresh).1⟩

/-- Users 8 and 9 both read the open bounty before either of them writes. -/
def claimedAtOnce : List LegacyEvent :=
  moveTo 8 .claimed :: moveTo 9 .claimed :: steps 0 3 ++ steps 1 3 ++ steps 0 5 ++ steps 1 5

/-- Both claims succeed, one right after the other, and the second one replaces a claimed bounty,
from which the table has no edge to itself. -/
theorem claimed_twice :
    (∀ client, .connect client ∈ claimedAtOnce → Request client) ∧
    ∃ cfg, runLegacy sampleBounties claimedAtOnce = some cfg ∧
      ∃ e₂ e₁ older, cfg.log = e₂ :: e₁ :: older ∧ Entry.Claims e₁ 1 ∧ Entry.Claims e₂ 1 ∧
        Entry.Transitions e₂ 1 .claimed ∧ e₂.before.status 1 = some .claimed ∧
        .claimed ∉ allowedTransitions .claimed := by
  constructor
  · intro client hmem
    simp only [claimedAtOnce, steps, cons_append, mem_cons, mem_append,
      mem_replicate, reduceCtorEq, and_false, or_false] at hmem
    rcases hmem with h | h
    · exact request_moveTo h
    · exact request_moveTo h
  · have hrun : (runLegacy sampleBounties claimedAtOnce).map (fun cfg =>
        cfg.log.map fun e => (e.cmd.claim, e.before.status 1)) =
        some [(some (9, 1), some .claimed), (some (8, 1), some .open), (none, some .open),
          (none, some .open)] := by decide +kernel
    obtain ⟨cfg, hcfg, hlog⟩ := map_eq_some_iff.mp hrun
    obtain ⟨e₂, rest, hlog₂, hsecond, hrest⟩ := map_eq_cons_iff.mp hlog
    obtain ⟨e₁, older, rfl, hfirst, -⟩ := map_eq_cons_iff.mp hrest
    obtain ⟨hclaim₂, hstatus⟩ := Prod.mk.inj hsecond
    have hclaims := claims_of_claim hclaim₂
    obtain ⟨me, req, now, read, b, hc, htarget, -⟩ := id hclaims
    exact ⟨cfg, hcfg, e₂, e₁, older, hlog₂, claims_of_claim (Prod.mk.inj hfirst).1, hclaims,
      ⟨me, req, now, read, b, hc, htarget⟩, hstatus, by decide⟩

/-! ## Acceptance -/

/-- The sponsor of a bounty claims it. -/
def Cmd.selfClaims : Cmd → Bool
  | .updateBounty (.transition me req _) _ read _ =>
    req.target = .claimed ∧ read.claimedBy = none ∧ me.id = read.sponsorId
  | _ => false

/-- Who accepts the delivery of which bounty with the command. -/
def Cmd.accepts : Cmd → Option (User × Id)
  | .updateBounty (.transition me req _) id _ _ =>
    if req.target = .completed then some (me, id) else none
  | _ => none

/-- The delivery is accepted by its own claimer, who is no steward. -/
def Entry.SelfAccepts (e : Entry) : Prop :=
  ∃ x ∈ e.cmd.accepts, ¬ x.1.HasRole .steward ∧
    ∃ b : Bounty, e.before (.bounty x.2) = some b ∧ b.claimedBy = some x.1.id
deriving Decidable

/-- No bounty is claimed by its sponsor. -/
def ClaimedByOthers (d : Db) : Prop :=
  ∀ id (b : Bounty), d (.bounty id) = some b → b.claimedBy ≠ some b.sponsorId

/-- An edit keeps the claimer, removes it, or makes the caller the claimer. -/
theorem edit_claimedBy {request : EditRequest} {id} {b b' : Bounty}
    (h : request.edit b = .ok b') (hclaims : (Cmd.updateBounty request id b b').selfClaims = false)
    (hb : b.claimedBy ≠ some b.sponsorId) : b'.claimedBy ≠ some b.sponsorId := by
  cases request with
  | transition me req now =>
    simp only [EditRequest.edit, ok_rules] at h
    obtain ⟨_, -, _, -, rfl⟩ := h
    dsimp only [applyTransitionEffects]
    split
    case h_1 htarget =>
      split
      case isTrue hnone =>
        simp only [Cmd.selfClaims, htarget, true_and, decide_eq_false_iff_not, not_and] at hclaims
        exact fun heq => hclaims hnone (some.inj heq)
      case isFalse => exact hb
    case h_2 => exact some_ne_none _ |>.symm
    all_goals exact hb
  | amend me req =>
    simp only [EditRequest.edit] at h
    split at h
    · simp only [ok_rules] at h
      obtain ⟨_, -, rfl⟩ := h
      exact hb
    · cases h
      exact hb
  | setValueLevel | setDifficulty =>
    simp only [EditRequest.edit, ok_rules] at h
    obtain ⟨_, -, rfl⟩ := h
    exact hb

/-- A commit that is no claim of a sponsor leaves no bounty claimed by its sponsor. -/
theorem claimedByOthers_step {e : Entry} (hrun : Runs e) (hissued : e.cmd.Issued)
    (hfresh : e.FreshUpdate) (hclaims : e.cmd.selfClaims = false) (h : ClaimedByOthers e.before) :
    ClaimedByOthers e.after := by
  intro id b hb
  rcases moves_of_runs hrun (.bounty id) with hsame | hstep
  · exact h id b (hsame.symm.trans hb)
  · rw [hb] at hstep
    generalize hbefore : e.before (.bounty id) = before at hstep
    cases hstep with
    | createBounty hc =>
      rw [hc] at hissued
      rw [hissued.2.2]
      exact nofun
    | @updateBounty request _ read new old hc =>
      obtain rfl := some.inj ((hfresh.before hc).symm.trans hbefore)
      rw [hc] at hissued hclaims
      have hnew := edit_claimedBy hissued hclaims (h id read hbefore)
      exact hnew
    | @settleBounty _ read old _ points settledAt hc hnew =>
      unfold settled at hnew
      split at hnew
      · cases hnew
        exact h id old hbefore
      · cases hnew

/-- **No delivery is accepted by its claimer**, a steward apart, in any sequence of requests in
which no sponsor claims an own bounty. -/
theorem no_self_acceptance (hclients : ∀ client, .connect client ∈ es → Request client)
    (h : runLegacy d₀ es = some cfg) (h₀ : ClaimedByOthers d₀)
    (hfresh : ∀ e ∈ cfg.log, Entry.FreshUpdate e) (hclaims : ∀ e ∈ cfg.log, ¬ e.cmd.selfClaims) :
    ∀ e ∈ cfg.log, ¬ Entry.SelfAccepts e := by
  rintro e he ⟨⟨me, id⟩, haccepts, hsteward, b, hb, hclaimer⟩
  obtain ⟨newer, older, hlog⟩ := append_of_mem he
  have hserial := serial_of_run h
  rw [hlog] at hserial
  have hothers : ClaimedByOthers e.before := by
    refine keeps_later hserial.split.2.2 h₀ fun e' he' hrun => ?_
    have hmem : e' ∈ cfg.log := by simp [hlog, he']
    exact claimedByOthers_step hrun (issued_of_run hclients h hmem) (hfresh e' hmem)
      (Bool.eq_false_iff.mpr (hclaims e' hmem))
  have hissued := issued_of_run hclients h he
  unfold Cmd.accepts at haccepts
  split at haccepts
  case h_1 me' req now id' read b' hc =>
    obtain ⟨htarget, heq⟩ := ite_none_right_eq_some.mp haccepts
    cases heq
    obtain rfl := some.inj (((hfresh e he).before hc).symm.trans hb)
    rw [hc] at hissued
    simp only [Cmd.Issued, EditRequest.edit, ok_rules] at hissued
    obtain ⟨_, hauthorized, -⟩ := hissued
    -- Whoever is no steward accepts as the sponsor.
    have hsponsor : me.id = read.sponsorId := by
      by_contra hno
      simp [authorizeTransition, htarget, CanEdit, hsteward, applyTransitionFormFields, hno]
        at hauthorized
    exact hothers id read hb (hsponsor ▸ hclaimer)
  case h_2 => cases haccepts

/-- User `me` claims bounty 1 and delivers, and its sponsor accepts. -/
def delivered (me : Id) : List LegacyEvent :=
  moveTo me .claimed :: steps 0 8 ++ moveTo me .delivered :: steps 1 8 ++
    moveTo 7 .completed :: steps 2 8

theorem request_of_delivered (me : Id) (client : LegacyClient)
    (hmem : .connect client ∈ delivered me) : Request client := by
  simp only [delivered, steps, cons_append, append_assoc, mem_cons,
    mem_append, mem_replicate, reduceCtorEq, and_false, false_or, or_false] at hmem
  rcases hmem with h | h | h <;> exact request_moveTo h

theorem sponsor_accepts_other :
    ∃ cfg, runLegacy sampleBounties (delivered 8) = some cfg ∧
      cfg.db.status 1 = some .completed ∧ ∀ e ∈ cfg.log, ¬ Entry.SelfAccepts e := by
  obtain ⟨cfg, hcfg, hfresh, hclaims, hstatus⟩ : ∃ cfg,
      runLegacy sampleBounties (delivered 8) = some cfg ∧ (∀ e ∈ cfg.log, Entry.FreshUpdate e) ∧
      (∀ e ∈ cfg.log, ¬ e.cmd.selfClaims) ∧ cfg.db.status 1 = some .completed := by decide +kernel
  refine ⟨cfg, hcfg, hstatus, ?_⟩
  refine no_self_acceptance (request_of_delivered 8) hcfg (fun id b hb => ?_) hfresh hclaims
  rcases id with _ | _ | id <;> cases hb
  exact nofun

/-- **The sponsor of a bounty claims it, delivers and accepts.** -/
theorem sponsor_accepts_own :
    (∀ client, .connect client ∈ delivered 7 → Request client) ∧
    ∃ cfg, runLegacy sampleBounties (delivered 7) = some cfg ∧
      (∀ e ∈ cfg.log, Entry.FreshUpdate e) ∧ ∃ e ∈ cfg.log, Entry.SelfAccepts e :=
  ⟨request_of_delivered 7, by decide +kernel⟩

/-! ## Settlements -/

def sampleSteward : User := ⟨7, [.steward]⟩

end Pactline.Legacy
