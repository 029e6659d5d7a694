import Pactline.Results.Bounties

/-!
# Credits

A nominee answers to a credit, and a steward may let a nominee who has declined decide again. Both
look at the status first and write it in a statement of their own, so that an answer which was given
while the credit was pending may replace a confirmation.
-/

set_option autoImplicit false

namespace Pactline.Legacy

open ReadCommitted List

variable {c x : Credit} {e : Entry} {id : Id}

variable {d₀ : Db} {es : List LegacyEvent} {cfg : LegacyConfig}

theorem canRespond_ok {me : User} {u} (h : canRespond me c = .ok u) :
    c.userId = me.id ∧ c.status = .pending := by
  simp only [canRespond, ok_rules, ne_eq, not_not] at h
  exact ⟨h.1, h.2.1⟩

/-- What an answer presupposes: nobody answers to a confirmed credit, and only the nominee
confirms. -/
theorem answer_ok {request : CreditRequest} {status}
    (h : request.answer c = .ok status) :
    c.status ≠ .confirmed ∧
      (status = .confirmed → ∃ me, request = .respond me .confirmed ∧ me.id = c.userId) := by
  cases request with
  | respond me answer =>
    simp only [CreditRequest.answer, ok_rules] at h
    obtain ⟨_, hcan, rfl⟩ := h
    obtain ⟨huser, hpending⟩ := canRespond_ok hcan
    constructor
    · rw [hpending]
      decide
    · rintro rfl
      exact ⟨me, rfl, huser.symm⟩
  | reset me =>
    simp only [CreditRequest.answer, ok_rules, ne_eq, not_not] at h
    obtain ⟨hdeclined, rfl⟩ := h
    constructor
    · rw [hdeclined]
      decide
    · intro hconfirmed
      cases hconfirmed

/-- What a commit does to a credit, where an answer has found the credit that was read. -/
inductive CreditStep (c : Cmd) (id : Id) : Option Credit → Credit → Prop
  | same {x : Credit} : CreditStep c id (some x) x
  | nominated {x : Credit} (hstatus : x.status = .pending) : CreditStep c id none x
  | answered {request : CreditRequest} {x status now}
      (hc : c = .respondCredit request id x status now) (hanswer : request.answer x = .ok status) :
      CreditStep c id (some x) (CreditStore.answered x status now)

/-- What a commit that finds what its request has read does to a credit. -/
theorem creditStep_of_runs (hrun : Runs e) (hissued : e.cmd.Issued) (hfresh : e.FreshAnswer)
    (hx : e.after (.credit id) = some x) : CreditStep e.cmd id (e.before (.credit id)) x := by
  rcases moves_of_runs hrun (.credit id) with hsame | hstep
  · rw [← hsame, hx]
    exact .same
  · rw [hx] at hstep
    generalize hbefore : e.before (.credit id) = before at hstep
    cases hstep with
    | insertCredit hc =>
      rw [hc] at hissued
      exact .nominated hissued
    | @respondCredit request _ read old status now hc =>
      have hread := Option.some.inj ((hfresh.before hc).symm.trans hbefore)
      subst hread
      have hanswer : request.answer read = .ok status := by
        rw [hc] at hissued
        exact hissued
      exact .answered hc hanswer

/-- Credits are never deleted. -/
theorem credit_some (hrun : Runs e) (hx : e.before (.credit id) = some x) :
    ∃ y, e.after (.credit id) = some y := by
  rcases moves_of_runs hrun (.credit id) with hsame | hstep
  · exact ⟨x, by rw [hsame, hx]⟩
  · rw [hx] at hstep
    generalize e.after (.credit id) = after at hstep ⊢
    cases hstep with
    | respondCredit => exact ⟨_, rfl⟩

/-- In every schedule of requests in which each answer finds the credit that its request has read: a
confirmed credit stays confirmed, and a credit becomes confirmed only by an answer of
its nominee. -/
theorem confirmed_credits_stay (hclients : ∀ client, .connect client ∈ es → Request client)
    (h : runLegacy d₀ es = some cfg) (hfresh : ∀ e ∈ cfg.log, Entry.FreshAnswer e) :
    (∀ newer e older, cfg.log = newer ++ e :: older → ∀ id x,
      e.after (.credit id) = some x → x.status = .confirmed →
      ∃ y, cfg.db (.credit id) = some y ∧ y.status = .confirmed) ∧
    ∀ e ∈ cfg.log, ∀ id x, e.after (.credit id) = some x → x.status = .confirmed →
      (∀ old, e.before (.credit id) = some old → old.status ≠ .confirmed) →
      ∃ me read now, e.cmd = .respondCredit (.respond me .confirmed) id read .confirmed now ∧
        me.id = x.userId := by
  have hserial := serial_of_run h
  have hsteps : ∀ e ∈ cfg.log, Runs e → ∀ id x, e.after (.credit id) = some x →
      CreditStep e.cmd id (e.before (.credit id)) x := fun e he hrun id x =>
    creditStep_of_runs hrun (issued_of_run hclients h he) (hfresh e he)
  constructor
  · intro newer e older hlog id x hx hconfirmed
    rw [hlog] at hserial
    obtain ⟨hlater, -, -⟩ := hserial.split
    refine keeps_later (P := fun d => ∃ y, d (.credit id) = some y ∧ y.status = .confirmed) hlater
      ⟨x, hx, hconfirmed⟩ ?_
    rintro e' he' hrun ⟨y, hy, hstatus⟩
    have hmem : e' ∈ cfg.log := by
      rw [hlog]
      exact mem_append_left _ he'
    obtain ⟨z, hz⟩ := credit_some hrun hy
    have hstep := hsteps e' hmem hrun id z hz
    rw [hy] at hstep
    cases hstep with
    | same => exact ⟨y, hz, hstatus⟩
    | answered _ hanswer => exact absurd hstatus (answer_ok hanswer).1
  · intro e he id x hx hconfirmed hbefore
    have hstep := hsteps e he (runs_of_valid (hserial.valid he)) id x hx
    generalize e.before (.credit id) = old at hstep hbefore
    cases hstep with
    | same => exact absurd hconfirmed (hbefore x rfl)
    | nominated hpending =>
      rw [hpending] at hconfirmed
      cases hconfirmed
    | @answered request read status now hc hanswer =>
      have hstatus : status = .confirmed := hconfirmed
      subst hstatus
      obtain ⟨me, rfl, huser⟩ := (answer_ok hanswer).2 rfl
      exact ⟨me, read, now, hc, huser⟩

/-! ## Samples -/

/-- User 8 is nominated for bounty 1. -/
def sampleCredit : Credit :=
  { bountyId := 1, userId := 8, role := .lead, nominatedBy := some 7, evidence := ""
    status := .pending, confirmedAt := none }

def sampleCredits : Db
  | .credit 5 => some sampleCredit
  | .creditKey 1 8 .lead => some (5 : Id)
  | _ => none

/-- User 8 answers to credit 5. -/
def answerWith (status : CreditStatus) (now : Time) : LegacyEvent :=
  .connect (CreditHandler.respond ⟨8, []⟩ 5 (some (.known status)) now).client

def resetEvent : LegacyEvent := .connect (CreditHandler.reset sampleSteward 5 60).client

/-- User 8 declines, is allowed to decide again and confirms. -/
def confirmedLate : List LegacyEvent :=
  answerWith .declined 50 :: steps 0 8 ++ resetEvent :: steps 1 8 ++
    answerWith .confirmed 70 :: steps 2 8

theorem confirmed_credits_stay_late :
    ∃ cfg e older x, runLegacy sampleCredits confirmedLate = some cfg ∧ cfg.log = e :: older ∧
      e.after (.credit 5) = some x ∧ x.status = .confirmed ∧
      ∃ me read now, e.cmd = .respondCredit (.respond me .confirmed) 5 read .confirmed now ∧
        me.id = x.userId := by
  obtain ⟨cfg, hcfg, hfresh, e, hhead, ⟨x, hx, hconfirmed⟩, hold⟩ : ∃ cfg,
      runLegacy sampleCredits confirmedLate = some cfg ∧ (∀ e ∈ cfg.log, Entry.FreshAnswer e) ∧
      ∃ e, cfg.log.head? = some e ∧ (∃ x, e.after (.credit 5) = some x ∧ x.status = .confirmed) ∧
        ∀ x, e.before (.credit 5) = some x → x.status ≠ .confirmed := by decide +kernel
  have hclients : ∀ client, .connect client ∈ confirmedLate → Request client := by
    intro client hmem
    simp only [confirmedLate, steps, answerWith, resetEvent, cons_append, append_assoc,
      mem_cons, mem_append, mem_replicate, reduceCtorEq, and_false, false_or,
      or_false, Event.connect.injEq] at hmem
    rcases hmem with rfl | rfl | rfl
    · exact .respond ..
    · exact .reset ..
    · exact .respond ..
  obtain ⟨older, hlog⟩ := head?_eq_some_iff.mp hhead
  exact ⟨cfg, e, older, x, hcfg, hlog, hx, hconfirmed,
    (confirmed_credits_stay hclients hcfg hfresh).2 e (by simp [hlog]) 5 x hx hconfirmed hold⟩

/-- User 8 sends two answers, and both read the pending credit before either of them writes. -/
def answeredTwice : List LegacyEvent :=
  answerWith .confirmed 50 :: answerWith .declined 50 :: steps 0 3 ++ steps 1 3 ++ steps 0 5 ++
    steps 1 5

/-- The confirmation is replaced. -/
theorem confirmation_replaced :
    (∀ client, .connect client ∈ answeredTwice → Request client) ∧
    ∃ cfg e older x y, runLegacy sampleCredits answeredTwice = some cfg ∧ cfg.log = e :: older ∧
      e.before (.credit 5) = some x ∧ x.status = .confirmed ∧ cfg.db (.credit 5) = some y ∧
      y.status = .declined := by
  constructor
  · intro client hmem
    simp only [answeredTwice, steps, answerWith, cons_append, append_assoc, mem_cons, mem_append,
      mem_replicate, reduceCtorEq, and_false, or_false, Event.connect.injEq] at hmem
    rcases hmem with rfl | rfl
    · exact .respond ..
    · exact .respond ..
  · obtain ⟨cfg, hcfg, e, hhead, x, hx, hconfirmed, y, hy, hdeclined⟩ : ∃ cfg,
        runLegacy sampleCredits answeredTwice = some cfg ∧ ∃ e, cfg.log.head? = some e ∧
        ∃ x, e.before (.credit 5) = some x ∧ x.status = .confirmed ∧
        ∃ y, cfg.db (.credit 5) = some y ∧ y.status = .declined := by decide +kernel
    obtain ⟨older, hlog⟩ := head?_eq_some_iff.mp hhead
    exact ⟨cfg, e, older, x, y, hcfg, hlog, hx, hconfirmed, hy, hdeclined⟩

end Pactline.Legacy
