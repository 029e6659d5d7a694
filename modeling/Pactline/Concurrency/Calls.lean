import Pactline.Concurrency.Service

/-!
# What the calls of a session come to

A request is a client that connects, makes its calls and is gone. `calls prog i cfg es` lists the
calls of session `i` that end along the schedule `es`, with their outcomes: the result of a service
amid others is what `Service.Gives` makes of this list.

A call that has committed has left its commit in the log (`calls_committed`). A transaction keeps
its locks as long as its call has not ended (`running_of_calls_nil`). And a transaction that is one
read has returned what it read in some configuration since its call began (`calls_read`), which the
serial log does not say, since such a read is not repeated at the commit.
-/

set_option autoImplicit false

namespace ReadCommitted

open List

open Option

open Config

variable {D Row E C α : Type}

/-- The call of session `i` that ends with the event. -/
def Config.ended (cfg : Config D Row E C α) (i : Nat) : Event C E α → Option (C × Outcome E α)
  | .connect _ => none
  | .advance j => if j ≠ i then none else
      match cfg.sessions[i]? with
      | some (.running c _ _ _ (.ret a)) => some (c, .committed a)
      | some (.running c _ _ _ (.fail e)) => some (c, .failed e)
      | _ => none
  | .abort j => if j ≠ i then none else
      match cfg.sessions[i]? with
      | some (.running c _ _ _ _) => some (c, .aborted)
      | _ => none

/-- Session `i` is not inside a transaction, or not connected yet. -/
def Config.Quiet (cfg : Config D Row E C α) (i : Nat) : Prop :=
  ∀ s, cfg.sessions[i]? = some s → s.command = none

/-- From `rest`, with the writes `pending`, the program comes to `rest'` by one statement on the
database `db`, or has not moved. -/
def Txn.Moves (db : D) (pending : D → D) (rest : Txn D Row E α) (pending' : D → D)
    (rest' : Txn D Row E α) : Prop :=
  pending' = pending ∧ rest' = rest ∨
    pending' = pending ∧ (∃ l, rest = .lock l rest') ∨
    pending' = pending ∧ (∃ k, rest = .read k ∧ rest' = k (pending db)) ∨
    ∃ w, pending' = w ∘ pending ∧ rest = .write w rest'

variable [DecidableEq Row] (prog : C → Txn D Row E α)

/-- The calls of session `i` that end along the schedule. -/
def calls (i : Nat) : Config D Row E C α → List (Event C E α) → List (C × Outcome E α)
  | _, [] => []
  | cfg, ev :: es => match step prog cfg ev with
      | none => []
      | some cfg' => (cfg.ended i ev).toList ++ calls i cfg' es

variable {prog} {cfg cfg' start mid : Config D Row E C α} {i : Nat} {c : C} {a : α}
  {es : List (Event C E α)} {ev : Event C E α}

/-! ## Steps -/

omit [DecidableEq Row] in
theorem Config.quiet_or_running (cfg : Config D Row E C α) (i : Nat) :
    cfg.Quiet i ∨ ∃ c next held pending rest,
      cfg.sessions[i]? = some (.running c next held pending rest) := by
  cases hs : cfg.sessions[i]? with
  | none => exact .inl fun s hs' => by simp [hs] at hs'
  | some s => cases s with
      | idle client =>
        left
        intro s hs'
        rw [hs] at hs'
        cases hs'
        rfl
      | running c next held pending rest => exact .inr ⟨c, next, held, pending, rest, rfl⟩

omit [DecidableEq Row] in
/-- A call ends with a commit where the program has returned. -/
theorem Config.ended_committed (h : cfg.ended i ev = some (c, .committed a)) :
    ev = .advance i ∧ ∃ next held pending,
      cfg.sessions[i]? = some (.running c next held pending (.ret a)) := by
  cases ev with
  | connect client => cases h
  | advance j =>
    simp only [ended, ne_eq, ite_not] at h
    split at h
    case isFalse => cases h
    case isTrue hij =>
      subst hij
      split at h
      case h_1 hs =>
        cases h
        exact ⟨rfl, _, _, _, hs⟩
      · cases h
      · cases h
  | abort j =>
    simp only [ended] at h
    split at h
    · cases h
    · split at h <;> cases h

omit [DecidableEq Row] in
theorem Config.getElem?_setSession_self {s t}
    (hi : cfg.sessions[i]? = some s) : (cfg.setSession i t).sessions[i]? = some t := by
  have hlt : i < cfg.sessions.length := (List.getElem?_eq_some_iff.mp hi).1
  exact getElem?_set_self hlt

/-- The steps of others leave a session as it is, except that a new one may connect. -/
theorem step_other {j} (hij : j ≠ i) (hev : ev = .advance j ∨ ev = .abort j)
    (h : step prog cfg ev = some cfg') : cfg'.sessions[i]? = cfg.sessions[i]? := by
  cases step_of_eq_some h with
  | connect => rcases hev with hev | hev <;> cases hev
  | _ =>
    rcases hev with hev | hev <;> cases hev
    exact getElem?_set_ne hij

/-- What a step does to a session that is inside a transaction: its call ends, or it goes on with
the same command and at least the same locks, after one statement at most. -/
theorem step_running {next held pending} {rest : Txn D Row E α} (h : step prog cfg ev = some cfg')
    (hi : cfg.sessions[i]? = some (.running c next held pending rest)) :
    (∃ outcome, cfg.ended i ev = some (c, outcome) ∧
        cfg'.sessions[i]? = some (.idle (next outcome))) ∨
      cfg.ended i ev = none ∧ ∃ held' pending' rest',
        cfg'.sessions[i]? = some (.running c next held' pending' rest') ∧ held ⊆ held' ∧
        rest.Moves cfg.db pending pending' rest' := by
  have hsame : cfg.ended i ev = none → cfg'.sessions[i]? = cfg.sessions[i]? →
      cfg.ended i ev = none ∧ ∃ held' pending' rest',
        cfg'.sessions[i]? = some (.running c next held' pending' rest') ∧ held ⊆ held' ∧
        rest.Moves cfg.db pending pending' rest' := fun hended heq =>
    ⟨hended, held, pending, rest, heq.trans hi, List.Subset.refl _, .inl ⟨rfl, rfl⟩⟩
  cases ev with
  | connect client =>
    simp only [step, some.injEq] at h
    subst h
    refine .inr (hsame rfl ?_)
    exact getElem?_append_left (List.getElem?_eq_some_iff.mp hi).1
  | abort j =>
    by_cases hij : j = i
    · subst hij
      simp only [step, hi, some.injEq] at h
      subst h
      refine .inl ⟨.aborted, ?_, getElem?_setSession_self hi⟩
      simp [ended, hi]
    · exact .inr (hsame (if_pos hij) (step_other hij (.inr rfl) h))
  | advance j =>
    by_cases hij : j = i
    case neg => exact .inr (hsame (if_pos hij) (step_other hij (.inl rfl) h))
    subst hij
    simp only [step, hi] at h
    have hnext : ∀ held' pending' rest', (cfg.setSession j (.running c next held' pending'
        rest')).sessions[j]? = some (.running c next held' pending' rest') :=
      fun held' pending' rest' => getElem?_setSession_self hi
    cases rest with
    | ret a =>
      cases h
      refine .inl ⟨.committed a, by simp [ended, hi], ?_⟩
      exact getElem?_setSession_self hi
    | fail e =>
      cases h
      refine .inl ⟨.failed e, by simp [ended, hi], ?_⟩
      exact getElem?_setSession_self hi
    | lock l k =>
      simp only [statement, ite_none_right_eq_some, some.injEq] at h
      obtain ⟨-, rfl⟩ := h
      refine .inr ⟨by simp [ended, hi], _, _, _, hnext _ _ _, ?_, ?_⟩
      · exact subset_cons_self l held
      · exact .inr (.inl ⟨rfl, l, rfl⟩)
    | read k =>
      cases h
      refine .inr ⟨by simp [ended, hi], _, _, _, hnext _ _ _, List.Subset.refl _, ?_⟩
      exact .inr (.inr (.inl ⟨rfl, k, rfl, rfl⟩))
    | write w k =>
      cases h
      refine .inr ⟨by simp [ended, hi], _, _, _, hnext _ _ _, List.Subset.refl _, ?_⟩
      exact .inr (.inr (.inr ⟨w, rfl, rfl⟩))

/-- A session that is not inside a transaction can only begin one. -/
theorem step_quiet (h : step prog cfg ev = some cfg') (hi : cfg.Quiet i) :
    cfg.ended i ev = none ∧ ∀ c next held pending rest,
      cfg'.sessions[i]? = some (.running c next held pending rest) →
        pending = id ∧ rest = prog c := by
  have hidle : ∀ c next held pending rest,
      cfg.sessions[i]? ≠ some (.running c next held pending rest) := by
    intro c next held pending rest heq
    cases hi _ heq
  constructor
  · cases ev with
    | connect client => rfl
    | advance j | abort j =>
      simp only [ended]
      split
      · rfl
      · cases hs : cfg.sessions[i]? with
        | none => rfl
        | some s => cases s with
            | idle client => rfl
            | running c next held pending rest => exact absurd hs (hidle _ _ _ _ _)
  · intro c next held pending rest heq
    cases ev with
    | connect client =>
      simp only [step, some.injEq] at h
      subst h
      rw [getElem?_append] at heq
      split at heq
      · exact absurd heq (hidle _ _ _ _ _)
      · have hmem := mem_of_getElem? heq
        cases mem_singleton.mp hmem
    | abort j =>
      by_cases hij : j = i
      · simp only [step] at h
        split at h
        case h_1 hs => exact absurd (hij ▸ hs) (hidle _ _ _ _ _)
        · cases h
      · rw [step_other hij (.inr rfl) h] at heq
        exact absurd heq (hidle _ _ _ _ _)
    | advance j =>
      by_cases hij : j = i
      case neg =>
        rw [step_other hij (.inl rfl) h] at heq
        exact absurd heq (hidle _ _ _ _ _)
      subst hij
      simp only [step] at h
      split at h
      · cases h
      · cases h
      case h_3 c' next' hs =>
        cases h
        rw [getElem?_setSession_self hs] at heq
        cases heq
        exact ⟨rfl, rfl⟩
      case h_4 hs => exact absurd hs (hidle _ _ _ _ _)

/-- The step that commits. -/
theorem step_commit {e : Commit D Row C α} (h : step prog cfg ev = some cfg')
    (hlog : cfg'.log = e :: cfg.log) :
    ∃ j next pending, ev = .advance j ∧ e.before = cfg.db ∧ e.after = cfg'.db ∧
      cfg.sessions[j]? = some (.running e.cmd next e.held pending (.ret e.reply)) := by
  have hsame : cfg'.log ≠ cfg.log := by
    rw [hlog]
    exact cons_ne_self e cfg.log
  cases step_of_eq_some h with
  | @commit j c next held pending a hj =>
    cases hlog
    exact ⟨j, next, pending, rfl, rfl, rfl, hj⟩
  | _ => exact absurd rfl hsame

/-! ## Schedules -/

theorem calls_cons (h : step prog cfg ev = some cfg') :
    calls prog i cfg (ev :: es) = (cfg.ended i ev).toList ++ calls prog i cfg' es := by
  simp only [calls, h]

/-- A transaction goes on, with the locks it holds, as long as its call has not ended. -/
theorem running_of_calls_nil {next held pending rest}
    (hi : start.sessions[i]? = some (.running c next held pending rest))
    (h : run prog start es = some cfg) (hnil : calls prog i start es = []) :
    ∃ held' pending' rest', cfg.sessions[i]? = some (.running c next held' pending' rest') ∧
      held ⊆ held' := by
  induction es generalizing start held pending rest with
  | nil =>
    simp only [run, some.injEq] at h
    subst h
    exact ⟨held, pending, rest, hi, List.Subset.refl _⟩
  | cons ev es ih =>
    simp only [run, bind_eq_some_iff] at h
    obtain ⟨mid, hstep, h⟩ := h
    rw [calls_cons hstep, append_eq_nil_iff] at hnil
    rcases step_running hstep hi with ⟨outcome, hended, -⟩ | ⟨-, held₁, _, _, hmid, hle, -⟩
    · rw [hended] at hnil
      cases hnil.1
    · obtain ⟨held', pending', rest', hcfg, hle'⟩ := ih hmid h hnil.2
      exact ⟨held', pending', rest', hcfg, List.Subset.trans hle hle'⟩

/-- The first call that ends is the one the session is in. -/
theorem calls_head {next held pending rest}
    (hi : start.sessions[i]? = some (.running c next held pending rest))
    (es : List (Event C E α)) :
    calls prog i start es = [] ∨
      ∃ outcome later, calls prog i start es = (c, outcome) :: later := by
  induction es generalizing start held pending rest with
  | nil => exact .inl rfl
  | cons ev es ih =>
    cases hstep : step prog start ev with
    | none =>
      left
      simp only [calls, hstep]
    | some mid =>
      rw [calls_cons hstep]
      rcases step_running hstep hi with ⟨outcome, hended, -⟩ | ⟨hended, _, _, _, hmid, -⟩
      · right
        exact ⟨outcome, calls prog i mid es, by rw [hended]; rfl⟩
      · rw [hended]
        exact ih hmid

/-- The first call that has committed ends with a commit in the log. -/
theorem calls_committed {next held pending rest later}
    (hi : start.sessions[i]? = some (.running c next held pending rest))
    (h : run prog start es = some cfg)
    (hcalls : calls prog i start es = (c, .committed a) :: later) :
    ∃ es₁ es₂ before after held' pending', es = es₁ ++ .advance i :: es₂ ∧
      run prog start es₁ = some before ∧ held ⊆ held' ∧
      before.sessions[i]? = some (.running c next held' pending' (.ret a)) ∧
      step prog before (.advance i) = some after ∧ run prog after es₂ = some cfg := by
  induction es generalizing start held pending rest with
  | nil => cases hcalls
  | cons ev es ih =>
    simp only [run, bind_eq_some_iff] at h
    obtain ⟨mid, hstep, h⟩ := h
    rw [calls_cons hstep] at hcalls
    rcases step_running hstep hi with ⟨outcome, hended, -⟩ | ⟨hended, held₁, _, _, hmid, hle, -⟩
    · rw [hended] at hcalls
      simp only [toList, cons_append, cons.injEq, Prod.mk.injEq] at hcalls
      rw [hcalls.1.2] at hended
      obtain ⟨rfl, next', held', pending', hret⟩ := ended_committed hended
      rw [hi] at hret
      cases hret
      exact ⟨[], es, start, mid, held, pending, rfl, rfl, List.Subset.refl _, hi, hstep, h⟩
    · rw [hended] at hcalls
      obtain ⟨es₁, es₂, before, after, held', pending', rfl, hrun, hle', hrest⟩ :=
        ih hmid h hcalls
      refine ⟨ev :: es₁, es₂, before, after, held', pending', rfl, ?_,
        List.Subset.trans hle hle', hrest⟩
      simp only [run, hstep, bind_some, hrun]

/-- Session `i`, if it runs `c`, has read nothing yet, or has read what a configuration of `S`
had. -/
def Config.ReadsIn (S : Config D Row E C α → Prop) (i : Nat) (c : C) (k : D → Txn D Row E α)
    (cfg : Config D Row E C α) : Prop :=
  ∀ next held pending rest, cfg.sessions[i]? = some (.running c next held pending rest) →
    pending = id ∧ (rest = .read k ∨ ∃ mid, S mid ∧ rest = k mid.db)

theorem Config.ReadsIn.step {S k}
    (hk : prog c = .read k) (hends : ∀ d, (k d).Ends) (hS : S cfg) (h : cfg.ReadsIn S i c k)
    (hstep : step prog cfg ev = some cfg') : cfg'.ReadsIn S i c k := by
  intro next' held' pending' rest' heq
  rcases cfg.quiet_or_running i with hquiet | ⟨c₁, next, held, pending, rest, hi⟩
  · obtain ⟨hpending, hrest⟩ := (step_quiet hstep hquiet).2 _ _ _ _ _ heq
    exact ⟨hpending, .inl (hrest.trans hk)⟩
  rcases step_running hstep hi with ⟨outcome, -, hidle⟩ | ⟨-, _, _, _, hcfg', -, hmove⟩
  · rw [hidle] at heq
    cases heq
  rw [hcfg'] at heq
  cases heq
  obtain ⟨rfl, hrest⟩ := h _ _ _ _ hi
  -- Only the read itself is a statement of this program.
  have hread : ∀ q : Txn D Row E α, rest = q → ¬ q.Ends → q = .read k := by
    rintro q rfl hq
    rcases hrest with hrest | ⟨mid, -, hrest⟩
    · exact hrest
    · exact absurd (hrest ▸ hends mid.db) hq
  rcases hmove with ⟨rfl, rfl⟩ | ⟨-, l, hl⟩ | ⟨rfl, k', hk', rfl⟩ | ⟨w, -, hw⟩
  · exact ⟨rfl, hrest⟩
  · cases hread _ hl id
  · cases hread _ hk' id
    exact ⟨rfl, .inr ⟨cfg, hS, rfl⟩⟩
  · cases hread _ hw id

/-- A transaction that is one read: what it has returned it has read in a configuration that the
schedule has passed through since the call began. -/
theorem calls_read (hquiet : start.Quiet i) (hc : (c, .committed a) ∈ calls prog i start es)
    {k} (hk : prog c = .read k) (hends : ∀ d, (k d).Ends) :
    ∃ es₁ es₂ mid, es = es₁ ++ es₂ ∧ run prog start es₁ = some mid ∧ k mid.db = .ret a := by
  -- The configurations passed through, seen from any of them.
  have hmain : ∀ (S : Config D Row E C α → Prop) (es : List (Event C E α))
      (start : Config D Row E C α), start.ReadsIn S i c k →
      (∀ es₁ es₂ mid, es = es₁ ++ es₂ → run prog start es₁ = some mid → S mid) →
      (c, .committed a) ∈ calls prog i start es → ∃ mid, S mid ∧ k mid.db = .ret a := by
    intro S es
    induction es with
    | nil =>
      intro start _ _ hmem
      cases hmem
    | cons ev es ih =>
      intro start hreads hpassed hmem
      cases hstep : step prog start ev with
      | none =>
        simp only [calls, hstep] at hmem
        cases hmem
      | some cfg =>
        rw [calls_cons hstep, mem_append] at hmem
        rcases hmem with hnow | hlater
        · obtain ⟨-, next, held, pending, hi⟩ :=
            ended_committed (mem_toList.mp hnow)
          rcases (hreads _ _ _ _ hi).2 with hrest | ⟨mid, hmid, hrest⟩
          · cases hrest
          · exact ⟨mid, hmid, hrest.symm⟩
        · have hstart : S start := hpassed [] (ev :: es) start rfl rfl
          refine ih cfg (hreads.step hk hends hstart hstep) ?_ hlater
          intro es₁ es₂ mid hes hrun
          apply hpassed (ev :: es₁) es₂ mid (congrArg (ev :: ·) hes)
          simp only [run, hstep, bind_some, hrun]
  have hreads : start.ReadsIn (fun mid => ∃ es₁ es₂, es = es₁ ++ es₂ ∧
      run prog start es₁ = some mid) i c k := by
    intro next held pending rest heq
    cases hquiet _ heq
  obtain ⟨mid, ⟨es₁, es₂, hes, hrun⟩, hret⟩ := hmain _ es start hreads
    (fun es₁ es₂ mid hes hrun => ⟨es₁, es₂, hes, hrun⟩) hc
  exact ⟨es₁, es₂, mid, hes, hrun, hret⟩

end ReadCommitted
