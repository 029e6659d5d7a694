import Pactline.Concurrency.Clients

/-!
# Atomic runs

By the interleaving theorem every commit is one run of its program from the database before it. So
what is left of a configuration is its database, what each client will still do, and the log
(`Moment`), and every step of a schedule leaves the moment as it is or is one atomic step of one
client (`Config.Sound.moment`).

Invariants that speak of the clients as well as of the database are proved over visits: clients that
come one after the other and are numbered as they come (`Protocol.visits`).
-/

set_option autoImplicit false

namespace ReadCommitted

open List

variable {D Row E C α : Type}

/-! ## Moments -/

/-- A configuration without the transactions under way. -/
structure Moment (D Row E C α : Type) where
  db : D
  clients : List (Client C E α)
  log : List (Commit D Row C α)

def Config.moment (cfg : Config D Row E C α) : Moment D Row E C α :=
  ⟨cfg.db, cfg.sessions.map Session.client, cfg.log⟩

/-- The moment after client `i` has gone on as `client`. -/
def Moment.set (s : Moment D Row E C α) (i : Nat) (client : Client C E α) : Moment D Row E C α :=
  { s with clients := s.clients.set i client }

/-- The moment after client `i` has committed and gone on as `client`. -/
def Moment.commit (s : Moment D Row E C α) (i : Nat) (e : Commit D Row C α)
    (client : Client C E α) : Moment D Row E C α :=
  ⟨e.after, s.clients.set i client, e :: s.log⟩

/-- One atomic step. -/
inductive Moment.Step (prog : C → Txn D Row E α) (R : C → Rely D Row) (s : Moment D Row E C α) :
    Event C E α → Moment D Row E C α → Prop
  | connect (client : Client C E α) :
      Moment.Step prog R s (.connect client) { s with clients := s.clients ++ [client] }
  | commit {i : Nat} {next : Outcome E α → Client C E α} (e : Commit D Row C α)
      (hi : s.clients[i]? = some (.call e.cmd next)) (hbefore : e.before = s.db)
      (hvalid : e.Valid prog R) :
      Moment.Step prog R s (.advance i) (s.commit i e (next (.committed e.reply)))
  | fail {i : Nat} {c : C} {next : Outcome E α → Client C E α} (err : E)
      (hi : s.clients[i]? = some (.call c next)) :
      Moment.Step prog R s (.advance i) (s.set i (next (.failed err)))
  | abort {i : Nat} {c : C} {next : Outcome E α → Client C E α}
      (hi : s.clients[i]? = some (.call c next)) :
      Moment.Step prog R s (.abort i) (s.set i (next .aborted))

section Simulation

variable {prog : C → Txn D Row E α} {R : C → Rely D Row} {d₀ : D}

theorem Config.moment_setSession (cfg : Config D Row E C α) (i : Nat)
    (s : Session D Row E C α) : (cfg.setSession i s).moment = cfg.moment.set i s.client := by
  simp [Config.moment, Config.setSession, Moment.set, map_set]

/-- A session that goes on with its transaction is the same client. -/
theorem Config.moment_setSession_same {cfg : Config D Row E C α} {i}
    {s s' : Session D Row E C α} (hi : cfg.sessions[i]? = some s) (hclient : s'.client = s.client) :
    (cfg.setSession i s').moment = cfg.moment := by
  have hset : (cfg.sessions.map Session.client).set i s.client =
      cfg.sessions.map Session.client := by
    apply ext_getElem?
    intro j
    rw [getElem?_set]
    split
    case isTrue hij =>
      subst hij
      rw [length_map, if_pos (List.getElem?_eq_some_iff.mp hi).1, getElem?_map, hi]
      rfl
    case isFalse => rfl
  rw [Config.moment_setSession, hclient]
  simp only [Config.moment, Moment.set, hset]

theorem Config.moment_client {cfg : Config D Row E C α} {i : Nat} {s : Session D Row E C α}
    (hi : cfg.sessions[i]? = some s) : cfg.moment.clients[i]? = some s.client := by
  simp [Config.moment, hi]

variable [DecidableEq Row]

/-- **Steps are atomic.** -/
theorem Config.Sound.moment {cfg cfg' : Config D Row E C α} {ev : Event C E α}
    (h : cfg.Sound prog R d₀) (hs : ReadCommitted.step prog cfg ev = some cfg') :
    (∃ i, ev = .advance i) ∧ cfg'.moment = cfg.moment ∨
      Moment.Step prog R cfg.moment ev cfg'.moment := by
  cases Config.step_of_eq_some hs with
  | connect client =>
    have hstep : Moment.Step prog R cfg.moment (.connect client) _ := .connect client
    refine .inr ?_
    simpa [Config.moment, Session.client] using hstep
  | start hi | lock hi | read hi | write hi =>
    exact .inl ⟨⟨_, rfl⟩, Config.moment_setSession_same hi rfl⟩
  | @commit i c next held pending a hi =>
    have hrun : (prog c).Commits (R c) [] cfg.db a held (pending cfg.db) :=
      (h.restartable i _ hi).2.2 cfg.db ((R c).refl _ _) a held _ ⟨rfl, rfl, rfl⟩
    have hstep : Moment.Step prog R cfg.moment (.advance i) _ :=
      .commit ⟨c, a, held, cfg.db, pending cfg.db⟩ (Config.moment_client hi) rfl hrun
    refine .inr ?_
    simpa [Config.moment, Moment.commit, map_set, Session.client] using hstep
  | fail hi =>
    rw [Config.moment_setSession]
    exact .inr (.fail _ (Config.moment_client hi))
  | abort hi =>
    rw [Config.moment_setSession]
    exact .inr (.abort (Config.moment_client hi))

end Simulation

/-! ## Visits -/

/-- What happens next, seen from outside: somebody comes, a client that is there makes its next
step, or its transaction is aborted. -/
inductive Visit (V : Type)
  | arrive (v : V)
  | advance (i : Nat)
  | abort (i : Nat)

section Visits

variable {V : Type} (serve : Nat → V → Client C E α)

/-- The events of visits, when `n` visitors are there already. -/
def Visit.events : Nat → List (Visit V) → List (Event C E α)
  | _, [] => []
  | n, .arrive v :: visits => .connect (serve n v) :: Visit.events (n + 1) visits
  | n, .advance i :: visits => .advance i :: Visit.events n visits
  | n, .abort i :: visits => .abort i :: Visit.events n visits

/-- Those who come, in order. -/
def Visit.arrivals : List (Visit V) → List V
  | [] => []
  | .arrive v :: visits => v :: Visit.arrivals visits
  | .advance _ :: visits | .abort _ :: visits => Visit.arrivals visits

theorem Visit.arrivals_append (visits visits' : List (Visit V)) :
    Visit.arrivals (visits ++ visits') = Visit.arrivals visits ++ Visit.arrivals visits' := by
  induction visits with
  | nil => rfl
  | cons x visits ih => cases x <;> simp [Visit.arrivals, ih]

/-- The next commands of any two clients may overlap. -/
def Moment.Admits (Overlap : C → C → Prop) (s : Moment D Row E C α) : Prop :=
  ∀ (i j : Nat) (c c' : C) (next next' : Outcome E α → Client C E α), i ≠ j →
    s.clients[i]? = some (.call c next) → s.clients[j]? = some (.call c' next') → Overlap c c'

theorem Config.admits_of_moment {Overlap : C → C → Prop} {cfg : Config D Row E C α}
    (h : cfg.moment.Admits Overlap) : cfg.Admits Overlap := by
  intro i j s t hij hi hj c hc c' hc'
  cases s with
  | idle => cases hc
  | running c₀ next =>
    cases t with
    | idle => cases hc'
    | running c₁ next' =>
      obtain rfl := Option.some.inj hc
      obtain rfl := Option.some.inj hc'
      exact h i j _ _ next next' hij (Config.moment_client hi) (Config.moment_client hj)

/-- What one visit does to a property of the visitors so far and of the moment. -/
structure Visit.Keeps (prog : C → Txn D Row E α) (R : C → Rely D Row)
    (Allowed : Visit V → Prop) (P : List V → Moment D Row E C α → Prop) : Prop where
  arrive : ∀ vs s v, Allowed (.arrive v) → P vs s →
    P (vs ++ [v]) { s with clients := s.clients ++ [serve vs.length v] }
  commit : ∀ vs s i next (e : Commit D Row C α), s.clients[i]? = some (.call e.cmd next) →
    e.before = s.db → e.Valid prog R → P vs s → P vs (s.commit i e (next (.committed e.reply)))
  fail : ∀ vs s i c next err, s.clients[i]? = some (.call c next) → P vs s →
    P vs (s.set i (next (.failed err)))
  abort : ∀ vs s i c next, Allowed (.abort i) → s.clients[i]? = some (.call c next) → P vs s →
    P vs (s.set i (next .aborted))

variable {serve} {prog : C → Txn D Row E α} {R : C → Rely D Row} {Overlap : C → C → Prop}
  {Inv : D → Prop} {d₀ : D} {Allowed : Visit V → Prop} {P : List V → Moment D Row E C α → Prop}

theorem Visit.Keeps.step (h : Visit.Keeps serve prog R Allowed P) {vs : List V}
    {s s' x ev} (hx : Allowed x)
    (hev : Visit.events serve vs.length [x] = [ev]) (hstep : Moment.Step prog R s ev s')
    (hP : P vs s) : P (vs ++ Visit.arrivals [x]) s' := by
  cases x with
  | arrive v =>
    obtain rfl := singleton_injective hev
    cases hstep with
    | connect => exact h.arrive vs s v hx hP
  | advance i =>
    obtain rfl := singleton_injective hev
    rw [Visit.arrivals, Visit.arrivals, append_nil]
    cases hstep with
    | commit e hi hbefore hvalid => exact h.commit vs s i _ e hi hbefore hvalid hP
    | fail err hi => exact h.fail vs s i _ _ err hi hP
  | abort i =>
    obtain rfl := singleton_injective hev
    rw [Visit.arrivals, Visit.arrivals, append_nil]
    cases hstep with
    | abort hi => exact h.abort vs s i _ _ hx hi hP

theorem Visit.events_cons (serve : Nat → V → Client C E α) (n : Nat) (x : Visit V)
    (visits : List (Visit V)) :
    ∃ ev, Visit.events serve n [x] = [ev] ∧ Visit.events serve n (x :: visits) =
      ev :: Visit.events serve (n + (Visit.arrivals [x]).length) visits := by
  cases x with
  | arrive v => exact ⟨_, rfl, rfl⟩
  | advance i => exact ⟨_, rfl, rfl⟩
  | abort i => exact ⟨_, rfl, rfl⟩

variable [DecidableEq Row]

/-- **The invariant rule for visits**, from any sound configuration on. -/
theorem Protocol.visits (hprog : Protocol prog R Overlap Inv) (h₀ : Inv d₀)
    (hkeeps : Visit.Keeps serve prog R Allowed P)
    (hadmits : ∀ vs s, P vs s → s.Admits Overlap) {visits}
    (hvisits : ∀ x ∈ visits, Allowed x) {start cfg : Config D Row E C α} {vs : List V}
    (hsound : start.Sound prog R d₀) (hP : P vs start.moment)
    (h : run prog start (Visit.events serve vs.length visits) = some cfg) :
    cfg.Sound prog R d₀ ∧ P (vs ++ Visit.arrivals visits) cfg.moment := by
  induction visits generalizing start vs with
  | nil =>
    simp only [Visit.events, run, Option.some.injEq] at h
    subst h
    rw [Visit.arrivals, append_nil]
    exact ⟨hsound, hP⟩
  | cons x visits ih =>
    obtain ⟨ev, hev, hevents⟩ := Visit.events_cons serve vs.length x visits
    rw [hevents] at h
    simp only [run, Option.bind_eq_some_iff] at h
    obtain ⟨mid, hstep, hrest⟩ := h
    have hinv : Inv start.db :=
      hsound.serial.invariant h₀ fun e hv hb => hprog.inv _ _ _ _ _ hv hb
    have hmid := hsound.step hprog (Config.admits_of_moment (hadmits vs _ hP)) hinv hstep
    have harrivals : Visit.arrivals (x :: visits) =
        Visit.arrivals [x] ++ Visit.arrivals visits := Visit.arrivals_append [x] visits
    rw [harrivals, ← append_assoc]
    refine ih (fun y hy => hvisits y (mem_cons_of_mem x hy)) hmid ?_ ?_
    · rcases hsound.moment hstep with ⟨⟨i, rfl⟩, hsame⟩ | hatomic
      · -- Nothing has happened yet, and nobody has come.
        have hnobody : Visit.arrivals [x] = [] := by
          cases x with
          | arrive v => cases hev
          | advance i => rfl
          | abort i => cases hev
        rw [hnobody, append_nil, hsame]
        exact hP
      · exact hkeeps.step (hvisits x mem_cons_self) hev hatomic hP
    · rw [length_append]
      exact hrest

/-- The rule from the start. -/
theorem Protocol.visits_initial (hprog : Protocol prog R Overlap Inv) (h₀ : Inv d₀)
    (hkeeps : Visit.Keeps serve prog R Allowed P)
    (hadmits : ∀ vs s, P vs s → s.Admits Overlap) {visits}
    (hvisits : ∀ x ∈ visits, Allowed x) (hP : P [] ⟨d₀, [], []⟩) {cfg : Config D Row E C α}
    (h : run prog (Config.initial d₀) (Visit.events serve 0 visits) = some cfg) :
    cfg.Sound prog R d₀ ∧ P (Visit.arrivals visits) cfg.moment := by
  have hsound : (Config.initial d₀).Sound prog R d₀ :=
    ⟨by simp [Config.initial], by simp [Config.initial], rfl⟩
  exact hprog.visits h₀ hkeeps hadmits hvisits hsound hP h

theorem Visit.events_append (n : Nat) (visits visits' : List (Visit V)) :
    Visit.events serve n (visits ++ visits') = Visit.events serve n visits ++
      Visit.events serve (n + (Visit.arrivals visits).length) visits' := by
  induction visits generalizing n with
  | nil => rfl
  | cons x visits ih =>
    cases x with
    | arrive v =>
      rw [cons_append, Visit.events, Visit.events, ih, Visit.arrivals, length_cons,
        Nat.add_right_comm n 1]
      rfl
    | advance i => exact congrArg (Event.advance i :: ·) (ih n)
    | abort i => exact congrArg (Event.abort i :: ·) (ih n)

theorem Visit.connect_mem_events {n visits client}
    (h : .connect client ∈ Visit.events serve n visits) :
    ∃ m, ∃ v ∈ Visit.arrivals visits, client = serve m v := by
  induction visits generalizing n with
  | nil => cases h
  | cons x visits ih =>
    cases x with
    | arrive v =>
      rcases mem_cons.mp h with heq | hmem
      · exact ⟨n, v, mem_cons_self, Event.connect.inj heq⟩
      · obtain ⟨m, v', hv', heq⟩ := ih hmem
        exact ⟨m, v', mem_cons_of_mem v hv', heq⟩
    | advance i => exact ih ((mem_cons.mp h).resolve_left nofun)
    | abort i => exact ih ((mem_cons.mp h).resolve_left nofun)

end Visits

end ReadCommitted
