import Pactline.Concurrency.Txn

/-!
# Interleavings of transactions

A client is a piece of code that calls one transaction after the other and looks at each outcome
before it goes on. The transactions of different clients interleave statement by statement; a lock
is granted only when no other transaction holds a conflicting one, every transaction may be aborted
at any moment, and its writes reach the committed database when it commits.

`Protocol.serial` is the point of the file. If the writes of every program are guarded and every
commit stays within the rely that the locks of the others allow, then the committed database is at
every moment the result of the commits in their order, each taken as one step of `Txn.Commits`.

What a transaction relies on may depend on its command, and two commands may be kept from
overlapping (`Protocol.sound`), for properties that hold only of such schedules.
-/

set_option autoImplicit false

namespace ReadCommitted

open Option

open List

/-! ## Clients, sessions and configurations -/

/-- What a client learns of a transaction it called. -/
inductive Outcome (E α : Type)
  | committed (a : α)
  | failed (e : E)
  | aborted

/-- A client: it stops, or calls a transaction and goes on with its outcome. -/
inductive Client (C E α : Type)
  | stop
  | call (c : C) (next : Outcome E α → Client C E α)

/-- The client that calls the given transactions one after the other, whatever comes of them. -/
def Client.script {C E α : Type} : List C → Client C E α
  | [] => .stop
  | c :: cs => .call c fun _ => Client.script cs

/-- A client between two transactions, or inside one: the command it runs, the locks it
holds, its uncommitted writes and the rest of the program. -/
inductive Session (D Row E C α : Type)
  | idle (client : Client C E α)
  | running (c : C) (next : Outcome E α → Client C E α) (held : List (Lock Row))
      (pending : D → D) (rest : Txn D Row E α)

/-- One committed transaction. -/
structure Commit (D Row C α : Type) where
  cmd : C
  reply : α
  held : List (Lock Row)
  before : D
  after : D

/-- The committed database, the connected clients and the commits so far, newest first. -/
structure Config (D Row E C α : Type) where
  db : D
  sessions : List (Session D Row E C α)
  log : List (Commit D Row C α)

/-- What happens next: a client connects, a session makes its next step, or the
transaction of a session is aborted. -/
inductive Event (C E α : Type)
  | connect (client : Client C E α)
  | advance (i : Nat)
  | abort (i : Nat)

section Steps

variable {D Row E C α : Type}

/-- The locks a session holds. -/
def Session.held : Session D Row E C α → List (Lock Row)
  | .idle _ => []
  | .running _ _ held _ _ => held

/-- Nobody is connected and nothing has been committed. -/
def Config.initial (d : D) : Config D Row E C α := ⟨d, [], []⟩

/-- The same configuration with session `i` replaced. -/
def Config.setSession (cfg : Config D Row E C α) (i : Nat) (s : Session D Row E C α) :
    Config D Row E C α :=
  { cfg with sessions := cfg.sessions.set i s }

/-- Session `i` may have the lock: no other session holds a conflicting one. -/
def Config.Grants (cfg : Config D Row E C α) (i : Nat) (l : Lock Row) : Prop :=
  ∀ j < cfg.sessions.length, j ≠ i →
    ∀ b ∈ (cfg.sessions[j]?.map Session.held).getD [], ¬ l.Conflicts b

instance [DecidableEq Row] (cfg : Config D Row E C α) (i : Nat) (l : Lock Row) :
    Decidable (cfg.Grants i l) :=
  inferInstanceAs (Decidable (∀ j < cfg.sessions.length, j ≠ i →
    ∀ b ∈ (cfg.sessions[j]?.map Session.held).getD [], ¬ l.Conflicts b))

variable [DecidableEq Row] (prog : C → Txn D Row E α)

/-- The next statement of a running transaction. -/
def Config.statement (cfg : Config D Row E C α) (i : Nat) (c : C)
    (next : Outcome E α → Client C E α) (held : List (Lock Row)) (pending : D → D) :
    Txn D Row E α → Option (Config D Row E C α)
  | .ret a =>
    some { db := pending cfg.db
           sessions := cfg.sessions.set i (.idle (next (.committed a)))
           log := ⟨c, a, held, cfg.db, pending cfg.db⟩ :: cfg.log }
  | .fail e => some (cfg.setSession i (.idle (next (.failed e))))
  | .lock l k =>
    if cfg.Grants i l then some (cfg.setSession i (.running c next (l :: held) pending k))
    else none
  | .read k => some (cfg.setSession i (.running c next held pending (k (pending cfg.db))))
  | .write w k => some (cfg.setSession i (.running c next held (w ∘ pending) k))

/-- One event, or `none` where it cannot happen (a lock that has to wait). -/
def step (cfg : Config D Row E C α) : Event C E α → Option (Config D Row E C α)
  | .connect client => some { cfg with sessions := cfg.sessions ++ [.idle client] }
  | .advance i =>
    match cfg.sessions[i]? with
    | none => none
    | some (.idle .stop) => none
    | some (.idle (.call c next)) => some (cfg.setSession i (.running c next [] id (prog c)))
    | some (.running c next held pending rest) => cfg.statement i c next held pending rest
  | .abort i =>
    match cfg.sessions[i]? with
    | some (.running _ next _ _ _) => some (cfg.setSession i (.idle (next .aborted)))
    | _ => none

/-- A schedule: the events one after the other. -/
def run : Config D Row E C α → List (Event C E α) → Option (Config D Row E C α)
  | cfg, [] => some cfg
  | cfg, e :: es => (step prog cfg e).bind fun cfg' => run cfg' es

/-- What one event does, case by case. -/
inductive Config.Step (cfg : Config D Row E C α) : Event C E α → Config D Row E C α → Prop
  | connect (client : Client C E α) :
      cfg.Step (.connect client) { cfg with sessions := cfg.sessions ++ [.idle client] }
  | start {i : Nat} {c next} (hi : cfg.sessions[i]? = some (.idle (.call c next))) :
      cfg.Step (.advance i) (cfg.setSession i (.running c next [] id (prog c)))
  | commit {i : Nat} {c next held pending a}
      (hi : cfg.sessions[i]? = some (.running c next held pending (.ret a))) :
      cfg.Step (.advance i)
        { db := pending cfg.db
          sessions := cfg.sessions.set i (.idle (next (.committed a)))
          log := ⟨c, a, held, cfg.db, pending cfg.db⟩ :: cfg.log }
  | fail {i : Nat} {c next held pending err}
      (hi : cfg.sessions[i]? = some (.running c next held pending (.fail err))) :
      cfg.Step (.advance i) (cfg.setSession i (.idle (next (.failed err))))
  | lock {i : Nat} {c next held pending l k}
      (hi : cfg.sessions[i]? = some (.running c next held pending (.lock l k)))
      (hgrant : cfg.Grants i l) :
      cfg.Step (.advance i) (cfg.setSession i (.running c next (l :: held) pending k))
  | read {i : Nat} {c next held pending k}
      (hi : cfg.sessions[i]? = some (.running c next held pending (.read k))) :
      cfg.Step (.advance i) (cfg.setSession i (.running c next held pending (k (pending cfg.db))))
  | write {i : Nat} {c next held pending w k}
      (hi : cfg.sessions[i]? = some (.running c next held pending (.write w k))) :
      cfg.Step (.advance i) (cfg.setSession i (.running c next held (w ∘ pending) k))
  | abort {i : Nat} {c next held pending rest}
      (hi : cfg.sessions[i]? = some (.running c next held pending rest)) :
      cfg.Step (.abort i) (cfg.setSession i (.idle (next .aborted)))

variable {prog} {cfg cfg' : Config D Row E C α} {ev : Event C E α}

theorem Config.step_of_eq_some (h : step prog cfg ev = some cfg') : cfg.Step prog ev cfg' := by
  cases ev with
  | connect client =>
    cases h
    exact .connect client
  | abort i =>
    simp only [step] at h
    split at h
    case h_1 hi =>
      cases h
      exact .abort hi
    · cases h
  | advance i =>
    simp only [step] at h
    split at h
    · cases h
    · cases h
    case h_3 hi =>
      cases h
      exact .start hi
    case h_4 c next held pending rest hi =>
      cases rest with
      | ret a =>
        cases h
        exact .commit hi
      | fail err =>
        cases h
        exact .fail hi
      | lock l k =>
        obtain ⟨hgrant, h⟩ := ite_none_right_eq_some.mp h
        cases h
        exact .lock hi hgrant
      | read k =>
        cases h
        exact .read hi
      | write w k =>
        cases h
        exact .write hi

/-- Only a commit changes the database: a statement that waits, fails or is aborted leaves no
trace. -/
theorem step_db (h : step prog cfg ev = some cfg') :
    cfg'.db = cfg.db ∧ cfg'.log = cfg.log ∨
      ∃ e, cfg'.log = e :: cfg.log ∧ e.before = cfg.db ∧ e.after = cfg'.db := by
  cases Config.step_of_eq_some h with
  | commit => exact .inr ⟨_, rfl, rfl, rfl⟩
  | _ => exact .inl ⟨rfl, rfl⟩

/-- Every configuration a schedule passes through before one of its events satisfies `P`. -/
def Along (prog : C → Txn D Row E α) (P : Config D Row E C α → Prop) :
    Config D Row E C α → List (Event C E α) → Prop
  | _, [] => True
  | cfg, e :: es => P cfg ∧ ∀ cfg' ∈ step prog cfg e, Along prog P cfg' es

/-- The invariant rule for schedules along which `P` holds. -/
theorem run_invariant_along {P Q : Config D Row E C α → Prop}
    (hstep : ∀ cfg e cfg', P cfg → Q cfg → step prog cfg e = some cfg' → Q cfg')
    {cfg cfg' : Config D Row E C α} {es : List (Event C E α)} (hP : Along prog P cfg es)
    (h₀ : Q cfg) (h : run prog cfg es = some cfg') : Q cfg' := by
  induction es generalizing cfg with
  | nil =>
    simp only [run, some.injEq] at h
    exact h ▸ h₀
  | cons e es ih =>
    simp only [run, bind_eq_some_iff] at h
    obtain ⟨cfg₁, h₁, h₂⟩ := h
    exact ih (hP.2 cfg₁ h₁) (hstep cfg e cfg₁ hP.1 h₀ h₁) h₂

theorem Along.of_forall {P} (hP : ∀ cfg, P cfg)
    (cfg : Config D Row E C α) (es : List (Event C E α)) : Along prog P cfg es := by
  induction es generalizing cfg with
  | nil => trivial
  | cons e es ih => exact ⟨hP cfg, fun cfg' _ => ih cfg'⟩

theorem Along.mono {P Q} (hPQ : ∀ cfg, P cfg → Q cfg)
    {cfg es} (h : Along prog P cfg es) :
    Along prog Q cfg es := by
  induction es generalizing cfg with
  | nil => trivial
  | cons e es ih => exact ⟨hPQ cfg h.1, fun cfg' hcfg' => ih (h.2 cfg' hcfg')⟩

theorem run_append (start : Config D Row E C α) (es es' : List (Event C E α)) :
    run prog start (es ++ es') = (run prog start es).bind fun mid => run prog mid es' := by
  induction es generalizing start with
  | nil => rfl
  | cons ev es ih =>
    rw [cons_append, run, run, bind_assoc]
    exact congrArg _ (funext ih)

end Steps

/-! ## Serial runs -/

section Serial

variable {D Row E C α : Type} (prog : C → Txn D Row E α) (R : C → Rely D Row)

/-- The commit is one run of its command's program from the database before it. -/
def Commit.Valid (e : Commit D Row C α) : Prop :=
  (prog e.cmd).Commits (R e.cmd) [] e.before e.reply e.held e.after

/-- The commits of the log, newest first, lead from `d₀` to `d`, each from the database
that the one before it left. -/
def Serial (d₀ : D) : List (Commit D Row C α) → D → Prop
  | [], d => d = d₀
  | e :: log, d => d = e.after ∧ e.Valid prog R ∧ Serial d₀ log e.before

variable {prog R} {d₀ d : D} {log : List (Commit D Row C α)}

/-- Induction along a serial run, for what relates the database to the commits that led to it. -/
theorem Serial.history {P : List (Commit D Row C α) → D → Prop} (h : Serial prog R d₀ log d)
    (h₀ : P [] d₀)
    (hstep : ∀ (e : Commit D Row C α) (older : List (Commit D Row C α)), e.Valid prog R →
      P older e.before → P (e :: older) e.after) : P log d := by
  induction log generalizing d with
  | nil => exact (show d = d₀ from h) ▸ h₀
  | cons e log ih =>
    obtain ⟨rfl, hv, hs⟩ := h
    exact hstep e log hv (ih hs)

/-- The invariant rule for serial runs: what holds at the start and is kept by every commit
holds at the end. -/
theorem Serial.invariant {P : D → Prop} (h : Serial prog R d₀ log d) (h₀ : P d₀)
    (hstep : ∀ e : Commit D Row C α, e.Valid prog R → P e.before → P e.after) : P d :=
  h.history (P := fun _ => P) h₀ fun e _ => hstep e

/-- The older part of a serial log is a serial log itself. -/
theorem Serial.split {newer older} {e : Commit D Row C α}
    (h : Serial prog R d₀ (newer ++ e :: older) d) :
    Serial prog R e.after newer d ∧ e.Valid prog R ∧ Serial prog R d₀ older e.before := by
  induction newer generalizing d with
  | nil =>
    obtain ⟨rfl, hv, hs⟩ := h
    exact ⟨rfl, hv, hs⟩
  | cons e' newer ih =>
    obtain ⟨rfl, hv, hs⟩ := h
    obtain ⟨h₁, h₂, h₃⟩ := ih hs
    exact ⟨⟨rfl, hv, h₁⟩, h₂, h₃⟩

/-- Every commit of a serial log is a run of its program. -/
theorem Serial.valid (h : Serial prog R d₀ log d) {e : Commit D Row C α} (he : e ∈ log) :
    e.Valid prog R := by
  obtain ⟨newer, older, rfl⟩ := append_of_mem he
  exact h.split.2.1

end Serial

/-! ## The interleaving theorem -/

section Interleaving

variable {D Row E C α : Type}

/-- What the programs of a system have to satisfy: their writes are guarded, and a commit
keeps the invariant and stays within the rely of every session whose locks do not conflict
with those of the commit, and whose command may overlap with the committed one. -/
structure Protocol (prog : C → Txn D Row E α) (R : C → Rely D Row) (Overlap : C → C → Prop)
    (Inv : D → Prop) : Prop where
  guarded : ∀ c, (prog c).Guarded (R c) [] fun _ _ => True
  inv : ∀ c d a held d', (prog c).Commits (R c) [] d a held d' → Inv d → Inv d'
  guarantee : ∀ c d a held d', (prog c).Commits (R c) [] d a held d' → Inv d →
    ∀ c' held', Overlap c c' → Compatible held held' → (R c').rel held' d d'

/-- The command a session is running. -/
def Session.command : Session D Row E C α → Option C
  | .idle _ => none
  | .running c _ _ _ _ => some c

/-- Any two transactions that are running at the same time may overlap. -/
def Config.Admits (Overlap : C → C → Prop) (cfg : Config D Row E C α) : Prop :=
  ∀ (i j : Nat) (s t : Session D Row E C α), i ≠ j → cfg.sessions[i]? = some s →
    cfg.sessions[j]? = some t → ∀ c ∈ s.command, ∀ c' ∈ t.command, Overlap c c'

/-- A session alone overlaps with nobody. -/
theorem Config.admits_of_length_le_one {Overlap} {cfg : Config D Row E C α}
    (h : cfg.sessions.length ≤ 1) : cfg.Admits Overlap := by
  intro i j s t hij hi hj
  have hilt := (List.getElem?_eq_some_iff.mp hi).1
  have hjlt := (List.getElem?_eq_some_iff.mp hj).1
  omega

variable (prog : C → Txn D Row E α) (R : C → Rely D Row)

/-- A running transaction can still be taken as one that starts only now: whatever the rest
of it can do on the database as it is, or as the rely lets it become, the whole program can
do from the start. -/
def Session.Restartable (db : D) : Session D Row E C α → Prop
  | .idle _ => True
  | .running c _ held pending rest =>
    (R c).Safe held pending ∧ rest.Guarded (R c) held (fun _ _ => True) ∧
    ∀ db', (R c).rel held db db' → ∀ a held' d',
      rest.Commits (R c) held (pending db') a held' d' →
        (prog c).Commits (R c) [] db' a held' d'

/-- The invariant of the interleaving: every session is restartable, the locks of different
sessions are compatible, and the log is serial. -/
structure Config.Sound (d₀ : D) (cfg : Config D Row E C α) : Prop where
  restartable : ∀ (i : Nat) (s : Session D Row E C α), cfg.sessions[i]? = some s →
    s.Restartable prog R cfg.db
  compatible : ∀ (i j : Nat) (s t : Session D Row E C α), i ≠ j →
    cfg.sessions[i]? = some s → cfg.sessions[j]? = some t → Compatible s.held t.held
  serial : Serial prog R d₀ cfg.log cfg.db

variable {prog R}

variable {cfg : Config D Row E C α} {d₀ : D} {i : Nat}

/-- Commits of others that respect what a session relies on leave it restartable. -/
theorem Session.Restartable.rely {s : Session D Row E C α} {db db'}
    (h : s.Restartable prog R db) (hR : ∀ c ∈ s.command, (R c).rel s.held db db') :
    s.Restartable prog R db' := by
  cases s with
  | idle client => trivial
  | running c next held pending rest =>
    have hc : (R c).rel held db db' := hR c rfl
    exact ⟨h.1, h.2.1, fun db'' h' => h.2.2 db'' ((R c).trans held db db' db'' hc h')⟩

/-- Replacing one session by a sound one that is compatible with all others. -/
theorem Config.Sound.setSession (h : cfg.Sound prog R d₀) {s : Session D Row E C α}
    (hs : s.Restartable prog R cfg.db)
    (hc : ∀ (j : Nat) (t : Session D Row E C α), j ≠ i → cfg.sessions[j]? = some t →
      Compatible s.held t.held) :
    (cfg.setSession i s).Sound prog R d₀ where
  restartable j t hj := by
    simp only [Config.setSession, getElem?_set] at hj
    split at hj
    · split at hj
      · exact (some.inj hj) ▸ hs
      · cases hj
    · exact h.restartable j t hj
  compatible j k t u hjk hj hk := by
    simp only [Config.setSession, getElem?_set] at hj hk
    split at hj
    case isTrue hij =>
      rw [if_neg (fun hik => hjk (hij.symm.trans hik))] at hk
      split at hj
      · exact (some.inj hj) ▸ hc k u (fun hki => hjk (hij.symm.trans hki.symm)) hk
      · cases hj
    case isFalse hij =>
      split at hk
      case isTrue hik =>
        split at hk
        · exact (some.inj hk) ▸ (hc j t (fun hji => hij hji.symm) hj).symm
        · cases hk
      case isFalse hik => exact h.compatible j k t u hjk hj hk
  serial := h.serial

/-- A session whose locks are among those it held before stays compatible with the others. -/
theorem Config.Sound.compatible_of_subset (h : cfg.Sound prog R d₀) {s s' : Session D Row E C α}
    (hi : cfg.sessions[i]? = some s) (hle : s'.held ⊆ s.held) :
    ∀ (j : Nat) (t : Session D Row E C α), j ≠ i → cfg.sessions[j]? = some t →
      Compatible s'.held t.held :=
  fun j t hj ht a ha b hb => h.compatible i j s t hj.symm hi ht a (hle ha) b hb

variable {Overlap : C → C → Prop} {Inv : D → Prop}

/-- The commit step: the log grows by one run of the program, and the other sessions stay
restartable because the commit respects what they rely on. -/
theorem Config.Sound.commit (hprog : Protocol prog R Overlap Inv) (hadmission : cfg.Admits Overlap)
    (h : cfg.Sound prog R d₀) (hinv : Inv cfg.db) {c next held pending a}
    (hi : cfg.sessions[i]? = some (.running c next held pending (.ret a))) :
    Config.Sound prog R d₀
      { db := pending cfg.db
        sessions := cfg.sessions.set i (.idle (next (.committed a)))
        log := ⟨c, a, held, cfg.db, pending cfg.db⟩ :: cfg.log } := by
  have hrun : (prog c).Commits (R c) [] cfg.db a held (pending cfg.db) :=
    (h.restartable i _ hi).2.2 cfg.db ((R c).refl _ _) a held _ ⟨rfl, rfl, rfl⟩
  have hset := h.setSession (i := i) (s := .idle (next (.committed a))) trivial
    (h.compatible_of_subset hi (nil_subset _))
  refine ⟨fun j t hj => ?_, hset.compatible, ⟨rfl, hrun, h.serial⟩⟩
  -- The other sessions see the commit through the rely of their own commands and locks.
  refine (hset.restartable j t hj).rely fun c' hc' => ?_
  simp only [getElem?_set] at hj
  split at hj
  case isTrue =>
    split at hj
    · rw [← some.inj hj] at hc'
      cases hc'
    · cases hj
  case isFalse hij =>
    exact hprog.guarantee c _ a held _ hrun hinv c' t.held
      (hadmission i j _ t hij hi hj c rfl c' hc') (h.compatible i j _ t hij hi hj)

theorem Config.Sound.connect (h : cfg.Sound prog R d₀) (client : Client C E α) :
    Config.Sound prog R d₀ { cfg with sessions := cfg.sessions ++ [.idle client] } := by
  -- A session of the longer list is an old one, or the new idle one.
  have hcases : ∀ (i : Nat) (s : Session D Row E C α),
      (cfg.sessions ++ [Session.idle client])[i]? = some s →
        cfg.sessions[i]? = some s ∨ s = .idle client := by
    intro i s hi
    rw [getElem?_append] at hi
    split at hi
    · exact Or.inl hi
    · exact Or.inr (by simpa using mem_of_getElem? hi)
  refine ⟨fun i s hi => ?_, fun i j s t hij hi hj => ?_, h.serial⟩
  · rcases hcases i s hi with hi | rfl
    · exact h.restartable i s hi
    · trivial
  · rcases hcases i s hi with hi | rfl
    · rcases hcases j t hj with hj | rfl
      · exact h.compatible i j s t hij hi hj
      · exact (Compatible.nil_left _).symm
    · exact Compatible.nil_left _

variable [DecidableEq Row]

theorem Config.Sound.step (hprog : Protocol prog R Overlap Inv) {cfg' : Config D Row E C α}
    {e} (hadmission : cfg.Admits Overlap) (h : cfg.Sound prog R d₀)
    (hinv : Inv cfg.db) (hs : ReadCommitted.step prog cfg e = some cfg') :
    cfg'.Sound prog R d₀ := by
  cases Config.step_of_eq_some hs with
  | connect client => exact h.connect client
  | commit hi => exact h.commit hprog hadmission hinv hi
  | fail hi | abort hi =>
    exact h.setSession trivial (h.compatible_of_subset hi (nil_subset _))
  | start hi =>
    exact h.setSession ⟨fun _ _ _ _ hR => hR, hprog.guarded _, fun _ _ _ _ _ hk => hk⟩
      (h.compatible_of_subset hi (List.Subset.refl _))
  | @lock i c next held pending l k hi hgrant =>
    obtain ⟨hsafe, hguard, hrestart⟩ := h.restartable i _ hi
    have hle : held ⊆ l :: held := subset_cons_self l held
    refine h.setSession ⟨hsafe.mono hle, hguard, fun db' hR a held' d' hk => ?_⟩ ?_
    · exact hrestart db' ((R c).weaken _ _ _ _ hle hR) a held' d' hk
    · intro j t hj ht a ha b hb
      rcases mem_cons.mp ha with rfl | ha
      · have hjlt : j < cfg.sessions.length := (List.getElem?_eq_some_iff.mp ht).1
        exact hgrant j hjlt hj b (by simpa [ht] using hb)
      · exact h.compatible i j _ t hj.symm hi ht a ha b hb
  | @read i c next held pending k hi =>
    obtain ⟨hsafe, hguard, hrestart⟩ := h.restartable i _ hi
    refine h.setSession ⟨hsafe, hguard _, fun db' hR a held' d' hk => ?_⟩
      (h.compatible_of_subset hi (List.Subset.refl _))
    -- The value read now is one the rely still allows at `db'`.
    have hview := hsafe held (List.Subset.refl _) cfg.db db' hR
    exact hrestart db' hR a held' d' ⟨pending cfg.db, hview, hk⟩
  | @write i c next held pending w k hi =>
    obtain ⟨hsafe, hguard, hrestart⟩ := h.restartable i _ hi
    refine h.setSession ⟨fun held' hle d d' hR => ?_, hguard.2,
      fun db' hR a held' d' hk => hrestart db' hR a held' d' hk⟩
      (h.compatible_of_subset hi (List.Subset.refl _))
    exact hguard.1 held' hle _ _ (hsafe held' hle d d' hR)

/-- **Commits are serial.** In every interleaving of any clients in which only transactions
overlap that may, the committed database is the result of the commits in their order, each a
run of its program from the database that the commit before it left. -/
theorem Protocol.sound (hprog : Protocol prog R Overlap Inv) (h₀ : Inv d₀) {es : List (Event C E α)}
    (hadmission : Along prog (Config.Admits Overlap) (Config.initial d₀) es)
    (h : run prog (Config.initial d₀) es = some cfg) : cfg.Sound prog R d₀ := by
  have hinv : ∀ cfg : Config D Row E C α, cfg.Sound prog R d₀ → Inv cfg.db := fun cfg hs =>
    hs.serial.invariant h₀ fun e hv hb => hprog.inv _ _ _ _ _ hv hb
  refine run_invariant_along (Q := Config.Sound prog R d₀)
    (fun cfg e cfg' hP hs he => hs.step hprog hP (hinv cfg hs) he) hadmission ?_ h
  exact ⟨by simp [Config.initial], by simp [Config.initial], rfl⟩

/-- Where any two transactions may overlap, nothing is asked of the schedule. -/
theorem Protocol.serial (hprog : Protocol prog R (fun _ _ => True) Inv) (h₀ : Inv d₀)
    {es} (h : run prog (Config.initial d₀) es = some cfg) :
    Serial prog R d₀ cfg.log cfg.db :=
  (hprog.sound h₀ (Along.of_forall (fun _ _ _ _ _ _ _ _ _ _ _ _ => trivial) _ es) h).serial

/-- A step of a session leaves the number of sessions as it is. -/
theorem step_advance_length {cfg' : Config D Row E C α}
    (h : step prog cfg (.advance i) = some cfg') :
    cfg'.sessions.length = cfg.sessions.length := by
  cases Config.step_of_eq_some h with
  | _ => simp [Config.setSession]

/-- One client alone meets every condition on what may overlap. -/
theorem along_single {Overlap} (d : D) (client : Client C E α) (n : Nat) :
    Along prog (Config.Admits Overlap) (Config.initial d)
      (.connect client :: replicate n (.advance 0)) := by
  have hadvance : ∀ (n : Nat) (cfg : Config D Row E C α), cfg.sessions.length ≤ 1 →
      Along prog (Config.Admits Overlap) cfg (replicate n (.advance 0)) := by
    intro n
    induction n with
    | zero => exact fun _ _ => trivial
    | succ n ih =>
      intro cfg hlength
      refine ⟨Config.admits_of_length_le_one hlength, fun cfg' hcfg' => ih cfg' ?_⟩
      rw [step_advance_length hcfg']
      exact hlength
  refine ⟨Config.admits_of_length_le_one (Nat.zero_le _), fun cfg' hcfg' => hadvance n cfg' ?_⟩
  cases hcfg'
  exact Nat.le_refl _

end Interleaving

end ReadCommitted
