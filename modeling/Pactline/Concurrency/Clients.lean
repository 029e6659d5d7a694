import Pactline.Concurrency.Interleaving

/-!
# What clients do over several transactions

A client carries what one transaction told it into the next, while the other clients commit in
between. So a fact it has learnt is of use only as long as those commits leave it true.

`Client.Respects` says that every commit of a client satisfies `Q`, as long as the commits of the
others satisfy `Q` too. If all clients that connect respect `Q`, then all commits of the schedule
satisfy it (`Protocol.obeys`). As `Q` may look at the commits before, it can say where the arguments
of a command come from.
-/

set_option autoImplicit false

namespace ReadCommitted

open List

variable {D Row E C α : Type}

/-! ## Logs -/

/-- Every commit satisfies `Q` after the commits before it. -/
def Obeys (Q : List (Commit D Row C α) → Commit D Row C α → Prop) :
    List (Commit D Row C α) → Prop
  | [] => True
  | e :: older => Q older e ∧ Obeys Q older

section Logs

variable {Q : List (Commit D Row C α) → Commit D Row C α → Prop}

theorem Obeys.split {newer older e}
    (h : Obeys Q (newer ++ e :: older)) : Q older e ∧ Obeys Q older := by
  induction newer with
  | nil => exact h
  | cons e' newer ih => exact ih h.2

end Logs

/-- Two serial runs, one after the other. -/
theorem Serial.append {prog : C → Txn D Row E α} {R : C → Rely D Row} {d₀ d₁ d : D}
    {newer older : List (Commit D Row C α)} (h₁ : Serial prog R d₀ older d₁)
    (h₂ : Serial prog R d₁ newer d) : Serial prog R d₀ (newer ++ older) d := by
  induction newer generalizing d with
  | nil => exact (show d = d₁ from h₂) ▸ h₁
  | cons e newer ih =>
    obtain ⟨rfl, hv, hs⟩ := h₂
    exact ⟨rfl, hv, ih hs⟩

/-! ## Clients -/

/-- The client calls only commands that satisfy `p`. -/
def Client.Only (p : C → Prop) : Client C E α → Prop
  | .stop => True
  | .call c next => p c ∧ ∀ outcome, (next outcome).Only p

theorem Client.only_script {p cs} (h : ∀ c ∈ cs, p c) :
    (Client.script cs : Client C E α).Only p := by
  induction cs with
  | nil => trivial
  | cons c cs ih =>
    refine ⟨h c mem_cons_self, fun _ => ih fun c' hc' => ?_⟩
    exact h c' (mem_cons_of_mem c hc')

/-- What a session will still do. -/
def Session.client : Session D Row E C α → Client C E α
  | .idle client => client
  | .running c next _ _ _ => .call c next

section Only

variable {prog : C → Txn D Row E α} {p : C → Prop} [DecidableEq Row]

/-- One step, where all clients and all commits so far keep to `p`. -/
theorem Client.Only.step {cfg cfg' : Config D Row E C α} {e}
    (hclients : ∀ s ∈ cfg.sessions, s.client.Only p) (hlog : ∀ entry ∈ cfg.log, p entry.cmd)
    (hconnect : ∀ client, e = .connect client → client.Only p)
    (hs : ReadCommitted.step prog cfg e = some cfg') :
    (∀ s ∈ cfg'.sessions, s.client.Only p) ∧ ∀ entry ∈ cfg'.log, p entry.cmd := by
  have hset : ∀ i (s' : Session D Row E C α), s'.client.Only p →
      ∀ s ∈ cfg.sessions.set i s', s.client.Only p := by
    intro i s' hs' s hmem
    rcases mem_or_eq_of_mem_set hmem with hold | rfl
    · exact hclients s hold
    · exact hs'
  cases Config.step_of_eq_some hs with
  | connect client =>
    refine ⟨fun s hmem => ?_, hlog⟩
    rcases mem_append.mp hmem with hold | hnew
    · exact hclients s hold
    · rw [mem_singleton.mp hnew]
      exact hconnect client rfl
  | commit hi =>
    have hclient := hclients _ (mem_of_getElem? hi)
    refine ⟨hset _ _ (hclient.2 _), fun entry hentry => ?_⟩
    rcases mem_cons.mp hentry with rfl | hold
    · exact hclient.1
    · exact hlog entry hold
  | fail hi | abort hi => exact ⟨hset _ _ ((hclients _ (mem_of_getElem? hi)).2 _), hlog⟩
  | start hi | lock hi | read hi | write hi =>
    have hclient := hclients _ (mem_of_getElem? hi)
    exact ⟨hset _ _ hclient, hlog⟩

/-- What all clients keep to, all commits keep to. -/
theorem Client.Only.run {es} (hes : ∀ client, .connect client ∈ es →
      client.Only p) {start cfg : Config D Row E C α}
    (hclients : ∀ s ∈ start.sessions, s.client.Only p) (hlog : ∀ e ∈ start.log, p e.cmd)
    (h : ReadCommitted.run prog start es = some cfg) : ∀ e ∈ cfg.log, p e.cmd := by
  induction es generalizing start with
  | nil =>
    simp only [ReadCommitted.run, Option.some.injEq] at h
    exact h ▸ hlog
  | cons ev es ih =>
    simp only [ReadCommitted.run, Option.bind_eq_some_iff] at h
    obtain ⟨mid, hstep, hrest⟩ := h
    obtain ⟨hclients', hlog'⟩ := Client.Only.step hclients hlog
      (fun client heq => hes client (heq ▸ mem_cons_self)) hstep
    exact ih (fun client hmem => hes client (mem_cons_of_mem ev hmem)) hclients' hlog' hrest

end Only

section Respects

variable (prog : C → Txn D Row E α) (R : C → Rely D Row)
  (Q : List (Commit D Row C α) → Commit D Row C α → Prop)

/-- After the commits of `log`, on the database `d`: whatever is committed before its next
command, that command satisfies `Q`, and so do those it calls later. -/
def Client.Respects : Client C E α → List (Commit D Row C α) → D → Prop
  | .stop, _, _ => True
  | .call c next, log, d => ∀ newer d', Serial prog R d newer d' → Obeys Q (newer ++ log) →
      (∀ e : Commit D Row C α, e.cmd = c → e.before = d' → e.Valid prog R →
        Q (newer ++ log) e ∧
          (next (.committed e.reply)).Respects (e :: (newer ++ log)) e.after) ∧
      (∀ err, (next (.failed err)).Respects (newer ++ log) d') ∧
      (next .aborted).Respects (newer ++ log) d'

variable {prog R Q}

/-- Commits of others do not take it away. -/
theorem Client.Respects.extend {client : Client C E α} {log newer : List (Commit D Row C α)}
    {d d' : D} (h : client.Respects prog R Q log d) (hserial : Serial prog R d newer d') :
    client.Respects prog R Q (newer ++ log) d' := by
  cases client with
  | stop => trivial
  | call c next =>
    intro newer' d'' hserial' hobeys
    rw [← append_assoc] at hobeys ⊢
    exact h (newer' ++ newer) d'' (hserial.append hserial') hobeys

/-- A client all of whose commands satisfy `Q` of themselves. -/
theorem Client.Only.respects {p} {client : Client C E α} (h : client.Only p)
    (hQ : ∀ older (e : Commit D Row C α), e.Valid prog R → p e.cmd → Q older e)
    (log : List (Commit D Row C α)) (d : D) : client.Respects prog R Q log d := by
  induction client generalizing log d with
  | stop => trivial
  | call c next ih =>
    intro newer d' _ _
    refine ⟨fun e hc _ hv => ⟨hQ _ e hv (hc ▸ h.1), ?_⟩, fun err => ?_, ?_⟩
    · exact ih _ (h.2 _) _ _
    · exact ih _ (h.2 _) _ _
    · exact ih _ (h.2 _) _ _

/-- A last command. -/
theorem Client.respects_last {c log d}
    (h : ∀ newer (e : Commit D Row C α), Serial prog R d newer e.before → e.Valid prog R →
      e.cmd = c → Q (newer ++ log) e) :
    (Client.call c fun _ => (.stop : Client C E α)).Respects prog R Q log d := by
  intro newer d' hserial _
  refine ⟨fun e hc hd hv => ⟨h newer e (hd ▸ hserial) hv hc, trivial⟩, fun _ => trivial, trivial⟩

/-- A command that satisfies `Q` of itself, after which the client goes on only if it has
committed. -/
theorem Client.respects_expect {c next log d}
    (hQ : ∀ older (e : Commit D Row C α), e.Valid prog R → e.cmd = c → Q older e)
    (hfail : ∀ err, next (.failed err) = .stop) (habort : next .aborted = .stop)
    (hcommit : ∀ newer (e : Commit D Row C α), Serial prog R d (e :: newer) e.after →
      e.Valid prog R → e.cmd = c →
      (next (.committed e.reply)).Respects prog R Q (e :: (newer ++ log)) e.after) :
    (Client.call c next).Respects prog R Q log d := by
  intro newer d' hserial _
  refine ⟨fun e hc hd hv => ⟨hQ _ e hv hc, hcommit newer e ⟨rfl, hv, hd ▸ hserial⟩ hv hc⟩,
    fun err => ?_, ?_⟩
  · rw [hfail]
    trivial
  · rw [habort]
    trivial

/-- Every session respects `Q` from here on. -/
def Config.Respects (prog : C → Txn D Row E α) (R : C → Rely D Row)
    (Q : List (Commit D Row C α) → Commit D Row C α → Prop) (cfg : Config D Row E C α) : Prop :=
  Obeys Q cfg.log ∧ ∀ (i : Nat) (s : Session D Row E C α), cfg.sessions[i]? = some s →
    s.client.Respects prog R Q cfg.log cfg.db

theorem Config.Respects.setSession {cfg : Config D Row E C α} (h : cfg.Respects prog R Q) {i}
    {s : Session D Row E C α} (hs : s.client.Respects prog R Q cfg.log cfg.db) :
    (cfg.setSession i s).Respects prog R Q := by
  refine ⟨h.1, fun j t hj => ?_⟩
  simp only [Config.setSession, getElem?_set] at hj
  split at hj
  · split at hj
    · exact (Option.some.inj hj) ▸ hs
    · cases hj
  · exact h.2 j t hj

theorem Config.Respects.connect {cfg : Config D Row E C α} (h : cfg.Respects prog R Q)
    {client : Client C E α} (hc : client.Respects prog R Q cfg.log cfg.db) :
    Config.Respects prog R Q { cfg with sessions := cfg.sessions ++ [.idle client] } := by
  refine ⟨h.1, fun i s hi => ?_⟩
  rw [getElem?_append] at hi
  split at hi
  · exact h.2 i s hi
  · have heq : s = .idle client := by simpa using mem_of_getElem? hi
    subst heq
    exact hc

variable {Inv : D → Prop} [DecidableEq Row]

theorem Config.Respects.step {d₀} {cfg cfg' : Config D Row E C α} {e}
    (hsound : cfg.Sound prog R d₀) (h : cfg.Respects prog R Q)
    (hconnect : ∀ client, e = .connect client → client.Respects prog R Q cfg.log cfg.db)
    (hs : ReadCommitted.step prog cfg e = some cfg') : cfg'.Respects prog R Q := by
  cases Config.step_of_eq_some hs with
  | connect client => exact h.connect (hconnect client rfl)
  | start hi | lock hi | read hi | write hi =>
    have hclient := h.2 _ _ hi
    exact h.setSession hclient
  | fail hi => exact h.setSession ((h.2 _ _ hi [] cfg.db rfl h.1).2.1 _)
  | abort hi => exact h.setSession (h.2 _ _ hi [] cfg.db rfl h.1).2.2
  | @commit i c next held pending a hi =>
    have hrun : (prog c).Commits (R c) [] cfg.db a held (pending cfg.db) :=
      (hsound.restartable i _ hi).2.2 cfg.db ((R c).refl _ _) a held _ ⟨rfl, rfl, rfl⟩
    obtain ⟨hQ, hnext⟩ := (h.2 i _ hi [] cfg.db rfl h.1).1
      ⟨c, a, held, cfg.db, pending cfg.db⟩ rfl rfl hrun
    refine ⟨⟨hQ, h.1⟩, fun j t hj => ?_⟩
    simp only [getElem?_set] at hj
    split at hj
    · split at hj
      · exact (Option.some.inj hj) ▸ hnext
      · cases hj
    · -- The others see one more commit.
      exact (h.2 j t hj).extend
        (show Serial prog R cfg.db [⟨c, a, held, cfg.db, pending cfg.db⟩] _ from
          ⟨rfl, hrun, rfl⟩)

/-- **Commits obey.** If every client that connects respects `Q` from whatever history it finds,
then every commit of the schedule satisfies `Q`. -/
theorem Protocol.obeys (hprog : Protocol prog R (fun _ _ => True) Inv) {d₀} (h₀ : Inv d₀)
    {es} {cfg : Config D Row E C α}
    (hclients : ∀ client, .connect client ∈ es → ∀ log d, Serial prog R d₀ log d →
      Obeys Q log → client.Respects prog R Q log d)
    (h : run prog (Config.initial d₀) es = some cfg) : Obeys Q cfg.log := by
  -- The invariant along the schedule, from any configuration that has it.
  have hrun : ∀ (es : List (Event C E α)) (start : Config D Row E C α),
      (∀ client, .connect client ∈ es → ∀ log d, Serial prog R d₀ log d → Obeys Q log →
        client.Respects prog R Q log d) →
      start.Sound prog R d₀ → start.Respects prog R Q → run prog start es = some cfg →
      Obeys Q cfg.log := by
    intro es
    induction es with
    | nil =>
      intro start _ _ hrespects hend
      simp only [run, Option.some.injEq] at hend
      exact hend ▸ hrespects.1
    | cons e es ih =>
      intro start hclients hsound hrespects hend
      simp only [run, Option.bind_eq_some_iff] at hend
      obtain ⟨mid, hstep, hrest⟩ := hend
      have hinv : Inv start.db :=
        hsound.serial.invariant h₀ fun e hv hb => hprog.inv _ _ _ _ _ hv hb
      refine ih mid (fun client hmem => hclients client (mem_cons_of_mem e hmem)) ?_ ?_ hrest
      · exact hsound.step hprog (fun _ _ _ _ _ _ _ _ _ _ _ => trivial) hinv hstep
      · refine hrespects.step hsound (fun client heq => ?_) hstep
        exact hclients client (heq ▸ mem_cons_self) start.log start.db hsound.serial
          hrespects.1
  refine hrun es (Config.initial d₀) hclients ?_ ?_ h
  · exact ⟨by simp [Config.initial], by simp [Config.initial], rfl⟩
  · exact ⟨trivial, by simp [Config.initial]⟩

end Respects

end ReadCommitted
