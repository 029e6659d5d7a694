import Pactline.Results.Idempotency

/-!
# Retries of finished requests

Once the row of a key is completed, it stays as it is to the end of the retention period, and every
identical request that reaches the store is answered with the stored response (`Replays`). So what
matters is that a successful request completes its row before it is finished. It does not if the
client goes away while the handler runs, which cancels the context that the completion uses; nor if
the response has no body, which the table does not accept (`finished_requests_blocked`).
-/

set_option autoImplicit false

namespace Pactline.Idempotency

open ReadCommitted Option List

variable {n : Nat} {q : Request}

section Completed

variable {m : Middleware} {k : Key} {first : Time} {calm : Prop} {vs : List Visitor}
  {s : ServerMoment} {holder : Option Nat} {i : Nat} {e : Entry} {r : Record}
  {next : Outcome Empty Reply → RequestClient}

/-- Nobody holds a key whose row is completed. -/
theorem KeyState.of_completed (h : KeyState m k first calm vs s holder) (hr : s.db k = some r)
    (hstate : r.state ≠ .processing) : holder = none := by
  cases h with
  | free | orphaned | completed => rfl
  | executing _ _ hrow | concluding _ _ hrow =>
    rw [hrow, some.injEq] at hr
    subst hr
    exact absurd rfl hstate

theorem Holds.settled_of_completed (h : Holds m k first calm vs s) (hr : s.db k = some r)
    (hstate : r.state ≠ .processing) {client} (hi : s.clients[i]? = some client) :
    ∃ v, vs[i]? = some v ∧ Settled m k first vs s.log i v client := by
  have hlt : i < s.clients.length := (List.getElem?_eq_some_iff.mp hi).1
  obtain ⟨v, hv⟩ : ∃ v, vs[i]? = some v := ⟨_, getElem?_eq_getElem (h.length ▸ hlt)⟩
  obtain ⟨holder, hkey, hsettled⟩ := h.state
  obtain rfl := hkey.of_completed hr hstate
  exact ⟨v, hv, hsettled i v client hv hi nofun⟩

/-- A claim finds a row that has not expired. -/
theorem claim_finds {requestHash now expiresAt}
    (hcmd : e.cmd = .claim n k requestHash now expiresAt) (hbefore : e.before = s.db)
    (hvalid : e.Valid prog (cmdRely k)) (hr : s.db k = some r) (hlasts : now < r.expiresAt) :
    e.after k = some r ∧ e.reply = .claimed (.ok (r.claim requestHash)) := by
  rw [Commit.Valid, hcmd, hbefore] at hvalid
  obtain ⟨result, hreply, hcommits⟩ := Txn.commits_of_bind_pure hvalid
  rcases claim_commits hcommits with ⟨-, -, hacquires⟩ | ⟨hsame, ⟨hnone, -⟩ | ⟨r', hr', -, rfl⟩⟩
  · exact absurd (hacquires.free r hr) (Nat.not_le.mpr hlasts)
  · rw [hr] at hnone
    cases hnone
  · rw [hr, some.injEq] at hr'
    subst hr'
    exact ⟨by rw [hsame, hr], hreply⟩

/-- A completed row stays. -/
theorem Holds.row_of_completed (h : Holds m k first calm vs s) (hr : s.db k = some r)
    (hstate : r.state ≠ .processing) (hlasts : first + retention ≤ r.expiresAt)
    (hi : s.clients[i]? = some (.call e.cmd next)) (hbefore : e.before = s.db)
    (hvalid : e.Valid prog (cmdRely k)) : e.after k = some r := by
  obtain ⟨v, hv, hmine⟩ := h.settled_of_completed hr hstate hi
  have hanswer : ∀ {n : Nat} {q : Request} {a : Answer}, e.cmd = .answer n q a →
      e.after k = some r := by
    intro n q a hcmd
    rw [Commit.Valid, hcmd] at hvalid
    rw [hvalid.2.2, hbefore, hr]
  generalize hcall : Client.call e.cmd next = client at hmine
  cases hmine with
  | waiting hkey =>
    obtain ⟨requestHash, hadmission⟩ := Middleware.keyOf_eq_some.mp hkey
    rcases m.wrap_eq_call hadmission hcall.symm with ⟨-, hcmd, -⟩ | ⟨hcmd, -⟩
    · exact hanswer hcmd
    · have hnow := (h.window _ (mem_of_getElem? hv) hkey).2
      exact (claim_finds hcmd hbefore hvalid hr (Nat.lt_of_lt_of_le hnow hlasts)).1
  | answering => exact hanswer (answer_eq_call hcall.symm).1
  | foreign honly =>
    subst hcall
    rcases honly.1.row hvalid with hrow | ⟨r', hr', hexpired, -⟩
    · rw [hrow, hbefore, hr]
    · rw [hbefore, hr, some.injEq] at hr'
      subst hr'
      exact absurd hexpired (Nat.not_lt.mpr hlasts)

/-- Requests with the key give their own answers. -/
theorem Holds.answer_of_completed (h : Holds m k first calm vs s) (hr : s.db k = some r)
    (hstate : r.state ≠ .processing) {a}
    (hi : s.clients[i]? = some (.call (.answer n q a) next)) (hkey : m.keyOf q = some k) :
    n = i := by
  obtain ⟨v, hv, hmine⟩ := h.settled_of_completed hr hstate hi
  generalize hcall : Client.call _ next = client at hmine
  cases hmine with
  | waiting hkey' =>
    obtain ⟨requestHash, hadmission⟩ := Middleware.keyOf_eq_some.mp hkey'
    rcases m.wrap_eq_call hadmission hcall.symm with ⟨-, hcmd, -⟩ | ⟨hcmd, -⟩
    · exact (Cmd.answer.inj hcmd).1
    · cases hcmd
  | answering => exact (Cmd.answer.inj (answer_eq_call hcall.symm).1).1
  | foreign honly =>
    subst hcall
    exact absurd hkey honly.1

end Completed

/-! ## After the completion -/

/-- The request repeats `p`, and its claim returns. -/
structure Middleware.Retries (m : Middleware) (p q : Request) : Prop where
  same : m.admission q = m.admission p
  returns : q.fate .claim = .returns

/-- The row is completed with the response, and who repeats the request later is answered
with it. -/
structure Replays (m : Middleware) (k : Key) (first : Time) (p : Request)
    (response : StoredResponse) (r : Record) (seen : Nat) (vs : List Visitor) (s : ServerMoment) :
    Prop where
  holds : Holds m k first True vs s
  row : s.db k = some r
  arrived : seen ≤ vs.length
  retries : ∀ (j : Nat) (q : Request) (client : RequestClient), seen ≤ j →
    vs[j]? = some (.request q) → s.clients[j]? = some client → m.Retries p q →
      client = m.wrap j q ∨ client = answer j q (.replayed response) ∨ client = .stop
  answers : ∀ e ∈ s.log, ∀ j q a, e.cmd = .answer j q a → seen ≤ j → m.Retries p q →
    a = .replayed response

section Replays

variable {m : Middleware} {k : Key} {first : Time} {p : Request} {response : StoredResponse}
  {r : Record} {seen : Nat} {vs : List Visitor} {s : ServerMoment} {i : Nat} {e : Entry}
  {next : Outcome Empty Reply → RequestClient}

/-- A request that arrives has not been answered. -/
theorem Replays.arrive {v} (h : Replays m k first p response r seen vs s)
    (hv : m.Within k first (.arrive v)) :
    Replays m k first p response r seen (vs ++ [v])
      { s with clients := s.clients ++ [m.serve vs.length v] } := by
  refine ⟨h.holds.arrive hv, h.row, ?_, fun j q client hj hq hclient hretries => ?_, h.answers⟩
  · rw [length_append]
    exact Nat.le_add_right_of_le h.arrived
  · by_cases hlt : j < vs.length
    · rw [getElem?_append_left hlt] at hq
      rw [getElem?_append_left (h.holds.length ▸ hlt)] at hclient
      exact h.retries j q client hj hq hclient hretries
    · -- The new one is the last of both lists.
      have hj' : j = vs.length := by
        have := (List.getElem?_eq_some_iff.mp hq).1
        rw [length_append, length_singleton] at this
        omega
      subst hj'
      rw [getElem?_concat_length, some.injEq] at hq
      rw [← h.holds.length, getElem?_concat_length, some.injEq] at hclient
      rw [← hclient, h.holds.length, hq]
      exact .inl rfl

section Commit

variable (hadmission : m.admission p = .admitted k r.requestHash)
  (hreplay : r.claim r.requestHash = .replay response) (hstate : r.state ≠ .processing)
  (hlasts : first + retention ≤ r.expiresAt)
include hadmission hreplay hlasts

/-- A retry goes on: its claim finds the stored response, and its answer is that. -/
theorem Replays.retry_next (h : Replays m k first p response r seen vs s) (hseen : seen ≤ i)
    (hq : vs[i]? = some (.request q)) (hretries : m.Retries p q)
    (hi : s.clients[i]? = some (.call e.cmd next)) (hbefore : e.before = s.db)
    (hvalid : e.Valid prog (cmdRely k)) :
    (∀ q' a, e.cmd = .answer i q' a → a = .replayed response) ∧
      (next (.committed e.reply) = answer i q (.replayed response) ∨
        next (.committed e.reply) = .stop) := by
  have hsame := hretries.same.trans hadmission
  rcases h.retries i q _ hseen hq hi hretries with hwrap | hanswer | hstop
  · rcases m.wrap_eq_call hsame hwrap.symm with ⟨hunsent, -⟩ | ⟨hcmd, -, hnext⟩
    · rw [hretries.returns] at hunsent
      cases hunsent
    · have hkey : m.keyOf q = some k := Middleware.keyOf_eq_some.mpr ⟨_, hsame⟩
      have hnow := (h.holds.window q (mem_of_getElem? hq) hkey).2
      obtain ⟨-, hreply⟩ := claim_finds hcmd hbefore hvalid h.row
        (Nat.lt_of_lt_of_le hnow hlasts)
      refine ⟨fun q' a heq => ?_, .inl ?_⟩
      · rw [hcmd] at heq
        cases heq
      · rcases hnext with ⟨hlost, -⟩ | hnext
        · rw [hretries.returns] at hlost
          cases hlost
        · rw [hnext, hreply, hreplay]
          rfl
  · obtain ⟨hcmd, hnext⟩ := answer_eq_call hanswer.symm
    refine ⟨fun q' a heq => ?_, .inr (hnext _)⟩
    rw [hcmd] at heq
    exact (Cmd.answer.inj heq).2.2.symm
  · cases hstop

include hstate

/-- A commit leaves the completed row alone and answers with it. -/
theorem Replays.commit (h : Replays m k first p response r seen vs s)
    (hi : s.clients[i]? = some (.call e.cmd next)) (hbefore : e.before = s.db)
    (hvalid : e.Valid prog (cmdRely k)) :
    Replays m k first p response r seen vs (s.commit i e (next (.committed e.reply))) := by
  have hlt := (List.getElem?_eq_some_iff.mp hi).1
  refine ⟨h.holds.commit hi hbefore hvalid,
    h.holds.row_of_completed h.row hstate hlasts hi hbefore hvalid, h.arrived, ?_, ?_⟩
  · intro j q client hj hq hclient hretries
    by_cases hij : i = j
    · subst hij
      rw [Moment.commit, getElem?_set_self hlt, some.injEq] at hclient
      subst hclient
      exact .inr (h.retry_next hadmission hreplay hlasts hj hq hretries hi hbefore hvalid).2
    · rw [Moment.commit, getElem?_set_ne hij] at hclient
      exact h.retries j q client hj hq hclient hretries
  · intro e' he' j q a hcmd hj hretries
    rcases mem_cons.mp he' with rfl | hold
    · have hkey : m.keyOf q = some k :=
        Middleware.keyOf_eq_some.mpr ⟨_, hretries.same.trans hadmission⟩
      obtain rfl := h.holds.answer_of_completed h.row hstate (hcmd ▸ hi) hkey
      have hq := ((h.holds.commit hi hbefore hvalid).answers _ mem_cons_self j q a hcmd hkey).1
      exact (h.retry_next hadmission hreplay hlasts hj hq hretries hi hbefore hvalid).1 q a hcmd
    · exact h.answers e' hold j q a hcmd hj hretries

/-- So every visit keeps the replies. -/
theorem Replays.keeps (seen : Nat) :
    Visit.Keeps m.serve prog (cmdRely k)
      (fun x => m.Within k first x ∧ ∀ i, x ≠ .abort i) (Replays m k first p response r seen) where
  arrive _ _ _ hv h := h.arrive hv.1
  commit _ _ _ _ _ hi hbefore hvalid h :=
    h.commit hadmission hreplay hstate hlasts hi hbefore hvalid
  fail _ _ _ _ _ err := nomatch err
  abort _ _ i _ _ hallowed _ _ := absurd rfl (hallowed.2 i)

end Commit

end Replays

/-! ## Finished requests -/

section Finished

variable {m : Middleware} {k : Key} {first : Time} {vs : List Visitor} {s : ServerMoment}
  {p : Request} {w : CapturedResponse}

theorem row_ne_none (hbody : w.body ≠ []) (hstatus : 100 ≤ w.statusCode)
    (hsuccess : w.statusCode < 500) (requestId : String) :
    (w.storedResponse requestId).row ≠ none := by
  have hupper : w.statusCode ≤ 599 := by omega
  simp [CapturedResponse.storedResponse, StoredResponse.row, hbody, hstatus, hupper]

theorem row_state_ne_processing {response : StoredResponse} {state}
    (h : response.row = some state) : state ≠ .processing := by
  unfold StoredResponse.row at h
  split at h
  · cases h
  · rw [ite_none_right_eq_some, some.injEq] at h
    rw [← h.2]
    nofun

theorem Middleware.statusCode_of_mem_successes {x : Execution} {log}
    (h : x ∈ m.successes k log) : x.response.statusCode < 500 := by
  obtain ⟨e, -, hx⟩ := mem_filterMap.mp h
  unfold Middleware.success at hx
  split at hx
  · rw [ite_none_right_eq_some, map_eq_some_iff] at hx
    obtain ⟨-, w, hw, rfl⟩ := hx
    unfold Request.success at hw
    split at hw
    · cases hw
    · rw [ite_none_right_eq_some, some.injEq] at hw
      exact hw.2 ▸ hw.1
  · cases hx

/-- A successful request that is finished has completed its row, if it could. -/
theorem Holds.completed_of_finished (h : Holds m k first True vs s)
    (hran : ⟨n, p, w⟩ ∈ m.successes k s.log) (hfinished : s.clients[n]? = some .stop)
    (hkept : Execution.Kept ⟨n, p, w⟩) :
    ∃ requestHash state, Belongs m k vs s.log n p requestHash ∧
      (w.storedResponse p.requestId).row = some state ∧
      s.db k = some { p.record requestHash with state } := by
  obtain ⟨holder, hstate, -⟩ := h.state
  cases hstate with
  | free _ hsuccesses | executing _ _ _ hsuccesses =>
    rw [hsuccesses] at hran
    cases hran
  | @concluding n' q requestHash hof hclient hrow _ hsuccesses =>
    -- The holder still has its row to complete.
    rw [hsuccesses, mem_toList, map_eq_some_iff] at hran
    obtain ⟨w', hw', heq⟩ := hran
    obtain ⟨rfl, rfl, rfl⟩ := Execution.mk.inj heq
    rw [hclient, some.injEq] at hfinished
    unfold Request.success at hw'
    split at hw'
    · cases hw'
    case h_2 w'' houtcome =>
      rw [ite_none_right_eq_some, some.injEq] at hw'
      obtain ⟨hlt, rfl⟩ := hw'
      have hreturns : q.fate .complete = .returns := hkept.1
      rw [houtcome, conclude, if_neg (Nat.not_le.mpr hlt), hreturns] at hfinished
      cases hfinished
  | orphaned _ _ _ hexcused => exact absurd hkept (hexcused _ hran trivial)
  | @completed x requestHash state hof hstored hrow hsuccesses =>
    rw [hsuccesses, mem_singleton] at hran
    subst hran
    exact ⟨requestHash, state, hof, hstored, hrow⟩

end Finished

section Retries

variable {m : Middleware} {k : Key}

/-- A request whose handler ended below 500, whose completion returned and whose response has a
body: once it is finished, every identical request that comes within the retention period, and whose
claim returns, is answered with the stored response. -/
theorem finished_requests_replayed {d : Records} {visits later : Visits} {mid cfg : ServerConfig}
    {first : Time} {n : Nat} {p : Request} {w : CapturedResponse}
    (hrow : ∀ r, d k = some r → r.expiresAt ≤ first)
    (hvisits : ∀ x ∈ visits ++ later, m.Within k first x)
    (hup : ∀ i, .abort i ∉ visits ++ later)
    (hmid : m.run d visits = some mid) (h : m.run d (visits ++ later) = some cfg)
    (hran : ⟨n, p, w⟩ ∈ m.successes k mid.log) (hfinished : mid.sessions[n]? = some (.idle .stop))
    (hreturns : p.fate .complete = .returns) (hbody : w.body ≠ [])
    (hstatus : 100 ≤ w.statusCode) :
    ∀ e ∈ cfg.log, ∀ j q a, e.cmd = .answer j q a → (Visit.arrivals visits).length ≤ j →
      m.admission q = m.admission p → q.fate .claim = .returns →
        a = .replayed (w.storedResponse p.requestId) := by
  have hwithin : ∀ x ∈ visits, m.Within k first x :=
    fun x hx => hvisits x (mem_append_left later hx)
  obtain ⟨hsound, hholds⟩ := m.holds_of_run True hrow hwithin
    (fun _ i hi => hup i (mem_append_left later hi)) hmid
  have hlt : w.statusCode < 500 := m.statusCode_of_mem_successes hran
  have hclient : mid.moment.clients[n]? = some .stop := Config.moment_client hfinished
  obtain ⟨requestHash, state, hof, hstored, hcompleted⟩ :=
    hholds.completed_of_finished hran hclient ⟨hreturns, row_ne_none hbody hstatus hlt _⟩
  have hfirst := (hholds.window p (mem_of_getElem? hof.visitor) hof.keyOf).1
  -- From here on the row stays.
  have hstart : Replays m k first p (w.storedResponse p.requestId)
      { p.record requestHash with state } (Visit.arrivals visits).length (Visit.arrivals visits)
      mid.moment := by
    refine ⟨hholds, hcompleted, Nat.le_refl _, fun j q _ hj hq => ?_,
      fun e he j q a hcmd hj hq => ?_⟩
    · exact absurd (List.getElem?_eq_some_iff.mp hq).1 (Nat.not_lt.mpr hj)
    · have hkey : m.keyOf q = some k :=
        Middleware.keyOf_eq_some.mpr ⟨_, hq.same.trans hof.admitted⟩
      have hvisitor := (hholds.answers e he j q a hcmd hkey).1
      exact absurd (List.getElem?_eq_some_iff.mp hvisitor).1 (Nat.not_lt.mpr hj)
  have hkeeps := Replays.keeps hof.admitted
    (Record.claim_eq_replay hstored requestHash (p.now + retention))
    (row_state_ne_processing hstored) (Nat.add_le_add_right hfirst retention)
    (Visit.arrivals visits).length
  have hrest : run prog mid (Visit.events m.serve (Visit.arrivals visits).length later) =
      some cfg := by
    rw [Middleware.run, Visit.events_append, run_append, bind_eq_some_iff] at h
    obtain ⟨mid', hmid', hrest⟩ := h
    rw [Middleware.run, hmid', some.injEq] at hmid
    rw [Nat.zero_add] at hrest
    exact hmid ▸ hrest
  have hend := ((protocol k).visits trivial hkeeps (fun _ _ hr => hr.holds.admits)
    (fun x hx => ⟨hvisits x (mem_append_right visits hx),
      fun i heq => hup i (heq ▸ mem_append_right visits hx)⟩) hsound hstart hrest).2
  exact fun e he j q a hcmd hj hsame hclaim => hend.answers e he j q a hcmd hj ⟨hsame, hclaim⟩

end Retries

/-- The client goes away while the handler runs, so the completion does not reach the database. -/
def cancelledRequest : Request :=
  { archiveRequest 0x31 "r1" 5 (some []) with
    fate := fun call => if call = .complete then .unsent else .returns }

/-- The handler has nothing to say but that it is done. -/
def emptyRequest : Request :=
  { archiveRequest 0x31 "r1" 5 (some []) with outcome := .responds ⟨[], 204, []⟩ }

/-- There is nothing left to do for the request. -/
def served : Session Records Key Empty Cmd Reply → Bool
  | .idle .stop => true
  | _ => false

/-- The first request has ended below 500 and is finished, and an identical one is told that it is
in progress: after a client that went away, and after a response without a body. -/
theorem finished_requests_blocked :
    (∃ mid cfg, sampleServer.run (fun _ => none)
        (.arrive (.request cancelledRequest) :: replicate 11 (.advance 0)) = some mid ∧
      (sampleServer.successes sampleKey mid.log).map (fun x => (x.n, x.response)) =
        [(0, archived 0x31)] ∧ mid.sessions.map served = [true] ∧
      sampleServer.admission (archiveRequest 0x31 "r2" 6 (some [])) =
        sampleServer.admission cancelledRequest ∧
      sampleServer.run (fun _ => none)
        (twoVisits cancelledRequest 11 (archiveRequest 0x31 "r2" 6 (some [])) 8) = some cfg ∧
      answersOf cfg.log = [(1, .problem requestInProgress), (0, .problem internalError)]) ∧
    (∃ mid cfg, sampleServer.run (fun _ => none)
        (.arrive (.request emptyRequest) :: replicate 15 (.advance 0)) = some mid ∧
      (sampleServer.successes sampleKey mid.log).map (fun x => (x.n, x.response)) =
        [(0, ⟨[], 204, []⟩)] ∧ mid.sessions.map served = [true] ∧
      sampleServer.admission (archiveRequest 0x31 "r2" 6 (some [])) =
        sampleServer.admission emptyRequest ∧
      sampleServer.run (fun _ => none)
        (twoVisits emptyRequest 15 (archiveRequest 0x31 "r2" 6 (some [])) 8) = some cfg ∧
      answersOf cfg.log = [(1, .problem requestInProgress), (0, .problem internalError)]) ∧
    ∀ call, emptyRequest.fate call = .returns := by
  simp only [exists_and_left]
  refine ⟨by decide +kernel, by decide +kernel, fun _ => rfl⟩

/-- A handler runs for a request that has come. -/
theorem Middleware.arrived_of_run {m : Middleware} {d visits}
    {cfg : ServerConfig} (h : m.run d visits = some cfg) :
    ∀ e ∈ cfg.log, ∀ n q, e.cmd = .handle n q → .request q ∈ Visit.arrivals visits := by
  refine Client.Only.run (p := fun c => ∀ n q, c = .handle n q → .request q ∈ Visit.arrivals visits)
    (fun client hclient => ?_) (fun s hs => absurd hs not_mem_nil)
    (fun e he => absurd he not_mem_nil) h
  obtain ⟨n, v, hv, rfl⟩ := Visit.connect_mem_events hclient
  cases v with
  | cleanup before keys => exact ⟨fun _ _ heq => (by cases heq), fun _ => trivial⟩
  | request q =>
    refine m.only_wrap (fun a n' q' heq => ?_) (fun _ n' q' heq => ?_) fun key hash _ => ?_
    · cases heq
    · cases heq
      exact hv
    · exact ⟨fun _ _ _ _ heq => (by cases heq), fun _ _ _ heq => (by cases heq),
        fun _ _ heq => by cases heq⟩

/-- A retry after the first has been served. -/
theorem finished_requests_replayed_retry :
    ∃ cfg, sampleServer.run (fun _ => none)
        ((.arrive (.request (archiveRequest 0x31 "r1" 5 (some []))) ::
            replicate 16 (.advance 0)) ++
          .arrive (.request (archiveRequest 0x31 "r2" 6 (some []))) ::
            replicate 8 (.advance 1)) = some cfg ∧
      (answersOf cfg.log).map Prod.fst = [1, 0] ∧
      ∀ e ∈ cfg.log, ∀ q a, e.cmd = .answer 1 q a →
        sampleServer.admission q = sampleServer.admission (archiveRequest 0x31 "r1" 5 (some [])) →
        q.fate .claim = .returns → a = .replayed ((archived 0x31).storedResponse "r1") := by
  obtain ⟨mid, hmid, hsuccesses, hserved⟩ : ∃ mid, sampleServer.run (fun _ => none)
        (.arrive (.request (archiveRequest 0x31 "r1" 5 (some []))) ::
          replicate 16 (.advance 0)) = some mid ∧
      (sampleServer.successes sampleKey mid.log).map (fun x => (x.n, x.response)) =
        [(0, archived 0x31)] ∧ mid.sessions.map served = [true] := by decide +kernel
  obtain ⟨cfg, hcfg, hanswers⟩ : ∃ cfg, sampleServer.run (fun _ => none)
        (twoVisits (archiveRequest 0x31 "r1" 5 (some [])) 16
          (archiveRequest 0x31 "r2" 6 (some [])) 8) = some cfg ∧
      (answersOf cfg.log).map Prod.fst = [1, 0] := by decide +kernel
  -- The one success is that of the first request.
  obtain ⟨x, hx, hn, hw⟩ : ∃ x ∈ sampleServer.successes sampleKey mid.log,
      x.n = 0 ∧ x.response = archived 0x31 := by
    have hmem : (0, archived 0x31) ∈
        (sampleServer.successes sampleKey mid.log).map (fun x => (x.n, x.response)) := by
      rw [hsuccesses]
      exact mem_singleton_self _
    obtain ⟨x, hx, heq⟩ := mem_map.mp hmem
    exact ⟨x, hx, congrArg Prod.fst heq, congrArg Prod.snd heq⟩
  have hq : x.request = archiveRequest 0x31 "r1" 5 (some []) := by
    obtain ⟨e, he, hcmd⟩ := Middleware.handled_of_mem_successes hx
    have harrived := sampleServer.arrived_of_run hmid e he _ _ hcmd
    have hone : Visitor.request x.request ∈
        [Visitor.request (archiveRequest 0x31 "r1" 5 (some []))] := harrived
    exact Visitor.request.inj (mem_singleton.mp hone)
  have hfinished : mid.sessions[0]? = some (.idle .stop) := by
    obtain ⟨session, hsession, hdone⟩ := map_eq_singleton_iff.mp hserved
    rw [hsession]
    unfold served at hdone
    split at hdone
    · rfl
    · cases hdone
  obtain ⟨n, q, w⟩ := x
  obtain rfl : n = 0 := hn
  obtain rfl : q = _ := hq
  obtain rfl : w = _ := hw
  refine ⟨cfg, hcfg, hanswers, fun e he q a hcmd hsame hclaim => ?_⟩
  have hwithin : ∀ x ∈ twoVisits (archiveRequest 0x31 "r1" 5 (some [])) 16
      (archiveRequest 0x31 "r2" 6 (some [])) 8, sampleServer.Within sampleKey 5 x :=
    within_twoVisits (by decide) (by decide)
  refine finished_requests_replayed (fun r hr => by cases hr) hwithin (fun i hi => ?_) hmid hcfg hx
    hfinished rfl (by decide) (by decide) e he 1 q a hcmd (Nat.le_refl 1) hsame hclaim
  simp at hi

end Pactline.Idempotency
