import Pactline.Analysis.IdempotencyStore

/-!
# One key

What holds of one idempotency key as long as all requests with it come within the retention period
of the first. The row of the key says who is at work: there is none that has not expired and nobody
has been successful, or it belongs to the request that runs its handler or is about to conclude (the
holder), or it is left in processing by a request that is gone, or it is completed with the response
of the one successful execution (`KeyState`).

`Middleware.holds_of_run` is the result for every run.
-/

set_option autoImplicit false

namespace Pactline.Idempotency

open ReadCommitted Function Client Option List

variable {vs' : List Visitor} {fate : Fate} {proceed : Reply → RequestClient} {fail : RequestClient}
  {first : Time} {r : Record}

variable {m : Middleware} {q : Request} {k : Key} {log' log : List Entry} {vs : List Visitor}
  {n : Nat} {a : Answer} {c : Cmd} {v : Visitor} {client' : RequestClient}
  {next : Outcome Empty Reply → RequestClient} {requestHash : Bytes}

/-! ## Executions -/

/-- The key under which the middleware works on a request. -/
def Middleware.keyOf (m : Middleware) (q : Request) : Option Key :=
  match m.admission q with
  | .admitted key _ => some key
  | _ => none

theorem Middleware.keyOf_eq_some :
    m.keyOf q = some k ↔ ∃ requestHash, m.admission q = .admitted k requestHash := by
  unfold Middleware.keyOf
  cases m.admission q <;> simp

/-- The response of a handler that ends without a panic and below 500. -/
def Request.success (q : Request) : Option CapturedResponse :=
  match q.outcome with
  | .panics => none
  | .responds w => if w.statusCode < 500 then some w else none

/-- A successful run of the handler. -/
structure Execution where
  n : Nat
  request : Request
  response : CapturedResponse

/-- What the table is to keep of it. -/
def Execution.stored (x : Execution) : StoredResponse :=
  x.response.storedResponse x.request.requestId

/-- The response can be stored: the completion returns, and the table accepts it. -/
def Execution.Kept (x : Execution) : Prop :=
  x.request.fate .complete = .returns ∧ x.stored.row ≠ none

def Middleware.success (m : Middleware) (k : Key) (e : Entry) : Option Execution :=
  match e.cmd with
  | .handle n q => if m.keyOf q = some k then q.success.map fun w => ⟨n, q, w⟩ else none
  | _ => none

/-- The successful executions of requests with the key, newest first. -/
def Middleware.successes (m : Middleware) (k : Key) (log : List Entry) : List Execution :=
  log.filterMap (m.success k)

section Successes

variable {e : Entry}

theorem Middleware.successes_cons :
    m.successes k (e :: log) = (m.success k e).toList ++ m.successes k log := by
  rw [Middleware.successes, filterMap_cons]
  cases m.success k e <;> rfl

theorem Middleware.successes_cons_of_none (h : m.success k e = none) :
    m.successes k (e :: log) = m.successes k log := by
  rw [Middleware.successes_cons, h]
  rfl

theorem Middleware.mem_successes_mono (hlog : log ⊆ log') {x}
    (h : x ∈ m.successes k log) : x ∈ m.successes k log' := by
  obtain ⟨e, he, hx⟩ := mem_filterMap.mp h
  exact mem_filterMap.mpr ⟨e, hlog he, hx⟩

/-- A success is a run of the handler. -/
theorem Middleware.handled_of_mem_successes {x : Execution} (h : x ∈ m.successes k log) :
    ∃ e ∈ log, e.cmd = .handle x.n x.request := by
  obtain ⟨e, he, hx⟩ := mem_filterMap.mp h
  refine ⟨e, he, ?_⟩
  unfold Middleware.success at hx
  split at hx
  case h_1 n q hcmd =>
    rw [ite_none_right_eq_some] at hx
    obtain ⟨w, -, rfl⟩ := map_eq_some_iff.mp hx.2
    exact hcmd
  case h_2 => cases hx

end Successes

/-- The answers that requests with the key get: their own, that of another request with the same
hash, and those that name no response. -/
inductive Accounted (m : Middleware) (k : Key) (vs : List Visitor) (log : List Entry) (n : Nat)
    (q : Request) : Answer → Prop
  | executed {w} (h : ⟨n, q, w⟩ ∈ m.successes k log) :
      Accounted m k vs log n q (.written w)
  | failed {w : CapturedResponse} (hran : ∃ e ∈ log, e.cmd = .handle n q) (h : 500 ≤ w.statusCode) :
      Accounted m k vs log n q (.written w)
  | replayed {x : Execution} (hx : x ∈ m.successes k log) (hother : x.n ≠ n)
      (hvisitor : vs[x.n]? = some (.request x.request))
      (hsame : m.admission x.request = m.admission q) :
      Accounted m k vs log n q (.replayed x.stored)
  | inProgress {j p} (hother : j ≠ n) (hvisitor : vs[j]? = some (.request p))
      (hsame : m.admission p = m.admission q) :
      Accounted m k vs log n q (.problem requestInProgress)
  | reused : Accounted m k vs log n q (.problem keyReused)
  | error : Accounted m k vs log n q (.problem internalError)

theorem Accounted.mono (h : Accounted m k vs log n q a)
    (hvs : ∀ (n : Nat) v, vs[n]? = some v → vs'[n]? = some v) (hlog : log ⊆ log') :
    Accounted m k vs' log' n q a := by
  cases h with
  | executed h => exact .executed (Middleware.mem_successes_mono hlog h)
  | failed hran h =>
    obtain ⟨e, he, hcmd⟩ := hran
    exact .failed ⟨e, hlog he, hcmd⟩ h
  | replayed hx hother hvisitor hsame =>
    exact .replayed (Middleware.mem_successes_mono hlog hx) hother (hvs _ _ hvisitor) hsame
  | inProgress hother hvisitor hsame => exact .inProgress hother (hvs _ _ hvisitor) hsame
  | reused => exact .reused
  | error => exact .error

theorem Accounted.cons (h : Accounted m k vs log n q a) (e : Entry) :
    Accounted m k vs (e :: log) n q a :=
  h.mono (fun _ _ hv => hv) (subset_cons_self e log)

/-! ## The commands of a request -/

section Only

variable {p : Cmd → Prop} {key : Key}

theorem only_callStore (hc : p c) (hproceed : ∀ reply, (proceed reply).Only p)
    (hfail : fail.Only p) :
    (callStore fate c proceed fail).Only p := by
  cases fate with
  | unsent => exact hfail
  | lost => exact ⟨hc, fun _ => hfail⟩
  | returns =>
    refine ⟨hc, fun outcome => ?_⟩
    cases outcome with
    | committed reply => exact hproceed reply
    | failed => exact hfail
    | aborted => exact hfail

theorem only_answer (hanswer : ∀ a, p (.answer n q a)) (a : Answer) : (answer n q a).Only p :=
  ⟨hanswer a, fun _ => trivial⟩

theorem only_conclude (hanswer : ∀ a, p (.answer n q a))
    (hcomplete : ∀ response, p (.complete n key response)) (hrelease : p (.release n key))
    (outcome : HandlerOutcome) : (conclude n q key outcome).Only p := by
  cases outcome with
  | panics => exact only_callStore hrelease (fun _ => trivial) trivial
  | responds =>
    rw [conclude]
    split
    · exact only_callStore hrelease (fun _ => only_answer hanswer _) (only_answer hanswer _)
    · refine only_callStore (hcomplete _) (fun reply => ?_) (only_answer hanswer _)
      split
      · exact only_answer hanswer _
      · exact only_answer hanswer _

theorem only_afterClaim (hanswer : ∀ a, p (.answer n q a)) (hexecute : (execute n q key).Only p)
    (reply : Reply) : (afterClaim n q key reply).Only p := by
  unfold afterClaim
  split
  · exact hexecute
  · exact only_answer hanswer _
  · exact only_answer hanswer _
  · exact only_answer hanswer _
  · exact only_answer hanswer _

/-- A request calls the store with its own key, runs its own handler and gives its own answer. -/
theorem Middleware.only_wrap (hanswer : ∀ a, p (.answer n q a))
    (hhandle : (∀ problem, m.admission q ≠ .refused problem) → p (.handle n q))
    (hstore : ∀ key requestHash, m.admission q = .admitted key requestHash →
      (∀ now expiresAt, p (.claim n key requestHash now expiresAt)) ∧
        (∀ response, p (.complete n key response)) ∧ p (.release n key)) : (m.wrap n q).Only p := by
  unfold Middleware.wrap
  split
  case h_1 hpasses =>
    refine ⟨hhandle (by rw [hpasses]; nofun), fun outcome => ?_⟩
    cases outcome with
    | committed =>
      dsimp only
      split
      · trivial
      · exact only_answer hanswer _
    | failed => trivial
    | aborted => trivial
  case h_2 => exact only_answer hanswer _
  case h_3 key requestHash hadmission =>
    obtain ⟨hclaim, hcomplete, hrelease⟩ := hstore key requestHash hadmission
    refine only_callStore (hclaim _ _) (only_afterClaim hanswer ?_) (only_answer hanswer _)
    refine ⟨hhandle (by rw [hadmission]; nofun), fun outcome => ?_⟩
    cases outcome with
    | committed => exact only_conclude hanswer hcomplete hrelease _
    | failed => trivial
    | aborted => trivial

end Only

/-! ## Others -/

/-- Commands that leave the row of the key alone, as long as it has not expired, and do not come
from a request with the key. -/
def Middleware.Foreign (m : Middleware) (k : Key) (first : Time) : Cmd → Prop
  | .claim _ key _ _ _ | .complete _ key _ | .release _ key => key ≠ k
  | .deleteIdempotencyBefore before _ => before ≤ first + retention
  | .handle _ q | .answer _ q _ => m.keyOf q ≠ some k

section Foreign

/-- A request with another key, or without one, is no matter of this key. -/
theorem Middleware.foreign_wrap (hkey : m.keyOf q ≠ some k) :
    (m.wrap n q).Only (m.Foreign k first) := by
  refine m.only_wrap (fun _ => hkey) (fun _ => hkey) fun key requestHash hadmission => ?_
  have hne : key ≠ k := by
    rintro rfl
    exact hkey (Middleware.keyOf_eq_some.mpr ⟨requestHash, hadmission⟩)
  exact ⟨fun _ _ => hne, fun _ => hne, hne⟩

variable {e : Entry}

theorem Middleware.Foreign.success (h : m.Foreign k first e.cmd) : m.success k e = none := by
  unfold Middleware.success
  split
  case h_1 n q hcmd =>
    rw [hcmd] at h
    exact if_neg h
  case h_2 => rfl

/-- Others leave the row as it is, or remove it when it has expired. -/
theorem Middleware.Foreign.row (h : m.Foreign k first e.cmd) (hvalid : e.Valid prog (cmdRely k)) :
    e.after k = e.before k ∨
      ∃ r, e.before k = some r ∧ r.expiresAt < first + retention ∧ e.after k = none := by
  unfold Commit.Valid at hvalid
  generalize e.cmd = c at h hvalid
  cases c with
  | claim =>
    obtain ⟨result, -, hcommits⟩ := Txn.commits_of_bind_pure hvalid
    rcases claim_commits hcommits with ⟨-, -, hacquires⟩ | ⟨hsame, -⟩
    · rw [hacquires.after]
      exact .inl (update_of_ne (Ne.symm h) _ _)
    · exact .inl (congrFun hsame k)
  | complete =>
    obtain ⟨result, -, hcommits⟩ := Txn.commits_of_bind_pure hvalid
    obtain ⟨-, ⟨-, r, state, -, -, -, hafter⟩ | ⟨hsame, -⟩⟩ := complete_commits hcommits
    · rw [hafter]
      exact .inl (update_of_ne (Ne.symm h) _ _)
    · exact .inl (congrFun hsame k)
  | release =>
    obtain ⟨_, -, hcommits⟩ := Txn.commits_of_bind_pure hvalid
    rw [(release_commits hcommits).2]
    exact .inl (update_of_ne (Ne.symm h) _ _)
  | deleteIdempotencyBefore before =>
    obtain ⟨_, -, hcommits⟩ := Txn.commits_of_bind_pure hvalid
    rw [(deleteIdempotencyBefore_commits hcommits).2]
    dsimp only
    split
    · cases hr : e.before k with
      | none => exact .inl rfl
      | some r =>
        rw [filter_some]
        split
        case isTrue => exact .inl rfl
        case isFalse hexpired =>
          refine .inr ⟨r, rfl, ?_, rfl⟩
          have hlt : r.expiresAt < before := by simpa using hexpired
          exact Nat.lt_of_lt_of_le hlt h
    · exact .inl rfl
  | handle | answer => exact .inl (congrFun hvalid.2.2 k)

end Foreign

/-! ## The row and its holder -/

abbrev ServerMoment := Moment Records Key Empty Cmd Reply

/-- Visitor `n` is a request with the key and this hash, and has claimed the key. -/
structure Belongs (m : Middleware) (k : Key) (vs : List Visitor) (log : List Entry) (n : Nat)
    (q : Request) (requestHash : Bytes) : Prop where
  visitor : vs[n]? = some (.request q)
  admitted : m.admission q = .admitted k requestHash
  claimed : ∃ e ∈ log, ∃ requestHash now expiresAt, e.cmd = .claim n k requestHash now expiresAt

/-- Visitor `n` has not claimed the key yet. -/
def Unclaimed (k : Key) (log : List Entry) (n : Nat) : Prop :=
  ∀ e ∈ log, ∀ requestHash now expiresAt, e.cmd ≠ .claim n k requestHash now expiresAt

section Belongs

theorem Belongs.keyOf (h : Belongs m k vs log n q requestHash) : m.keyOf q = some k :=
  Middleware.keyOf_eq_some.mpr ⟨requestHash, h.admitted⟩

theorem Belongs.mono (h : Belongs m k vs log n q requestHash)
    (hvs : ∀ (n : Nat) v, vs[n]? = some v → vs'[n]? = some v) (hlog : log ⊆ log') :
    Belongs m k vs' log' n q requestHash := by
  obtain ⟨e, he, hcmd⟩ := h.claimed
  exact ⟨hvs _ _ h.visitor, h.admitted, e, hlog he, hcmd⟩

/-- A row belongs to another than those who have not claimed yet. -/
theorem Belongs.ne (h : Belongs m k vs log n q requestHash) {i} (hi : Unclaimed k log i) :
    n ≠ i := by
  rintro rfl
  obtain ⟨e, he, hash, now, expiresAt, hcmd⟩ := h.claimed
  exact hi e he hash now expiresAt hcmd

end Belongs

/-- The row a request makes when it claims its key. -/
def Request.record (q : Request) (requestHash : Bytes) : Record :=
  ⟨requestHash, .processing, q.now + retention⟩

theorem Request.record_claim (q : Request) (requestHash : Bytes) :
    (q.record requestHash).claim requestHash = .inProgress := by
  simp [Request.record, Record.claim]

/-- The state of a key, and the number of the request that holds it. A row is left in processing
although the handler was successful only if its response could not be stored; or, where it is not
calm, because a transaction was aborted. -/
inductive KeyState (m : Middleware) (k : Key) (first : Time) (calm : Prop) (vs : List Visitor)
    (s : ServerMoment) : Option Nat → Prop
  | free (hrow : ∀ r, s.db k = some r → r.expiresAt ≤ first)
      (hsuccesses : m.successes k s.log = []) : KeyState m k first calm vs s none
  | executing {n : Nat} {q : Request} {requestHash : Bytes}
      (hof : Belongs m k vs s.log n q requestHash) (hclient : s.clients[n]? = some (execute n q k))
      (hrow : s.db k = some (q.record requestHash)) (hsuccesses : m.successes k s.log = []) :
      KeyState m k first calm vs s (some n)
  | concluding {n : Nat} {q : Request} {requestHash : Bytes}
      (hof : Belongs m k vs s.log n q requestHash)
      (hclient : s.clients[n]? = some (conclude n q k q.outcome))
      (hrow : s.db k = some (q.record requestHash)) (hran : ∃ e ∈ s.log, e.cmd = .handle n q)
      (hsuccesses : m.successes k s.log = (q.success.map fun w => ⟨n, q, w⟩).toList) :
      KeyState m k first calm vs s (some n)
  | orphaned {n : Nat} {q : Request} {requestHash : Bytes}
      (hof : Belongs m k vs s.log n q requestHash)
      (hrow : s.db k = some (q.record requestHash)) (hone : (m.successes k s.log).length ≤ 1)
      (hexcused : ∀ x ∈ m.successes k s.log, calm → ¬ x.Kept) : KeyState m k first calm vs s none
  | completed {x : Execution} {requestHash state}
      (hof : Belongs m k vs s.log x.n x.request requestHash) (hstate : x.stored.row = some state)
      (hrow : s.db k = some { x.request.record requestHash with state })
      (hsuccesses : m.successes k s.log = [x]) : KeyState m k first calm vs s none

/-- Who does not hold the key: a request that waits for its claim, one that has only its answer
left, and those that have nothing to do with the key. -/
inductive Settled (m : Middleware) (k : Key) (first : Time) (vs : List Visitor) (log : List Entry)
    (n : Nat) : Visitor → RequestClient → Prop
  | waiting {q : Request} (hkey : m.keyOf q = some k) (hunclaimed : Unclaimed k log n) :
      Settled m k first vs log n (.request q) (m.wrap n q)
  | answering {q : Request} {a : Answer} (hkey : m.keyOf q = some k)
      (haccounted : Accounted m k vs log n q a) :
      Settled m k first vs log n (.request q) (answer n q a)
  | foreign {v : Visitor} {client : RequestClient} (h : client.Only (m.Foreign k first)) :
      Settled m k first vs log n v client

theorem Settled.stop : Settled m k first vs log n v .stop :=
  .foreign trivial

theorem Settled.mono {client} (h : Settled m k first vs log n v client)
    (hvs : ∀ (n : Nat) v, vs[n]? = some v → vs'[n]? = some v) (hlog : log ⊆ log')
    (hunclaimed : Unclaimed k log n → Unclaimed k log' n) :
    Settled m k first vs' log' n v client := by
  cases h with
  | waiting hkey hfresh => exact .waiting hkey (hunclaimed hfresh)
  | answering hkey haccounted => exact .answering hkey (haccounted.mono hvs hlog)
  | foreign h => exact .foreign h

/-- The invariant of a key. -/
structure Holds (m : Middleware) (k : Key) (first : Time) (calm : Prop) (vs : List Visitor)
    (s : ServerMoment) : Prop where
  length : s.clients.length = vs.length
  window : ∀ q, Visitor.request q ∈ vs → m.keyOf q = some k →
    first ≤ q.now ∧ q.now < first + retention
  state : ∃ holder, KeyState m k first calm vs s holder ∧ ∀ (n : Nat) (v : Visitor)
    (client : RequestClient), vs[n]? = some v → s.clients[n]? = some client → holder ≠ some n →
      Settled m k first vs s.log n v client
  claims : ∀ e ∈ s.log, ∀ n requestHash now expiresAt,
    e.cmd = .claim n k requestHash now expiresAt → n < vs.length
  answers : ∀ e ∈ s.log, ∀ n q a, e.cmd = .answer n q a → m.keyOf q = some k →
    vs[n]? = some (.request q) ∧ Accounted m k vs s.log n q a

/-- All but the holder are settled. -/
def OthersSettled (m : Middleware) (k : Key) (first : Time) (vs : List Visitor) (s : ServerMoment)
    (holder : Option Nat) : Prop :=
  ∀ (n : Nat) (v : Visitor) (client : RequestClient), vs[n]? = some v →
    s.clients[n]? = some client → holder ≠ some n → Settled m k first vs s.log n v client

section Steps

variable {calm : Prop} {s s' : ServerMoment} {holder holder' : Option Nat} {i : Nat}

/-- The state of the key looks at its row, at the successes and at its holder. -/
theorem KeyState.congr (h : KeyState m k first calm vs s holder)
    (hvs : ∀ (n : Nat) v, vs[n]? = some v → vs'[n]? = some v) (hlog : s.log ⊆ s'.log)
    (hrow : s'.db k = s.db k) (hsuccesses : m.successes k s'.log = m.successes k s.log)
    (hclient : ∀ n, holder = some n → ∀ client, s.clients[n]? = some client →
      s'.clients[n]? = some client) : KeyState m k first calm vs' s' holder := by
  cases h with
  | free hexpired hempty =>
    exact .free (fun r hr => hexpired r (hrow ▸ hr)) (hsuccesses.trans hempty)
  | executing hof hat hmine hempty =>
    exact .executing (hof.mono hvs hlog) (hclient _ rfl _ hat) (hrow.trans hmine)
      (hsuccesses.trans hempty)
  | concluding hof hat hmine hran hmade =>
    obtain ⟨e, he, hcmd⟩ := hran
    exact .concluding (hof.mono hvs hlog) (hclient _ rfl _ hat) (hrow.trans hmine)
      ⟨e, hlog he, hcmd⟩ (hsuccesses.trans hmade)
  | orphaned hof hleft hone hexcused =>
    rw [← hsuccesses] at hone hexcused
    exact .orphaned (hof.mono hvs hlog) (hrow.trans hleft) hone hexcused
  | completed hof hstate hdone hmade =>
    exact .completed (hof.mono hvs hlog) hstate (hrow.trans hdone) (hsuccesses.trans hmade)

theorem length_toList_le_one {α : Type} (x : Option α) : x.toList.length ≤ 1 := by
  cases x <;> simp

/-- Whatever the state, at most one execution was successful. -/
theorem KeyState.length_successes (h : KeyState m k first calm vs s holder) :
    (m.successes k s.log).length ≤ 1 := by
  cases h with
  | free _ hsuccesses | executing _ _ _ hsuccesses =>
    rw [hsuccesses]
    exact Nat.zero_le 1
  | concluding _ _ _ _ hsuccesses =>
    rw [hsuccesses]
    exact length_toList_le_one _
  | orphaned _ _ hone => exact hone
  | completed _ _ _ hsuccesses =>
    rw [hsuccesses]
    exact Nat.le_refl 1

/-- The retention period is not over. -/
theorem KeyState.lasts (h : KeyState m k first calm vs s holder)
    (hwindow : ∀ q, Visitor.request q ∈ vs → m.keyOf q = some k →
      first ≤ q.now ∧ q.now < first + retention) (hr : s.db k = some r)
    (hexpired : r.expiresAt < first + retention) :
    r.expiresAt ≤ first ∧ m.successes k s.log = [] ∧ holder = none := by
  have hmine : ∀ {n : Nat} {q : Request} {requestHash : Bytes},
      Belongs m k vs s.log n q requestHash → ¬ q.now + retention < first + retention := by
    intro n q requestHash hof
    have hfirst := (hwindow q (mem_of_getElem? hof.visitor) hof.keyOf).1
    exact Nat.not_lt.mpr (Nat.add_le_add_right hfirst retention)
  cases h with
  | free hrow hsuccesses => exact ⟨hrow r hr, hsuccesses, rfl⟩
  | executing hof _ hrow | concluding hof _ hrow | orphaned hof hrow | completed hof _ hrow =>
    rw [hrow, some.injEq] at hr
    subst hr
    exact absurd hexpired (hmine hof)

theorem KeyState.of_none (h : KeyState m k first calm vs s holder) (hnone : s.db k = none) :
    m.successes k s.log = [] ∧ holder = none := by
  cases h with
  | free _ hsuccesses => exact ⟨hsuccesses, rfl⟩
  | executing _ _ hrow | concluding _ _ hrow | orphaned _ hrow | completed _ _ hrow =>
    rw [hnone] at hrow
    cases hrow

/-- The others stay as they were when client `i` goes on. -/
theorem OthersSettled.set (hsettled : OthersSettled m k first vs s holder)
    (hclients : s'.clients = s.clients.set i client') (hlog : s.log ⊆ s'.log)
    (hunclaimed : ∀ n, n ≠ i → Unclaimed k s.log n → Unclaimed k s'.log n)
    (hothers : ∀ n, n ≠ i → holder' ≠ some n → holder ≠ some n)
    (hi : ∀ v, vs[i]? = some v → holder' ≠ some i → Settled m k first vs s'.log i v client') :
    OthersSettled m k first vs s' holder' := by
  intro n v client hv hclient hne
  rw [hclients, getElem?_set] at hclient
  split at hclient
  case isTrue hin =>
    subst hin
    split at hclient
    · rw [some.injEq] at hclient
      exact hclient ▸ hi v hv hne
    · cases hclient
  case isFalse hin =>
    have hni : n ≠ i := fun heq => hin heq.symm
    exact (hsettled n v client hv hclient (hothers n hni hne)).mono (fun _ _ h => h) hlog
      (hunclaimed n hni)

/-! ### What a request does next -/

theorem callStore_eq_call {c'} (h : callStore fate c proceed fail = .call c' next) :
    fate = .unsent ∧ fail = .call c' next ∨ c' = c ∧ next .aborted = fail ∧
      (fate = .lost ∧ (∀ reply, next (.committed reply) = fail) ∨
        ∀ reply, next (.committed reply) = proceed reply) := by
  cases fate with
  | unsent => exact .inl ⟨rfl, h⟩
  | lost =>
    obtain ⟨rfl, rfl⟩ := call.inj h
    exact .inr ⟨rfl, rfl, .inl ⟨rfl, fun _ => rfl⟩⟩
  | returns =>
    obtain ⟨rfl, rfl⟩ := call.inj h
    exact .inr ⟨rfl, rfl, .inr fun _ => rfl⟩

/-- The next command of a request that has run its handler: it releases the key after a failure,
completes it after a success, or answers because it cannot reach the store. -/
theorem conclude_eq_call (m : Middleware) (vs : List Visitor) (log : List Entry)
    (h : conclude n q k q.outcome = .call c next) :
    (c = .release n k ∧ q.success = none ∧ ∀ outcome, outcome = .aborted ∨
        (∃ reply, outcome = .committed reply) → next outcome = .stop ∨
          ∃ w : CapturedResponse, 500 ≤ w.statusCode ∧ next outcome = answer n q (.written w)) ∨
      (∃ w, q.success = some w ∧ c = .complete n k (w.storedResponse q.requestId) ∧
        next .aborted = answer n q (.problem internalError) ∧ ∀ reply,
          next (.committed reply) = answer n q (.problem internalError) ∨
            reply = .completed (.ok ()) ∧ next (.committed reply) = answer n q (.written w)) ∨
      ∃ a, c = .answer n q a ∧ (∀ outcome, next outcome = .stop) ∧
        ((∃ e ∈ log, e.cmd = .handle n q) → Accounted m k vs log n q a) ∧
        ∀ w, q.success = some w → q.fate .complete = .unsent := by
  cases houtcome : q.outcome with
  | panics =>
    have hnone : q.success = none := by rw [Request.success, houtcome]
    rw [houtcome, conclude] at h
    rcases callStore_eq_call h with ⟨-, hstop⟩ | ⟨rfl, haborted, hnext⟩
    · cases hstop
    · refine .inl ⟨rfl, hnone, fun outcome ho => .inl ?_⟩
      rcases ho with rfl | ⟨reply, rfl⟩
      · exact haborted
      · exact hnext.elim (fun hnext => hnext.2 reply) fun hnext => hnext reply
  | responds w =>
    rw [houtcome, conclude] at h
    split at h
    case isTrue hstatus =>
      have hnone : q.success = none := by
        rw [Request.success, houtcome]
        exact if_neg (by omega)
      rcases callStore_eq_call h with ⟨-, hanswer⟩ | ⟨rfl, haborted, hnext⟩
      · obtain ⟨rfl, rfl⟩ := call.inj hanswer
        refine .inr (.inr ⟨_, rfl, fun _ => rfl, fun hran => .failed hran hstatus,
          fun w' hw' => ?_⟩)
        rw [hnone] at hw'
        cases hw'
      · refine .inl ⟨rfl, hnone, fun outcome ho => .inr ⟨w, hstatus, ?_⟩⟩
        rcases ho with rfl | ⟨reply, rfl⟩
        · exact haborted
        · exact hnext.elim (fun hnext => hnext.2 reply) fun hnext => hnext reply
    case isFalse hstatus =>
      have hsome : q.success = some w := by
        rw [Request.success, houtcome]
        exact if_pos (by omega)
      rcases callStore_eq_call h with ⟨hunsent, hanswer⟩ | ⟨rfl, haborted, hnext⟩
      · obtain ⟨rfl, rfl⟩ := call.inj hanswer
        exact .inr (.inr ⟨_, rfl, fun _ => rfl, fun _ => .error, fun _ _ => hunsent⟩)
      · refine .inr (.inl ⟨w, hsome, rfl, haborted, fun reply => ?_⟩)
        rcases hnext with ⟨-, hnext⟩ | hnext
        · exact .inl (hnext reply)
        · rw [hnext reply]
          split
          · exact .inr ⟨rfl, rfl⟩
          · exact .inl rfl

theorem answer_eq_call (h : answer n q a = .call c next) :
    c = .answer n q a ∧ ∀ outcome, next outcome = .stop := by
  obtain ⟨rfl, rfl⟩ := call.inj h
  exact ⟨rfl, fun _ => rfl⟩

/-- The next command of a request that waits: it claims its key, or answers because it cannot reach
the store. -/
theorem Middleware.wrap_eq_call (hadmission : m.admission q = .admitted k requestHash)
    (h : m.wrap n q = .call c next) :
    (q.fate .claim = .unsent ∧ c = .answer n q (.problem internalError) ∧
        ∀ outcome, next outcome = .stop) ∨
      c = .claim n k requestHash q.now (q.now + retention) ∧
        next .aborted = answer n q (.problem internalError) ∧
        (q.fate .claim = .lost ∧
            (∀ reply, next (.committed reply) = answer n q (.problem internalError)) ∨
          ∀ reply, next (.committed reply) = afterClaim n q k reply) := by
  rw [Middleware.wrap, hadmission] at h
  rcases callStore_eq_call h with ⟨hunsent, hanswer⟩ | hclaim
  · exact .inl ⟨hunsent, answer_eq_call hanswer⟩
  · exact .inr hclaim

/-! ### Arrivals -/

/-- The visits of the window: requests with the key come within the retention period of the first,
and the rows that are cleaned up meanwhile are older. -/
def Middleware.Within (m : Middleware) (k : Key) (first : Time) : Visit Visitor → Prop
  | .arrive (.request q) => m.keyOf q = some k → first ≤ q.now ∧ q.now < first + retention
  | .arrive (.cleanup before _) => before ≤ first + retention
  | .advance _ | .abort _ => True

theorem Middleware.settled_serve (hv : m.Within k first (.arrive v))
    (hunclaimed : Unclaimed k log n) : Settled m k first vs log n v (m.serve n v) := by
  cases v with
  | request q =>
    by_cases hkey : m.keyOf q = some k
    · exact .waiting hkey hunclaimed
    · exact .foreign (m.foreign_wrap hkey)
  | cleanup => exact .foreign ⟨hv, fun _ => trivial⟩

/-- A request that arrives has claimed nothing yet. -/
theorem Holds.arrive (h : Holds m k first calm vs s) (hv : m.Within k first (.arrive v)) :
    Holds m k first calm (vs ++ [v]) { s with clients := s.clients ++ [m.serve vs.length v] } := by
  have hvs : ∀ (n : Nat) u, vs[n]? = some u → (vs ++ [v])[n]? = some u := fun n u hu => by
    rw [getElem?_append_left (List.getElem?_eq_some_iff.mp hu).1]
    exact hu
  obtain ⟨holder, hstate, hsettled⟩ := h.state
  have hfresh : Unclaimed k s.log vs.length := fun e he requestHash now expiresAt hcmd =>
    Nat.lt_irrefl _ (h.claims e he _ requestHash now expiresAt hcmd)
  refine ⟨by simp [h.length], fun q hq hkey => ?_,
    ⟨holder, hstate.congr hvs (List.Subset.refl _) rfl rfl ?_, ?_⟩, ?_, ?_⟩
  · rcases mem_append.mp hq with hold | hnew
    · exact h.window q hold hkey
    · rw [← mem_singleton.mp hnew] at hv
      exact hv hkey
  · intro n _ client hclient
    rw [getElem?_append_left (List.getElem?_eq_some_iff.mp hclient).1]
    exact hclient
  · intro n u client hu hclient hne
    by_cases hlt : n < vs.length
    · rw [getElem?_append_left hlt] at hu
      rw [getElem?_append_left (h.length ▸ hlt)] at hclient
      exact (hsettled n u client hu hclient hne).mono hvs (List.Subset.refl _) id
    · -- The new one is the last of both lists.
      have hn : n = vs.length := by
        have := (List.getElem?_eq_some_iff.mp hu).1
        simp only [length_append, length_singleton] at this
        omega
      subst hn
      rw [getElem?_concat_length, some.injEq] at hu
      rw [← h.length, getElem?_concat_length, some.injEq] at hclient
      subst hu hclient
      rw [h.length]
      exact m.settled_serve hv hfresh
  · intro e he n requestHash now expiresAt hcmd
    rw [length_append]
    exact Nat.lt_add_right _ (h.claims e he n requestHash now expiresAt hcmd)
  · intro e he n q a hcmd hkey
    obtain ⟨hvisitor, haccounted⟩ := h.answers e he n q a hcmd hkey
    exact ⟨hvs _ _ hvisitor, haccounted.mono hvs (List.Subset.refl _)⟩

/-! ### Commits -/

section Commits

variable {e : Entry}

/-- The commit of client `i` claims the key only for itself, and its answers are accounted for. -/
structure Proper (m : Middleware) (k : Key) (vs : List Visitor) (log : List Entry) (i : Nat)
    (e : Entry) : Prop where
  claim : ∀ n requestHash now expiresAt, e.cmd = .claim n k requestHash now expiresAt → n = i
  answer : ∀ n q a, e.cmd = .answer n q a → m.keyOf q = some k →
    vs[n]? = some (.request q) ∧ Accounted m k vs (e :: log) n q a

/-- Neither a claim nor an answer. -/
def Cmd.Silent : Cmd → Prop
  | .claim .. | .answer .. => False
  | .complete .. | .release .. | .deleteIdempotencyBefore .. | .handle .. => True

theorem Proper.of_silent (h : e.cmd.Silent) : Proper m k vs s.log i e := by
  refine ⟨fun n requestHash now expiresAt hcmd => ?_, fun n q a hcmd => ?_⟩
  · rw [hcmd] at h
    exact h.elim
  · rw [hcmd] at h
    exact h.elim

theorem Proper.of_answer (hcmd : e.cmd = .answer n q a) (hvisitor : vs[n]? = some (.request q))
    (ha : Accounted m k vs (e :: s.log) n q a) : Proper m k vs s.log i e := by
  refine ⟨fun n requestHash now expiresAt heq => ?_, fun n' q' a' heq _ => ?_⟩
  · rw [hcmd] at heq
    cases heq
  · rw [hcmd] at heq
    cases heq
    exact ⟨hvisitor, ha⟩

theorem Unclaimed.cons (h : Unclaimed k s.log n) (he : Proper m k vs s.log i e) (hn : n ≠ i) :
    Unclaimed k (e :: s.log) n := by
  intro e' he' requestHash now expiresAt hcmd
  rcases mem_cons.mp he' with rfl | hold
  · exact hn (he.claim n requestHash now expiresAt hcmd)
  · exact h e' hold requestHash now expiresAt hcmd

/-- One commit of client `i`: `hstate` is what becomes of the key, `hclient` of the client. -/
theorem Holds.commit_of (h : Holds m k first calm vs s) (hlt : i < s.clients.length)
    (hsettled : OthersSettled m k first vs s holder) (he : Proper m k vs s.log i e)
    (hstate : KeyState m k first calm vs (s.commit i e client') holder')
    (hothers : ∀ n, n ≠ i → holder' ≠ some n → holder ≠ some n)
    (hclient : ∀ v, vs[i]? = some v → holder' ≠ some i →
      Settled m k first vs (e :: s.log) i v client') :
    Holds m k first calm vs (s.commit i e client') := by
  refine ⟨by simp [Moment.commit, h.length], h.window, ⟨holder', hstate, ?_⟩, ?_, ?_⟩
  · exact hsettled.set rfl (subset_cons_self e s.log) (fun n hn hfresh => hfresh.cons he hn)
      hothers hclient
  · intro e' he' n requestHash now expiresAt hcmd
    rcases mem_cons.mp he' with rfl | hold
    · rw [he.claim n requestHash now expiresAt hcmd, ← h.length]
      exact hlt
    · exact h.claims e' hold n requestHash now expiresAt hcmd
  · intro e' he' n q a hcmd hkey
    rcases mem_cons.mp he' with rfl | hold
    · exact he.answer n q a hcmd hkey
    · obtain ⟨hvisitor, haccounted⟩ := h.answers e' hold n q a hcmd hkey
      exact ⟨hvisitor, haccounted.cons e⟩

/-- A commit of one who does not hold the key, and that leaves the row and the successes alone. -/
theorem Holds.commit_aside (h : Holds m k first calm vs s) (hlt : i < s.clients.length)
    (hstate : KeyState m k first calm vs s holder) (hsettled : OthersSettled m k first vs s holder)
    (hholder : holder ≠ some i) (hrow : e.after k = s.db k) (hsuccess : m.success k e = none)
    (he : Proper m k vs s.log i e)
    (hclient : ∀ v, vs[i]? = some v → Settled m k first vs (e :: s.log) i v client') :
    Holds m k first calm vs (s.commit i e client') := by
  refine h.commit_of hlt hsettled he ?_ (fun _ _ hne => hne) fun v hv _ => hclient v hv
  refine hstate.congr (fun _ _ hv => hv) (subset_cons_self e s.log) hrow
    (Middleware.successes_cons_of_none hsuccess) ?_
  intro n hn client hclient
  have hni : i ≠ n := fun heq => hholder (heq ▸ hn)
  rw [Moment.commit, getElem?_set_ne hni]
  exact hclient

/-- What is stored is what is replayed. -/
theorem Record.claim_eq_replay {response : StoredResponse} {state}
    (h : response.row = some state) (requestHash : Bytes) (expiresAt : Time) :
    (⟨requestHash, state, expiresAt⟩ : Record).claim requestHash = .replay response := by
  obtain ⟨statusCode, headers, body⟩ := response
  cases body with
  | none => cases h
  | some =>
    simp only [StoredResponse.row, ite_none_right_eq_some, some.injEq] at h
    obtain ⟨-, rfl⟩ := h
    simp [Record.claim]

/-- Whoever finds a row in its way that has not expired gets an answer that is accounted for. -/
theorem KeyState.afterClaim_row (h : KeyState m k first calm vs s holder) (hr : s.db k = some r)
    (hlasts : first < r.expiresAt) (hadmission : m.admission q = .admitted k requestHash)
    (hunclaimed : Unclaimed k s.log i) :
    ∃ a, afterClaim i q k (.claimed (.ok (r.claim requestHash))) = answer i q a ∧
      Accounted m k vs s.log i q a := by
  by_cases hhash : r.requestHash = requestHash
  · cases h with
    | free hexpired => exact absurd hlasts (Nat.not_lt.mpr (hexpired r hr))
    | @executing _ _ hash hof _ hrow | @concluding _ _ hash hof _ hrow
    | @orphaned _ _ hash hof hrow =>
      rw [hrow, some.injEq] at hr
      subst hr
      obtain rfl : hash = requestHash := hhash
      refine ⟨_, ?_,
        .inProgress (hof.ne hunclaimed) hof.visitor (hof.admitted.trans hadmission.symm)⟩
      rw [Request.record_claim]
      rfl
    | @completed x hash state hof hstate hrow hsuccesses =>
      rw [hrow, some.injEq] at hr
      subst hr
      obtain rfl : hash = requestHash := hhash
      refine ⟨.replayed x.stored, ?_, .replayed ?_ (hof.ne hunclaimed) hof.visitor
        (hof.admitted.trans hadmission.symm)⟩
      · have hreplay := Record.claim_eq_replay hstate hash (x.request.now + retention)
        exact congrArg (fun c => afterClaim i q k (.claimed (.ok c))) hreplay
      · rw [hsuccesses]
        exact mem_singleton_self x
  · refine ⟨_, ?_, .reused⟩
    rw [Record.claim, if_pos hhash]
    rfl

/-- A claim: it is acquired only where there is no row, and the request that gets the answer becomes
the holder. -/
theorem Holds.commit_claim (h : Holds m k first calm vs s)
    (hstate : KeyState m k first calm vs s holder) (hsettled : OthersSettled m k first vs s holder)
    (hholder : holder ≠ some i) (hlt : i < s.clients.length) (hvisitor : vs[i]? = some (.request q))
    (hadmission : m.admission q = .admitted k requestHash) (hunclaimed : Unclaimed k s.log i)
    (hcmd : e.cmd = .claim i k requestHash q.now (q.now + retention)) (hbefore : e.before = s.db)
    (hvalid : e.Valid prog (cmdRely k))
    (hnext : q.fate .claim = .lost ∧
        (∀ reply, next (.committed reply) = answer i q (.problem internalError)) ∨
      ∀ reply, next (.committed reply) = afterClaim i q k reply) :
    Holds m k first calm vs (s.commit i e (next (.committed e.reply))) := by
  have hsuccess : m.success k e = none := by rw [Middleware.success, hcmd]
  have hkey : m.keyOf q = some k := Middleware.keyOf_eq_some.mpr ⟨requestHash, hadmission⟩
  have hnow := h.window q (mem_of_getElem? hvisitor) hkey
  have hproper : Proper m k vs s.log i e := by
    refine ⟨fun n hash now expiresAt heq => ?_, fun n q' a heq => ?_⟩
    · rw [hcmd] at heq
      cases heq
      rfl
    · rw [hcmd] at heq
      cases heq
  -- Answers of this request are for its own visitor.
  have hanswering : ∀ a, Accounted m k vs (e :: s.log) i q a → ∀ v, vs[i]? = some v →
      Settled m k first vs (e :: s.log) i v (answer i q a) := by
    intro a ha v hv
    rw [hvisitor, some.injEq] at hv
    subst hv
    exact .answering hkey ha
  rw [Commit.Valid, hcmd] at hvalid
  obtain ⟨result, hreply, hcommits⟩ := Txn.commits_of_bind_pure hvalid
  rw [hbefore] at hcommits
  rcases claim_commits hcommits with ⟨rfl, -, hacquires⟩ | ⟨hsame, hresult⟩
  · obtain ⟨hsuccesses, rfl⟩ : m.successes k s.log = [] ∧ holder = none := by
      cases hr : s.db k with
      | none => exact hstate.of_none hr
      | some r =>
        have hexpired := Nat.lt_of_le_of_lt (hacquires.free r hr) hnow.2
        exact (hstate.lasts h.window hr hexpired).2
    have hof : Belongs m k vs (e :: s.log) i q requestHash :=
      ⟨hvisitor, hadmission, e, mem_cons_self, _, _, _, hcmd⟩
    have hrow : e.after k = some (q.record requestHash) := by
      rw [hacquires.after, update_self]
      rfl
    have hempty : m.successes k (e :: s.log) = [] := by
      rw [Middleware.successes_cons_of_none hsuccess, hsuccesses]
    rcases hnext with ⟨-, hnext⟩ | hnext
    · -- The reply is lost: the row stays behind.
      rw [hnext]
      refine h.commit_of hlt hsettled hproper (.orphaned hof hrow ?_ ?_) (fun _ _ _ => nofun)
        fun v hv _ => hanswering _ .error v hv
      · rw [Moment.commit, hempty]
        exact Nat.zero_le 1
      · rw [Moment.commit, hempty]
        exact fun x hx => absurd hx not_mem_nil
    · rw [hnext, hreply]
      refine h.commit_of hlt hsettled hproper (.executing hof ?_ hrow hempty)
        (fun _ _ _ => nofun) fun _ _ hne => absurd rfl hne
      rw [Moment.commit, getElem?_set_self hlt]
      rfl
  · have hrow : e.after k = s.db k := by rw [hsame]
    refine h.commit_aside hlt hstate hsettled hholder hrow hsuccess hproper ?_
    rcases hnext with ⟨-, hnext⟩ | hnext
    · rw [hnext]
      exact hanswering _ .error
    · rw [hnext, hreply]
      rcases hresult with ⟨-, rfl⟩ | ⟨r, hr, hlasts, rfl⟩
      · exact hanswering _ .error
      · have hlater := hlasts rfl (by rw [Cmd.claimTime, if_pos rfl]; rfl)
        obtain ⟨a, heq, haccounted⟩ := hstate.afterClaim_row hr
          (Nat.lt_of_le_of_lt hnow.1 hlater) hadmission hunclaimed
        rw [heq]
        exact hanswering a (haccounted.cons e)

/-- The holder lets go: what is left of the key is `hstate`. -/
theorem Holds.commit_conclude (h : Holds m k first calm vs s) (hlt : i < s.clients.length)
    (hsettled : OthersSettled m k first vs s (some i))
    (he : Proper m k vs s.log i e) (hstate : KeyState m k first calm vs (s.commit i e client') none)
    (hvisitor : vs[i]? = some (.request q))
    (hclient : Settled m k first vs (e :: s.log) i (.request q) client') :
    Holds m k first calm vs (s.commit i e client') := by
  refine h.commit_of hlt hsettled he hstate (fun n hne _ heq => ?_) fun v hv _ => ?_
  · exact hne (some.inj heq).symm
  · rw [hvisitor, some.injEq] at hv
    exact hv ▸ hclient

variable (h : Holds m k first calm vs s) (hi : s.clients[i]? = some (.call e.cmd next))
  (hbefore : e.before = s.db) (hvalid : e.Valid prog (cmdRely k))

include h hi hbefore hvalid

/-- The holder runs its handler. -/
theorem Holds.commit_handle (hsettled : OthersSettled m k first vs s (some i))
    (hof : Belongs m k vs s.log i q requestHash) (hclient : s.clients[i]? = some (execute i q k))
    (hrow : s.db k = some (q.record requestHash)) (hsuccesses : m.successes k s.log = []) :
    Holds m k first calm vs (s.commit i e (next (.committed e.reply))) := by
  have hlt := (List.getElem?_eq_some_iff.mp hclient).1
  rw [hclient, some.injEq] at hi
  obtain ⟨hcmd, rfl⟩ := call.inj hi
  rw [Commit.Valid, ← hcmd] at hvalid
  have hproper : Proper m k vs s.log i e := .of_silent (by rw [← hcmd]; trivial)
  refine h.commit_of hlt hsettled hproper (.concluding
    (hof.mono (fun _ _ hv => hv) (subset_cons_self e s.log)) ?_ ?_
    ⟨e, mem_cons_self, hcmd.symm⟩ ?_) (fun _ _ hne => hne) fun _ _ hne => absurd rfl hne
  · rw [Moment.commit, getElem?_set_self hlt]
  · rw [← hrow, ← hbefore]
    exact congrFun hvalid.2.2 k
  · rw [Moment.commit, Middleware.successes_cons, hsuccesses, append_nil, Middleware.success,
      ← hcmd]
    simp only [hof.keyOf, if_true]

/-- The holder releases or completes its row, or leaves it behind. -/
theorem Holds.commit_concluding (hsettled : OthersSettled m k first vs s (some i))
    (hof : Belongs m k vs s.log i q requestHash)
    (hclient : s.clients[i]? = some (conclude i q k q.outcome))
    (hrow : s.db k = some (q.record requestHash)) (hran : ∃ e ∈ s.log, e.cmd = .handle i q)
    (hsuccesses : m.successes k s.log = (q.success.map fun w => ⟨i, q, w⟩).toList) :
    Holds m k first calm vs (s.commit i e (next (.committed e.reply))) := by
  have hlt := (List.getElem?_eq_some_iff.mp hclient).1
  have hof' := hof.mono (fun _ _ hv => hv) (subset_cons_self e s.log)
  have hran' : ∃ e' ∈ e :: s.log, e'.cmd = .handle i q := by
    obtain ⟨e', he', hcmd⟩ := hran
    exact ⟨e', mem_cons_of_mem e he', hcmd⟩
  rw [hclient, some.injEq] at hi
  rw [Commit.Valid, hbefore] at hvalid
  rcases conclude_eq_call m vs (e :: s.log) hi with ⟨hcmd, hnone, hnext⟩ |
      ⟨w, hw, hcmd, -, hnext⟩ | ⟨a, hcmd, hnext, haccounted, hunsent⟩
  · -- Release: nobody has been successful, and the row goes.
    have hsuccess : m.success k e = none := by rw [Middleware.success, hcmd]
    rw [hcmd] at hvalid
    obtain ⟨_, -, hcommits⟩ := Txn.commits_of_bind_pure hvalid
    have hgone : e.after k = none := by
      rw [(release_commits hcommits).2, update_self, hrow]
      rfl
    refine h.commit_conclude hlt hsettled (.of_silent (by rw [hcmd]; trivial))
      (.free (fun r hr => ?_) ?_) hof.visitor ?_
    · exact absurd (hgone.symm.trans hr) nofun
    · rw [Moment.commit, Middleware.successes_cons_of_none hsuccess, hsuccesses, hnone]
      rfl
    · rcases hnext _ (.inr ⟨e.reply, rfl⟩) with hstop | ⟨w, hstatus, hanswer⟩
      · exact hstop ▸ .stop
      · exact hanswer ▸ .answering hof.keyOf (.failed hran' hstatus)
  · have hsuccess : m.success k e = none := by rw [Middleware.success, hcmd]
    have hmade : m.successes k (e :: s.log) = [⟨i, q, w⟩] := by
      rw [Middleware.successes_cons_of_none hsuccess, hsuccesses, hw]
      rfl
    have hproper : Proper m k vs s.log i e := .of_silent (by rw [hcmd]; trivial)
    rw [hcmd] at hvalid
    obtain ⟨result, hreply, hcommits⟩ := Txn.commits_of_bind_pure hvalid
    obtain ⟨-, ⟨-, r, state, hr, -, hstate, hafter⟩ | ⟨hsame, hresult, hwhy⟩⟩ :=
      complete_commits hcommits
    · -- Completed with the response of this execution.
      rw [hrow, some.injEq] at hr
      subst hr
      refine h.commit_conclude hlt hsettled hproper
        (.completed (x := ⟨i, q, w⟩) hof' hstate ?_ hmade) hof.visitor ?_
      · exact (congrFun hafter k).trans (update_self ..)
      · rcases hnext e.reply with herror | ⟨-, hwritten⟩
        · exact herror ▸ .answering hof.keyOf .error
        · refine hwritten ▸ .answering hof.keyOf (.executed ?_)
          rw [hmade]
          exact mem_singleton_self _
    · -- The table does not accept the response, and the row stays in processing.
      have hrefused : (w.storedResponse q.requestId).row = none := by
        refine hwhy.resolve_left fun hnot => ?_
        exact hnot _ hrow rfl
      refine h.commit_conclude hlt hsettled hproper (.orphaned hof' ?_ ?_ ?_) hof.visitor ?_
      · rw [Moment.commit, hsame, hrow]
      · rw [Moment.commit, hmade]
        exact Nat.le_refl 1
      · intro x hx _ hkept
        rw [Moment.commit, hmade, mem_singleton] at hx
        subst hx
        exact hkept.2 hrefused
      · rcases hnext e.reply with herror | ⟨hok, -⟩
        · exact herror ▸ .answering hof.keyOf .error
        · rw [hreply] at hok
          exact absurd (Reply.completed.inj hok) hresult
  · -- The store cannot be reached: the row stays in processing.
    have hsuccess : m.success k e = none := by rw [Middleware.success, hcmd]
    rw [hcmd] at hvalid
    refine h.commit_conclude hlt hsettled (.of_answer hcmd hof.visitor (haccounted hran'))
      (.orphaned hof' ?_ ?_ ?_) hof.visitor ?_
    · rw [Moment.commit, hvalid.2.2, hrow]
    · rw [Moment.commit, Middleware.successes_cons_of_none hsuccess, hsuccesses]
      exact length_toList_le_one _
    · intro x hx _ hkept
      rw [Moment.commit, Middleware.successes_cons_of_none hsuccess, hsuccesses] at hx
      obtain ⟨w, hw, rfl⟩ := map_eq_some_iff.mp (mem_toList.mp hx)
      have hreturns := hkept.1
      rw [show (Execution.mk i q w).request.fate .complete = _ from hunsent w hw] at hreturns
      cases hreturns
    · exact hnext _ ▸ .stop

/-- One commit. -/
theorem Holds.commit : Holds m k first calm vs (s.commit i e (next (.committed e.reply))) := by
  have hlt : i < s.clients.length := (List.getElem?_eq_some_iff.mp hi).1
  obtain ⟨v, hv⟩ : ∃ v, vs[i]? = some v := ⟨_, getElem?_eq_getElem (h.length ▸ hlt)⟩
  obtain ⟨holder, hstate, hsettled⟩ := h.state
  by_cases hholder : holder = some i
  · subst hholder
    cases hstate with
    | executing hof hclient hrow hsuccesses =>
      exact h.commit_handle hi hbefore hvalid hsettled hof hclient hrow hsuccesses
    | concluding hof hclient hrow hran hsuccesses =>
      exact h.commit_concluding hi hbefore hvalid hsettled hof hclient hrow hran hsuccesses
  · have hmine := hsettled i v _ hv hi hholder
    generalize hcall : call e.cmd next = client at hmine
    -- An answer of this client, which is all that it has left.
    have hanswered : ∀ {q : Request} {a : Answer}, v = .request q → e.cmd = .answer i q a →
        Accounted m k vs (e :: s.log) i q a → (∀ outcome, next outcome = .stop) →
        Holds m k first calm vs (s.commit i e (next (.committed e.reply))) := by
      rintro q a rfl hcmd haccounted hnext
      refine h.commit_aside hlt hstate hsettled hholder ?_ ?_ (.of_answer hcmd hv haccounted)
        fun _ _ => hnext _ ▸ .stop
      · rw [Commit.Valid, hcmd] at hvalid
        rw [hvalid.2.2, hbefore]
      · rw [Middleware.success, hcmd]
    cases hmine with
    | @waiting q hkey hunclaimed =>
      obtain ⟨requestHash, hadmission⟩ := Middleware.keyOf_eq_some.mp hkey
      rcases m.wrap_eq_call hadmission hcall.symm with ⟨-, hcmd, hnext⟩ | ⟨hcmd, -, hnext⟩
      · exact hanswered rfl hcmd .error hnext
      · exact h.commit_claim hstate hsettled hholder hlt hv hadmission hunclaimed hcmd hbefore
          hvalid hnext
    | @answering q a hkey haccounted =>
      obtain ⟨hcmd, hnext⟩ := answer_eq_call hcall.symm
      exact hanswered rfl hcmd (haccounted.cons e) hnext
    | foreign honly =>
      subst hcall
      have hproper : Proper m k vs s.log i e := by
        have hforeign := honly.1
        refine ⟨fun n requestHash now expiresAt heq => ?_, fun n q a heq hkey => ?_⟩
        · rw [heq] at hforeign
          exact absurd rfl hforeign
        · rw [heq] at hforeign
          exact absurd hkey hforeign
      have hclient : ∀ v, vs[i]? = some v →
          Settled m k first vs (e :: s.log) i v (next (.committed e.reply)) :=
        fun _ _ => .foreign (honly.2 _)
      rcases honly.1.row hvalid with hrow | ⟨r, hr, hexpired, hgone⟩
      · exact h.commit_aside hlt hstate hsettled hholder (hrow.trans (congrFun hbefore k))
          honly.1.success hproper hclient
      · -- An expired row is cleaned up: the key is free before and after.
        obtain ⟨-, hsuccesses, rfl⟩ := hstate.lasts h.window (hbefore ▸ hr) hexpired
        refine h.commit_of hlt hsettled hproper (.free ?_ ?_) (fun _ _ hne => hne)
          fun v hv _ => hclient v hv
        · exact fun r' hr' => absurd (hgone.symm.trans hr') nofun
        · rw [Moment.commit, Middleware.successes_cons_of_none honly.1.success, hsuccesses]

end Commits

/-! ### Aborted transactions -/

/-- Client `i` goes on without a commit; `hstate` is what is left of the key. -/
theorem Holds.set (h : Holds m k first calm vs s)
    (hsettled : OthersSettled m k first vs s holder)
    (hstate : KeyState m k first calm vs (s.set i client') holder')
    (hothers : ∀ n, n ≠ i → holder' ≠ some n → holder ≠ some n)
    (hclient : ∀ v, vs[i]? = some v → Settled m k first vs s.log i v client') :
    Holds m k first calm vs (s.set i client') := by
  refine ⟨by simp [Moment.set, h.length], h.window, ⟨holder', hstate, ?_⟩, h.claims, h.answers⟩
  exact hsettled.set rfl (List.Subset.refl _) (fun _ _ hfresh => hfresh) hothers
    fun v hv _ => hclient v hv

/-- A transaction is aborted. -/
theorem Holds.abort (hcalm : ¬ calm) (h : Holds m k first calm vs s)
    (hi : s.clients[i]? = some (.call c next)) :
    Holds m k first calm vs (s.set i (next .aborted)) := by
  obtain ⟨holder, hstate, hsettled⟩ := h.state
  by_cases hholder : holder = some i
  · -- The holder lets go of a row in processing.
    subst hholder
    have horphaned : KeyState m k first calm vs (s.set i (next .aborted)) none := by
      cases hstate with
      | executing hof _ hrow hsuccesses =>
        refine .orphaned hof hrow ?_ fun _ _ hc => absurd hc hcalm
        rw [Moment.set, hsuccesses]
        exact Nat.zero_le 1
      | concluding hof _ hrow _ hsuccesses =>
        refine .orphaned hof hrow ?_ fun _ _ hc => absurd hc hcalm
        rw [Moment.set, hsuccesses]
        exact length_toList_le_one _
    refine h.set hsettled horphaned (fun n hne _ heq => hne (some.inj heq).symm) ?_
    intro v hv
    cases hstate with
    | executing _ hclient =>
      rw [hclient, some.injEq] at hi
      obtain ⟨-, rfl⟩ := call.inj hi
      exact .stop
    | concluding hof hclient _ hran =>
      rw [hof.visitor, some.injEq] at hv
      subst hv
      rw [hclient, some.injEq] at hi
      rcases conclude_eq_call m vs s.log hi with ⟨-, -, hnext⟩ | ⟨w, -, -, haborted, -⟩ |
        ⟨a, -, hnext, -⟩
      · rcases hnext .aborted (.inl rfl) with hstop | ⟨w, hstatus, hanswer⟩
        · exact hstop ▸ .stop
        · exact hanswer ▸ .answering hof.keyOf (.failed hran hstatus)
      · exact haborted ▸ .answering hof.keyOf .error
      · exact hnext .aborted ▸ .stop
  · have hsame : KeyState m k first calm vs (s.set i (next .aborted)) holder := by
      refine hstate.congr (fun _ _ hv => hv) (List.Subset.refl _) rfl rfl
        fun n hn client hclient => ?_
      have hni : i ≠ n := fun heq => hholder (heq ▸ hn)
      rw [Moment.set, getElem?_set_ne hni]
      exact hclient
    refine h.set hsettled hsame (fun _ _ hne => hne) fun v hv => ?_
    have hmine := hsettled i v _ hv hi hholder
    generalize hcall : call c next = client at hmine
    cases hmine with
    | waiting hkey =>
      obtain ⟨requestHash, hadmission⟩ := Middleware.keyOf_eq_some.mp hkey
      rcases m.wrap_eq_call hadmission hcall.symm with ⟨-, -, hnext⟩ | ⟨-, haborted, -⟩
      · exact hnext .aborted ▸ .stop
      · exact haborted ▸ .answering hkey .error
    | answering => exact (answer_eq_call hcall.symm).2 .aborted ▸ .stop
    | foreign honly =>
      subst hcall
      exact .foreign (honly.2 _)

/-! ### Runs -/

/-- Every visit of the window keeps the invariant. -/
theorem Holds.keeps (m : Middleware) (k : Key) (first : Time) (calm : Prop) :
    Visit.Keeps m.serve prog (cmdRely k)
      (fun x => m.Within k first x ∧ (calm → ∀ i, x ≠ .abort i)) (Holds m k first calm) where
  arrive _ _ _ hv h := h.arrive hv.1
  commit _ _ _ _ _ hi hbefore hvalid h := h.commit hi hbefore hvalid
  fail _ _ _ _ _ err := nomatch err
  abort _ _ i _ _ hallowed hi h := h.abort (fun hcalm => hallowed.2 hcalm i rfl) hi

/-- Claims of the key come from requests of the window. -/
theorem Holds.claim (h : Holds m k first calm vs s) {now expiresAt}
    (hi : s.clients[i]? = some (.call (.claim n k requestHash now expiresAt) next)) :
    now < first + retention ∧ first + retention ≤ expiresAt := by
  have hlt : i < s.clients.length := (List.getElem?_eq_some_iff.mp hi).1
  obtain ⟨v, hv⟩ : ∃ v, vs[i]? = some v := ⟨_, getElem?_eq_getElem (h.length ▸ hlt)⟩
  obtain ⟨holder, hstate, hsettled⟩ := h.state
  by_cases hholder : holder = some i
  · subst hholder
    cases hstate with
    | executing _ hclient =>
      rw [hclient, some.injEq] at hi
      cases hi
    | concluding _ hclient =>
      rw [hclient, some.injEq] at hi
      rcases conclude_eq_call m vs s.log hi with
        ⟨hcmd, -⟩ | ⟨w, -, hcmd, -⟩ | ⟨a, hcmd, -⟩ <;> cases hcmd
  · have hmine := hsettled i v _ hv hi hholder
    generalize hcall : call _ next = client at hmine
    cases hmine with
    | @waiting q hkey =>
      obtain ⟨requestHash, hadmission⟩ := Middleware.keyOf_eq_some.mp hkey
      rcases m.wrap_eq_call hadmission hcall.symm with ⟨-, hcmd, -⟩ | ⟨hcmd, -⟩
      · cases hcmd
      · cases hcmd
        obtain ⟨hfirst, hnow⟩ := h.window q (mem_of_getElem? hv) hkey
        exact ⟨hnow, Nat.add_le_add_right hfirst retention⟩
    | answering => cases (answer_eq_call hcall.symm).1
    | foreign honly =>
      subst hcall
      exact absurd rfl honly.1

theorem Holds.admits (h : Holds m k first calm vs s) : s.Admits (Overlap k) := by
  rintro i j c c' next next' - hi hj now' hnow' n requestHash now expiresAt rfl
  obtain ⟨-, hexpires⟩ := h.claim hi
  cases c' with
  | claim =>
    rw [Cmd.claimTime, mem_def, ite_none_right_eq_some, some.injEq] at hnow'
    obtain ⟨rfl, rfl⟩ := hnow'
    exact Nat.lt_of_lt_of_le (h.claim hj).1 hexpires
  | complete | release | deleteIdempotencyBefore | handle | answer => cases hnow'

/-- The invariant holds after every run of the window, from a table in which a row of the key has
expired. -/
theorem Middleware.holds_of_run (calm : Prop) {d visits} {cfg : ServerConfig}
    (hrow : ∀ r, d k = some r → r.expiresAt ≤ first) (hvisits : ∀ x ∈ visits, m.Within k first x)
    (hcalm : calm → ∀ i, .abort i ∉ visits) (h : m.run d visits = some cfg) :
    cfg.Sound prog (cmdRely k) d ∧
      Holds m k first calm (Visit.arrivals visits) cfg.moment := by
  refine (protocol k).visits_initial trivial (Holds.keeps m k first calm)
    (fun _ _ hholds => hholds.admits) ?_ ?_ h
  · intro x hx
    exact ⟨hvisits x hx, fun hc i heq => hcalm hc i (heq ▸ hx)⟩
  · refine ⟨rfl, fun _ hq => absurd hq not_mem_nil, ⟨none, .free hrow rfl, ?_⟩,
      fun _ he => absurd he not_mem_nil, fun _ he => absurd he not_mem_nil⟩
    intro n v client hv
    simp at hv

end Steps

end Pactline.Idempotency
