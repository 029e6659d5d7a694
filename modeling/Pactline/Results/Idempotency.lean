import Pactline.Analysis.IdempotentRequests

/-!
# Idempotent requests

Over every run of the middleware in which all requests with one key come within the retention period
of the first, at most one handler is successful (`one_success_per_key`). A request that cannot be
used is refused before that, which is no server error (`unreadable_body_refused`).

The path enters the fingerprint only through its route pattern, so a stored response may be replayed
to a request for another resource (`replays_other_resource`).
-/

set_option autoImplicit false

namespace Pactline.Idempotency

open ReadCommitted Middleware List

variable {name : String}

/-! ## One execution -/

section OneSuccess

variable {m : Middleware} {k : Key}

def Answer.statusCode : Answer → Nat
  | .written w => w.statusCode
  | .replayed response => response.statusCode
  | .problem p => p.status

/-- The response has the status, the body and the replayable headers of an execution. -/
structure Response.Repeats (response : Response) (x : Execution) : Prop where
  statusCode : response.statusCode = x.response.statusCode
  body : response.body = x.response.body
  header : ∀ name ∈ ["Content-Type", "Etag", "Location"],
    response.header.lookup name = x.response.header.lookup name

theorem lookup_filter {p} (h : Header)
    (hp : ∀ values, p (name, values) = true) : (h.filter p).lookup name = h.lookup name := by
  induction h with
  | nil => rfl
  | cons entry h ih =>
    obtain ⟨name', values⟩ := entry
    by_cases hname : name = name'
    · subst hname
      rw [filter_cons_of_pos (hp values)]
      simp
    · rw [filter_cons]
      split <;> simp [lookup_cons, beq_eq_false_iff_ne.mpr hname, ih]

theorem lookup_append_of_absent (h h' : Header) (habsent : h'.lookup name = none) :
    (h ++ h').lookup name = h.lookup name := by
  rw [lookup_append, habsent, Option.or_none]

/-- A replay repeats the execution whose response is stored. -/
theorem replay_repeats (requestId : String) (x : Execution) :
    (replayStoredResponse requestId x.stored).Repeats x where
  statusCode := rfl
  body := by
    simp only [replayStoredResponse, Execution.stored, CapturedResponse.storedResponse]
    split
    case isTrue hempty => exact hempty.symm
    case isFalse => rfl
  header name hname := by
    have hreplayable : name ∈ replayedResponseHeaders ∧ name ≠ "X-Request-Id" ∧
        name.toLower ≠ "x-request-id" ∧ name ≠ "Idempotency-Replayed" := by
      simp only [mem_cons, not_mem_nil, or_false] at hname
      rcases hname with rfl | rfl | rfl <;> decide +kernel
    obtain ⟨hmem, hne, hlower, hother⟩ := hreplayable
    simp only [replayStoredResponse, Execution.stored, CapturedResponse.storedResponse]
    rw [lookup_append_of_absent _ _ (by simp [lookup_cons, beq_eq_false_iff_ne.mpr hne,
        beq_eq_false_iff_ne.mpr hother]), lookup_filter _ (by simpa using hlower),
      lookup_append_of_absent _ _ (by simp [lookup_cons, beq_eq_false_iff_ne.mpr hne]),
      lookup_filter _ (by simpa using ⟨hmem, hne⟩)]

/-- A refused request gets no further, and is told why. -/
def Middleware.Refuses (m : Middleware) : Cmd → Prop
  | .handle _ q => ∀ problem, m.admission q ≠ .refused problem
  | .answer _ q a => ∀ problem, m.admission q = .refused problem → a = .problem problem
  | _ => True

theorem Middleware.only_refuses (m : Middleware) (n : Nat) (v : Visitor) :
    (m.serve n v).Only m.Refuses := by
  cases v with
  | cleanup => exact ⟨trivial, fun _ => trivial⟩
  | request q =>
    by_cases hrefused : ∃ problem, m.admission q = .refused problem
    · obtain ⟨problem, hadmission⟩ := hrefused
      rw [serve, wrap, hadmission]
      refine ⟨fun problem' hadmission' => ?_, fun _ => trivial⟩
      rw [hadmission] at hadmission'
      cases hadmission'
      rfl
    · rw [not_exists] at hrefused
      exact m.only_wrap (fun _ problem hadmission => absurd hadmission (hrefused problem)) id
        fun _ _ _ => ⟨fun _ _ => trivial, fun _ => trivial, trivial⟩

theorem Middleware.refuses_of_run {d visits} {cfg : ServerConfig}
    (h : m.run d visits = some cfg) : ∀ e ∈ cfg.log, m.Refuses e.cmd := by
  refine Client.Only.run (fun client hclient => ?_) (fun s hs => absurd hs not_mem_nil)
    (fun e he => absurd he not_mem_nil) h
  obtain ⟨n, v, -, rfl⟩ := Visit.connect_mem_events hclient
  exact m.only_refuses n v

/-- Requests that share a key and come within the retention period of the first: at most one handler
ends without a panic and below 500, and every request that is answered was that one, or gets its
response, or is told that it is in progress, that the key has been reused or of a server error; or
it is unusable and refused. -/
theorem one_success_per_key {d : Records} {visits : Visits} {cfg : ServerConfig} {first : Time}
    (hrow : ∀ r, d k = some r → r.expiresAt ≤ first) (hvisits : ∀ x ∈ visits, m.Within k first x)
    (h : m.run d visits = some cfg) :
    (m.successes k cfg.log).length ≤ 1 ∧
    (∀ e ∈ cfg.log, ∀ n q w, e.cmd = .handle n q → m.Shares k q → q.success = some w →
      ⟨n, q, w⟩ ∈ m.successes k cfg.log) ∧
    ∀ e ∈ cfg.log, ∀ n q a, e.cmd = .answer n q a → m.Shares k q →
      (∃ w, ⟨n, q, w⟩ ∈ m.successes k cfg.log ∧ a = .written w) ∨
      (∃ x ∈ m.successes k cfg.log, ∃ response, a = .replayed response ∧
        (replayStoredResponse q.requestId response).Repeats x) ∨
      a = .problem requestInProgress ∨ a = .problem keyReused ∨ 500 ≤ a.statusCode ∨
      q.Unusable k ∧
        (a = .problem keyRequired ∨ a = .problem invalidKey ∨ a = .problem unreadableBody) := by
  obtain ⟨-, hholds⟩ := m.holds_of_run False hrow hvisits False.elim h
  have hrefuses := m.refuses_of_run h
  refine ⟨?_, fun e he n q w hcmd hshares hw => ?_, fun e he n q a hcmd hshares => ?_⟩
  · obtain ⟨holder, hstate, -⟩ := hholds.state
    exact hstate.length_successes
  · have hrun := hrefuses e he
    rw [hcmd] at hrun
    obtain ⟨requestHash, hadmission⟩ : ∃ requestHash, m.admission q = .admitted k requestHash := by
      rcases hshares.admission with
        hadmission | hadmission | ⟨-, hadmission | hadmission | hadmission⟩
      · exact hadmission
      all_goals exact absurd hadmission (hrun _)
    refine mem_filterMap.mpr ⟨e, he, ?_⟩
    simp [success, hcmd, keyOf_eq_some.mpr ⟨requestHash, hadmission⟩, hw]
  · have htold := hrefuses e he
    rw [hcmd] at htold
    rcases hshares.admission with ⟨requestHash, hadmission⟩ | hadmission | ⟨hunusable, hadmission⟩
    · have hkey := keyOf_eq_some.mpr ⟨requestHash, hadmission⟩
      cases (hholds.answers e he n q a hcmd hkey).2 with
      | @executed w hw => exact .inl ⟨w, hw, rfl⟩
      | failed _ hstatus => exact .inr (.inr (.inr (.inr (.inl hstatus))))
      | @replayed x hx => exact .inr (.inl ⟨x, hx, _, rfl, replay_repeats _ x⟩)
      | inProgress => exact .inr (.inr (.inl rfl))
      | reused => exact .inr (.inr (.inr (.inl rfl)))
      | error => exact .inr (.inr (.inr (.inr (.inl (by decide)))))
    · rw [htold _ hadmission]
      exact .inr (.inr (.inr (.inr (.inl (by decide)))))
    · refine .inr (.inr (.inr (.inr (.inr ⟨hunusable, ?_⟩))))
      exact hadmission.imp (htold _) (Or.imp (htold _) (htold _))

end OneSuccess

/-! ### A sample server -/

section Sample

/-- Every path is one of the route that archives a Task. -/
def archiveRoutes (method _path : Bytes) : Bytes :=
  method ++ asciiBytes " /api/v1/tasks/\x7bnumber\x7d/archive"

def sampleServer : Middleware := { store := true, routes := some archiveRoutes, sha256 := id }

def sampleKey : Key where
  userId := 7
  credentialKind := .apiToken
  credentialId := 3
  method := asciiBytes "POST"
  routePattern := asciiBytes "/api/v1/tasks/\x7bnumber\x7d/archive"
  value := asciiBytes "k1"

def archived (digit : UInt8) : CapturedResponse :=
  ⟨[("Content-Type", ["application/json"])], 200, [digit]⟩

/-- Archive the Task with this digit as its number. -/
def archiveRequest (digit : UInt8) (requestId : String) (now : Time) (body : Option Bytes) :
    Request where
  identity := some ⟨7, .apiToken, some 3, none⟩
  method := asciiBytes "POST"
  path := asciiBytes "/api/v1/tasks/" ++ digit :: asciiBytes "/archive"
  query := []
  contentType := asciiBytes "application/json"
  contentType_zero := by decide
  idempotencyKeys := [asciiBytes "k1"]
  body := body
  requestId := requestId
  now := now
  outcome := .responds (archived digit)
  fate _ := .returns

/-- Two requests, one after the other, with this many steps. -/
def twoVisits (p : Request) (i : Nat) (q : Request) (j : Nat) : Visits :=
  .arrive (.request p) :: replicate i (.advance 0) ++
    .arrive (.request q) :: replicate j (.advance 1)

/-- The answers, newest first. -/
def answersOf (log : List Entry) : List (Nat × Answer) :=
  log.filterMap fun e => match e.cmd with
    | .answer n _ a => some (n, a)
    | _ => none

theorem within_twoVisits {m : Middleware} {k first} {p q : Request} {i j}
    (hp : first ≤ p.now ∧ p.now < first + retention)
    (hq : first ≤ q.now ∧ q.now < first + retention) :
    ∀ x ∈ twoVisits p i q j, m.Within k first x := by
  intro x hx
  simp only [twoVisits, mem_append, mem_cons, mem_replicate] at hx
  rcases hx with (rfl | ⟨-, rfl⟩) | rfl | ⟨-, rfl⟩
  · exact fun _ => hp
  · trivial
  · exact fun _ => hq
  · trivial

theorem shares_archiveRequest (digit : UInt8) (requestId : String) (now : Time)
    (body : Option Bytes) :
    sampleServer.Shares sampleKey (archiveRequest digit requestId now body) where
  identity := ⟨_, rfl, rfl, rfl, rfl⟩
  mutation := show requiresIdempotency (asciiBytes "POST") = true by decide
  method := rfl
  route :=
    show stripMethodPattern (archiveRoutes (asciiBytes "POST") []) =
      sampleKey.routePattern by decide
  value := rfl

end Sample

/-- A request whose body cannot be read shares the key, and is refused with the status 400. -/
theorem unreadable_body_refused :
    ∃ (p q : Request) (visits : Visits) (cfg : ServerConfig),
      sampleServer.Shares sampleKey p ∧ sampleServer.Shares sampleKey q ∧
      Visit.arrivals visits = [.request p, .request q] ∧
      (∀ x ∈ visits, sampleServer.Within sampleKey 5 x) ∧
      sampleServer.run (fun _ => none) visits = some cfg ∧
      answersOf cfg.log = [(1, .problem unreadableBody), (0, .written (archived 0x31))] ∧
      unreadableBody.status = 400 := by
  obtain ⟨cfg, hcfg, hanswers⟩ : ∃ cfg, sampleServer.run (fun _ => none)
        (twoVisits (archiveRequest 0x31 "r1" 5 (some [])) 16 (archiveRequest 0x31 "r2" 6 none) 2) =
          some cfg ∧
      answersOf cfg.log = [(1, .problem unreadableBody), (0, .written (archived 0x31))] := by
    decide +kernel
  exact ⟨_, _, _, cfg, shares_archiveRequest 0x31 "r1" 5 (some []),
    shares_archiveRequest 0x31 "r2" 6 none, rfl, within_twoVisits (by decide) (by decide), hcfg,
    hanswers, rfl⟩

/-- An expired row is replaced, and the retry gets the response of the first. -/
theorem one_success_per_key_retry :
    ∃ cfg, sampleServer.run (fun k => if k = sampleKey then some ⟨[], .processing, 5⟩ else none)
        (twoVisits (archiveRequest 0x31 "r1" 5 (some [])) 18
          (archiveRequest 0x31 "r2" 6 (some [])) 8) = some cfg ∧
      answersOf cfg.log =
        [(1, .replayed ((archived 0x31).storedResponse "r1")), (0, .written (archived 0x31))] ∧
      (sampleServer.successes sampleKey cfg.log).length ≤ 1 := by
  obtain ⟨cfg, hcfg, hanswers⟩ : ∃ cfg, sampleServer.run
        (fun k => if k = sampleKey then some ⟨[], .processing, 5⟩ else none)
        (twoVisits (archiveRequest 0x31 "r1" 5 (some [])) 18
          (archiveRequest 0x31 "r2" 6 (some [])) 8) = some cfg ∧
      answersOf cfg.log = [(1, .replayed ((archived 0x31).storedResponse "r1")),
        (0, .written (archived 0x31))] := by decide +kernel
  refine ⟨cfg, hcfg, hanswers, ?_⟩
  have hrow : ∀ r : Record, (if sampleKey = sampleKey then some ⟨[], .processing, 5⟩ else none) =
      some r → r.expiresAt ≤ 5 := by
    intro r hr
    rw [if_pos rfl, Option.some.injEq] at hr
    exact hr ▸ Nat.le_refl 5
  exact (one_success_per_key hrow (within_twoVisits (by decide) (by decide)) hcfg).1

/-! ## Replays -/

section Replays

variable {m : Middleware} {k : Key}

/-- If requests with the key that ask for the same ask for it at the same path: a stored response is
replayed only to a request that repeats the one that was executed. Any other is told that the key
has been reused or is executed, unless it repeats one that is in progress or the store fails. -/
theorem replays_same_request {d : Records} {visits : Visits} {cfg : ServerConfig} {first : Time}
    (hsha : Function.Injective m.sha256) (hrow : ∀ r, d k = some r → r.expiresAt ≤ first)
    (hvisits : ∀ x ∈ visits, m.Within k first x)
    (hpaths : ∀ p q, .request p ∈ Visit.arrivals visits → .request q ∈ Visit.arrivals visits →
      m.keyOf p = some k → m.keyOf q = some k → p.SameContent q → p.path = q.path)
    (h : m.run d visits = some cfg) :
    ∀ e ∈ cfg.log, ∀ n q a, e.cmd = .answer n q a → m.keyOf q = some k →
      (∃ x ∈ m.successes k cfg.log, x.n ≠ n ∧ a = .replayed x.stored ∧
        x.request.path = q.path ∧ x.request.SameContent q) ∨
      a = .problem keyReused ∨ (∃ e' ∈ cfg.log, e'.cmd = .handle n q) ∨
      (a = .problem requestInProgress ∧ ∃ (j : Nat) (p : Request), j ≠ n ∧
        (Visit.arrivals visits)[j]? = some (.request p) ∧ p.path = q.path ∧ p.SameContent q) ∨
      a = .problem internalError := by
  obtain ⟨-, hholds⟩ := m.holds_of_run False hrow hvisits False.elim h
  intro e he n q a hcmd hkey
  obtain ⟨hq, haccounted⟩ := hholds.answers e he n q a hcmd hkey
  obtain ⟨requestHash, hadmission⟩ := keyOf_eq_some.mp hkey
  -- Another visitor with the same key and hash.
  have hsame : ∀ (j : Nat) (p : Request), (Visit.arrivals visits)[j]? = some (.request p) →
      m.admission p = m.admission q → p.path = q.path ∧ p.SameContent q := by
    intro j p hp heq
    have hadmission' := heq.trans hadmission
    have hcontent := m.same_of_admission hsha hadmission' hadmission
    have hkey' := keyOf_eq_some.mpr ⟨requestHash, hadmission'⟩
    exact ⟨hpaths p q (mem_of_getElem? hp) (mem_of_getElem? hq) hkey' hkey hcontent,
      hcontent⟩
  cases haccounted with
  | executed hx => exact .inr (.inr (.inl (handled_of_mem_successes hx)))
  | failed hran => exact .inr (.inr (.inl hran))
  | @replayed x hx hother hvisitor heq =>
    exact .inl ⟨x, hx, hother, rfl, hsame x.n x.request hvisitor heq⟩
  | @inProgress j p hother hvisitor heq =>
    exact .inr (.inr (.inr (.inl ⟨rfl, j, p, hother, hvisitor, hsame j p hvisitor heq⟩)))
  | reused => exact .inr (.inl rfl)
  | error => exact .inr (.inr (.inr (.inr rfl)))

end Replays

/-- The second request asks for another Task, and gets the response of the first. -/
theorem replays_other_resource :
    ∃ (p q : Request) (visits : Visits) (cfg : ServerConfig),
      Function.Injective sampleServer.sha256 ∧
      sampleServer.Shares sampleKey p ∧ sampleServer.Shares sampleKey q ∧ p.path ≠ q.path ∧
      Visit.arrivals visits = [.request p, .request q] ∧
      (∀ x ∈ visits, sampleServer.Within sampleKey 5 x) ∧
      sampleServer.run (fun _ => none) visits = some cfg ∧
      answersOf cfg.log =
        [(1, .replayed ((archived 0x31).storedResponse "r1")), (0, .written (archived 0x31))] := by
  obtain ⟨cfg, hcfg, hanswers⟩ : ∃ cfg, sampleServer.run (fun _ => none)
        (twoVisits (archiveRequest 0x31 "r1" 5 (some [])) 16
          (archiveRequest 0x32 "r2" 6 (some [])) 8) = some cfg ∧
      answersOf cfg.log = [(1, .replayed ((archived 0x31).storedResponse "r1")),
        (0, .written (archived 0x31))] := by decide +kernel
  exact ⟨_, _, _, cfg, Function.injective_id, shares_archiveRequest 0x31 "r1" 5 (some []),
    shares_archiveRequest 0x32 "r2" 6 (some []), by decide +kernel, rfl,
    within_twoVisits (by decide) (by decide), hcfg, hanswers⟩

/-- A request with another body is told that the key has been reused. -/
theorem replays_same_request_reused :
    ∃ cfg, sampleServer.run (fun _ => none) (twoVisits (archiveRequest 0x31 "r1" 5 (some [])) 16
        (archiveRequest 0x31 "r2" 6 (some [0x20])) 8) = some cfg ∧
      answersOf cfg.log = [(1, .problem keyReused), (0, .written (archived 0x31))] ∧
      ∀ e ∈ cfg.log, ∀ n q a, e.cmd = .answer n q a → sampleServer.keyOf q = some sampleKey →
        (∃ x ∈ sampleServer.successes sampleKey cfg.log, x.n ≠ n ∧ a = .replayed x.stored ∧
          x.request.path = q.path ∧ x.request.SameContent q) ∨
        a = .problem keyReused ∨ (∃ e' ∈ cfg.log, e'.cmd = .handle n q) ∨
        (a = .problem requestInProgress ∧ ∃ (j : Nat) (p : Request), j ≠ n ∧
          (Visit.arrivals (twoVisits (archiveRequest 0x31 "r1" 5 (some [])) 16
            (archiveRequest 0x31 "r2" 6 (some [0x20])) 8))[j]? = some (.request p) ∧
          p.path = q.path ∧ p.SameContent q) ∨
        a = .problem internalError := by
  obtain ⟨cfg, hcfg, hanswers⟩ : ∃ cfg, sampleServer.run (fun _ => none)
        (twoVisits (archiveRequest 0x31 "r1" 5 (some [])) 16
          (archiveRequest 0x31 "r2" 6 (some [0x20])) 8) = some cfg ∧
      answersOf cfg.log = [(1, .problem keyReused), (0, .written (archived 0x31))] := by
    decide +kernel
  refine ⟨cfg, hcfg, hanswers, ?_⟩
  have hwithin : ∀ x ∈ twoVisits (archiveRequest 0x31 "r1" 5 (some [])) 16
      (archiveRequest 0x31 "r2" 6 (some [0x20])) 8, sampleServer.Within sampleKey 5 x :=
    within_twoVisits (by decide) (by decide)
  refine replays_same_request Function.injective_id (fun r hr => by cases hr) hwithin ?_ hcfg
  have harrivals : ∀ p,
      .request p ∈ Visit.arrivals (twoVisits (archiveRequest 0x31 "r1" 5 (some []))
      16 (archiveRequest 0x31 "r2" 6 (some [0x20])) 8) →
      p.path = asciiBytes "/api/v1/tasks/" ++ 0x31 :: asciiBytes "/archive" := by
    intro p hp
    have hmem : Visitor.request p ∈ [Visitor.request (archiveRequest 0x31 "r1" 5 (some [])),
      .request (archiveRequest 0x31 "r2" 6 (some [0x20]))] := hp
    simp only [mem_cons, Visitor.request.injEq, not_mem_nil, or_false] at hmem
    rcases hmem with rfl | rfl <;> rfl
  intro p q hp hq _ _ _
  rw [harrivals p hp, harrivals q hq]

end Pactline.Idempotency
