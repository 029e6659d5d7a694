import Pactline.Concurrency.Atomic
import Pactline.Encoding.Query
import Pactline.Model.Attachment

/-!
# Idempotent requests

The middleware of `internal/api/idempotency.go` around the handlers of the API, and the table of
`internal/store/idempotency_store.go` behind it.

A request is a client: it claims its key, runs the handler, and completes or releases the claim.
What the handler does is given with the request, as is what becomes of each call of the store: the
context of a request is cancelled when its client goes away, and the call then returns an error,
whether or not the database has done what it was asked for. That the handler has returned and that
the request has been answered are commands without a statement, so that the log has them.

The programs of the store never fail: what the source returns as an error is a reply.
-/

set_option autoImplicit false

namespace Pactline

/-- The trailing white space `strings.TrimSpace` removes, in UTF-8, of a text read backwards. -/
def trimReversedSpace : Bytes → Bytes
  | 0x85 :: 0xC2 :: rest => trimReversedSpace rest
  | 0xA0 :: 0xC2 :: rest => trimReversedSpace rest
  | 0x80 :: 0x9A :: 0xE1 :: rest => trimReversedSpace rest
  | 0x80 :: 0x80 :: 0xE3 :: rest => trimReversedSpace rest
  | b :: 0x80 :: 0xE2 :: rest =>
    if (0x80 ≤ b ∧ b ≤ 0x8A) ∨ b = 0xA8 ∨ b = 0xA9 ∨ b = 0xAF then trimReversedSpace rest
    else b :: 0x80 :: 0xE2 :: rest
  | 0x9F :: 0x81 :: 0xE2 :: rest => trimReversedSpace rest
  | b :: rest => if (0x09 ≤ b ∧ b ≤ 0x0D) ∨ b = 0x20 then trimReversedSpace rest else b :: rest
  | [] => []

/-- `strings.TrimSpace` on the bytes of a text. -/
def trimSpaceBytes (s : Bytes) : Bytes := (trimReversedSpace (trimLeftSpace s).reverse).reverse

namespace Idempotency

open ReadCommitted Txn

/-! ## Responses -/

/-- `http.Header`, with canonical names. -/
abbrev Header := List (String × List String)

/-- `capturedResponse`: what a handler has written. -/
structure CapturedResponse where
  header : Header
  status : Nat
  body : Bytes
deriving DecidableEq

/-- `capturedResponse.statusCode` (`idempotency.go:282-287`). -/
def CapturedResponse.statusCode (w : CapturedResponse) : Nat :=
  if w.status = 0 then 200 else w.status

/-- `access.StoredResponse`; the body is a slice, and may be nil. -/
structure StoredResponse where
  statusCode : Nat
  headers : Header
  body : Option Bytes
deriving DecidableEq

def replayedResponseHeaders : List String := ["Content-Type", "Etag", "Location", "X-Request-Id"]

/-- `capturedResponse.storedResponse` (`idempotency.go:289-302`). What
`append([]byte(nil), …)` makes of an empty body is nil. -/
def CapturedResponse.storedResponse (w : CapturedResponse) (currentRequestId : String) :
    StoredResponse where
  statusCode := w.statusCode
  headers := (w.header.filter fun h =>
      h.1 ∈ replayedResponseHeaders ∧ h.1 ≠ "X-Request-Id") ++
        [("X-Request-Id", [currentRequestId])]
  body := if w.body = [] then none else some w.body

/-- What the client of a request gets. -/
structure Response where
  statusCode : Nat
  header : Header
  body : Bytes
deriving DecidableEq

/-- `replayStoredResponse` (`idempotency.go:215-229`). -/
def replayStoredResponse (requestId : String) (response : StoredResponse) : Response where
  statusCode := response.statusCode
  header := (response.headers.filter fun h => h.1.toLower ≠ "x-request-id") ++
    [("X-Request-Id", [requestId]), ("Idempotency-Replayed", ["true"])]
  body := response.body.getD []

/-- The members of a problem document that the middleware sets. -/
structure Problem where
  title : String
  status : Nat
  detail : String
  code : String
  retryable : Bool
deriving DecidableEq

def internalError : Problem :=
  { title := "Internal server error", status := 500
    detail := "The request could not be completed.", code := "INTERNAL_ERROR", retryable := false }

def keyRequired : Problem :=
  { title := "Idempotency key required", status := 400
    detail := "Bearer mutations require an Idempotency-Key header."
    code := "IDEMPOTENCY_KEY_REQUIRED", retryable := false }

def invalidKey : Problem :=
  { title := "Invalid request", status := 400
    detail := "Idempotency-Key must contain 1 to 128 visible non-space ASCII characters."
    code := "INVALID_REQUEST", retryable := false }

def unreadableBody : Problem :=
  { title := "Invalid request", status := 400
    detail := "The request body could not be read.", code := "INVALID_REQUEST", retryable := false }

def requestInProgress : Problem :=
  { title := "Request in progress", status := 409
    detail := "A request with this idempotency key is still in progress."
    code := "IDEMPOTENCY_IN_PROGRESS", retryable := true }

def keyReused : Problem :=
  { title := "Idempotency key reused", status := 409
    detail := "This idempotency key was already used for a different request."
    code := "IDEMPOTENCY_KEY_REUSED", retryable := false }

/-! ## Requests -/

/-- `identity.RequestIdentity`. -/
structure RequestIdentity where
  actorId : Id
  authenticationMethod : AuthenticationMethod
  apiTokenId : Option Id
  agentRunId : Option Id

/-- How the handler ends. -/
inductive HandlerOutcome
  | panics
  | responds (w : CapturedResponse)

/-- The calls of the store a request can make. -/
inductive StoreCall
  | claim
  | complete
  | release
deriving DecidableEq

/-- What becomes of a call: it returns what the store says, or the context of the request is
cancelled, before anything has reached the database or after the database has acted. -/
inductive Fate
  | returns
  | unsent
  | lost
deriving DecidableEq

/-- A request, and all that its environment will do to it. `net/http` accepts no header value with a
zero byte in it. -/
structure Request where
  identity : Option RequestIdentity
  method : Bytes
  path : Bytes
  query : QueryEncoding.Query
  contentType : Bytes
  contentType_zero : 0 ∉ contentType
  idempotencyKeys : List Bytes
  body : Option Bytes
  requestId : String
  now : Time
  outcome : HandlerOutcome
  fate : StoreCall → Fate

/-- `access.IdempotencyRetention`: 24 hours, in microseconds. -/
def retention : Time := 24 * 3600 * 1000000

/-- `access.IdempotencyKey`, as far as it is the primary key of the table. -/
structure Key where
  userId : Id
  credentialKind : AuthenticationMethod
  credentialId : Id
  method : Bytes
  routePattern : Bytes
  value : Bytes
deriving DecidableEq

/-- `idempotencyCredential` (`idempotency.go:163-177`). -/
def idempotencyCredential (current : RequestIdentity) : Option Id :=
  match current.authenticationMethod with
  | .apiToken => current.apiTokenId.filter (· ≠ 0)
  | .agentDelegate => current.agentRunId.filter (· ≠ 0)
  | .session => none

/-- `requiresIdempotency` (`idempotency.go:179-186`). -/
def requiresIdempotency (method : Bytes) : Bool :=
  method = asciiBytes "POST" || method = asciiBytes "PATCH" || method = asciiBytes "DELETE"

/-- `validIdempotencyKey` (`idempotency.go:188-198`). -/
def validIdempotencyKey (value : Bytes) : Bool :=
  1 ≤ value.length && value.length ≤ 128 && value.all fun b => 0x21 ≤ b && b ≤ 0x7E

/-- `stripMethodPattern` (`api_access_audit.go:152-157`). -/
def stripMethodPattern (pattern : Bytes) : Bytes :=
  match pattern.dropWhile (· ≠ 0x20) with
  | [] => pattern
  | _ :: route => route

/-- `idempotencyMiddleware`, with the hash it uses. `routes` gives the pattern of a method and a
path, and an empty one where there is none. -/
structure Middleware where
  store : Bool
  routes : Option (Bytes → Bytes → Bytes)
  sha256 : Bytes → Bytes

/-- What the middleware makes of a request before it calls the store. -/
inductive Admission
  | passes
  | refused (problem : Problem)
  | admitted (key : Key) (requestHash : Bytes)
deriving DecidableEq

namespace Middleware

variable (m : Middleware)

/-- `idempotency.go:74-78`. -/
def route (q : Request) : Bytes :=
  match m.routes with
  | none => []
  | some routes => stripMethodPattern (routes q.method q.path)

/-- `idempotencyFingerprint` (`idempotency.go:200-213`). -/
def idempotencyFingerprint (q : Request) (route body : Bytes) : Bytes :=
  m.sha256 ([q.method, route, QueryEncoding.encode q.query, trimSpaceBytes q.contentType].flatMap
    (fun value => value ++ [0]) ++ body)

/-- `idempotency.go:40-97`. -/
def admission (q : Request) : Admission :=
  match q.identity with
  | none => .passes
  | some current =>
    if (current.authenticationMethod ≠ .apiToken ∧
        current.authenticationMethod ≠ .agentDelegate) ∨ ¬ requiresIdempotency q.method then
      .passes
    else match idempotencyCredential current with
      | none => .refused internalError
      | some credentialId =>
        if ¬ m.store then .refused internalError
        else match q.idempotencyKeys with
          | [] => .refused keyRequired
          | value :: more =>
            if value = [] then .refused keyRequired
            else if more ≠ [] ∨ ¬ validIdempotencyKey value then .refused invalidKey
            else if m.route q = [] then .refused internalError
            else match q.body with
              | none => .refused unreadableBody
              | some body =>
                .admitted ⟨current.actorId, current.authenticationMethod, credentialId,
                  q.method, m.route q, value⟩
                  (m.idempotencyFingerprint q (m.route q) body)

end Middleware

/-! ## The table -/

/-- The state of a row. By its check constraint a completed row has a status, headers and a body,
and a row in processing has none of them. -/
inductive RecordState
  | processing
  | completed (statusCode : Nat) (headers : Header) (body : Bytes)
deriving DecidableEq

structure Record where
  requestHash : Bytes
  state : RecordState
  expiresAt : Time
deriving DecidableEq

/-- `idempotency_records` (`migrations/0012_agent_api_foundation.sql:106-134`,
`migrations/0016_first_party_agent_harness.sql:209-239`). -/
abbrev Records := Key → Option Record

/-- `access.Claim`. -/
inductive Claim
  | acquired
  | replay (response : StoredResponse)
  | inProgress
  | reused
deriving DecidableEq

/-- What the store returns as an error: the conflicting row is gone, there is no row in processing,
or a check constraint is violated. -/
inductive StoreError
  | noRows
  | notClaimed
  | constraint
deriving DecidableEq

abbrev Tx (α : Type) := Txn Records Key Empty α

/-- What a row that is in the way says of a request (`idempotency_store.go:83-102`). -/
def Record.claim (r : Record) (requestHash : Bytes) : Claim :=
  if r.requestHash ≠ requestHash then .reused
  else match r.state with
    | .processing => .inProgress
    | .completed statusCode headers body => .replay ⟨statusCode, headers, some body⟩

/-- The row after a completion, unless a check constraint forbids it: the status is a number from
100 to 599, and nothing is null. -/
def StoredResponse.row (response : StoredResponse) : Option RecordState :=
  match response.body with
  | none => none
  | some body =>
    if 100 ≤ response.statusCode ∧ response.statusCode ≤ 599 then
      some (.completed response.statusCode response.headers body)
    else none

/-- The `DELETE` of an expired row. It waits for the row it has found, and looks at it again. -/
def deleteExpired (key : Key) (now : Time) : Tx Unit := do
  let expired ← query fun d => (d key).any fun r => r.expiresAt ≤ now
  if expired then
    acquire key .update
    modify fun d => Function.update d key ((d key).filter fun r => now < r.expiresAt)
  else pure ()

/-- The `INSERT … ON CONFLICT DO NOTHING`, and whether it has inserted the row. It waits for
another transaction that is inserting a row with the same key, and takes no lock on a row that is
in its way. -/
def insertRecord (key : Key) (record : Record) : Tx Bool := do
  let taken ← query fun d => (d key).isSome
  if taken then pure false
  else
    acquire key .update
    let taken ← query fun d => (d key).isSome
    if taken then pure false
    else
      modify fun d => Function.update d key (some record)
      pure true

/-- `Claim` (`idempotency_store.go:20-103`). The `SELECT` at the end takes no lock;
but as nothing has been written by then and nothing follows but the commit, both can be taken to
happen at one moment, and the lock stands for that. -/
def claim (key : Key) (requestHash : Bytes) (now expiresAt : Time) :
    Tx (Except StoreError Claim) := do
  deleteExpired key now
  let inserted ← insertRecord key ⟨requestHash, .processing, expiresAt⟩
  if inserted then pure (.ok .acquired)
  else
    acquire key .share
    let found ← query fun d => d key
    pure (match found with
      | none => .error .noRows
      | some r => .ok (r.claim requestHash))

/-- `Complete` (`idempotency_store.go:105-130`). -/
def complete (key : Key) (response : StoredResponse) : Tx (Except StoreError Unit) := do
  acquire key .update
  let found ← query fun d => (d key).filter fun r => r.state = .processing
  match found, response.row with
  | none, _ => pure (.error .notClaimed)
  | some _, none => pure (.error .constraint)
  | some r, some state =>
    modify fun d => Function.update d key (some { r with state })
    pure (.ok ())

/-- `Release` (`idempotency_store.go:132-144`). -/
def release (key : Key) : Tx Unit := do
  acquire key .update
  modify fun d => Function.update d key ((d key).filter fun r => r.state ≠ .processing)

/-- `DeleteIdempotencyBefore` (`access_audit_store.go:55-65`); which rows the
statement finds is not its choice. -/
def deleteIdempotencyBefore (before : Time) (keys : List Key) : Tx Unit := do
  acquireAll .update keys
  modify fun d k => if k ∈ keys then (d k).filter fun r => before ≤ r.expiresAt else d k

/-! ## The middleware -/

/-- How a request is answered: the handler's response is written, a stored response is replayed, or
there is a problem. -/
inductive Answer
  | written (w : CapturedResponse)
  | replayed (response : StoredResponse)
  | problem (p : Problem)
deriving DecidableEq

/-- The calls of the store, and what a request does besides. `n` is the number of the request. -/
inductive Cmd
  | claim (n : Nat) (key : Key) (requestHash : Bytes) (now expiresAt : Time)
  | complete (n : Nat) (key : Key) (response : StoredResponse)
  | release (n : Nat) (key : Key)
  | deleteIdempotencyBefore (before : Time) (keys : List Key)
  | handle (n : Nat) (q : Request)
  | answer (n : Nat) (q : Request) (a : Answer)

inductive Reply
  | claimed (result : Except StoreError Claim)
  | completed (result : Except StoreError Unit)
  | done

def prog : Cmd → Tx Reply
  | .claim _ key requestHash now expiresAt => do
      return .claimed (← claim key requestHash now expiresAt)
  | .complete _ key response => do
      return .completed (← complete key response)
  | .release _ key => do
      release key
      return .done
  | .deleteIdempotencyBefore before keys => do
      deleteIdempotencyBefore before keys
      return .done
  | .handle _ _ | .answer _ _ _ => return .done

abbrev RequestClient := Client Cmd Empty Reply

/-- A call of the store, and how the request goes on after a reply and after an error. -/
def callStore (fate : Fate) (c : Cmd) (proceed : Reply → RequestClient) (fail : RequestClient) :
    RequestClient :=
  match fate with
  | .unsent => fail
  | .lost => .call c fun _ => fail
  | .returns => .call c fun
      | .committed reply => proceed reply
      | _ => fail

def answer (n : Nat) (q : Request) (a : Answer) : RequestClient :=
  .call (.answer n q a) fun _ => .stop

/-- After the handler (`idempotency.go:136-159`). A panic goes on to the server, which
closes the connection. -/
def conclude (n : Nat) (q : Request) (key : Key) : HandlerOutcome → RequestClient
  | .panics => callStore (q.fate .release) (.release n key) (fun _ => .stop) .stop
  | .responds w =>
    if 500 ≤ w.statusCode then
      callStore (q.fate .release) (.release n key) (fun _ => answer n q (.written w))
        (answer n q (.written w))
    else
      callStore (q.fate .complete) (.complete n key (w.storedResponse q.requestId))
        (fun
          | .completed (.ok ()) => answer n q (.written w)
          | _ => answer n q (.problem internalError))
        (answer n q (.problem internalError))

/-- The handler runs under the claim. -/
def execute (n : Nat) (q : Request) (key : Key) : RequestClient :=
  .call (.handle n q) fun
    | .committed _ => conclude n q key q.outcome
    | _ => .stop

/-- After the claim (`idempotency.go:105-135`). -/
def afterClaim (n : Nat) (q : Request) (key : Key) : Reply → RequestClient
  | .claimed (.ok .acquired) => execute n q key
  | .claimed (.ok (.replay response)) => answer n q (.replayed response)
  | .claimed (.ok .inProgress) => answer n q (.problem requestInProgress)
  | .claimed (.ok .reused) => answer n q (.problem keyReused)
  | _ => answer n q (.problem internalError)

/-- A request the middleware leaves to the handler. -/
def pass (n : Nat) (q : Request) : RequestClient :=
  .call (.handle n q) fun
    | .committed _ => match q.outcome with
        | .panics => .stop
        | .responds w => answer n q (.written w)
    | _ => .stop

/-- `idempotencyMiddleware.wrap` (`idempotency.go:38-161`). -/
def Middleware.wrap (m : Middleware) (n : Nat) (q : Request) : RequestClient :=
  match m.admission q with
  | .passes => pass n q
  | .refused problem => answer n q (.problem problem)
  | .admitted key requestHash =>
    callStore (q.fate .claim) (.claim n key requestHash q.now (q.now + retention))
      (afterClaim n q key) (answer n q (.problem internalError))

/-- Who comes: a request, or the worker that cleans the table up. -/
inductive Visitor
  | request (q : Request)
  | cleanup (before : Time) (keys : List Key)

def Middleware.serve (m : Middleware) (n : Nat) : Visitor → RequestClient
  | .request q => m.wrap n q
  | .cleanup before keys => .call (.deleteIdempotencyBefore before keys) fun _ => .stop

abbrev Visits := List (Visit Visitor)

abbrev Entry := Commit Records Key Cmd Reply

abbrev ServerConfig := Config Records Key Empty Cmd Reply

/-- The server with these visits, on the table `d`. -/
def Middleware.run (m : Middleware) (d : Records) (visits : Visits) : Option ServerConfig :=
  ReadCommitted.run prog (Config.initial d) (Visit.events m.serve 0 visits)

end Idempotency

end Pactline
