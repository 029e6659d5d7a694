import Mathlib.Algebra.Ring.Nat
import Pactline.Concurrency.Rowwise
import Pactline.Model.Attachment

/-!
# The outbox of application events

The table of `internal/store/outbox_store.go` and the relay of
`internal/application/outbox_relay.go`. Whoever causes an event writes it to the table; relays claim
the events that are due, publish them and write down what has come of it. An event whose relay has
not come back within thirty seconds is due again.

One iteration of a relay is a client. What the publisher says of each event is given with the
iteration, and the schedule decides how long it takes to say it.
-/

set_option autoImplicit false

namespace Pactline

open ReadCommitted Rowwise

/-! ## Events -/

/-- `events.Event` (`event.go:25-35`). -/
structure ApplicationEvent where
  id : Id
  aggregateType : String
  aggregateId : Id
  type : String
  recipientId : Id
  payload : Bytes
  dedupeKey : String
  attemptCount : Nat
  createdAt : Time
deriving DecidableEq, Repr

/-- `Event.Validate` (`event.go:75-83`); `jsonValid` is `json.Valid`. -/
def ApplicationEvent.validate (jsonValid : Bytes → Bool) (event : ApplicationEvent) :
    Except DomainError Unit :=
  if event.id = 0 ∨ event.aggregateId = 0 ∨ event.recipientId = 0 ∨ blank event.aggregateType ∨
      blank event.type ∨ blank event.dedupeKey ∨ event.createdAt = 0 ∨
        ¬ jsonValid event.payload then
    .error (.unclassified "invalid application event")
  else .ok ()

namespace Outbox

/-! ## Tables -/

inductive Status
  | pending
  | publishing
  | published
deriving DecidableEq, Repr

/-- A row of `outbox_events`. -/
structure EventRow where
  event : ApplicationEvent
  status : Status
  nextAttemptAt : Time
  lastError : Option String
  publishedAt : Option Time
deriving DecidableEq, Repr

/-- The rows that can be locked: those of `outbox_events`, and the entries of its unique index. -/
inductive Key
  | event (id : Id)
  | dedupeKey (key : String)
deriving DecidableEq, Repr

/-- An entry of the index holds the event that has the key. -/
abbrev Columns : Key → Type
  | .event _ => EventRow
  | .dedupeKey _ => Id

abbrev Db := Rows Columns

abbrev Program := Rowwise Columns DomainError

/-! ## The store -/

/-- `insertEvent` (`event_writer.go:12-25`). -/
def insertEvent (jsonValid : Bytes → Bool) (event : ApplicationEvent) (now : Time) :
    Program Unit := do
  event.validate jsonValid
  let inserted ← insert (.dedupeKey event.dedupeKey) event.id
  if inserted then
    let fresh ← insert (.event event.id)
      { event := { event with attemptCount := 0 }, status := .pending, nextAttemptAt := now
        lastError := none, publishedAt := none : EventRow }
    require fresh (.constraint "outbox_events_pkey")
  else pure ()

/-- Thirty seconds. -/
def claimLifetime : Time := 30 * 1000000

/-- The event is due. -/
def EventRow.Due (row : EventRow) (now : Time) : Prop :=
  (row.status = .pending ∨ row.status = .publishing) ∧ row.nextAttemptAt ≤ now
deriving Decidable

/-- The row of an event that a batch has taken. -/
def EventRow.claimed (row : EventRow) (now : Time) : EventRow :=
  { row with
    event := { row.event with attemptCount := row.event.attemptCount + 1 }
    status := .publishing, nextAttemptAt := now + claimLifetime, lastError := none }

/-- Each row is locked, checked again and changed. -/
def claimEvents (now : Time) : List Id → Program (List ApplicationEvent)
  | [] => pure []
  | id :: ids => do
      let claimed ← update (.event id) fun row : EventRow =>
        if row.Due now then some (row.claimed now) else none
      let rest ← claimEvents now ids
      return (claimed.map EventRow.event).toList ++ rest

def batchLimit (limit : Int) : Nat := if limit < 1 ∨ 200 < limit then 50 else limit.toNat

/-- `ClaimBatch` (`outbox_store.go:34-79`). Which of the due rows it comes to lock
depends on the locks of the others, so they are an argument. -/
def claimBatch (limit : Int) (ids : List Id) (now : Time) : Program (List ApplicationEvent) :=
  claimEvents now (ids.dedup.take (batchLimit limit))

def EventRow.published (row : EventRow) (now : Time) : EventRow :=
  { row with status := .published, publishedAt := some now, lastError := none }

/-- `MarkPublished` (`outbox_store.go:81-91`). -/
def markPublished (id : Id) (now : Time) : Program Unit := do
  let row ← update (.event id) fun row : EventRow => some (row.published now)
  require row.isSome .notFound

/-- The message cut to 2000 bytes. PostgreSQL refuses a text that is cut inside a character. -/
def cutMessage (message : String) : Except DomainError String :=
  if message.toUTF8.size ≤ 2000 then .ok message
  else match String.fromUTF8? (message.toUTF8.extract 0 2000) with
    | some cut => .ok cut
    | none => .error (.unclassified "invalid byte sequence for encoding \"UTF8\"")

/-- How long a failed event rests: `2^attempt` seconds, five minutes at most. -/
def retryDelay (attempt : Nat) : Time := min (2 ^ min attempt 8) 300 * 1000000

def EventRow.failed (row : EventRow) (attempt : Nat) (message : String) (now : Time) : EventRow :=
  { row with
    status := .pending, nextAttemptAt := now + retryDelay attempt, lastError := some message }

/-- `MarkFailed` (`outbox_store.go:93-109`). -/
def markFailed (id : Id) (attempt : Nat) (message : String) (now : Time) : Program Unit := do
  let message ← cutMessage message
  let _ ← update (.event id) fun row : EventRow => some (row.failed attempt message now)

/-! ## The system -/

inductive Cmd
  | enqueue (event : ApplicationEvent) (now : Time)
  | claimBatch (limit : Int) (ids : List Id) (now : Time)
  | markPublished (id : Id) (now : Time)
  | markFailed (id : Id) (attempt : Nat) (message : String) (now : Time)

inductive Reply
  | done
  | claimed (events : List ApplicationEvent)
deriving DecidableEq

def statements (jsonValid : Bytes → Bool) : Cmd → Program Reply
  | .enqueue event now => do insertEvent jsonValid event now; return .done
  | .claimBatch limit ids now => do return .claimed (← claimBatch limit ids now)
  | .markPublished id now => do markPublished id now; return .done
  | .markFailed id attempt message now => do markFailed id attempt message now; return .done

def prog (jsonValid : Bytes → Bool) (c : Cmd) : Txn Db Key DomainError Reply :=
  (statements jsonValid c).toTxn

/-! ## The relay -/

abbrev OutboxClient := Client Cmd DomainError Reply

/-- What one iteration meets: the rows its claim comes to lock, what the publisher says of each
event, and the clock of the database at each statement. -/
structure Iteration where
  ids : List Id
  publish : ApplicationEvent → Except String Unit
  clock : Nat → Time

/-- The loop of `PublishPending` over the claimed events. It ends when an outcome cannot be written
down. -/
def Iteration.publishEvents (it : Iteration) : Nat → List ApplicationEvent → OutboxClient
  | _, [] => .stop
  | n, event :: events =>
    let proceed : Outcome DomainError Reply → OutboxClient
      | .committed _ => it.publishEvents (n + 1) events
      | _ => .stop
    match it.publish event with
    | .error message =>
      .call (.markFailed event.id event.attemptCount message (it.clock n)) proceed
    | .ok () => .call (.markPublished event.id (it.clock n)) proceed

/-- `PublishPending` (`outbox_relay.go:41-65`). -/
def Iteration.publishPending (it : Iteration) : OutboxClient :=
  .call (.claimBatch 50 it.ids (it.clock 0)) fun
    | .committed (.claimed events) => it.publishEvents 1 events
    | _ => .stop

end Outbox

end Pactline
