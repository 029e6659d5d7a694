import Pactline.Model.Identity
import Pactline.Model.Outbox

/-!
# The RabbitMQ client

`Publish` and `deadLetter` of `internal/messaging/rabbitmq.go`, on one channel in confirm mode, and
the consumer of the Lark direct messages. The notifications of the broker reach the client through
two Go channels of capacity one, `returns` and `confirms`: a call publishes a message and then waits
in a `select` for whichever of them has something for it, or for the end of its context.

The broker answers a mandatory message that no queue takes with a return and then a positive
confirmation, and any other message with one confirmation, in the order of the messages. The library
hands on the oldest one as soon as there is room; when that is, and which of the ready cases a
`select` takes, is left to the schedule.
-/

set_option autoImplicit false

namespace Pactline.RabbitMQ

/-! ## Messages and notifications -/

/-- A message that has been published, with what the broker makes of it. -/
structure Message where
  /-- Its number on the channel. -/
  deliveryTag : Nat
  mandatory : Bool
  /-- A queue has taken it. -/
  routed : Bool
  /-- The broker confirms it positively. -/
  ack : Bool
  /-- The reason given with a return. -/
  replyText : String
deriving DecidableEq, Repr

/-- `amqp.Return`, with the number of the message that is returned. -/
structure Return where
  deliveryTag : Nat
  replyText : String
deriving DecidableEq, Repr

/-- `amqp.Confirmation`. -/
structure Confirmation where
  deliveryTag : Nat
  ack : Bool
deriving DecidableEq, Repr

inductive Notification
  | returned (r : Return)
  | confirmed (c : Confirmation)
deriving DecidableEq, Repr

def Notification.return? : Notification → Option Return
  | .returned r => some r
  | .confirmed _ => none

def Notification.confirmation? : Notification → Option Confirmation
  | .returned _ => none
  | .confirmed c => some c

/-- What the broker says of a message. -/
def Message.notifications (m : Message) : List Notification :=
  if m.mandatory ∧ ¬ m.routed then
    [.returned ⟨m.deliveryTag, m.replyText⟩, .confirmed ⟨m.deliveryTag, true⟩]
  else [.confirmed ⟨m.deliveryTag, m.ack⟩]

/-! ## The client -/

/-- A call that waits in its `select`. -/
inductive Call
  | publish (event : ApplicationEvent) (message : Message)
  | deadLetter (message : Message)
deriving DecidableEq, Repr

def Call.message : Call → Message
  | .publish _ m => m
  | .deadLetter m => m

/-- A call that has returned: the message it has published, if it came to that, the confirmation it
has received and its result. -/
inductive Finished
  | publish (event : ApplicationEvent) (message : Option Message) (received : Option Confirmation)
      (result : Except String Unit)
  | deadLetter (result : Except String Unit)

structure State where
  /-- The number of messages published so far. -/
  published : Nat
  /-- The notifications that are still on their way, oldest first. -/
  wire : List Notification
  returns : List Return
  confirms : List Confirmation
  /-- The channel is closed; what has been put into `returns` and `confirms` can still be read. -/
  closed : Bool
  waiting : Option Call
  finished : List Finished

/-- A channel that has just been opened by `Dial`. -/
def State.initial : State := ⟨0, [], [], [], false, none, []⟩

/-- What `json.Marshal` and `PublishWithContext` return, and what the broker makes of
the message. -/
inductive Fate
  | unencoded (error : String)
  | refused (error : String)
  | sent (routed ack : Bool) (replyText : String)
deriving DecidableEq, Repr

/-- What happens next. The calls come one after the other. `receiveReturn`, `receiveConfirm` and
`cancel` are the cases of the `select`; a `deadLetter` that has been confirmed acknowledges its
delivery, with the given outcome. -/
inductive Action
  | publish (event : ApplicationEvent) (fate : Fate)
  | deadLetter (fate : Fate)
  | deliver
  | shutdown
  | receiveReturn
  | receiveConfirm (acknowledged : Except String Unit)
  | cancel (error : String)

def State.finish (s : State) (call : Finished) : State :=
  { s with waiting := none, finished := call :: s.finished }

/-- The message goes out with the next number, and the caller waits. -/
def State.send (s : State) (mandatory routed ack : Bool) (replyText : String)
    (call : Message → Call) : Option State :=
  let message : Message := ⟨s.published + 1, mandatory, routed, ack, replyText⟩
  if s.closed then none
  else some { s with
    published := s.published + 1, wire := s.wire ++ message.notifications
    waiting := some (call message) }

/-- `Publish` up to its `select` (`rabbitmq.go:175-193`). -/
def State.publish (jsonValid : Bytes → Bool) (s : State) (event : ApplicationEvent) (fate : Fate) :
    Option State :=
  match event.validate jsonValid with
  | .error _ => some (s.finish (.publish event none none
      (.error "validate RabbitMQ event: invalid application event")))
  | .ok () =>
    match fate with
    | .unencoded error => some (s.finish (.publish event none none
        (.error ("encode RabbitMQ event: " ++ error))))
    | .refused error => some (s.finish (.publish event none none
        (.error ("publish RabbitMQ event: " ++ error))))
    | .sent routed ack replyText => s.send true routed ack replyText (.publish event)

/-- `deadLetter` up to its `select` (`rabbitmq.go:353-363`). It has nothing to encode. -/
def State.deadLetter (s : State) : Fate → Option State
  | .unencoded _ => none
  | .refused error => some (s.finish (.deadLetter
      (.error ("publish dead-letter event: " ++ error))))
  | .sent routed ack replyText => s.send false routed ack replyText .deadLetter

/-- The library hands the oldest notification on, if there is room for it. -/
def State.deliver (s : State) : Option State :=
  match s.wire with
  | [] => none
  | .returned r :: wire =>
    if s.returns = [] then some { s with wire, returns := [r] } else none
  | .confirmed c :: wire =>
    if s.confirms = [] then some { s with wire, confirms := [c] } else none

/-- The case `<-r.returns` of `Publish` (`rabbitmq.go:195-196`). A channel that
is closed is always ready. -/
def State.receiveReturn (s : State) : Option State :=
  match s.waiting with
  | some (.publish event message) =>
    let returned (replyText : String) : Finished := .publish event (some message) none
      (.error ("RabbitMQ returned unroutable event " ++ toString event.id ++ ": " ++ replyText))
    match s.returns with
    | r :: returns => some ({ s with returns }.finish (returned r.replyText))
    | [] => if s.closed then some (s.finish (returned "")) else none
  | _ => none

/-- The case `<-r.confirms` (`rabbitmq.go:197-204`, `364-375`). -/
def State.receiveConfirm (s : State) (acknowledged : Except String Unit) : Option State :=
  match s.waiting, s.confirms with
  | some (.publish event message), c :: confirms =>
    some ({ s with confirms }.finish (.publish event (some message) (some c)
      (if c.ack then .ok ()
        else .error ("RabbitMQ negatively acknowledged event " ++ toString event.id))))
  | some (.publish event message), [] =>
    if s.closed then some (s.finish (.publish event (some message) none
      (.error "RabbitMQ publisher confirm channel closed")))
    else none
  | some (.deadLetter _), c :: confirms =>
    some ({ s with confirms }.finish (.deadLetter
      (if c.ack then acknowledged.mapError ("acknowledge dead-lettered event: " ++ ·)
        else .error "dead-letter event was not confirmed")))
  | some (.deadLetter _), [] =>
    if s.closed then some (s.finish (.deadLetter (.error "dead-letter event was not confirmed")))
    else none
  | none, _ => none

/-- The case `<-ctx.Done()`. -/
def State.cancel (s : State) (error : String) : Option State :=
  s.waiting.map fun
    | .publish event message => s.finish (.publish event (some message) none (.error error))
    | .deadLetter _ => s.finish (.deadLetter (.error error))

/-- One action, or `none` where it cannot happen. -/
def step (jsonValid : Bytes → Bool) (s : State) : Action → Option State
  | .publish event fate => if s.waiting = none then s.publish jsonValid event fate else none
  | .deadLetter fate => if s.waiting = none then s.deadLetter fate else none
  | .deliver => s.deliver
  | .shutdown => some { s with wire := [], closed := true }
  | .receiveReturn => s.receiveReturn
  | .receiveConfirm acknowledged => s.receiveConfirm acknowledged
  | .cancel error => s.cancel error

/-- A schedule: the actions one after the other. -/
def run (jsonValid : Bytes → Bool) : State → List Action → Option State
  | s, [] => some s
  | s, a :: actions => (step jsonValid s a).bind fun s' => run jsonValid s' actions

/-! ## The consumer of the Lark direct messages -/

def maxDeliveryTries : Nat := 5

/-- The two queues an event for a direct message goes round: `LarkDMQueue` rejects it into the retry
exchange, and `RetryQueue` gives it back when its time to live is over. -/
inductive Queue
  | larkDM
  | retry
deriving DecidableEq, Repr

inductive DeathReason
  | rejected
  | expired
deriving DecidableEq, Repr

/-- An entry of the header `x-death`. -/
structure Death where
  queue : Queue
  reason : DeathReason
  count : Nat
deriving DecidableEq, Repr

/-- The broker counts one more death for the queue and the reason, and puts the entry first. -/
def died (queue : Queue) (reason : DeathReason) (deaths : List Death) : List Death :=
  let same (d : Death) : Bool := d.queue = queue ∧ d.reason = reason
  ⟨queue, reason, (deaths.find? same).elim 1 (·.count + 1)⟩ :: deaths.filter fun d => !same d

def deliveryAttempt (deaths : List Death) : Nat :=
  deaths.foldl (fun attempts death =>
    if death.queue ≠ .larkDM then attempts
    else if attempts < death.count then death.count else attempts) 0

def retryableDelivery : Option Identity.ProviderErrorCategory → Bool
  | none => true
  | some category => category = .rateLimited ∨ category = .unavailable

/-- Where an event is. It is `held` when the consumer has returned with the error of an `Ack`, a
`Nack` or a `deadLetter`: no other delivery of it comes as long as the connection lasts. -/
inductive Place
  | queued
  | acknowledged
  | dead
  | held
deriving DecidableEq, Repr

/-- An event of the queue, whether its row of `message_consumptions` is stored, and how often the
handler has been called for it. -/
structure DMEvent where
  deaths : List Death
  consumed : Bool
  calls : Nat
  place : Place
deriving DecidableEq, Repr

/-- An event that has just been published to the queue. -/
def DMEvent.published : DMEvent := ⟨[], false, 0, .queued⟩

/-- What a delivery meets: whether `WasConsumed` returns, the result of the handler (an error has a
category or none), whether `MarkConsumed` returns, whether it has stored its row in spite of an
error, and whether the broker takes what the consumer decides. -/
structure Circumstances where
  checked : Bool
  handled : Except (Option Identity.ProviderErrorCategory) Unit
  marked : Bool
  stored : Bool
  settled : Bool

def DMEvent.settle (s : DMEvent) (x : Circumstances) (place : Place) : DMEvent :=
  { s with place := if x.settled then place else .held }

/-- `Nack` without requeueing: the event goes round by the retry queue. -/
def DMEvent.nack (s : DMEvent) (x : Circumstances) : DMEvent :=
  if x.settled then { s with deaths := died .retry .expired (died .larkDM .rejected s.deaths) }
  else { s with place := .held }

/-- One delivery in `ConsumeLarkDM` (`rabbitmq.go:256-309`). -/
def DMEvent.consume (decodes : Bool) (s : DMEvent) (x : Circumstances) : DMEvent :=
  if ¬ decodes then s.settle x .dead
  else if ¬ x.checked then s.nack x
  else if s.consumed then s.settle x .acknowledged
  else
    let s := { s with calls := s.calls + 1 }
    match x.handled with
    | .error category =>
      let attempt := deliveryAttempt s.deaths + 1
      if retryableDelivery category ∧ attempt < maxDeliveryTries then s.nack x
      else s.settle x .dead
    | .ok () =>
      if x.marked then { s with consumed := true }.settle x .acknowledged
      else { s with consumed := x.stored }.nack x

/-- The event is delivered as long as it is in the queue. -/
def DMEvent.deliver (decodes : Bool) (s : DMEvent) (x : Circumstances) : DMEvent :=
  if s.place = .queued then s.consume decodes x else s

/-- The deliveries of one event, one after the other. -/
def consumeLarkDM (decodes : Bool) (s : DMEvent) (xs : List Circumstances) : DMEvent :=
  xs.foldl (DMEvent.deliver decodes) s

end Pactline.RabbitMQ
