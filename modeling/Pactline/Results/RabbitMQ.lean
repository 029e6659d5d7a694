import Pactline.Model.RabbitMQ

/-!
# What a published message stands for

`Publish` takes a confirmation for its own, whatever message it is about, and takes it even when a
return is ready as well. So it can report success for a message that no queue has taken
(`unroutable_event_published`). Both are ruled out by what a call finds: nothing may be left of
earlier messages when it publishes, and no return may be ready when it takes a confirmation
(`Action.Orderly`).
-/

set_option autoImplicit false

namespace Pactline.RabbitMQ

open Option

open List

variable {jsonValid : Bytes → Bool} {s s' : State} {m : Message}

/-- Nothing is left of earlier messages when a call publishes, and when `Publish` takes a
confirmation, no return is ready. -/
def Action.Orderly (s : State) : Action → Prop
  | .publish _ _ | .deadLetter _ => s.wire = [] ∧ s.returns = [] ∧ s.confirms = []
  | .receiveConfirm _ => s.returns = [] ∨ s.confirms = []
  | _ => True

/-- Every action of the schedule is orderly where it happens. -/
def Orderly (jsonValid : Bytes → Bool) : State → List Action → Prop
  | _, [] => True
  | s, a :: actions => a.Orderly s ∧ ∀ s' ∈ step jsonValid s a, Orderly jsonValid s' actions

/-- A call that reports success has received the positive confirmation of its own message, which a
queue has taken. -/
def Finished.Confirmed : Finished → Prop
  | .publish _ message received result => result = .ok () →
      ∃ m ∈ message, ∃ c ∈ received, c.deliveryTag = m.deliveryTag ∧ c.ack = true ∧
        m.routed = true ∧ m.ack = true
  | .deadLetter _ => True

/-! ## The notifications of one message -/

/-- The notifications of the message have been delivered up to some point, none of them has been
received yet, and those that are still to come are its own. -/
def Tracks (s : State) (m : Message) : Prop :=
  ∃ delivered rest, m.notifications = delivered ++ rest ∧
    s.returns = delivered.filterMap Notification.return? ∧
    s.confirms = delivered.filterMap Notification.confirmation? ∧ (s.wire = rest ∨ s.wire = [])

/-- The one confirmation that can be received with no return ready. -/
theorem Tracks.confirmation (h : Tracks s m) (hmandatory : m.mandatory = true) {c confirms}
    (hc : s.confirms = c :: confirms) (hreturns : s.returns = []) :
    m.routed = true ∧ c = ⟨m.deliveryTag, m.ack⟩ := by
  obtain ⟨delivered, rest, hsplit, hr, hconfirms, -⟩ := h
  rw [hc] at hconfirms
  rw [hreturns] at hr
  unfold Message.notifications at hsplit
  split at hsplit
  · -- The return comes first, so it has been delivered too.
    cases delivered with
    | nil => cases hconfirms
    | cons =>
      rw [cons_append] at hsplit
      obtain ⟨rfl, -⟩ := cons.inj hsplit
      simp [Notification.return?] at hr
  case isFalse hrouted =>
    cases delivered with
    | nil => cases hconfirms
    | cons =>
      rw [cons_append] at hsplit
      obtain ⟨rfl, hrest⟩ := cons.inj hsplit
      obtain ⟨rfl, -⟩ := append_eq_nil_iff.mp hrest.symm
      simp only [filterMap_cons, Notification.confirmation?, filterMap_nil, cons.injEq] at hconfirms
      refine ⟨?_, hconfirms.1⟩
      simpa [hmandatory] using hrouted

/-- One more notification is delivered. -/
theorem Tracks.deliver (h : Tracks s m) (hs : s.deliver = some s') : Tracks s' m := by
  obtain ⟨delivered, rest, hsplit, hreturns, hconfirms, hwire⟩ := h
  unfold State.deliver at hs
  split at hs
  · cases hs
  case h_2 r wire heq =>
    rw [ite_none_right_eq_some, some.injEq] at hs
    obtain ⟨hroom, rfl⟩ := hs
    have hrest : .returned r :: wire = rest := by simpa [heq] using hwire
    subst hrest
    refine ⟨delivered ++ [.returned r], wire, by simpa using hsplit, ?_, ?_, .inl rfl⟩
    · simp [filterMap_append, ← hreturns, hroom, Notification.return?]
    · simp [filterMap_append, ← hconfirms, Notification.confirmation?]
  case h_3 c wire heq =>
    rw [ite_none_right_eq_some, some.injEq] at hs
    obtain ⟨hroom, rfl⟩ := hs
    have hrest : .confirmed c :: wire = rest := by simpa [heq] using hwire
    subst hrest
    refine ⟨delivered ++ [.confirmed c], wire, by simpa using hsplit, ?_, ?_, .inl rfl⟩
    · simp [filterMap_append, ← hreturns, Notification.return?]
    · simp [filterMap_append, ← hconfirms, hroom, Notification.confirmation?]

/-! ## The invariant -/

/-- A call waits for its own notifications, a `Publish` for those of a mandatory message, and what
the calls have reported so far is true. -/
structure Sound (s : State) : Prop where
  tracks : ∀ call, s.waiting = some call → Tracks s call.message
  mandatory : ∀ event message, s.waiting = some (.publish event message) → message.mandatory = true
  finished : ∀ call ∈ s.finished, call.Confirmed

/-- A call returns. -/
theorem Sound.finish {call : Finished} (h : ∀ old ∈ s.finished, old.Confirmed)
    (hcall : call.Confirmed) : Sound (s.finish call) where
  tracks _ hwaiting := nomatch hwaiting
  mandatory _ _ hwaiting := nomatch hwaiting
  finished old hmem := by
    rcases mem_cons.mp hmem with rfl | hmem
    · exact hcall
    · exact h old hmem

/-- A call publishes where nothing is left of earlier messages. -/
theorem Sound.send {mandatory routed ack replyText call}
    (h : Sound s) (hwire : s.wire = []) (hreturns : s.returns = []) (hconfirms : s.confirms = [])
    (hcall : ∀ m, (call m).message = m)
    (hmandatory : ∀ m event message, call m = .publish event message → mandatory = true)
    (hs : s.send mandatory routed ack replyText call = some s') : Sound s' := by
  simp only [State.send, ite_none_left_eq_some, some.injEq] at hs
  obtain ⟨-, rfl⟩ := hs
  refine ⟨fun call' hwaiting => ?_, fun event message hwaiting => ?_, h.finished⟩
  · obtain rfl := some.inj hwaiting
    rw [hcall]
    refine ⟨[], Message.notifications _, rfl, hreturns, hconfirms, .inl ?_⟩
    simp only [hwire, nil_append]
  · have heq := some.inj hwaiting
    have hmessage := congrArg Call.message heq
    rw [hcall] at hmessage
    rw [← hmandatory _ event message heq]
    exact congrArg Message.mandatory hmessage.symm

/-- An orderly action keeps the notifications in step with the calls. -/
theorem Sound.step {a : Action} (h : Sound s) (horderly : a.Orderly s)
    (hs : step jsonValid s a = some s') : Sound s' := by
  cases a with
  | publish =>
    obtain ⟨hwire, hreturns, hconfirms⟩ := horderly
    simp only [RabbitMQ.step, ite_none_right_eq_some, State.publish] at hs
    obtain ⟨-, hs⟩ := hs
    split at hs
    · obtain rfl := some.inj hs
      exact Sound.finish h.finished nofun
    · split at hs
      case h_1 | h_2 =>
        obtain rfl := some.inj hs
        exact Sound.finish h.finished nofun
      · exact h.send hwire hreturns hconfirms (fun _ => rfl) (fun _ _ _ _ => rfl) hs
  | deadLetter fate =>
    obtain ⟨hwire, hreturns, hconfirms⟩ := horderly
    simp only [RabbitMQ.step, ite_none_right_eq_some] at hs
    obtain ⟨-, hs⟩ := hs
    cases fate with
    | unencoded => cases hs
    | refused =>
      obtain rfl := some.inj hs
      exact Sound.finish h.finished trivial
    | sent =>
      exact h.send hwire hreturns hconfirms (fun _ => rfl)
        (fun _ _ _ heq => Call.noConfusion heq) hs
  | deliver =>
    have hsame : s'.waiting = s.waiting ∧ s'.finished = s.finished := by
      simp only [RabbitMQ.step, State.deliver] at hs
      split at hs
      · cases hs
      all_goals
        rw [ite_none_right_eq_some, some.injEq] at hs
        obtain ⟨-, rfl⟩ := hs
        exact ⟨rfl, rfl⟩
    obtain ⟨hwaiting, hfinished⟩ := hsame
    refine ⟨fun call hcall => ?_, fun event message hcall => ?_, ?_⟩
    · exact (h.tracks call (hwaiting ▸ hcall)).deliver hs
    · exact h.mandatory event message (hwaiting ▸ hcall)
    · rw [hfinished]
      exact h.finished
  | shutdown =>
    obtain rfl := some.inj hs
    refine ⟨fun call hcall => ?_, h.mandatory, h.finished⟩
    obtain ⟨delivered, rest, hsplit, hreturns, hconfirms, -⟩ := h.tracks call hcall
    exact ⟨delivered, rest, hsplit, hreturns, hconfirms, .inr rfl⟩
  | receiveReturn =>
    simp only [RabbitMQ.step, State.receiveReturn] at hs
    split at hs
    · split at hs
      · obtain rfl := some.inj hs
        exact Sound.finish h.finished nofun
      · rw [ite_none_right_eq_some, some.injEq] at hs
        obtain ⟨-, rfl⟩ := hs
        exact Sound.finish h.finished nofun
    · cases hs
  | receiveConfirm =>
    simp only [RabbitMQ.step, State.receiveConfirm] at hs
    split at hs
    case h_1 event message c confirms hwaiting hconfirms =>
      obtain rfl := some.inj hs
      refine Sound.finish h.finished fun hok => ?_
      have hack : c.ack = true := by
        by_contra hnot
        simp [hnot] at hok
      have hreturns : s.returns = [] := horderly.resolve_right (by simp [hconfirms])
      obtain ⟨hrouted, rfl⟩ := (h.tracks _ hwaiting).confirmation
        (h.mandatory event message hwaiting) hconfirms hreturns
      exact ⟨message, rfl, _, rfl, rfl, hack, hrouted, hack⟩
    case h_3 =>
      obtain rfl := some.inj hs
      exact Sound.finish h.finished trivial
    case h_5 => cases hs
    all_goals
      rw [ite_none_right_eq_some, some.injEq] at hs
      obtain ⟨-, rfl⟩ := hs
      apply Sound.finish h.finished
    · exact nofun
    · trivial
  | cancel =>
    simp only [RabbitMQ.step, State.cancel, map_eq_some_iff] at hs
    obtain ⟨call, -, rfl⟩ := hs
    cases call with
    | publish => exact Sound.finish h.finished nofun
    | deadLetter => exact Sound.finish h.finished trivial

/-- So does a run of such actions. -/
theorem Sound.run {actions} (h : Sound s) (horderly : Orderly jsonValid s actions)
    (hrun : run jsonValid s actions = some s') : Sound s' := by
  induction actions generalizing s with
  | nil =>
    obtain rfl := some.inj hrun
    exact h
  | cons _ _ ih =>
    simp only [RabbitMQ.run, bind_eq_some_iff] at hrun
    obtain ⟨mid, hstep, hrest⟩ := hrun
    exact ih (h.step horderly.1 hstep) (horderly.2 mid hstep) hrest

/-- **Success means that the message has arrived.** In every run of orderly actions, a `Publish`
that returns nil has published its message, a queue has taken it, and the confirmation it has
received is the positive confirmation of this message. -/
theorem published_event_confirmed {actions : List Action}
    (horderly : Orderly jsonValid State.initial actions)
    (hrun : run jsonValid State.initial actions = some s) {event : ApplicationEvent}
    {message : Option Message} {received : Option Confirmation}
    (hmem : .publish event message received (.ok ()) ∈ s.finished) :
    ∃ m ∈ message, ∃ c ∈ received, c.deliveryTag = m.deliveryTag ∧ c.ack = true ∧
      m.routed = true ∧ m.ack = true := by
  have hinitial : Sound State.initial :=
    ⟨(fun _ h => nomatch h), (fun _ _ h => nomatch h), fun _ h => absurd h not_mem_nil⟩
  exact (hinitial.run horderly hrun).finished _ hmem rfl

/-! ## Sample runs -/

/-- An event of the given type. -/
def eventOfType (type : String) : ApplicationEvent :=
  { id := 1, aggregateType := "task", aggregateId := 2, type, recipientId := 3, payload := []
    dedupeKey := "k", attemptCount := 0, createdAt := 4 }

/-- `Publish` of an event of a type that a queue is bound for: the first message is not confirmed,
the second is. -/
def routedSchedule : List Action :=
  [false, true].flatMap fun ack => [.publish (eventOfType "access.granted") (.sent true ack ""),
    .deliver, .receiveConfirm (.ok ())]

def routedMessage (deliveryTag : Nat) (ack : Bool) : Message := ⟨deliveryTag, true, true, ack, ""⟩

theorem run_routedSchedule : run (fun _ => true) State.initial routedSchedule = some
    { State.initial with
      published := 2
      finished := [.publish (eventOfType "access.granted") (some (routedMessage 2 true))
          (some ⟨2, true⟩) (.ok ()),
        .publish (eventOfType "access.granted") (some (routedMessage 1 false)) (some ⟨1, false⟩)
          (.error ("RabbitMQ negatively acknowledged event " ++
            toString (eventOfType "access.granted").id))] } := by
  have hvalid : (eventOfType "access.granted").validate (fun _ => true) = .ok () := by
    decide +kernel
  simp [routedSchedule, run, step, State.publish, hvalid, State.send, State.deliver, State.initial,
    Message.notifications, State.receiveConfirm, State.finish, routedMessage]

theorem orderly_routedSchedule : Orderly (fun _ => true) State.initial routedSchedule := by
  have hvalid : (eventOfType "access.granted").validate (fun _ => true) = .ok () := by
    decide +kernel
  simp [routedSchedule, Orderly, Action.Orderly, step, State.publish, hvalid, State.send,
    State.deliver, State.initial, Message.notifications, State.receiveConfirm, State.finish]

/-- The message is the second of the channel, and so is the confirmation. -/
theorem routed_event_confirmed :
    ∃ m ∈ some (routedMessage 2 true), ∃ c ∈ some (⟨2, true⟩ : Confirmation),
      c.deliveryTag = m.deliveryTag ∧ c.ack = true ∧ m.routed = true ∧ m.ack = true :=
  published_event_confirmed orderly_routedSchedule run_routedSchedule mem_cons_self

/-- **Success for a message that has come back.** No queue takes the message. The return and the
confirmation are both delivered before the call gets to its `select`, which takes the confirmation:
`Publish` returns nil. -/
theorem unroutable_event_published :
    ∃ s, run (fun _ => true) State.initial
        [.publish (eventOfType "task.created") (.sent false true "NO_ROUTE"), .deliver, .deliver,
          .receiveConfirm (.ok ())] = some s ∧
      Finished.publish (eventOfType "task.created") (some ⟨1, true, false, true, "NO_ROUTE"⟩)
        (some ⟨1, true⟩) (.ok ()) ∈ s.finished := by
  have hvalid : (eventOfType "task.created").validate (fun _ => true) = .ok () := by
    decide +kernel
  simp [run, step, State.publish, hvalid, State.send, State.deliver, State.initial,
    Message.notifications, State.receiveConfirm, State.finish]

/-! ## Direct messages

The number of tries is looked at only where the handler has failed. Where it has been successful and
`MarkConsumed` fails, the event goes round again however often it has been delivered, and the
handler is called once more each time (`handler_called_six_times`).
-/

/-- The header of an event that has gone round `n` times. -/
def deathsAfter : Nat → List Death
  | 0 => []
  | n + 1 => [⟨.retry, .expired, n + 1⟩, ⟨.larkDM, .rejected, n + 1⟩]

theorem died_deathsAfter (n : Nat) :
    died .retry .expired (died .larkDM .rejected (deathsAfter n)) = deathsAfter (n + 1) := by
  cases n <;> simp [deathsAfter, died]

theorem deliveryAttempt_deathsAfter (n : Nat) : deliveryAttempt (deathsAfter n) = n := by
  cases n <;> simp [deathsAfter, deliveryAttempt]

/-- After a successful run of the handler, `MarkConsumed` fails only where a failure of the handler
would be retried. -/
def DMEvent.MarkedInTime (s : DMEvent) (x : Circumstances) : Prop :=
  x.handled = .ok () → x.marked = false → deliveryAttempt s.deaths + 1 < maxDeliveryTries

/-- So it is at every delivery. -/
def MarkedInTime (decodes : Bool) : DMEvent → List Circumstances → Prop
  | _, [] => True
  | s, x :: xs => s.MarkedInTime x ∧ MarkedInTime decodes (s.deliver decodes x) xs

/-- The handler has been called at most once for each round, and on the last try no
round follows. -/
structure DMEvent.Counted (s : DMEvent) : Prop where
  rounds : ∃ n, s.deaths = deathsAfter n ∧
    (s.place = .queued → s.calls ≤ n ∧ s.calls < maxDeliveryTries)
  calls : s.calls ≤ maxDeliveryTries

section Counted

variable {s : DMEvent} {x : Circumstances} {n : Nat}

theorem DMEvent.counted_settle {place} (hdeaths : s.deaths = deathsAfter n)
    (hcalls : s.calls ≤ maxDeliveryTries) (hplace : place ≠ .queued) :
    (s.settle x place).Counted := by
  refine ⟨⟨n, hdeaths, fun hqueued => ?_⟩, hcalls⟩
  unfold settle at hqueued
  dsimp only at hqueued
  split at hqueued
  · exact absurd hqueued hplace
  · cases hqueued

theorem DMEvent.counted_nack (hdeaths : s.deaths = deathsAfter n) (hround : s.calls ≤ n + 1)
    (hcalls : s.calls < maxDeliveryTries) : (s.nack x).Counted := by
  unfold nack
  split
  · refine ⟨⟨n + 1, ?_, fun _ => ⟨hround, hcalls⟩⟩, Nat.le_of_lt hcalls⟩
    rw [← died_deathsAfter, ← hdeaths]
  · exact ⟨⟨n, hdeaths, fun hqueued => by cases hqueued⟩, Nat.le_of_lt hcalls⟩

/-- A delivery that calls the handler finds fewer calls than tries left. -/
theorem DMEvent.Counted.deliver (decodes : Bool) (h : s.Counted) (hmarked : s.MarkedInTime x) :
    (s.deliver decodes x).Counted := by
  unfold DMEvent.deliver
  split
  case isFalse => exact h
  case isTrue hqueued =>
    obtain ⟨⟨n, hdeaths, hcount⟩, hcalls⟩ := h
    obtain ⟨hround, hlt⟩ := hcount hqueued
    unfold DMEvent.MarkedInTime at hmarked
    have hattempt := deliveryAttempt_deathsAfter n
    rw [← hdeaths] at hattempt
    rw [hattempt] at hmarked
    unfold consume
    split
    · exact counted_settle hdeaths hcalls (by decide)
    split
    · exact counted_nack hdeaths (by omega) hlt
    split
    · exact counted_settle hdeaths hcalls (by decide)
    dsimp only
    split
    · rw [hattempt]
      split
      case isTrue hretry =>
        exact counted_nack hdeaths (Nat.succ_le_succ hround) (by dsimp only; omega)
      case isFalse => exact counted_settle hdeaths hlt (by decide)
    case h_2 hhandled =>
      split
      case isTrue => exact counted_settle hdeaths hlt (by decide)
      case isFalse hfailed =>
        have htry := hmarked hhandled (by simpa using hfailed)
        exact counted_nack hdeaths (Nat.succ_le_succ hround) (by dsimp only; omega)

theorem DMEvent.Counted.consumeLarkDM {decodes xs} (h : s.Counted)
    (hmarked : RabbitMQ.MarkedInTime decodes s xs) : (consumeLarkDM decodes s xs).Counted := by
  induction xs generalizing s with
  | nil => exact h
  | cons _ _ ih => exact ih (h.deliver decodes hmarked.1) hmarked.2

end Counted

/-- The handler is called at most `maxDeliveryTries` times for an event, if `MarkConsumed` fails
only at deliveries after which a failure of the handler would be retried. -/
theorem handler_calls_bounded {decodes : Bool} {xs : List Circumstances}
    (hmarked : MarkedInTime decodes .published xs) :
    (consumeLarkDM decodes .published xs).calls ≤ maxDeliveryTries := by
  have hpublished : DMEvent.published.Counted := ⟨⟨0, rfl, fun _ => by decide⟩, by decide⟩
  exact (hpublished.consumeLarkDM hmarked).calls

/-- Five rate limited tries. -/
theorem rate_limited_calls_bounded :
    (consumeLarkDM true .published (replicate 5
      ⟨true, .error (some .rateLimited), true, true, true⟩)).calls ≤ maxDeliveryTries :=
  handler_calls_bounded (by simp [replicate, MarkedInTime, DMEvent.MarkedInTime])

/-- **A sixth call.** The handler is successful each time, and `MarkConsumed` fails each time. -/
theorem handler_called_six_times :
    maxDeliveryTries < (consumeLarkDM true .published
      (replicate 6 ⟨true, .ok (), false, false, true⟩)).calls := by
  decide

end Pactline.RabbitMQ
