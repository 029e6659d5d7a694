import Pactline.Concurrency.Clients
import Pactline.Model.Outbox

/-!
# Published events

An event is published once and for all only as long as nobody reports a failure of it afterwards.
`MarkFailed` does not look at the status of the row: a relay whose claim has lapsed, and that has
been overtaken by another one, puts an event back that is published already.
-/

set_option autoImplicit false

namespace Pactline.Outbox

open ReadCommitted Rowwise Config List Option

/-- The status of an event in the database. -/
def statusOf (d : Db) (id : Id) : Option Status :=
  (d (.event id) : Option EventRow).map EventRow.status

/-- Every row stands under the identifier of its event. -/
def Keyed (d : Db) : Prop := ∀ id, ∀ row ∈ (d (.event id) : Option EventRow), row.event.id = id

variable {jsonValid : Bytes → Bool} {held held' : List (Lock Key)} {d d' : Db} {id : Id}
  {now : Time}

/-! ## Rows of events -/

theorem statusOf_update (d : Db) (id id' : Id) (row : EventRow) :
    statusOf (Function.update d (.event id) (some row)) id' =
      if id' = id then some row.status else statusOf d id' := by
  unfold statusOf
  split
  case isTrue heq =>
    subst heq
    rw [Function.update_self]
    rfl
  case isFalse hne => rw [Function.update_of_ne fun hkey => hne (Key.event.inj hkey)]

theorem Key.event_ne_dedupeKey (id : Id) (key : String) : Key.event id ≠ .dedupeKey key := nofun

theorem statusOf_update_dedupeKey (d : Db) (key : String) (entry : Id) (id : Id) :
    statusOf (Function.update d (.dedupeKey key) (some entry)) id = statusOf d id := by
  unfold statusOf
  rw [Function.update_of_ne (Key.event_ne_dedupeKey id key)]

theorem Keyed.update (h : Keyed d) {row : EventRow} (hrow : row.event.id = id) :
    Keyed (Function.update d (.event id) (some row)) := by
  intro id' row' hrow'
  by_cases heq : id' = id
  · subst heq
    rw [Function.update_self, mem_some_iff] at hrow'
    rw [← hrow', hrow]
  · rw [Function.update_of_ne fun hkey => heq (Key.event.inj hkey)] at hrow'
    exact h id' row' hrow'

theorem Keyed.update_dedupeKey (h : Keyed d) (key : String) (entry : Id) :
    Keyed (Function.update d (.dedupeKey key) (some entry)) := by
  intro id row hrow
  rw [Function.update_of_ne (Key.event_ne_dedupeKey id key)] at hrow
  exact h id row hrow

/-! ## The operations -/

/-- A claim leaves rows in their place and published events alone, and returns none of those. -/
theorem claimEvents_runs {ids events}
    (h : (claimEvents now ids).Runs held d events held' d') (hkeyed : Keyed d) :
    Keyed d' ∧ ∀ id, statusOf d id = some .published →
      statusOf d' id = some .published ∧ ∀ event ∈ events, event.id ≠ id := by
  induction ids generalizing held d events with
  | nil =>
    obtain ⟨rfl, -, rfl⟩ := h
    exact ⟨hkeyed, fun id hid => ⟨hid, fun _ hmem => absurd hmem not_mem_nil⟩⟩
  | cons first ids ih =>
    simp only [claimEvents, rules, runs_update] at h
    obtain ⟨claimed, _, d₁, ⟨rfl, hfirst⟩, rest, held₁, d₂, hrest, rfl, rfl, rfl⟩ := h
    rcases hfirst with ⟨rfl, -, rfl⟩ | ⟨old, new, rfl, hold, hdue, rfl⟩
    · exact ih hrest hkeyed
    · rw [ite_none_right_eq_some, some.injEq] at hdue
      obtain ⟨hdue, rfl⟩ := hdue
      have hid : old.event.id = first := hkeyed first old hold
      obtain ⟨hkeyed', hkeep⟩ := ih hrest (hkeyed.update hid)
      refine ⟨hkeyed', fun id hpublished => ?_⟩
      -- A row that is due is not published, so it is another one.
      have hne : id ≠ first := by
        rintro rfl
        have hstatus : old.status = .published := by
          simpa [statusOf, hold] using hpublished
        have hnot : ¬ (old.status = .pending ∨ old.status = .publishing) := by simp [hstatus]
        exact hnot hdue.1
      obtain ⟨hafter, hothers⟩ := hkeep id (by rw [statusOf_update, if_neg hne, hpublished])
      refine ⟨hafter, fun event hmem => ?_⟩
      rcases mem_append.mp hmem with hfirst | hmem
      · have heq : event = (old.claimed now).event := by simpa using hfirst
        rw [heq]
        exact fun hcontra => hne (hcontra.symm.trans hid)
      · exact hothers event hmem

/-- One commit: rows stay in their place, and an event leaves the status only by `MarkFailed`. -/
theorem statements_runs {c reply}
    (h : (statements jsonValid c).Runs [] d reply held' d') (hkeyed : Keyed d) :
    Keyed d' ∧ ∀ id, statusOf d id = some .published →
      (∀ attempt message now, c ≠ .markFailed id attempt message now) →
      statusOf d' id = some .published ∧
        ∀ events, reply = .claimed events → ∀ event ∈ events, event.id ≠ id := by
  cases c with
  | enqueue event now =>
    simp only [statements, insertEvent, rules, runs_insert, runs_ite] at h
    obtain ⟨_, _, d₃, ⟨_, _, _, ⟨-, rfl, rfl⟩, inserted, _, d₁, ⟨rfl, hindex⟩, hrow⟩, rfl, rfl,
      rfl⟩ := h
    rcases hindex with ⟨rfl, -, rfl⟩ | ⟨rfl, -, rfl⟩
    · rcases hrow with ⟨-, fresh, _, d₂, ⟨rfl, hinsert⟩, rfl, rfl, rfl⟩ | ⟨hno, -⟩
      · rcases hinsert with ⟨-, hnone, rfl⟩ | ⟨hno, -⟩
        · refine ⟨(hkeyed.update_dedupeKey _ _).update rfl,
            fun id hpublished _ => ⟨?_, fun _ heq => by cases heq⟩⟩
          rw [Function.update_of_ne (Key.event_ne_dedupeKey _ _)] at hnone
          have hne : id ≠ event.id := by
            rintro rfl
            simp [statusOf, hnone] at hpublished
          rw [statusOf_update, if_neg hne, statusOf_update_dedupeKey, hpublished]
        · cases hno
      · exact absurd rfl hno
    · rcases hrow with ⟨hno, -⟩ | ⟨-, -, -, rfl⟩
      · cases hno
      · exact ⟨hkeyed, fun id hpublished _ => ⟨hpublished, fun _ heq => by cases heq⟩⟩
  | claimBatch limit ids now =>
    obtain ⟨events, held₁, d₁, hclaim, rfl, rfl, rfl⟩ := runs_bind.mp h
    obtain ⟨hkeyed', hkeep⟩ := claimEvents_runs hclaim hkeyed
    refine ⟨hkeyed', fun id hpublished _ => ⟨(hkeep id hpublished).1, fun events' heq => ?_⟩⟩
    rw [← Reply.claimed.inj heq]
    exact (hkeep id hpublished).2
  | markPublished id' now =>
    simp only [statements, markPublished, rules, runs_update] at h
    obtain ⟨_, _, d₂, ⟨row, _, d₁, ⟨rfl, hupdate⟩, hfound, rfl, rfl⟩, rfl, rfl, rfl⟩ := h
    rcases hupdate with ⟨rfl, -, rfl⟩ | ⟨old, new, rfl, hold, hnew, rfl⟩
    · cases hfound
    · rw [some.injEq] at hnew
      subst hnew
      refine ⟨hkeyed.update (hkeyed id' old hold),
        fun id hpublished _ => ⟨?_, fun _ heq => by cases heq⟩⟩
      rw [statusOf_update]
      split
      · rfl
      · exact hpublished
  | markFailed id' attempt message now =>
    simp only [statements, markFailed, rules, runs_update] at h
    obtain ⟨_, _, d₂, ⟨cut, _, _, ⟨-, rfl, rfl⟩, row, _, d₁, ⟨rfl, hupdate⟩, -, rfl, rfl⟩,
      rfl, rfl, rfl⟩ := h
    rcases hupdate with ⟨-, -, rfl⟩ | ⟨old, new, -, hold, hnew, rfl⟩
    · exact ⟨hkeyed, fun id hpublished _ => ⟨hpublished, fun _ heq => by cases heq⟩⟩
    · rw [some.injEq] at hnew
      subst hnew
      refine ⟨hkeyed.update (hkeyed id' old hold),
        fun id hpublished hother => ⟨?_, fun _ heq => by cases heq⟩⟩
      have hne : id ≠ id' := by
        rintro rfl
        exact hother attempt message now rfl
      rw [statusOf_update, if_neg hne, hpublished]

/-! ## Sample relays -/

def sampleEvent : ApplicationEvent :=
  { id := 1, aggregateType := "task", aggregateId := 2, type := "comment.replied", recipientId := 3
    payload := [], dedupeKey := "k", attemptCount := 0, createdAt := 4 }

/-- An iteration that claims the event at `start` and reports at `finish`; the publisher says the
same of every event. -/
def sampleIteration (result : Except String Unit) (start finish : Time) : Iteration :=
  { ids := [1], publish := fun _ => result, clock := fun n => if n = 0 then start else finish }

def advances (i n : Nat) : List (Event Cmd DomainError Reply) := replicate n (.advance i)

/-- The event of which the command reports a failure. -/
def Cmd.failureOf : Cmd → Option Id
  | .markFailed id _ _ _ => some id
  | _ => none

/-! ## Whole runs -/

/-- From an empty table, what every commit keeps holds at the end. -/
theorem serial_of_run {es}
    {cfg : Config Db Key DomainError Cmd Reply}
    (h : run (prog jsonValid) (initial fun _ => none) es = some cfg) :
    Serial (prog jsonValid) (fun _ => Rows.locked) (fun _ => none) cfg.log cfg.db :=
  (Rowwise.protocol (statements jsonValid)).serial trivial h

theorem keyed_of_serial {log}
    (h : Serial (prog jsonValid) (fun _ => Rows.locked) (fun _ => none) log d) : Keyed d :=
  h.invariant (P := Keyed) (fun _ _ hrow => absurd hrow nofun) fun _ hvalid hbefore =>
    (statements_runs (runs_of_valid hvalid) hbefore).1

/-- **Published events stay published.** Let no failure of an event be reported when the event is
published already. Then an event that has been published stays so, and no later claim returns it. -/
theorem published_event_stays {es : List (Event Cmd DomainError Reply)}
    {cfg : Config Db Key DomainError Cmd Reply}
    (h : run (prog jsonValid) (initial fun _ => none) es = some cfg)
    (hfailed : ∀ e ∈ cfg.log, ∀ id attempt message now, e.cmd = .markFailed id attempt message now →
      statusOf e.before id ≠ some .published)
    {newer older : List (Commit Db Key Cmd Reply)} {e : Commit Db Key Cmd Reply} {id : Id}
    (hlog : cfg.log = newer ++ e :: older) (hpublished : statusOf e.after id = some .published) :
    statusOf cfg.db id = some .published ∧
      ∀ e' ∈ newer, statusOf e'.after id = some .published ∧
        ∀ events, e'.reply = .claimed events → ∀ event ∈ events, event.id ≠ id := by
  have hserial := serial_of_run h
  rw [hlog] at hserial hfailed
  obtain ⟨hlater, hvalid, holder⟩ := hserial.split
  have hkeyed : Keyed e.after :=
    (statements_runs (runs_of_valid hvalid) (keyed_of_serial holder)).1
  -- Along the later commits: the event is published, and none of them has claimed it.
  let Stays (log : List (Commit Db Key Cmd Reply)) (d : Db) : Prop :=
    (∀ e' ∈ log, ∀ id attempt message now, e'.cmd = .markFailed id attempt message now →
      statusOf e'.before id ≠ some .published) →
    Keyed d ∧ statusOf d id = some .published ∧
      ∀ e' ∈ log, statusOf e'.after id = some .published ∧
        ∀ events, e'.reply = .claimed events → ∀ event ∈ events, event.id ≠ id
  have hstays : Stays newer cfg.db := by
    refine hlater.history (P := Stays) ?_ ?_
    · exact fun _ => ⟨hkeyed, hpublished, fun _ hmem => absurd hmem not_mem_nil⟩
    · intro e' log hvalid' ih hfailed'
      obtain ⟨hkeyed', hbefore, hlog⟩ := ih fun x hx => hfailed' x (mem_cons_of_mem e' hx)
      obtain ⟨hkeyed'', hkeep⟩ := statements_runs (runs_of_valid hvalid') hkeyed'
      have hafter := hkeep id hbefore fun attempt message now hcmd =>
        hfailed' e' mem_cons_self id attempt message now hcmd hbefore
      refine ⟨hkeyed'', hafter.1, fun x hx => ?_⟩
      rcases mem_cons.mp hx with rfl | hx
      · exact hafter
      · exact hlog x hx
  exact (hstays fun e' hmem => hfailed e' (mem_append_left _ hmem)).2

/-- One relay (session 1) publishes the event, and another one (session 2) comes later. -/
def published : List (Event Cmd DomainError Reply) :=
  [.connect (.script [.enqueue sampleEvent 4])] ++ advances 0 8 ++
  [.connect (sampleIteration (.ok ()) 5 6).publishPending] ++ advances 1 10 ++
  [.connect (sampleIteration (.ok ()) (6 + claimLifetime) 0).publishPending] ++ advances 2 5

theorem published_event_stays_later :
    ∃ (cfg : Config Db Key DomainError Cmd Reply) (later e : Commit Db Key Cmd Reply)
      (older : List (Commit Db Key Cmd Reply)),
      run (prog fun _ => true) (initial fun _ => none) published = some cfg ∧
      cfg.log = [later] ++ e :: older ∧ statusOf cfg.db 1 = some .published ∧
      ∀ events, later.reply = .claimed events → ∀ event ∈ events, event.id ≠ 1 := by
  have hobserved : (run (prog fun _ => true) (initial fun _ => none) published).map
      (fun cfg => cfg.log.map fun e => (e.cmd.failureOf, statusOf e.after 1)) =
      some [(none, some .published), (none, some .published), (none, some .publishing),
        (none, some .pending)] := by
    decide +kernel
  obtain ⟨cfg, hrun, hlog⟩ := map_eq_some_iff.mp hobserved
  have hfailed : ∀ e ∈ cfg.log, ∀ id attempt message now,
      e.cmd = .markFailed id attempt message now → statusOf e.before id ≠ some .published := by
    intro e hmem id attempt message now hcmd
    have hnone := mem_map_of_mem (f := fun e => (e.cmd.failureOf, statusOf e.after 1)) hmem
    rw [hlog, hcmd] at hnone
    simp [Cmd.failureOf] at hnone
  obtain ⟨later, log, heq, -, hlog⟩ := map_eq_cons_iff.mp hlog
  obtain ⟨e, older, rfl, he, -⟩ := map_eq_cons_iff.mp hlog
  have hsplit : cfg.log = [later] ++ e :: older := heq
  obtain ⟨hdb, hlater⟩ := published_event_stays hrun hfailed hsplit (congrArg Prod.snd he)
  exact ⟨cfg, later, e, older, hrun, heq, hdb, (hlater later (by simp)).2⟩

/-! ## A failure that is reported late -/

/-- The relays, and those who enqueue an event. -/
def Serves (client : OutboxClient) : Prop :=
  (∃ it : Iteration, client = it.publishPending) ∨
    ∃ event now, client = .script [.enqueue event now]

/-- The event is enqueued (session 0) and claimed by a first relay (session 1), whose publisher
takes too long. A second relay (session 2) claims it when the claim has lapsed, and publishes it.
Then the first one reports its failure, and a third one (session 3) claims the event again. -/
def lateFailure : List (Event Cmd DomainError Reply) :=
  let lapsed := 5 + claimLifetime
  [.connect (.script [.enqueue sampleEvent 4])] ++ advances 0 8 ++
  [.connect (sampleIteration (.error "") 5 (lapsed + 2)).publishPending] ++ advances 1 5 ++
  [.connect (sampleIteration (.ok ()) lapsed (lapsed + 1)).publishPending] ++ advances 2 10 ++
  advances 1 5 ++
  [.connect (sampleIteration (.ok ()) (2 * lapsed) (2 * lapsed)).publishPending] ++ advances 3 5

theorem serves_lateFailure (client : OutboxClient) (h : .connect client ∈ lateFailure) :
    Serves client := by
  simp only [lateFailure, advances, mem_append, mem_singleton, Event.connect.injEq,
    mem_replicate, reduceCtorEq, and_false, or_false] at h
  rcases h with ((rfl | rfl) | rfl) | rfl
  · exact .inr ⟨_, _, rfl⟩
  · exact .inl ⟨_, rfl⟩
  · exact .inl ⟨_, rfl⟩
  · exact .inl ⟨_, rfl⟩

/-- What a commit leaves of the event, and the events it has claimed. -/
def observe (e : Commit Db Key Cmd Reply) : Option Status × List Id :=
  (statusOf e.after 1, match e.reply with
    | .claimed events => events.map ApplicationEvent.id
    | .done => [])

theorem observe_claimed {e : Commit Db Key Cmd Reply} {status}
    (h : observe e = (status, [1])) : ∃ events, e.reply = .claimed events ∧
      ∃ event ∈ events, event.id = 1 := by
  have hids := congrArg Prod.snd h
  unfold observe at hids
  split at hids
  case h_1 events hreply =>
    dsimp only at hids
    obtain ⟨event, hmem, hid⟩ := mem_map.mp (hids ▸ mem_singleton_self 1)
    exact ⟨events, hreply, event, hmem, hid⟩
  case h_2 => cases hids

/-- The relays can take an event out of the table's last status and publish it again. -/
theorem published_event_claimed_again :
    ∃ (es : List (Event Cmd DomainError Reply)) (cfg : Config Db Key DomainError Cmd Reply),
      (∀ client, .connect client ∈ es → Serves client) ∧
      run (prog fun _ => true) (initial fun _ => none) es = some cfg ∧
      ∃ newer e older, cfg.log = newer ++ e :: older ∧ statusOf e.after 1 = some .published ∧
        (∃ e' ∈ newer, statusOf e'.after 1 = some .pending) ∧
        ∃ e' ∈ newer, ∃ events, e'.reply = .claimed events ∧ ∃ event ∈ events, event.id = 1 := by
  have hobserved : (run (prog fun _ => true) (initial fun _ => none) lateFailure).map
      (fun cfg => cfg.log.map observe) =
      some [(some .publishing, [1]), (some .pending, []), (some .published, []),
        (some .publishing, [1]), (some .publishing, [1]), (some .pending, [])] := by
    decide +kernel
  obtain ⟨cfg, hrun, hlog⟩ := map_eq_some_iff.mp hobserved
  refine ⟨lateFailure, cfg, serves_lateFailure, hrun, ?_⟩
  obtain ⟨again, log, heq, hagain, hlog⟩ := map_eq_cons_iff.mp hlog
  obtain ⟨failed, log, rfl, hfailed, hlog⟩ := map_eq_cons_iff.mp hlog
  obtain ⟨published, log, rfl, hpublished, hlog⟩ := map_eq_cons_iff.mp hlog
  refine ⟨[again, failed], published, log, heq, congrArg Prod.fst hpublished, ?_, ?_⟩
  · exact ⟨failed, by simp, congrArg Prod.fst hfailed⟩
  · exact ⟨again, by simp, observe_claimed hagain⟩

end Pactline.Outbox
