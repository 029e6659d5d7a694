import Pactline.Concurrency.Clients

/-!
# Services

A service calls transactions one after the other, looks at what each has come to, and ends with a
result or an error. Amid others it is a client (`Service.client`); alone on a database it can be
run to its end (`Service.exec`). Whatever the others do, what it ends with depends only on what its
calls come to (`Service.Gives`).
-/

set_option autoImplicit false

namespace ReadCommitted

inductive Service (C E α β : Type)
  | done (b : β)
  | fail (e : E)
  | call (c : C) (next : Outcome E α → Service C E α β)

namespace Service

variable {D Row C E α β γ : Type}

variable {c : C} {lost : E} {e : E} {a : α} {b : β} {pick : α → Option β} {s : Service C E α β}
  {f : β → Service C E α γ} {Q : β → Prop}

def bind : Service C E α β → (β → Service C E α γ) → Service C E α γ
  | done b, f => f b
  | fail e, _ => fail e
  | call c next, f => call c fun outcome => (next outcome).bind f

instance : Monad (Service C E α) where
  pure := done
  bind := bind

/-- What a call has come to: `pick` takes what the service needs from the reply, and `lost` is the
error after an abort. -/
def settle (lost : E) (pick : α → Option β) : Outcome E α → Except E β
  | .committed a => match pick a with
      | some b => .ok b
      | none => .error lost
  | .failed e => .error e
  | .aborted => .error lost

/-- One transaction, whose failure the service looks at. -/
def attempt (lost : E) (pick : α → Option β) (c : C) : Service C E α (Except E β) :=
  call c fun outcome => done (settle lost pick outcome)

/-- The service ends with the error that was found. -/
def ofExcept : Except E β → Service C E α β
  | .ok b => done b
  | .error e => fail e

/-- One transaction, whose failure ends the service. -/
def send (lost : E) (pick : α → Option β) (c : C) : Service C E α β :=
  attempt lost pick c >>= ofExcept

/-- The service, with its error as a result. -/
def result : Service C E α β → Service C E α (Except E β)
  | done b => done (.ok b)
  | fail e => done (.error e)
  | call c next => call c fun outcome => (next outcome).result

/-- What a service does to the database. -/
def client : Service C E α β → Client C E α
  | done _ => .stop
  | fail _ => .stop
  | call c next => .call c fun outcome => (next outcome).client

/-- The service on a database that nobody else works on: what it ends with, and the database it
leaves. -/
def exec (prog : C → Txn D Row E α) : Service C E α β → D → Except E β × D
  | done b, d => (.ok b, d)
  | fail e, d => (.error e, d)
  | call c next, d => match (prog c).exec d with
      | .ok (a, d') => (next (.committed a)).exec prog d'
      | .error e => (next (.failed e)).exec prog d

/-- With these calls and what they came to, the service ends with `b`. -/
def Gives : Service C E α β → List (C × Outcome E α) → β → Prop
  | done b, calls, b' => calls = [] ∧ b' = b
  | fail _, _, _ => False
  | call c next, calls, b' => ∃ outcome rest, calls = (c, outcome) :: rest ∧
      (next outcome).Gives rest b'

instance decidableGives [DecidableEq C] [DecidableEq β] : (s : Service C E α β) →
    (calls : List (C × Outcome E α)) → (b : β) → Decidable (s.Gives calls b)
  | done b, calls, b' => inferInstanceAs (Decidable (calls = [] ∧ b' = b))
  | fail _, _, _ => isFalse id
  | call _ _, [], _ => isFalse (by rintro ⟨_, _, h, -⟩; cases h)
  | call c next, (c', outcome) :: rest, b =>
    have := decidableGives (next outcome) rest b
    decidable_of_iff (c' = c ∧ (next outcome).Gives rest b) (by
      constructor
      · rintro ⟨rfl, h⟩
        exact ⟨outcome, rest, rfl, h⟩
      · rintro ⟨_, _, heq, h⟩
        cases heq
        exact ⟨rfl, h⟩)

/-- The service calls only commands that satisfy `p`, whatever they come to; `Q` is what is known of
its result. -/
def Calls (p : C → Prop) : Service C E α β → (β → Prop) → Prop
  | done b, Q => Q b
  | fail _, _ => True
  | call c next, Q => p c ∧ ∀ outcome, (next outcome).Calls p Q

theorem Calls.only {p} (h : s.Calls p Q) :
    s.client.Only p := by
  induction s with
  | done b => trivial
  | fail e => trivial
  | call c next ih => exact ⟨h.1, fun outcome => ih outcome (h.2 outcome)⟩

section Calls

variable {p : C → Prop}

@[simp] theorem calls_pure :
    (Pure.pure b : Service C E α β).Calls p Q ↔ Q b := Iff.rfl

@[simp] theorem calls_fail : (fail e : Service C E α β).Calls p Q := trivial

@[simp] theorem calls_bind {Q} :
    (s >>= f).Calls p Q ↔ s.Calls p fun b => (f b).Calls p Q := by
  change (s.bind f).Calls p Q ↔ _
  induction s with
  | done b => rfl
  | fail e => rfl
  | call c next ih => exact and_congr_right fun _ => forall_congr' ih

@[simp] theorem calls_ite {c : Prop} [Decidable c] {t : Service C E α β} :
    (if c then s else t).Calls p Q ↔ (c → s.Calls p Q) ∧ (¬ c → t.Calls p Q) := by
  by_cases hc : c <;> simp [hc]

theorem calls_result (h : s.Calls p fun _ => True) {Q} (hQ : ∀ r, Q r) :
    s.result.Calls p Q := by
  induction s with
  | done b => exact hQ _
  | fail e => exact hQ _
  | call c next ih => exact ⟨h.1, fun outcome => ih outcome (h.2 outcome)⟩

theorem calls_ofExcept {r} :
    (ofExcept r : Service C E α β).Calls p Q ↔ ∀ b, r = .ok b → Q b := by
  cases r <;> simp [ofExcept, Calls]

theorem calls_attempt {Q} (hc : p c) (hQ : ∀ r, Q r) :
    (attempt lost pick c).Calls p Q :=
  ⟨hc, fun _ => hQ _⟩

theorem calls_send (hc : p c) (hQ : ∀ b, Q b) : (send lost pick c).Calls p Q := by
  rw [send, calls_bind]
  refine calls_attempt hc fun r => ?_
  cases r with
  | ok b => exact hQ b
  | error e => trivial

end Calls

section Exec

variable {prog : C → Txn D Row E α} {d d' : D}

theorem exec_call_ok {next : Outcome E α → Service C E α β} (h : (prog c).exec d = .ok (a, d')) :
    (call c next).exec prog d = (next (.committed a)).exec prog d' := by
  rw [exec, h]

theorem exec_call_error {next : Outcome E α → Service C E α β} (h : (prog c).exec d = .error e) :
    (call c next).exec prog d = (next (.failed e)).exec prog d := by
  rw [exec, h]

theorem exec_bind (s : Service C E α β) (d : D) :
    (s >>= f).exec prog d = match s.exec prog d with
      | (.ok b, d') => (f b).exec prog d'
      | (.error e, d') => (.error e, d') := by
  change (s.bind f).exec prog d = _
  induction s generalizing d with
  | done a => rfl
  | fail e => rfl
  | call c next ih =>
    simp only [bind, exec]
    cases (prog c).exec d with
    | ok x => exact ih _ x.2
    | error e => exact ih _ d

theorem exec_bind_ok (h : s.exec prog d = (.ok b, d')) :
    (s >>= f).exec prog d = (f b).exec prog d' := by
  rw [exec_bind, h]

theorem exec_bind_error (h : s.exec prog d = (.error e, d')) :
    (s >>= f).exec prog d = (.error e, d') := by
  rw [exec_bind, h]

/-- A service that ends with a result has come through all its parts. -/
theorem exec_bind_eq_ok {c} :
    (s >>= f).exec prog d = (.ok c, d') ↔
      ∃ b d₁, s.exec prog d = (.ok b, d₁) ∧ (f b).exec prog d₁ = (.ok c, d') := by
  rcases hs : s.exec prog d with ⟨r, d₁⟩
  cases r with
  | error e => simp [exec_bind_error hs]
  | ok b => simp [exec_bind_ok hs]

@[simp] theorem exec_pure (b : β) : (Pure.pure b : Service C E α β).exec prog d = (.ok b, d) := rfl

theorem exec_attempt_ok (h : (prog c).exec d = .ok (a, d')) :
    (attempt lost pick c).exec prog d = (.ok (settle lost pick (.committed a)), d') :=
  exec_call_ok h

theorem exec_attempt_error (h : (prog c).exec d = .error e) :
    (attempt lost pick c).exec prog d = (.ok (.error e), d) :=
  exec_call_error h

/-- A call that has to succeed, alone on a database. -/
theorem exec_send_ok (h : (prog c).exec d = .ok (a, d')) (hpick : pick a = some b) :
    (send lost pick c).exec prog d = (.ok b, d') := by
  rw [send, exec_bind_ok (exec_attempt_ok h), settle, hpick]
  rfl

theorem exec_send_error (h : (prog c).exec d = .error e) :
    (send lost pick c).exec prog d = (.error e, d) := by
  rw [send, exec_bind_ok (exec_attempt_error h)]
  rfl

theorem exec_send_error_cases (h : (send lost pick c).exec prog d = (.error e, d')) :
    e = lost ∨ (prog c).exec d = .error e := by
  cases hc : (prog c).exec d with
  | error e' =>
    rw [exec_send_error hc] at h
    cases h
    exact .inr rfl
  | ok r =>
    cases hpick : pick r.1 with
    | some b =>
      rw [exec_send_ok hc hpick] at h
      cases h
    | none =>
      rw [send, exec_bind_ok (exec_attempt_ok hc), settle, hpick] at h
      cases h
      exact .inl rfl

/-- A call that has succeeded has committed. -/
theorem exec_send_eq_ok (h : (send lost pick c).exec prog d = (.ok b, d')) :
    ∃ a, (prog c).exec d = .ok (a, d') ∧ pick a = some b := by
  cases hc : (prog c).exec d with
  | error e =>
    rw [exec_send_error hc] at h
    cases h
  | ok x =>
    rw [send, exec_bind_ok (exec_attempt_ok hc), settle] at h
    cases hpick : pick x.1 with
    | none =>
      rw [hpick] at h
      cases h
    | some b' =>
      rw [hpick] at h
      cases h
      exact ⟨x.1, rfl, hpick⟩

@[simp] theorem exec_ofExcept (r : Except E β) :
    (ofExcept r : Service C E α β).exec prog d = (r, d) := by
  cases r <;> rfl

/-- A service whose error is a result does not fail. -/
theorem exec_result (s : Service C E α β) :
    ∃ r d', s.result.exec prog d = (.ok r, d') := by
  induction s generalizing d with
  | done b => exact ⟨_, _, rfl⟩
  | fail e => exact ⟨_, _, rfl⟩
  | call c next ih =>
    cases hc : (prog c).exec d with
    | ok x =>
      rw [result, exec_call_ok hc]
      exact ih _
    | error e =>
      rw [result, exec_call_error hc]
      exact ih _

end Exec

variable {calls : List (C × Outcome E α)}

@[simp] theorem gives_fail : ¬ (fail e : Service C E α β).Gives calls b := id

@[simp] theorem gives_bind {p : Service C E α β} {b} :
    (p >>= f).Gives calls b ↔
      ∃ a first rest, calls = first ++ rest ∧ p.Gives first a ∧ (f a).Gives rest b := by
  change (p.bind f).Gives calls b ↔ _
  induction p generalizing calls with
  | done a =>
    constructor
    · intro h
      exact ⟨a, [], calls, rfl, ⟨rfl, rfl⟩, h⟩
    · rintro ⟨a', first, rest, rfl, ⟨rfl, rfl⟩, h⟩
      exact h
  | fail e =>
    constructor
    · exact False.elim
    · rintro ⟨_, _, _, -, h, -⟩
      exact h
  | call c next ih =>
    constructor
    · rintro ⟨outcome, rest, rfl, h⟩
      obtain ⟨a, first, later, rfl, hp, hf⟩ := (ih outcome).mp h
      exact ⟨a, (c, outcome) :: first, later, rfl, ⟨outcome, first, rfl, hp⟩, hf⟩
    · rintro ⟨a, first, later, rfl, ⟨outcome, first', rfl, hp⟩, hf⟩
      exact ⟨outcome, first' ++ later, rfl, (ih outcome).mpr ⟨a, first', later, rfl, hp, hf⟩⟩

/-- What a service has done so far determines what it ends with. -/
theorem gives_unique {first first' later later' b'}
    (h : s.Gives first b) (h' : s.Gives first' b') (heq : first ++ later = first' ++ later') :
    b = b' := by
  induction s generalizing first first' with
  | done a => exact h.2.trans h'.2.symm
  | fail e => exact h.elim
  | call c next ih =>
    obtain ⟨outcome, rest, rfl, hnext⟩ := h
    obtain ⟨outcome', rest', rfl, hnext'⟩ := h'
    simp only [List.cons_append, List.cons.injEq, Prod.mk.injEq, true_and] at heq
    obtain ⟨rfl, heq⟩ := heq
    exact ih outcome hnext hnext' heq

@[simp] theorem gives_ite {c : Prop} [Decidable c] {p q : Service C E α β} :
    (if c then p else q).Gives calls b ↔ c ∧ p.Gives calls b ∨ ¬ c ∧ q.Gives calls b := by
  by_cases hc : c <;> simp [hc]

theorem settle_eq_ok {outcome} :
    settle lost pick outcome = .ok b ↔ ∃ a, outcome = .committed a ∧ pick a = some b := by
  cases outcome with
  | committed a => cases hpick : pick a <;> simp [settle, hpick]
  | failed e => simp [settle]
  | aborted => simp [settle]

@[simp] theorem gives_attempt {r} :
    (attempt lost pick c).Gives calls r ↔
      ∃ outcome, calls = [(c, outcome)] ∧ r = settle lost pick outcome := by
  constructor
  · rintro ⟨outcome, rest, rfl, rfl, rfl⟩
    exact ⟨outcome, rfl, rfl⟩
  · rintro ⟨outcome, rfl, rfl⟩
    exact ⟨outcome, [], rfl, rfl, rfl⟩

@[simp] theorem gives_ofExcept {r} :
    (ofExcept r : Service C E α β).Gives calls b ↔ calls = [] ∧ r = .ok b := by
  cases r with
  | ok b' =>
    rw [Except.ok.injEq, eq_comm (a := b')]
    exact Iff.rfl
  | error e => simp [ofExcept]

/-- A call that has to succeed has committed. -/
@[simp] theorem gives_send :
    (send lost pick c).Gives calls b ↔
      ∃ a, pick a = some b ∧ calls = [(c, .committed a)] := by
  simp only [send, gives_bind, gives_attempt, gives_ofExcept]
  constructor
  · rintro ⟨r, first, rest, rfl, ⟨outcome, rfl, rfl⟩, rfl, hok⟩
    obtain ⟨a, rfl, hpick⟩ := settle_eq_ok.mp hok
    exact ⟨a, hpick, rfl⟩
  · rintro ⟨a, hpick, rfl⟩
    exact ⟨_, [(c, .committed a)], [], rfl, ⟨_, rfl, rfl⟩, rfl, settle_eq_ok.mpr ⟨a, rfl, hpick⟩⟩

end Service

end ReadCommitted
