import Mathlib.Data.List.Basic
import Mathlib.Logic.Function.Basic

/-!
# Transaction programs

A transaction is a program over a database type `D`: it takes row locks, reads,
writes, fails or returns. One `read` is one SQL statement: it sees the last
committed database with the transaction's own writes applied, which is what read
committed isolation gives a statement.

Two meanings are given to a program.

* `Txn.exec` runs it alone.
* `Txn.Commits R` says what it can do when it commits amid other transactions. The
  *rely* `R held d d'` says what the commits of others may do to the database while
  the locks `held` are held; a read then returns a value of some database from which
  only such commits have happened since. A read of a locked row is therefore exact,
  and a read of an unlocked row is whatever the rely leaves of it.

`Txn.Guarded` is the side condition on the writes of a program: each must act the same
on two databases the rely cannot tell apart.
-/

set_option autoImplicit false

namespace ReadCommitted

/-- Conjunctions and existentials, as `obtain` takes them apart. -/
theorem peel : (∀ {a b c : Prop}, (a ∧ b) ∧ c ↔ a ∧ b ∧ c) ∧
    (∀ {α : Type} {p : α → Prop} {b : Prop}, (∃ x, b ∧ p x) ↔ b ∧ ∃ x, p x) ∧
    (∀ {α : Type} {p : α → Prop} {a : α}, (∃ x, x = a ∧ p x) ↔ p a) ∧
    ∀ {α : Type} [Unique α] {p : α → Prop}, Exists p ↔ p default :=
  ⟨and_assoc, exists_and_left, exists_eq_left, Unique.exists_iff⟩

/-! ## Row locks -/

/-- The two row locks a statement can ask for: `FOR SHARE` and `FOR UPDATE`. -/
inductive Strength
  | share
  | update
deriving DecidableEq, Repr

/-- A lock on one row. -/
structure Lock (Row : Type) where
  row : Row
  strength : Strength
deriving DecidableEq, Repr

section Locks

variable {Row : Type}

/-- Two locks of different transactions conflict when they are on one row and at least
one of them is `FOR UPDATE`. -/
def Lock.Conflicts (a b : Lock Row) : Prop :=
  a.row = b.row ∧ (a.strength = .update ∨ b.strength = .update)

instance [DecidableEq Row] (a b : Lock Row) : Decidable (a.Conflicts b) :=
  inferInstanceAs (Decidable (_ ∧ _))

theorem Lock.Conflicts.symm {a b : Lock Row} (h : a.Conflicts b) : b.Conflicts a :=
  ⟨h.1.symm, h.2.symm⟩

/-- No lock of one list conflicts with one of the other. -/
def Compatible (held held' : List (Lock Row)) : Prop :=
  ∀ a ∈ held, ∀ b ∈ held', ¬ a.Conflicts b

theorem Compatible.symm {held held' : List (Lock Row)} (h : Compatible held held') :
    Compatible held' held :=
  fun a ha b hb hab => h b hb a ha hab.symm

theorem Compatible.nil_left (held : List (Lock Row)) : Compatible [] held :=
  fun _ ha => absurd ha List.not_mem_nil

/-- A row locked `FOR UPDATE` by one side is not locked at all by the other. -/
theorem Compatible.not_locked {held held' : List (Lock Row)} (h : Compatible held held')
    {r : Row} (hr : ⟨r, .update⟩ ∈ held) (s : Strength) : ⟨r, s⟩ ∉ held' :=
  fun hs => h _ hr _ hs ⟨rfl, Or.inl rfl⟩

/-- A row locked in any way by one side is not locked `FOR UPDATE` by the other. -/
theorem Compatible.not_update {held held' : List (Lock Row)} (h : Compatible held held')
    {r : Row} {s : Strength} (hr : ⟨r, s⟩ ∈ held) : ⟨r, .update⟩ ∉ held' :=
  fun hs => h _ hr _ hs ⟨rfl, Or.inr rfl⟩

end Locks

/-! ## Programs -/

/-- A transaction program: `lock` asks for a row lock and waits for it, `read` is one
statement that looks at the database, `write` one that changes it. -/
inductive Txn (D Row E α : Type) : Type
  | ret (a : α)
  | fail (e : E)
  | lock (l : Lock Row) (k : Txn D Row E α)
  | read (k : D → Txn D Row E α)
  | write (w : D → D) (k : Txn D Row E α)

namespace Txn

section Programs

variable {D Row E α β : Type}

/-- Sequencing: `f` continues where the program returns. -/
def bind : Txn D Row E α → (α → Txn D Row E β) → Txn D Row E β
  | ret a, f => f a
  | fail e, _ => fail e
  | lock l k, f => lock l (k.bind f)
  | read k, f => read fun d => (k d).bind f
  | write w k, f => write w (k.bind f)

instance : Monad (Txn D Row E) where
  pure := ret
  bind := bind

/-- A check of the domain layer, run inside a transaction: its error ends the transaction. -/
def ofExcept : Except E α → Txn D Row E α
  | .ok a => ret a
  | .error e => fail e

instance : MonadLift (Except E) (Txn D Row E) where
  monadLift := ofExcept

/-- One statement that reads `q`. -/
def query (q : D → α) : Txn D Row E α :=
  read fun d => ret (q d)

/-- One statement that asks for a row lock. -/
def acquire (r : Row) (s : Strength) : Txn D Row E Unit :=
  lock ⟨r, s⟩ (ret ())

/-- One statement that locks several rows, in order. -/
def acquireAll (s : Strength) : List Row → Txn D Row E Unit
  | [] => ret ()
  | r :: rs => lock ⟨r, s⟩ (acquireAll s rs)

/-- One statement that changes the database. -/
def modify (w : D → D) : Txn D Row E Unit :=
  write w (ret ())

/-- The program ends with the error unless the condition holds. -/
def require (c : Prop) [Decidable c] (e : E) : Txn D Row E Unit :=
  if c then ret () else fail e

/-- The value, or the end of the transaction where there is none. -/
def demand (x : Option α) (e : E) : Txn D Row E α :=
  match x with
  | some a => ret a
  | none => fail e

/-- The program does nothing more. -/
def Ends : Txn D Row E α → Prop
  | ret _ => True
  | fail _ => True
  | _ => False

/-- The program run alone, with no other transaction in sight. -/
def exec : Txn D Row E α → D → Except E (α × D)
  | ret a, d => .ok (a, d)
  | fail e, _ => .error e
  | lock _ k, d => k.exec d
  | read k, d => (k d).exec d
  | write w k, d => k.exec (w d)

end Programs

end Txn

/-! ## What a program can do amid other transactions -/

/-- A rely: `rel held d d'` says that the commits of other transactions, made while the
locks `held` are held, may turn `d` into `d'`. -/
structure Rely (D Row : Type) where
  rel : List (Lock Row) → D → D → Prop
  refl : ∀ held d, rel held d d
  trans : ∀ held d₁ d₂ d₃, rel held d₁ d₂ → rel held d₂ d₃ → rel held d₁ d₃
  weaken : ∀ held held' d d', held ⊆ held' → rel held' d d' → rel held d d'

/-- A write is safe under the locks `held` when it keeps databases related that the rely
relates, for these locks and for any that are taken later. -/
def Rely.Safe {D Row : Type} (R : Rely D Row) (held : List (Lock Row)) (w : D → D) : Prop :=
  ∀ held', held ⊆ held' → ∀ d d', R.rel held' d d' → R.rel held' (w d) (w d')

theorem Rely.Safe.mono {D Row : Type} {R : Rely D Row} {held held' w}
    (h : R.Safe held w) (hle : held ⊆ held') : R.Safe held' w :=
  fun held'' hle' => h held'' (List.Subset.trans hle hle')

namespace Txn

section Semantics

variable {D Row E α β : Type} (R : Rely D Row)

/-- `p.Commits R held d a held' d'`: started with the locks `held` on the view `d`, the
program can return `a` with the locks `held'` and the view `d'`. -/
def Commits : Txn D Row E α → List (Lock Row) → D → α → List (Lock Row) → D → Prop
  | ret a, held, d, a', held', d' => a' = a ∧ held' = held ∧ d' = d
  | fail _, _, _, _, _, _ => False
  | lock l k, held, d, a', held', d' => k.Commits (l :: held) d a' held' d'
  | read k, held, d, a', held', d' =>
    ∃ d₀, R.rel held d₀ d ∧ (k d₀).Commits held d a' held' d'
  | write w k, held, d, a', held', d' => k.Commits held (w d) a' held' d'

/-- Every write of the program is safe under the locks held when it is made; `Q` is what
is known of the result and of the locks at the end. -/
def Guarded : Txn D Row E α → List (Lock Row) → (α → List (Lock Row) → Prop) → Prop
  | ret a, held, Q => Q a held
  | fail _, _, _ => True
  | lock l k, held, Q => k.Guarded (l :: held) Q
  | read k, held, Q => ∀ d, (k d).Guarded held Q
  | write w k, held, Q => R.Safe held w ∧ k.Guarded held Q

variable {R} {held held' : List (Lock Row)} {d d' : D}

variable {a : α} {e : E} {u : Unit} {s : Strength} {r : Row} {w : D → D} {q : D → α}
  {x : Except E α} {p : Txn D Row E α} {f : α → Txn D Row E β} {c : Prop} [Decidable c]
  {Q : α → List (Lock Row) → Prop}

/-! ### `Commits`, one statement at a time -/

@[simp] theorem commits_pure {a'} :
    (Pure.pure a : Txn D Row E α).Commits R held d a' held' d' ↔
      a' = a ∧ held' = held ∧ d' = d :=
  Iff.rfl

@[simp] theorem commits_ret {a'} :
    (ret a : Txn D Row E α).Commits R held d a' held' d' ↔ a' = a ∧ held' = held ∧ d' = d :=
  Iff.rfl

@[simp] theorem commits_fail :
    ¬ (fail e : Txn D Row E α).Commits R held d a held' d' :=
  id

@[simp] theorem commits_lock {l} {k : Txn D Row E α} :
    (lock l k).Commits R held d a held' d' ↔ k.Commits R (l :: held) d a held' d' :=
  Iff.rfl

@[simp] theorem commits_read {k : D → Txn D Row E α} :
    (read k).Commits R held d a held' d' ↔
      ∃ d₀, R.rel held d₀ d ∧ (k d₀).Commits R held d a held' d' :=
  Iff.rfl

@[simp] theorem commits_write {k : Txn D Row E α} :
    (write w k).Commits R held d a held' d' ↔ k.Commits R held (w d) a held' d' :=
  Iff.rfl

/-- A run of `p >>= f` is a run of `p` followed by one of `f`. -/
@[simp] theorem commits_bind {b} :
    (p >>= f).Commits R held d b held' d' ↔
      ∃ a held₁ d₁, p.Commits R held d a held₁ d₁ ∧ (f a).Commits R held₁ d₁ b held' d' := by
  change (p.bind f).Commits R held d b held' d' ↔ _
  induction p generalizing held d with
  | ret a =>
    constructor
    · intro h
      exact ⟨a, held, d, ⟨rfl, rfl, rfl⟩, h⟩
    · rintro ⟨a', held₁, d₁, ⟨rfl, rfl, rfl⟩, h⟩
      exact h
  | fail e =>
    constructor
    · exact False.elim
    · rintro ⟨_, _, _, h, -⟩
      exact h
  | lock l k ih => exact ih
  | write w k ih => exact ih
  | read k ih =>
    constructor
    · rintro ⟨d₀, hd₀, h⟩
      obtain ⟨a, held₁, d₁, hp, hf⟩ := (ih d₀).mp h
      exact ⟨a, held₁, d₁, ⟨d₀, hd₀, hp⟩, hf⟩
    · rintro ⟨a, held₁, d₁, ⟨d₀, hd₀, hp⟩, hf⟩
      exact ⟨d₀, hd₀, (ih d₀).mpr ⟨a, held₁, d₁, hp, hf⟩⟩

/-- A program whose result is only put into another form. -/
theorem commits_of_bind_pure {f : α → β} {b : β}
    (h : (p >>= fun a => Pure.pure (f a)).Commits R held d b held' d') :
    ∃ a, b = f a ∧ p.Commits R held d a held' d' := by
  obtain ⟨a, held₁, d₁, hp, rfl, rfl, rfl⟩ := commits_bind.mp h
  exact ⟨a, rfl, hp⟩

@[simp] theorem commits_ofExcept :
    (ofExcept x : Txn D Row E α).Commits R held d a held' d' ↔
      x = .ok a ∧ held' = held ∧ d' = d := by
  cases x with
  | ok b =>
    simp only [ofExcept, commits_ret, Except.ok.injEq]
    exact and_congr_left fun _ => eq_comm
  | error e => simp [ofExcept]

@[simp] theorem commits_liftM :
    (liftM x : Txn D Row E α).Commits R held d a held' d' ↔
      x = .ok a ∧ held' = held ∧ d' = d :=
  commits_ofExcept

/-- A statement returns a value that was current at some database since which only the
rely has acted. -/
@[simp] theorem commits_query :
    (query q : Txn D Row E α).Commits R held d a held' d' ↔
      (∃ d₀, R.rel held d₀ d ∧ a = q d₀) ∧ held' = held ∧ d' = d := by
  constructor
  · rintro ⟨d₀, hd₀, rfl, rfl, rfl⟩
    exact ⟨⟨d₀, hd₀, rfl⟩, rfl, rfl⟩
  · rintro ⟨⟨d₀, hd₀, rfl⟩, rfl, rfl⟩
    exact ⟨d₀, hd₀, rfl, rfl, rfl⟩

@[simp] theorem commits_acquire :
    (acquire r s : Txn D Row E Unit).Commits R held d u held' d' ↔
      held' = ⟨r, s⟩ :: held ∧ d' = d := by
  simp [acquire]

@[simp] theorem commits_acquireAll {rs : List Row} :
    (acquireAll s rs : Txn D Row E Unit).Commits R held d u held' d' ↔
      held' = (rs.map fun r => ⟨r, s⟩).reverse ++ held ∧ d' = d := by
  induction rs generalizing held with
  | nil => simp [acquireAll]
  | cons r rs ih => simp [acquireAll, ih]

@[simp] theorem commits_modify :
    (modify w : Txn D Row E Unit).Commits R held d u held' d' ↔ held' = held ∧ d' = w d := by
  simp [modify]

@[simp] theorem commits_require :
    (require c e : Txn D Row E Unit).Commits R held d u held' d' ↔
      c ∧ held' = held ∧ d' = d := by
  by_cases hc : c <;> simp [require, hc]

@[simp] theorem commits_demand {x} :
    (demand x e : Txn D Row E α).Commits R held d a held' d' ↔
      x = some a ∧ held' = held ∧ d' = d := by
  cases x with
  | none => simp [demand]
  | some b =>
    simp only [demand, commits_ret, Option.some.injEq]
    exact and_congr_left fun _ => eq_comm

@[simp] theorem commits_ite {q : Txn D Row E α} :
    (if c then p else q).Commits R held d a held' d' ↔
      c ∧ p.Commits R held d a held' d' ∨ ¬ c ∧ q.Commits R held d a held' d' := by
  by_cases hc : c <;> simp [hc]

/-- The rules of the statements as one argument of `simp`. -/
theorem rules : type_of% (And.intro @commits_bind <| And.intro @commits_pure <|
    And.intro @commits_liftM <| And.intro @commits_query <| And.intro @commits_acquire <|
    And.intro @commits_acquireAll <| And.intro @commits_modify <|
    And.intro @commits_require @commits_demand) :=
  ⟨commits_bind, commits_pure, commits_liftM, commits_query, commits_acquire, commits_acquireAll,
    commits_modify, commits_require, commits_demand⟩

/-! ### `Guarded`, one statement at a time -/

theorem Guarded.mono {Q'} (h : p.Guarded R held Q)
    (hQ : ∀ a ls, held ⊆ ls → Q a ls → Q' a ls) :
    p.Guarded R held Q' := by
  induction p generalizing held with
  | ret a => exact hQ a held (List.Subset.refl _) h
  | fail e => trivial
  | lock l k ih =>
    exact ih h fun a ls hle => hQ a ls fun x hx => hle (List.mem_cons_of_mem l hx)
  | read k ih => exact fun d => ih d (h d) hQ
  | write w k ih => exact ⟨h.1, ih h.2 hQ⟩

@[simp] theorem guarded_bind {Q} :
    (p >>= f).Guarded R held Q ↔ p.Guarded R held fun a ls => (f a).Guarded R ls Q := by
  change (p.bind f).Guarded R held Q ↔ _
  induction p generalizing held with
  | ret a => exact Iff.rfl
  | fail e => exact Iff.rfl
  | lock l k ih => exact ih
  | read k ih => exact forall_congr' fun d => ih d
  | write w k ih => exact and_congr_right fun _ => ih

/-- A program with a known postcondition, followed by one that is guarded wherever the
postcondition holds and at least the locks of the start are held. -/
theorem Guarded.bind {Q'} (hp : p.Guarded R held Q)
    (hf : ∀ a ls, held ⊆ ls → Q a ls → (f a).Guarded R ls Q') : (p >>= f).Guarded R held Q' :=
  guarded_bind.mpr (hp.mono hf)

@[simp] theorem guarded_pure :
    (Pure.pure a : Txn D Row E α).Guarded R held Q ↔ Q a held :=
  Iff.rfl

@[simp] theorem guarded_ret :
    (ret a : Txn D Row E α).Guarded R held Q ↔ Q a held :=
  Iff.rfl

@[simp] theorem guarded_lock {l} {k : Txn D Row E α} :
    (lock l k).Guarded R held Q ↔ k.Guarded R (l :: held) Q :=
  Iff.rfl

@[simp] theorem guarded_read {k : D → Txn D Row E α} :
    (read k).Guarded R held Q ↔ ∀ d, (k d).Guarded R held Q :=
  Iff.rfl

@[simp] theorem guarded_fail :
    (fail e : Txn D Row E α).Guarded R held Q :=
  trivial

@[simp] theorem guarded_query :
    (query q : Txn D Row E α).Guarded R held Q ↔ ∀ d, Q (q d) held :=
  Iff.rfl

@[simp] theorem guarded_acquire {Q} :
    (acquire r s : Txn D Row E Unit).Guarded R held Q ↔ Q () (⟨r, s⟩ :: held) :=
  Iff.rfl

@[simp] theorem guarded_acquireAll {rs : List Row} {Q} :
    (acquireAll s rs : Txn D Row E Unit).Guarded R held Q ↔
      Q () ((rs.map fun r => ⟨r, s⟩).reverse ++ held) := by
  induction rs generalizing held with
  | nil => simp [acquireAll]
  | cons r rs ih => simp [acquireAll, ih]

@[simp] theorem guarded_modify {Q} :
    (modify w : Txn D Row E Unit).Guarded R held Q ↔ R.Safe held w ∧ Q () held :=
  Iff.rfl

@[simp] theorem guarded_ofExcept :
    (ofExcept x : Txn D Row E α).Guarded R held Q ↔ ∀ a, x = .ok a → Q a held := by
  cases x <;> simp [ofExcept]

@[simp] theorem guarded_liftM :
    (liftM x : Txn D Row E α).Guarded R held Q ↔ ∀ a, x = .ok a → Q a held :=
  guarded_ofExcept

@[simp] theorem guarded_require {Q} :
    (require c e : Txn D Row E Unit).Guarded R held Q ↔ (c → Q () held) := by
  by_cases hc : c <;> simp [require, hc]

@[simp] theorem guarded_demand {x} :
    (demand x e : Txn D Row E α).Guarded R held Q ↔ ∀ a, x = some a → Q a held := by
  cases x <;> simp [demand]

@[simp] theorem guarded_ite {q : Txn D Row E α} :
    (if c then p else q).Guarded R held Q ↔
      (c → p.Guarded R held Q) ∧ (¬ c → q.Guarded R held Q) := by
  by_cases hc : c <;> simp [hc]

/-! ### Programs that write nothing -/

/-- The program locks and reads but writes nothing, and what it returns satisfies `Q`. -/
def ReadOnly : Txn D Row E α → (α → Prop) → Prop
  | ret a, Q => Q a
  | fail _, _ => True
  | lock _ k, Q => k.ReadOnly Q
  | read k, Q => ∀ d, (k d).ReadOnly Q
  | write _ _, _ => False

/-- Nothing has to be guarded, and the locks only grow. -/
theorem ReadOnly.guarded {Q} (h : p.ReadOnly Q) :
    p.Guarded R held fun _ ls => held ⊆ ls := by
  induction p generalizing held with
  | ret a => exact List.Subset.refl _
  | fail e => trivial
  | lock l k ih =>
    refine (ih h).mono fun a ls _ hle => ?_
    exact fun x hx => hle (List.mem_cons_of_mem l hx)
  | read k ih => exact fun d => ih d (h d)
  | write w k ih => exact h.elim

@[simp] theorem readOnly_bind {Q} :
    (p >>= f).ReadOnly Q ↔ p.ReadOnly fun a => (f a).ReadOnly Q := by
  change (p.bind f).ReadOnly Q ↔ _
  induction p with
  | ret a => exact Iff.rfl
  | fail e => exact Iff.rfl
  | lock l k ih => exact ih
  | read k ih => exact forall_congr' ih
  | write w k ih => exact Iff.rfl

@[simp] theorem readOnly_pure {Q} :
    (Pure.pure a : Txn D Row E α).ReadOnly Q ↔ Q a :=
  Iff.rfl

@[simp] theorem readOnly_ret {Q} : (ret a : Txn D Row E α).ReadOnly Q ↔ Q a :=
  Iff.rfl

@[simp] theorem readOnly_fail {Q} : (fail e : Txn D Row E α).ReadOnly Q :=
  trivial

@[simp] theorem readOnly_query {Q} :
    (query q : Txn D Row E α).ReadOnly Q ↔ ∀ d, Q (q d) :=
  Iff.rfl

@[simp] theorem readOnly_acquire {Q} :
    (acquire r s : Txn D Row E Unit).ReadOnly Q ↔ Q () :=
  Iff.rfl

@[simp] theorem readOnly_liftM {Q} :
    (liftM x : Txn D Row E α).ReadOnly Q ↔ ∀ a, x = .ok a → Q a := by
  change (ofExcept x).ReadOnly Q ↔ _
  cases x <;> simp [ofExcept]

@[simp] theorem readOnly_require {Q} :
    (require c e : Txn D Row E Unit).ReadOnly Q ↔ (c → Q ()) := by
  by_cases hc : c <;> simp [require, hc]

@[simp] theorem readOnly_demand {x Q} :
    (demand x e : Txn D Row E α).ReadOnly Q ↔ ∀ a, x = some a → Q a := by
  cases x <;> simp [demand]

@[simp] theorem readOnly_ite {q : Txn D Row E α} {Q} :
    (if c then p else q).ReadOnly Q ↔ (c → p.ReadOnly Q) ∧ (¬ c → q.ReadOnly Q) := by
  by_cases hc : c <;> simp [hc]

/-- A run alone is one of the runs a program can have amid others: every read is current. -/
theorem commits_of_exec (h : p.exec d = .ok (a, d')) :
    ∃ held', p.Commits R held d a held' d' := by
  induction p generalizing held d with
  | ret b =>
    simp only [exec, Except.ok.injEq, Prod.mk.injEq] at h
    exact ⟨held, h.1.symm, rfl, h.2.symm⟩
  | fail e => simp [exec] at h
  | lock l k ih => exact ih h
  | read k ih =>
    obtain ⟨held', h'⟩ := ih d h
    exact ⟨held', d, R.refl held d, h'⟩
  | write w k ih => exact ih h

end Semantics

end Txn

end ReadCommitted
