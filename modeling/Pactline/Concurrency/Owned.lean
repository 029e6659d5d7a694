import Pactline.Concurrency.Txn

/-!
# Programs that own a record

Most transactions lock one record first and from then on write nothing else. `Owned` is the type of
the rest of such a transaction: it reads and updates the record it owns, and may look at the whole
database, but has no way to write anything outside the record.

Under a rely that leaves the owned record alone (`Rely.Owns`) its writes are guarded, whatever the
program is (`Owned.guarded_toTxn`), and a run of it is a run on the record itself, where every read
of the record is exact (`Owned.runs_of_commits`).
-/

set_option autoImplicit false

namespace ReadCommitted

/-- A record inside a database. `Else d d'` says that the two databases differ at most in
this record. -/
structure Cell (D V : Type) where
  get : D → Option V
  put : V → D → D
  Else : D → D → Prop
  get_put : ∀ v d, get (put v d) = some v
  else_refl : ∀ d, Else d d
  else_trans : ∀ d₁ d₂ d₃, Else d₁ d₂ → Else d₂ d₃ → Else d₁ d₃
  else_put : ∀ v d, Else d (put v d)

/-- Whoever holds the lock `l` owns the cell: the rely does not change it, and does not mind
that it is changed. -/
structure Rely.Owns {D Row V : Type} (R : Rely D Row) (l : Lock Row) (c : Cell D V) : Prop where
  exact : ∀ held d d', l ∈ held → R.rel held d d' → c.get d' = c.get d
  put : ∀ held d d' v, l ∈ held → R.rel held d d' → R.rel held (c.put v d) (c.put v d')

/-- A program that owns a record of type `V`. -/
inductive Owned (D Row E V α : Type) : Type
  | ret (a : α)
  | fail (e : E)
  | lock (l : Lock Row) (k : Owned D Row E V α)
  | own (k : V → Owned D Row E V α)
  | look (k : D → Owned D Row E V α)
  | set (f : V → V) (k : Owned D Row E V α)

namespace Owned

section Programs

variable {D Row E V α β : Type}

def bind : Owned D Row E V α → (α → Owned D Row E V β) → Owned D Row E V β
  | ret a, f => f a
  | fail e, _ => fail e
  | lock l k, f => lock l (k.bind f)
  | own k, f => own fun v => (k v).bind f
  | look k, f => look fun d => (k d).bind f
  | set g k, f => set g (k.bind f)

instance : Monad (Owned D Row E V) where
  pure := ret
  bind := bind

def ofExcept : Except E α → Owned D Row E V α
  | .ok a => ret a
  | .error e => fail e

instance : MonadLift (Except E) (Owned D Row E V) where
  monadLift := ofExcept

/-- One statement that reads the owned record. -/
def rows (q : V → α) : Owned D Row E V α :=
  own fun v => ret (q v)

/-- One statement that reads anything in the database. -/
def query (q : D → α) : Owned D Row E V α :=
  look fun d => ret (q d)

def acquire (r : Row) (s : Strength) : Owned D Row E V Unit :=
  lock ⟨r, s⟩ (ret ())

/-- One statement that asks for a lock on each of the rows. -/
def acquireAll (s : Strength) : List Row → Owned D Row E V Unit
  | [] => ret ()
  | r :: rs => lock ⟨r, s⟩ (acquireAll s rs)

/-- One statement that changes the owned record. -/
def update (f : V → V) : Owned D Row E V Unit :=
  set f (ret ())

def require (c : Prop) [Decidable c] (e : E) : Owned D Row E V Unit :=
  if c then ret () else fail e

/-- The value, or the end of the transaction where there is none. -/
def demand (x : Option α) (e : E) : Owned D Row E V α :=
  match x with
  | some a => ret a
  | none => fail e

/-- The transaction: every statement reads or writes the database through the cell, and fails
with `absent` when there is no such record. -/
def toTxn (c : Cell D V) (absent : E) : Owned D Row E V α → Txn D Row E α
  | ret a => .ret a
  | fail e => .fail e
  | lock l k => .lock l (k.toTxn c absent)
  | own k => .read fun d =>
    match c.get d with
    | some v => (k v).toTxn c absent
    | none => .fail absent
  | look k => .read fun d => (k d).toTxn c absent
  | set f k => .write (fun d => ((c.get d).map fun v => c.put (f v) d).getD d) (k.toTxn c absent)

end Programs

/-! ## Runs on the record -/

section Runs

variable {D Row E V α β : Type} (R : Rely D Row) (c : Cell D V)

/-- `p.Runs R c held d v a held' v'`: with the locks `held`, on a database that agrees with
`d` outside the record, the program can take the record from `v` to `v'` and return `a`. -/
def Runs : Owned D Row E V α → List (Lock Row) → D → V → α → List (Lock Row) → V → Prop
  | ret a, held, _, v, a', held', v' => a' = a ∧ held' = held ∧ v' = v
  | fail _, _, _, _, _, _, _ => False
  | lock l k, held, d, v, a', held', v' => k.Runs (l :: held) d v a' held' v'
  | own k, held, d, v, a', held', v' => (k v).Runs held d v a' held' v'
  | look k, held, d, v, a', held', v' =>
    ∃ d₀ d₁, R.rel held d₀ d₁ ∧ c.get d₁ = some v ∧ c.Else d d₁ ∧
      (k d₀).Runs held d v a' held' v'
  | set f k, held, d, v, a', held', v' => k.Runs held d (f v) a' held' v'

variable {R c} {held held' : List (Lock Row)} {d : D} {v v' : V}

variable {a : α} {e : E} {u : Unit} {p : Owned D Row E V α} {x : Except E α} {s : Strength}

@[simp] theorem runs_pure {a'} :
    (Pure.pure a : Owned D Row E V α).Runs R c held d v a' held' v' ↔
      a' = a ∧ held' = held ∧ v' = v :=
  Iff.rfl

@[simp] theorem runs_ret {a'} :
    (ret a : Owned D Row E V α).Runs R c held d v a' held' v' ↔ a' = a ∧ held' = held ∧ v' = v :=
  Iff.rfl

@[simp] theorem runs_fail :
    ¬ (fail e : Owned D Row E V α).Runs R c held d v a held' v' :=
  id

@[simp] theorem runs_lock {l} {k : Owned D Row E V α} :
    (lock l k).Runs R c held d v a held' v' ↔ k.Runs R c (l :: held) d v a held' v' :=
  Iff.rfl

@[simp] theorem runs_set {f} {k : Owned D Row E V α} :
    (set f k).Runs R c held d v a held' v' ↔ k.Runs R c held d (f v) a held' v' :=
  Iff.rfl

@[simp] theorem runs_bind {f : α → Owned D Row E V β} {b : β} :
    (p >>= f).Runs R c held d v b held' v' ↔
      ∃ a held₁ v₁, p.Runs R c held d v a held₁ v₁ ∧ (f a).Runs R c held₁ d v₁ b held' v' := by
  change (p.bind f).Runs R c held d v b held' v' ↔ _
  induction p generalizing held v with
  | ret a =>
    constructor
    · intro h
      exact ⟨a, held, v, ⟨rfl, rfl, rfl⟩, h⟩
    · rintro ⟨a', held₁, v₁, ⟨rfl, rfl, rfl⟩, h⟩
      exact h
  | fail e =>
    constructor
    · exact False.elim
    · rintro ⟨_, _, _, h, -⟩
      exact h
  | lock l k ih => exact ih
  | own k ih => exact ih v
  | set g k ih => exact ih
  | look k ih =>
    constructor
    · rintro ⟨d₀, d₁, hR, hget, helse, h⟩
      obtain ⟨a, held₁, v₁, hp, hf⟩ := (ih d₀).mp h
      exact ⟨a, held₁, v₁, ⟨d₀, d₁, hR, hget, helse, hp⟩, hf⟩
    · rintro ⟨a, held₁, v₁, ⟨d₀, d₁, hR, hget, helse, hp⟩, hf⟩
      exact ⟨d₀, d₁, hR, hget, helse, (ih d₀).mpr ⟨a, held₁, v₁, hp, hf⟩⟩

@[simp] theorem runs_ofExcept :
    (ofExcept x : Owned D Row E V α).Runs R c held d v a held' v' ↔
      x = .ok a ∧ held' = held ∧ v' = v := by
  cases x with
  | ok b =>
    simp only [ofExcept, runs_ret, Except.ok.injEq]
    exact and_congr_left fun _ => eq_comm
  | error e => simp [ofExcept]

@[simp] theorem runs_liftM :
    (liftM x : Owned D Row E V α).Runs R c held d v a held' v' ↔
      x = .ok a ∧ held' = held ∧ v' = v :=
  runs_ofExcept

@[simp] theorem runs_rows {q} :
    (rows q : Owned D Row E V α).Runs R c held d v a held' v' ↔
      a = q v ∧ held' = held ∧ v' = v :=
  Iff.rfl

@[simp] theorem runs_query {q} :
    (query q : Owned D Row E V α).Runs R c held d v a held' v' ↔
      (∃ d₀ d₁, R.rel held d₀ d₁ ∧ c.get d₁ = some v ∧ c.Else d d₁ ∧ a = q d₀) ∧
        held' = held ∧ v' = v := by
  constructor
  · rintro ⟨d₀, d₁, hR, hget, helse, rfl, rfl, rfl⟩
    exact ⟨⟨d₀, d₁, hR, hget, helse, rfl⟩, rfl, rfl⟩
  · rintro ⟨⟨d₀, d₁, hR, hget, helse, rfl⟩, rfl, rfl⟩
    exact ⟨d₀, d₁, hR, hget, helse, rfl, rfl, rfl⟩

@[simp] theorem runs_acquire {r} :
    (acquire r s : Owned D Row E V Unit).Runs R c held d v u held' v' ↔
      held' = ⟨r, s⟩ :: held ∧ v' = v := by
  simp [acquire]

@[simp] theorem runs_acquireAll {rs : List Row} :
    (acquireAll s rs : Owned D Row E V Unit).Runs R c held d v u held' v' ↔
      held' = (rs.map fun r => ⟨r, s⟩).reverse ++ held ∧ v' = v := by
  induction rs generalizing held with
  | nil => simp [acquireAll]
  | cons r rs ih => simp [acquireAll, ih]

@[simp] theorem runs_update {f} :
    (update f : Owned D Row E V Unit).Runs R c held d v u held' v' ↔
      held' = held ∧ v' = f v := by
  simp [update]

@[simp] theorem runs_require {p : Prop} [Decidable p] :
    (require p e : Owned D Row E V Unit).Runs R c held d v u held' v' ↔
      p ∧ held' = held ∧ v' = v := by
  by_cases hp : p <;> simp [require, hp]

@[simp] theorem runs_demand {x} :
    (demand x e : Owned D Row E V α).Runs R c held d v a held' v' ↔
      x = some a ∧ held' = held ∧ v' = v := by
  cases x with
  | none => simp [demand]
  | some b =>
    simp only [demand, runs_ret, Option.some.injEq]
    exact and_congr_left fun _ => eq_comm

@[simp] theorem runs_ite {b : Prop} [Decidable b] {q : Owned D Row E V α} :
    (if b then p else q).Runs R c held d v a held' v' ↔
      b ∧ p.Runs R c held d v a held' v' ∨ ¬ b ∧ q.Runs R c held d v a held' v' := by
  by_cases hb : b <;> simp [hb]

/-- The rules of the statements as one argument of `simp`. -/
theorem rules : type_of% (And.intro @runs_bind <| And.intro @runs_pure <| And.intro @runs_liftM <|
    And.intro @runs_rows <| And.intro @runs_query <| And.intro @runs_acquire <|
    And.intro @runs_acquireAll <| And.intro @runs_update <| And.intro @runs_require @runs_demand) :=
  ⟨runs_bind, runs_pure, runs_liftM, runs_rows, runs_query, runs_acquire, runs_acquireAll,
    runs_update, runs_require, runs_demand⟩

variable {l : Lock Row}

/-- The writes of an owner are guarded by the lock on what it owns. -/
theorem guarded_toTxn (hown : R.Owns l c) (absent : E) (p : Owned D Row E V α)
    (hl : l ∈ held) : (p.toTxn c absent).Guarded R held fun _ ls => held ⊆ ls := by
  induction p generalizing held with
  | ret a => exact List.Subset.refl _
  | fail e => trivial
  | lock l' k ih =>
    refine Txn.Guarded.mono (ih (List.mem_cons_of_mem l' hl)) fun a ls _ hls => ?_
    exact fun x hx => hls (List.mem_cons_of_mem l' hx)
  | own k ih =>
    rw [toTxn, Txn.guarded_read]
    intro d
    cases c.get d with
    | none => trivial
    | some v => exact ih v hl
  | look k ih => exact fun d => ih d hl
  | set f k ih =>
    refine ⟨fun held' hle d d' hR => ?_, ih hl⟩
    have hget := hown.exact held' d d' (hle hl) hR
    cases hd : c.get d with
    | none => simpa [hget, hd] using hR
    | some v => simpa [hget, hd] using hown.put held' d d' (f v) (hle hl) hR

/-- A run of the transaction is a run on the record: what it reads of the record is exact, and
it leaves everything else as it was. -/
theorem runs_of_commits (hown : R.Owns l c) {absent d₁ d'} (hl : l ∈ held)
    (hget : c.get d₁ = some v) (helse : c.Else d d₁)
    (h : (p.toTxn c absent).Commits R held d₁ a held' d') :
    ∃ v', p.Runs R c held d v a held' v' ∧ c.get d' = some v' ∧ c.Else d d' := by
  induction p generalizing held d₁ v with
  | ret b =>
    obtain ⟨rfl, rfl, rfl⟩ := h
    exact ⟨v, ⟨rfl, rfl, rfl⟩, hget, helse⟩
  | fail e => exact h.elim
  | lock l' k ih => exact ih (List.mem_cons_of_mem l' hl) hget helse h
  | own k ih =>
    rw [toTxn, Txn.commits_read] at h
    obtain ⟨d₀, hR, h⟩ := h
    have hget₀ : c.get d₀ = some v := (hown.exact held d₀ d₁ hl hR).symm.trans hget
    simp only [hget₀] at h
    exact ih v hl hget helse h
  | look k ih =>
    obtain ⟨d₀, hR, h⟩ := h
    obtain ⟨v', hrun, hget', helse'⟩ := ih d₀ hl hget helse h
    exact ⟨v', ⟨d₀, d₁, hR, hget, helse, hrun⟩, hget', helse'⟩
  | set f k ih =>
    have hwrite : (((c.get d₁).map fun v => c.put (f v) d₁).getD d₁) = c.put (f v) d₁ := by
      simp [hget]
    rw [toTxn, Txn.commits_write, hwrite] at h
    exact ih hl (c.get_put (f v) d₁)
      (c.else_trans _ _ _ helse (c.else_put (f v) d₁)) h

/-- When there is no such record, an owner that reads it commits nothing. -/
theorem not_commits_own (hown : R.Owns l c) {absent : E} {k : V → Owned D Row E V α} {d' : D}
    (hl : l ∈ held) (hget : c.get d = none) :
    ¬ ((own k).toTxn c absent).Commits R held d a held' d' := by
  rw [toTxn, Txn.commits_read]
  rintro ⟨d₀, hR, h⟩
  have hget₀ : c.get d₀ = none := (hown.exact held d₀ d hl hR).symm.trans hget
  simp only [hget₀] at h
  exact h

/-- The locks of a run only grow. -/
theorem Runs.held_subset (h : p.Runs R c held d v a held' v') :
    held ⊆ held' := by
  induction p generalizing held v with
  | ret b => rw [h.2.1]; exact List.Subset.refl _
  | fail e => exact h.elim
  | lock l' k ih => exact fun x hx => ih h (List.mem_cons_of_mem l' hx)
  | own k ih => exact ih v h
  | look k ih =>
    obtain ⟨d₀, d₁, -, -, -, h⟩ := h
    exact ih d₀ h
  | set f k ih => exact ih h

end Runs

end Owned

end ReadCommitted
