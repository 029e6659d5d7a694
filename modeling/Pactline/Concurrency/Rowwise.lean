import Mathlib.Logic.Relation
import Pactline.Concurrency.Interleaving

/-!
# Programs that write row by row

Many transactions are a few statements, each of which names one row by its key: it locks the row,
looks at it and changes it by what it has found. `Rowwise` is the type of such programs; an `UPDATE
... WHERE`, an `INSERT`, a `DELETE` and a `SELECT ... FOR UPDATE` are all one constructor of it. As
they cannot write a row that they have not locked, nothing has to be shown of the programs: their
commits are serial (`Rowwise.protocol`), and a commit is a run in which every row that is locked is
read as it is (`Rowwise.runs_of_valid`).
-/

set_option autoImplicit false

namespace ReadCommitted

/-- A database as the rows that are there, each under its key. -/
abbrev Rows {K : Type} (V : K → Type) : Type := (k : K) → Option (V k)

/-- While a row is locked, it stays as it is. -/
def Rows.locked {K : Type} {V : K → Type} : Rely (Rows V) K where
  rel held d d' := ∀ k s, ⟨k, s⟩ ∈ held → d' k = d k
  refl _ _ _ _ _ := rfl
  trans _ _ _ _ h₁ h₂ k s hl := (h₂ k s hl).trans (h₁ k s hl)
  weaken _ _ _ _ hle h k s hl := h k s (hle hl)

/-- A program whose statements lock a row and look at it (`share`), lock a row and change it by what
was there (`change`), or look at anything without a lock. -/
inductive Rowwise {K : Type} (V : K → Type) (E α : Type) : Type
  | ret (a : α)
  | fail (e : E)
  | share (k : K) (next : Option (V k) → Rowwise V E α)
  | change (k : K) (f : Option (V k) → Option (V k)) (next : Option (V k) → Rowwise V E α)
  | look (next : Rows V → Rowwise V E α)

namespace Rowwise

section Programs

variable {K : Type} {V : K → Type} {E α β : Type}

def bind : Rowwise V E α → (α → Rowwise V E β) → Rowwise V E β
  | ret a, f => f a
  | fail e, _ => fail e
  | share k next, f => share k fun row => (next row).bind f
  | change k g next, f => change k g fun row => (next row).bind f
  | look next, f => look fun d => (next d).bind f

instance : Monad (Rowwise V E) where
  pure := ret
  bind := bind

def ofExcept : Except E α → Rowwise V E α
  | .ok a => ret a
  | .error e => fail e

instance : MonadLift (Except E) (Rowwise V E) where
  monadLift := ofExcept

/-- One statement that looks at the database and locks nothing. -/
def query (q : Rows V → α) : Rowwise V E α := look fun d => ret (q d)

/-- `SELECT ... FOR SHARE`. -/
def selectForShare (k : K) : Rowwise V E (Option (V k)) := share k ret

/-- `SELECT ... FOR UPDATE`. -/
def selectForUpdate (k : K) : Rowwise V E (Option (V k)) := change k id ret

/-- `UPDATE ... WHERE ... RETURNING`: the row is changed where `f` has a value, which
is returned. -/
def update (k : K) (f : V k → Option (V k)) : Rowwise V E (Option (V k)) :=
  change k (fun row => row.bind f <|> row) fun row => ret (row.bind f)

/-- `INSERT ... ON CONFLICT DO NOTHING`, and whether the row was inserted. -/
def insert (k : K) (row : V k) : Rowwise V E Bool :=
  change k (fun found => found <|> some row) fun found => ret found.isNone

/-- `DELETE`. -/
def delete (k : K) : Rowwise V E Unit := change k (fun _ => none) fun _ => ret ()

def require (c : Prop) [Decidable c] (e : E) : Rowwise V E Unit := if c then ret () else fail e

def demand (x : Option α) (e : E) : Rowwise V E α :=
  match x with
  | some a => ret a
  | none => fail e

theorem bind_eq_ret {p : Rowwise V E α} {f : α → Rowwise V E β} {b : β} :
    (p >>= f) = ret b ↔ ∃ a, p = ret a ∧ f a = ret b := by
  change p.bind f = ret b ↔ _
  cases p <;> simp [bind]

theorem demand_eq_ret {x e a} :
    (demand x e : Rowwise V E α) = ret a ↔ x = some a := by
  cases x <;> simp [demand]

theorem require_eq_ret {c : Prop} [Decidable c] {e u} :
    (require c e : Rowwise V E Unit) = ret u ↔ c := by
  by_cases hc : c <;> simp [require, hc]

theorem pure_eq_ret {a b} : (Pure.pure a : Rowwise V E α) = ret b ↔ a = b :=
  ret.injEq a b ▸ Iff.rfl

variable [DecidableEq K]

/-- The transaction, statement by statement. -/
def toTxn : Rowwise V E α → Txn (Rows V) K E α
  | ret a => .ret a
  | fail e => .fail e
  | share k next => .lock ⟨k, .share⟩ (.read fun d => (next (d k)).toTxn)
  | change k f next => .lock ⟨k, .update⟩ (.read fun d =>
    .write (fun d' => Function.update d' k (f (d' k))) (next (d k)).toTxn)
  | look next => .read fun d => (next d).toTxn

/-- `p.Runs held d a held' d'`: with the locks `held` on the database `d` the program can return `a`
and leave the locks `held'` and the database `d'`. -/
def Runs : Rowwise V E α → List (Lock K) → Rows V → α → List (Lock K) → Rows V → Prop
  | ret a, held, d, a', held', d' => a' = a ∧ held' = held ∧ d' = d
  | fail _, _, _, _, _, _ => False
  | share k next, held, d, a', held', d' => (next (d k)).Runs (⟨k, .share⟩ :: held) d a' held' d'
  | change k f next, held, d, a', held', d' =>
    (next (d k)).Runs (⟨k, .update⟩ :: held) (Function.update d k (f (d k))) a' held' d'
  | look next, held, d, a', held', d' =>
    ∃ d₀, Rows.locked.rel held d₀ d ∧ (next d₀).Runs held d a' held' d'

end Programs

/-! ## What becomes of the rows -/

/-- What may become of each row in the course of time. -/
structure Evolution {K : Type} (V : K → Type) where
  rel : (k : K) → Option (V k) → Option (V k) → Prop
  refl : ∀ k row, rel k row row
  trans : ∀ k a b c, rel k a b → rel k b c → rel k a c

section Evolution

variable {K : Type} {V : K → Type} {E α β : Type}

/-- A property of each row that is never lost. -/
def Evolution.ofInvariant (I : (k : K) → Option (V k) → Prop) : Evolution V where
  rel k row row' := I k row → I k row'
  refl _ _ h := h
  trans _ _ _ _ h₁ h₂ h := h₂ (h₁ h)

/-- The rows of `P` stay as they are. -/
def Evolution.frame (P : K → Prop) : Evolution V where
  rel k row row' := P k → row' = row
  refl _ _ _ := rfl
  trans _ _ _ _ h₁ h₂ hk := (h₂ hk).trans (h₁ hk)

/-- The steps that single statements make, repeated. -/
def Evolution.closure (step : (k : K) → Option (V k) → Option (V k) → Prop) : Evolution V where
  rel k := Relation.ReflTransGen (step k)
  refl _ _ := .refl
  trans _ _ _ _ := Relation.ReflTransGen.trans

/-- What every step keeps to, their repetition keeps to. -/
theorem Evolution.closure_le {step}
    (R : Evolution V) {k} (hstep : ∀ a b, step k a b → R.rel k a b) {a b}
    (h : (Evolution.closure step).rel k a b) : R.rel k a b := by
  induction h with
  | refl => exact R.refl k a
  | tail _ hs ih => exact R.trans k _ _ _ ih (hstep _ _ hs)

/-- Every statement of the program stays within `R`, whatever row it finds; `Q` is what is known of
the result. -/
def Keeps (R : Evolution V) : Rowwise V E α → (α → Prop) → Prop
  | ret a, Q => Q a
  | fail _, _ => True
  | share _ next, Q => ∀ row, (next row).Keeps R Q
  | change k f next, Q => (∀ row, R.rel k row (f row)) ∧ ∀ row, (next row).Keeps R Q
  | look next, Q => ∀ d, (next d).Keeps R Q

variable {R : Evolution V}

variable {k : K} {e : E} {a : α} {p : Rowwise V E α} {f : α → Rowwise V E β} {c : Prop}
  [Decidable c] {Q : α → Prop} {x : Option α} {g : V k → V k} {row : V k}

@[simp] theorem keeps_pure :
    (Pure.pure a : Rowwise V E α).Keeps R Q ↔ Q a := Iff.rfl

@[simp] theorem keeps_fail : (fail e : Rowwise V E α).Keeps R Q := trivial

@[simp] theorem keeps_bind {Q} :
    (p >>= f).Keeps R Q ↔ p.Keeps R fun a => (f a).Keeps R Q := by
  change (p.bind f).Keeps R Q ↔ _
  induction p with
  | ret a => rfl
  | fail e => rfl
  | share k next ih => exact forall_congr' ih
  | change k g next ih => exact and_congr_right fun _ => forall_congr' ih
  | look next ih => exact forall_congr' ih

@[simp] theorem keeps_query {q} :
    (query q : Rowwise V E α).Keeps R Q ↔ ∀ d, Q (q d) := Iff.rfl

@[simp] theorem keeps_selectForUpdate {Q} :
    (selectForUpdate k : Rowwise V E (Option (V k))).Keeps R Q ↔ ∀ row, Q row :=
  and_iff_right (R.refl k)

/-- An `UPDATE` changes only the row it finds. -/
@[simp] theorem keeps_update {g Q} :
    (update k g : Rowwise V E (Option (V k))).Keeps R Q ↔
      (∀ row row', g row = some row' → R.rel k (some row) (some row')) ∧
        ∀ row : Option (V k), Q (row.bind g) := by
  refine and_congr_left fun _ => ?_
  constructor
  · intro h row row' hg
    simpa [hg] using h (some row)
  · intro h row
    cases row with
    | none => exact R.refl k none
    | some row =>
      cases hg : g row with
      | none => simpa [hg] using R.refl k (some row)
      | some row' => simpa [hg] using h row row' hg

theorem keeps_set {Q} :
    (update k fun row => some (g row) : Rowwise V E (Option (V k))).Keeps R Q ↔
      (∀ row, R.rel k (some row) (some (g row))) ∧ ∀ row : Option (V k), Q (row.map g) := by
  simp only [keeps_update, Option.some.injEq, forall_eq', Option.map_eq_bind]
  rfl

theorem keeps_update_ite {c} [DecidablePred c] {Q}
    (hg : ∀ row, c row → R.rel k (some row) (some (g row))) (hQ : ∀ row, Q row) :
    (update k fun row => if c row then some (g row) else none :
      Rowwise V E (Option (V k))).Keeps R Q := by
  refine keeps_update.mpr ⟨fun row row' hrow => ?_, fun _ => hQ _⟩
  obtain ⟨hc, hrow⟩ := Option.ite_none_right_eq_some.mp hrow
  cases hrow
  exact hg row hc

/-- An `INSERT` changes nothing where there is a row. -/
@[simp] theorem keeps_insert {Q} :
    (insert k row : Rowwise V E Bool).Keeps R Q ↔
      R.rel k none (some row) ∧ Q true ∧ Q false := by
  constructor
  · intro h
    exact ⟨h.1 none, h.2 none, h.2 (some row)⟩
  · rintro ⟨hrel, htrue, hfalse⟩
    constructor
    · intro found
      cases found with
      | none => exact hrel
      | some row' => exact R.refl k _
    · intro found
      cases found with
      | none => exact htrue
      | some row' => exact hfalse

@[simp] theorem keeps_delete {Q} :
    (delete k : Rowwise V E Unit).Keeps R Q ↔ (∀ row, R.rel k row none) ∧ Q () :=
  and_congr_right fun _ => ⟨fun h => h none, fun h _ => h⟩

@[simp] theorem keeps_require {Q} :
    (require c e : Rowwise V E Unit).Keeps R Q ↔ (c → Q ()) := by
  unfold require
  split
  case isTrue hc => exact ⟨fun h _ => h, fun h => h hc⟩
  case isFalse hc => exact ⟨fun _ h => absurd h hc, fun _ => trivial⟩

@[simp] theorem keeps_demand :
    (demand x e : Rowwise V E α).Keeps R Q ↔ ∀ a, x = some a → Q a := by
  cases x with
  | none => simp [demand]
  | some a => simp [demand, Keeps]

@[simp] theorem keeps_liftM {x : Except E α} :
    (liftM x : Rowwise V E α).Keeps R Q ↔ ∀ a, x = .ok a → Q a := by
  cases x with
  | ok a =>
    constructor
    · intro h b hb
      cases hb
      exact h
    · intro h
      exact h a rfl
  | error e =>
    constructor
    · intro _ a ha
      cases ha
    · intro _
      trivial

/-- The rules of the statements as one argument of `simp`. -/
theorem keeps_rules : type_of% (And.intro @keeps_bind <| And.intro @keeps_pure <|
    And.intro @keeps_query <| And.intro @keeps_selectForUpdate <| And.intro @keeps_set <|
    And.intro @keeps_insert <| And.intro @keeps_delete <| And.intro @keeps_require <|
    And.intro @keeps_demand @keeps_liftM) :=
  ⟨keeps_bind, keeps_pure, keeps_query, keeps_selectForUpdate, keeps_set, keeps_insert,
    keeps_delete, keeps_require, keeps_demand, keeps_liftM⟩

@[simp] theorem keeps_ite {q : Rowwise V E α} :
    (if c then p else q).Keeps R Q ↔ (c → p.Keeps R Q) ∧ (¬ c → q.Keeps R Q) := by
  by_cases hc : c <;> simp [hc]

/-! ## Errors -/

/-- Every error of the program satisfies `p`, whatever rows it finds. -/
def Errors (p : E → Prop) : Rowwise V E α → Prop
  | ret _ => True
  | fail e => p e
  | share _ next => ∀ row, (next row).Errors p
  | change _ _ next => ∀ row, (next row).Errors p
  | look next => ∀ d, (next d).Errors p

theorem Errors.bind {p} {q : Rowwise V E α} (h : q.Errors p) (hf : ∀ a, (f a).Errors p) :
    (q >>= f).Errors p := by
  change (Rowwise.bind q f).Errors p
  induction q with
  | ret a => exact hf a
  | fail e => exact h
  | share k next ih => exact fun row => ih row (h row)
  | change k g next ih => exact fun row => ih row (h row)
  | look next ih => exact fun d => ih d (h d)

theorem errors_require {p} (h : p e) :
    (require c e : Rowwise V E Unit).Errors p := by
  unfold require
  split
  · trivial
  · exact h

theorem errors_demand {p} (h : p e) :
    (demand x e : Rowwise V E α).Errors p := by
  cases x with
  | none => exact h
  | some a => trivial

end Evolution

section Runs

variable {K : Type} {V : K → Type} {E α β : Type} [DecidableEq K] {held held' : List (Lock K)}
  {d d' : Rows V}

variable {k : K} {e : E} {a : α} {b : β} {u : Unit} {p : Rowwise V E α} {f : α → Rowwise V E β}
  {c : Prop} [Decidable c] {x : Option α} {q : Rows V → α}

@[simp] theorem runs_pure {a'} :
    (Pure.pure a : Rowwise V E α).Runs held d a' held' d' ↔ a' = a ∧ held' = held ∧ d' = d :=
  Iff.rfl

@[simp] theorem runs_ret {a'} :
    (ret a : Rowwise V E α).Runs held d a' held' d' ↔ a' = a ∧ held' = held ∧ d' = d :=
  Iff.rfl

@[simp] theorem runs_fail : ¬ (fail e : Rowwise V E α).Runs held d a held' d' := id

@[simp] theorem runs_bind :
    (p >>= f).Runs held d b held' d' ↔
      ∃ a held₁ d₁, p.Runs held d a held₁ d₁ ∧ (f a).Runs held₁ d₁ b held' d' := by
  change (p.bind f).Runs held d b held' d' ↔ _
  induction p generalizing held d with
  | ret a =>
    constructor
    · intro h
      exact ⟨a, held, d, ⟨rfl, rfl, rfl⟩, h⟩
    · rintro ⟨a', held₁, d₁, ⟨rfl, rfl, rfl⟩, h⟩
      exact h
  | fail e =>
    constructor
    · exact False.elim
    · rintro ⟨_, _, _, h, -⟩
      exact h
  | share k next ih => exact ih (d k)
  | change k g next ih => exact ih (d k)
  | look next ih =>
    constructor
    · rintro ⟨d₀, hR, h⟩
      obtain ⟨a, held₁, d₁, hp, hf⟩ := (ih d₀).mp h
      exact ⟨a, held₁, d₁, ⟨d₀, hR, hp⟩, hf⟩
    · rintro ⟨a, held₁, d₁, ⟨d₀, hR, hp⟩, hf⟩
      exact ⟨d₀, hR, (ih d₀).mpr ⟨a, held₁, d₁, hp, hf⟩⟩

@[simp] theorem runs_liftM {x : Except E α} :
    (liftM x : Rowwise V E α).Runs held d a held' d' ↔ x = .ok a ∧ held' = held ∧ d' = d := by
  change (ofExcept x).Runs held d a held' d' ↔ _
  cases x with
  | ok b =>
    simp only [ofExcept, runs_ret, Except.ok.injEq]
    exact and_congr_left fun _ => eq_comm
  | error e => simp [ofExcept]

@[simp] theorem runs_query :
    (query q : Rowwise V E α).Runs held d a held' d' ↔
      (∃ d₀, Rows.locked.rel held d₀ d ∧ a = q d₀) ∧ held' = held ∧ d' = d := by
  constructor
  · rintro ⟨d₀, hR, rfl, rfl, rfl⟩
    exact ⟨⟨d₀, hR, rfl⟩, rfl, rfl⟩
  · rintro ⟨⟨d₀, hR, rfl⟩, rfl, rfl⟩
    exact ⟨d₀, hR, rfl, rfl, rfl⟩

@[simp] theorem runs_selectForShare {row} :
    (selectForShare k : Rowwise V E (Option (V k))).Runs held d row held' d' ↔
      row = d k ∧ held' = ⟨k, .share⟩ :: held ∧ d' = d :=
  Iff.rfl

@[simp] theorem runs_selectForUpdate {row} :
    (selectForUpdate k : Rowwise V E (Option (V k))).Runs held d row held' d' ↔
      row = d k ∧ held' = ⟨k, .update⟩ :: held ∧ d' = d := by
  have hruns : (selectForUpdate k : Rowwise V E (Option (V k))).Runs held d row held' d' ↔
      row = d k ∧ held' = ⟨k, .update⟩ :: held ∧ d' = Function.update d k (d k) := Iff.rfl
  rw [hruns, Function.update_eq_self]

/-- No row is as the statement wants it and nothing is changed, or the row is. -/
@[simp] theorem runs_update {f row} :
    (update k f : Rowwise V E (Option (V k))).Runs held d row held' d' ↔
      held' = ⟨k, .update⟩ :: held ∧
        (row = none ∧ (∀ old, d k = some old → f old = none) ∧ d' = d ∨
          ∃ old new, row = some new ∧ d k = some old ∧ f old = some new ∧
            d' = Function.update d k (some new)) := by
  have hruns : (update k f : Rowwise V E (Option (V k))).Runs held d row held' d' ↔
      row = (d k).bind f ∧ held' = ⟨k, .update⟩ :: held ∧
        d' = Function.update d k ((d k).bind f <|> d k) := Iff.rfl
  rw [hruns]
  cases hrow : d k with
  | none =>
    have hsame : Function.update d k none = d := by rw [← hrow, Function.update_eq_self]
    simp [hsame, and_left_comm]
  | some old =>
    have hsame : Function.update d k (some old) = d := by rw [← hrow, Function.update_eq_self]
    cases hnew : f old with
    | none => simp [hnew, hsame, and_left_comm]
    | some new => simp [hnew, and_left_comm]

theorem runs_update_ite {c : V k → Prop} [DecidablePred c] {g : V k → V k} {row : Option (V k)} :
    (update k fun row => if c row then some (g row) else none :
      Rowwise V E (Option (V k))).Runs held d row held' d' ↔
      held' = ⟨k, .update⟩ :: held ∧
        (row = none ∧ (∀ old, d k = some old → ¬ c old) ∧ d' = d ∨
          ∃ old, row = some (g old) ∧ d k = some old ∧ c old ∧
            d' = Function.update d k (some (g old))) := by
  simp only [runs_update, Option.ite_none_right_eq_some, Option.some.injEq, ite_eq_right_iff,
    reduceCtorEq, imp_false]
  refine and_congr_right fun _ => or_congr_right (exists_congr fun old => ?_)
  constructor
  · rintro ⟨_, hrow, hold, ⟨hc, rfl⟩, hd'⟩
    exact ⟨hrow, hold, hc, hd'⟩
  · rintro ⟨hrow, hold, hc, hd'⟩
    exact ⟨_, hrow, hold, ⟨hc, rfl⟩, hd'⟩

/-- The row is inserted where there is none. -/
@[simp] theorem runs_insert {row inserted} :
    (insert k row : Rowwise V E Bool).Runs held d inserted held' d' ↔
      held' = ⟨k, .update⟩ :: held ∧
        (inserted = true ∧ d k = none ∧ d' = Function.update d k (some row) ∨
          inserted = false ∧ d k ≠ none ∧ d' = d) := by
  have hruns : (insert k row : Rowwise V E Bool).Runs held d inserted held' d' ↔
      inserted = (d k).isNone ∧ held' = ⟨k, .update⟩ :: held ∧
        d' = Function.update d k (d k <|> some row) := Iff.rfl
  rw [hruns]
  cases hrow : d k with
  | none => simp [and_left_comm]
  | some old =>
    have hsame : Function.update d k (some old) = d := by rw [← hrow, Function.update_eq_self]
    simp [hsame, and_left_comm]

@[simp] theorem runs_delete :
    (delete k : Rowwise V E Unit).Runs held d u held' d' ↔
      held' = ⟨k, .update⟩ :: held ∧ d' = Function.update d k none := by
  constructor
  · rintro ⟨-, h⟩
    exact h
  · intro h
    exact ⟨rfl, h⟩

@[simp] theorem runs_require :
    (require c e : Rowwise V E Unit).Runs held d u held' d' ↔ c ∧ held' = held ∧ d' = d := by
  by_cases hc : c <;> simp [require, hc]

@[simp] theorem runs_demand :
    (demand x e : Rowwise V E α).Runs held d a held' d' ↔
      x = some a ∧ held' = held ∧ d' = d := by
  cases x with
  | none => simp [demand]
  | some b =>
    simp only [demand, runs_ret, Option.some.injEq]
    exact and_congr_left fun _ => eq_comm

@[simp] theorem runs_ite {q : Rowwise V E α} :
    (if c then p else q).Runs held d a held' d' ↔
      c ∧ p.Runs held d a held' d' ∨ ¬ c ∧ q.Runs held d a held' d' := by
  by_cases hc : c <;> simp [hc]

/-- The rules of the statements that find their row in any case. -/
theorem rules : type_of% (And.intro @runs_bind <| And.intro @runs_pure <| And.intro @runs_liftM <|
    And.intro @runs_query <| And.intro @runs_selectForShare <| And.intro @runs_selectForUpdate <|
    And.intro @runs_delete <| And.intro @runs_require @runs_demand) :=
  ⟨runs_bind, runs_pure, runs_liftM, runs_query, runs_selectForShare, runs_selectForUpdate,
    runs_delete, runs_require, runs_demand⟩

/-! ### A statement and what follows it

These leave no name for the database between two statements, so a long program comes apart in one
`simp`.
-/

theorem runs_assoc {γ : Type} {g : β → Rowwise V E γ} {c : γ} :
    ((p >>= f) >>= g).Runs held d c held' d' ↔
      (p >>= fun a => f a >>= g).Runs held d c held' d' := by
  simp only [runs_bind]
  constructor
  · rintro ⟨b, held₂, d₂, ⟨a, held₁, d₁, hp, hf⟩, hg⟩
    exact ⟨a, held₁, d₁, hp, b, held₂, d₂, hf, hg⟩
  · rintro ⟨a, held₁, d₁, hp, b, held₂, d₂, hf, hg⟩
    exact ⟨b, held₂, d₂, ⟨a, held₁, d₁, hp, hf⟩, hg⟩

theorem runs_pure_bind :
    (Pure.pure a >>= f).Runs held d b held' d' ↔ (f a).Runs held d b held' d' := Iff.rfl

theorem runs_query_bind :
    (query q >>= f).Runs held d b held' d' ↔
      ∃ d₀, Rows.locked.rel held d₀ d ∧ (f (q d₀)).Runs held d b held' d' := Iff.rfl

theorem runs_selectForUpdate_bind {f : Option (V k) → Rowwise V E β} :
    (selectForUpdate k >>= f).Runs held d b held' d' ↔
      (f (d k)).Runs (⟨k, .update⟩ :: held) d b held' d' := by
  simp [runs_bind]

theorem runs_selectForShare_bind {f : Option (V k) → Rowwise V E β} :
    (selectForShare k >>= f).Runs held d b held' d' ↔
      (f (d k)).Runs (⟨k, .share⟩ :: held) d b held' d' := Iff.rfl

theorem runs_delete_bind {f : Unit → Rowwise V E β} :
    (delete k >>= f).Runs held d b held' d' ↔
      (f ()).Runs (⟨k, .update⟩ :: held) (Function.update d k none) b held' d' := Iff.rfl

theorem runs_demand_bind :
    (demand x e >>= f).Runs held d b held' d' ↔
      ∃ a, x = some a ∧ (f a).Runs held d b held' d' := by
  simp [runs_bind]

theorem runs_require_bind {f} :
    (require c e >>= f).Runs held d b held' d' ↔ c ∧ (f ()).Runs held d b held' d' := by
  simp only [runs_bind, runs_require]
  constructor
  · rintro ⟨_, _, _, ⟨hc, rfl, rfl⟩, hf⟩
    exact ⟨hc, hf⟩
  · rintro ⟨hc, hf⟩
    exact ⟨(), _, _, ⟨hc, rfl, rfl⟩, hf⟩

theorem runs_insert_bind {row : V k} {f : Bool → Rowwise V E β} :
    (insert k row >>= f).Runs held d b held' d' ↔
      d k = none ∧
          (f true).Runs (⟨k, .update⟩ :: held) (Function.update d k (some row)) b held' d' ∨
        d k ≠ none ∧ (f false).Runs (⟨k, .update⟩ :: held) d b held' d' := by
  simp [runs_bind, or_and_right, exists_or, and_assoc]

theorem runs_update_bind {g : V k → Option (V k)} {f : Option (V k) → Rowwise V E β} :
    (update k g >>= f).Runs held d b held' d' ↔
      (∀ old, d k = some old → g old = none) ∧
          (f none).Runs (⟨k, .update⟩ :: held) d b held' d' ∨
        ∃ old new, d k = some old ∧ g old = some new ∧
          (f (some new)).Runs
            (⟨k, .update⟩ :: held) (Function.update d k (some new)) b held' d' := by
  simp only [runs_bind, runs_update]
  constructor
  · rintro ⟨row, held₁, d₁, ⟨rfl, ⟨rfl, hnone, rfl⟩ | ⟨old, new, rfl, hold, hnew, rfl⟩⟩, hf⟩
    · exact .inl ⟨hnone, hf⟩
    · exact .inr ⟨old, new, hold, hnew, hf⟩
  · rintro (⟨hnone, hf⟩ | ⟨old, new, hold, hnew, hf⟩)
    · exact ⟨none, _, d, ⟨rfl, .inl ⟨rfl, hnone, rfl⟩⟩, hf⟩
    · exact ⟨some new, _, _, ⟨rfl, .inr ⟨old, new, rfl, hold, hnew, rfl⟩⟩, hf⟩

theorem steps : type_of% (And.intro @runs_assoc <| And.intro @runs_pure <|
    And.intro @runs_pure_bind <| And.intro @runs_query_bind <|
    And.intro @runs_selectForUpdate_bind <| And.intro @runs_demand_bind <|
    And.intro @runs_require_bind <| And.intro @runs_insert_bind @runs_update_bind) :=
  ⟨runs_assoc, runs_pure, runs_pure_bind, runs_query_bind, runs_selectForUpdate_bind,
    runs_demand_bind, runs_require_bind, runs_insert_bind, runs_update_bind⟩

/-- What every statement keeps to, a run keeps to. -/
theorem Runs.evolves {R : Evolution V} {Q} (h : p.Runs held d a held' d')
    (hp : p.Keeps R Q) : (∀ k, R.rel k (d k) (d' k)) ∧ Q a := by
  induction p generalizing held d with
  | ret b =>
    obtain ⟨rfl, -, rfl⟩ := h
    exact ⟨fun k => R.refl k _, hp⟩
  | fail e => exact h.elim
  | share k next ih => exact ih (d k) h (hp _)
  | change k f next ih =>
    obtain ⟨hrel, hQ⟩ := ih (d k) h (hp.2 _)
    refine ⟨fun k' => R.trans k' _ _ _ ?_ (hrel k'), hQ⟩
    by_cases hk : k' = k
    · subst hk
      rw [Function.update_self]
      exact hp.1 (d k')
    · rw [Function.update_of_ne hk]
      exact R.refl k' _
  | look next ih =>
    obtain ⟨d₀, -, h⟩ := h
    exact ih d₀ h (hp d₀)

/-! ## Isolation -/

/-- The change of a row that is locked does not depend on anything the others may do. -/
theorem safe_change (f : Option (V k) → Option (V k)) (hl : ⟨k, .update⟩ ∈ held) :
    Rows.locked.Safe held fun d => Function.update d k (f (d k)) := by
  intro held' hle d d' hR key s hkey
  dsimp only
  rw [hR k .update (hle hl)]
  by_cases heq : key = k
  · subst heq
    rw [Function.update_self, Function.update_self]
  · rw [Function.update_of_ne heq, Function.update_of_ne heq]
    exact hR key s hkey

theorem guarded_toTxn (p : Rowwise V E α) (held : List (Lock K)) :
    p.toTxn.Guarded Rows.locked held fun _ _ => True := by
  induction p generalizing held with
  | ret a => trivial
  | fail e => trivial
  | share k next ih => exact fun d => ih (d k) _
  | change k f next ih => exact fun d => ⟨safe_change f List.mem_cons_self, ih (d k) _⟩
  | look next ih => exact fun d => ih d held

/-! ### Programs that have only to return -/

theorem toTxn_eq_ret : p.toTxn = .ret a ↔ p = ret a := by
  cases p <;> simp [toTxn]

theorem ends_bind :
    (p >>= f).toTxn.Ends ↔ p.toTxn.Ends ∧ ∀ a, p = ret a → (f a).toTxn.Ends := by
  change (p.bind f).toTxn.Ends ↔ _
  cases p <;> simp [bind, toTxn, Txn.Ends]

theorem ends_demand : (demand x e : Rowwise V E α).toTxn.Ends := by
  cases x <;> trivial

theorem ends_require :
    (require c e : Rowwise V E Unit).toTxn.Ends := by
  unfold require
  split <;> trivial

theorem ends_pure : (Pure.pure a : Rowwise V E α).toTxn.Ends := trivial

/-- A program that begins with a read. -/
theorem toTxn_query_bind_bind {γ : Type} {g : β → Rowwise V E γ} :
    (((query q : Rowwise V E α) >>= f) >>= g).toTxn = .read fun d => (f (q d) >>= g).toTxn := rfl

theorem Errors.exec {p} {q : Rowwise V E α} (h : q.Errors p)
    (he : q.toTxn.exec d = .error e) : p e := by
  induction q generalizing d with
  | ret a => cases he
  | fail e' =>
    cases he
    exact h
  | share k next ih => exact ih _ (h _) he
  | change k f next ih => exact ih _ (h _) he
  | look next ih => exact ih _ (h _) he

/-- A commit is a run. -/
theorem runs_of_commits (h : p.toTxn.Commits Rows.locked held d a held' d') :
    p.Runs held d a held' d' := by
  induction p generalizing held d with
  | ret b => exact h
  | fail e => exact h
  | share k next ih =>
    obtain ⟨d₀, hR, h⟩ := h
    dsimp only at h
    rw [← hR k .share List.mem_cons_self] at h
    exact ih (d k) h
  | change k f next ih =>
    obtain ⟨d₀, hR, h⟩ := h
    dsimp only at h
    rw [← hR k .update List.mem_cons_self] at h
    exact ih (d k) h
  | look next ih =>
    obtain ⟨d₀, hR, h⟩ := h
    exact ⟨d₀, hR, ih d₀ h⟩

/-- The locks of a run only grow, and it changes only rows that it locks. -/
theorem Runs.frame (h : p.Runs held d a held' d') :
    held ⊆ held' ∧ ∀ k, ⟨k, .update⟩ ∉ held' → d' k = d k := by
  induction p generalizing held d with
  | ret b =>
    obtain ⟨-, rfl, rfl⟩ := h
    exact ⟨List.Subset.refl _, fun _ _ => rfl⟩
  | fail e => exact h.elim
  | share k next ih =>
    obtain ⟨hle, hframe⟩ := ih (d k) h
    exact ⟨fun l hl => hle (List.mem_cons_of_mem _ hl), hframe⟩
  | change k f next ih =>
    obtain ⟨hle, hframe⟩ := ih (d k) h
    refine ⟨fun l hl => hle (List.mem_cons_of_mem _ hl), fun key hkey => ?_⟩
    rw [hframe key hkey]
    refine Function.update_of_ne (fun heq => hkey ?_) _ _
    exact heq ▸ hle List.mem_cons_self
  | look next ih =>
    obtain ⟨d₀, -, h⟩ := h
    exact ih d₀ h

variable {C : Type} (prog : C → Rowwise V E α)

/-- The commits of rowwise programs are serial. -/
theorem protocol : Protocol (fun c => (prog c).toTxn) (fun _ => Rows.locked) (fun _ _ => True)
    (fun _ => True) where
  guarded c := guarded_toTxn (prog c) []
  inv _ _ _ _ _ _ _ := trivial
  guarantee c d a held d' h _ c' held' _ hcompatible k s hl := by
    apply (runs_of_commits h).frame.2
    intro hupdate
    exact hcompatible.not_locked hupdate s hl

variable {prog}

theorem runs_of_valid {e : Commit (Rows V) K C α}
    (h : e.Valid (fun c => (prog c).toTxn) fun _ => Rows.locked) :
    (prog e.cmd).Runs [] e.before e.reply e.held e.after :=
  runs_of_commits h

end Runs

end Rowwise

end ReadCommitted
