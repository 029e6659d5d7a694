import Pactline.Concurrency.Txn

/-!
# Transactions that run alone

A transaction with nobody else in sight: each statement of `Txn.exec` sees the database as the last
one has left it. Such a run is also a run amid others, under any rely (`Txn.commits_under`); under
the rely that allows nothing (`Rely.alone`) every statement sees the database as it is.
-/

set_option autoImplicit false

namespace ReadCommitted

variable {D Row E α β : Type}

/-- Nobody else does anything. -/
def Rely.alone : Rely D Row where
  rel _ d d' := d = d'
  refl _ _ := rfl
  trans _ _ _ _ h₁ h₂ := h₁.trans h₂
  weaken _ _ _ _ _ h := h

namespace Txn

theorem Commits.amid {R} {p : Txn D Row E α} {held held' d d' a}
    (h : p.Commits Rely.alone held d a held' d') : p.Commits R held d a held' d' := by
  induction p generalizing held d with
  | ret b => exact h
  | fail e => exact h
  | lock l k ih => exact ih h
  | read k ih =>
    obtain ⟨d₀, rfl, h⟩ := h
    exact ⟨d₀, R.refl _ _, ih d₀ h⟩
  | write w k ih => exact ih h

/-- A run alone is a run under any rely, with any locks held before. -/
theorem commits_under (R : Rely D Row) (held : List (Lock Row)) {p : Txn D Row E α} {a d d'}
    (h : p.exec d = .ok (a, d')) : ∃ held', p.Commits R held d a held' d' :=
  commits_of_exec h

/-- A statement of a program that runs alone sees the database as it is. -/
theorem commits_alone_query {q held held' d d' a} :
    (query q : Txn D Row E α).Commits Rely.alone held d a held' d' ↔
      a = q d ∧ held' = held ∧ d' = d := by
  rw [commits_query]
  refine and_congr_left fun _ => ?_
  constructor
  · rintro ⟨d₀, rfl, rfl⟩
    rfl
  · rintro rfl
    exact ⟨d, rfl, rfl⟩

theorem ok_of_toOption {x : Except E α} {a} (h : x.toOption = some a) : x = .ok a := by
  cases x with
  | error e => cases h
  | ok b =>
    cases h
    rfl

/-! ### Statement by statement -/

variable {d d' : D}

variable {e : E} {a : α} {q : D → α} {x : Except E α} {f : α → Txn D Row E β} {c : Prop}
  [Decidable c]

theorem exec_bind_ok {p : Txn D Row E α} (h : p.exec d = .ok (a, d')) :
    (p >>= f).exec d = (f a).exec d' := by
  change (p.bind f).exec d = _
  induction p generalizing d with
  | ret b =>
    cases h
    rfl
  | fail e => cases h
  | lock l k ih => exact ih h
  | read k ih => exact ih d h
  | write w k ih => exact ih h

theorem exec_bind_error {p : Txn D Row E α} (h : p.exec d = .error e) :
    (p >>= f).exec d = .error e := by
  change (p.bind f).exec d = _
  induction p generalizing d with
  | ret b => cases h
  | fail e' =>
    cases h
    rfl
  | lock l k ih => exact ih h
  | read k ih => exact ih d h
  | write w k ih => exact ih h

theorem exec_query (q : D → α) : (query q : Txn D Row E α).exec d = .ok (q d, d) := rfl

theorem exec_modify (w : D → D) : (modify w : Txn D Row E Unit).exec d = .ok ((), w d) := rfl

theorem exec_require :
    (require c e : Txn D Row E Unit).exec d = if c then .ok ((), d) else .error e := by
  unfold require
  split <;> rfl

theorem exec_require_pos (hc : c) :
    (require c e : Txn D Row E Unit).exec d = .ok ((), d) := by
  rw [exec_require, if_pos hc]

/-! ### Errors -/

/-- Every error of the program satisfies `p`, whatever it reads. -/
def Errors (p : E → Prop) : Txn D Row E α → Prop
  | ret _ => True
  | fail e => p e
  | lock _ k => k.Errors p
  | read k => ∀ d, (k d).Errors p
  | write _ k => k.Errors p

variable {p : E → Prop}

theorem Errors.exec {q : Txn D Row E α} (h : q.Errors p) (he : q.exec d = .error e) : p e := by
  induction q generalizing d with
  | ret a => cases he
  | fail e' =>
    cases he
    exact h
  | lock l k ih => exact ih h he
  | read k ih => exact ih d (h d) he
  | write w k ih => exact ih h he

theorem Errors.bind {q : Txn D Row E α} (h : q.Errors p) (hf : ∀ a, (f a).Errors p) :
    (q >>= f).Errors p := by
  change (Txn.bind q f).Errors p
  induction q with
  | ret a => exact hf a
  | fail e => exact h
  | lock l k ih => exact ih h
  | read k ih => exact fun d => ih d (h d)
  | write w k ih => exact ih h

theorem errors_pure : (Pure.pure a : Txn D Row E α).Errors p := trivial

theorem errors_query : (query q : Txn D Row E α).Errors p := fun _ => trivial

theorem errors_require (h : p e) :
    (require c e : Txn D Row E Unit).Errors p := by
  unfold require
  split
  · trivial
  · exact h

theorem errors_demand {x} (h : p e) :
    (demand x e : Txn D Row E α).Errors p := by
  cases x with
  | none => exact h
  | some a => trivial

theorem errors_liftM (h : ∀ e, x = .error e → p e) :
    (liftM x : Txn D Row E α).Errors p := by
  change (ofExcept x : Txn D Row E α).Errors p
  cases x with
  | ok a => trivial
  | error e => exact h e rfl

theorem errors_acquireAll {s rs} :
    (acquireAll s rs : Txn D Row E Unit).Errors p := by
  induction rs with
  | nil => trivial
  | cons r rs ih => exact ih

theorem errors_ite {q q' : Txn D Row E α} (h : q.Errors p) (h' : q'.Errors p) :
    (if c then q else q').Errors p := by
  split
  · exact h
  · exact h'

/-- Every error that the program makes on the database `d` satisfies `p`. -/
def ErrorsOn (p : E → Prop) (q : Txn D Row E α) (d : D) : Prop := ∀ e, q.exec d = .error e → p e

theorem Errors.on {p'} {q : Txn D Row E α} (h : q.Errors p) (hp : ∀ e, p e → p' e) :
    q.ErrorsOn p' d :=
  fun e he => hp e (h.exec he)

theorem ErrorsOn.bind {q : Txn D Row E α} (h : q.ErrorsOn p d)
    (hf : ∀ a d', q.exec d = .ok (a, d') → (f a).ErrorsOn p d') : (q >>= f).ErrorsOn p d := by
  intro e he
  cases hq : q.exec d with
  | ok x =>
    rw [exec_bind_ok hq] at he
    exact hf x.1 x.2 hq e he
  | error e' =>
    rw [exec_bind_error hq] at he
    cases he
    exact h e hq

theorem ErrorsOn.require_bind {f : Unit → Txn D Row E β} (he : ¬ c → p e)
    (hf : c → (f ()).ErrorsOn p d) : (require c e >>= f).ErrorsOn p d := by
  by_cases hc : c
  · intro e' he'
    rw [exec_bind_ok (exec_require_pos hc)] at he'
    exact hf hc e' he'
  · have hfail : (require c e : Txn D Row E Unit).exec d = .error e := by
      rw [exec_require, if_neg hc]
    intro e' he'
    rw [exec_bind_error hfail] at he'
    cases he'
    exact he hc

theorem ErrorsOn.demand_bind {x} (he : x = none → p e)
    (hf : ∀ a, x = some a → (f a).ErrorsOn p d) : (demand x e >>= f).ErrorsOn p d := by
  cases x with
  | some a => exact hf a rfl
  | none =>
    intro e' he'
    cases he'
    exact he rfl

theorem ErrorsOn.liftM_bind (he : ∀ e, x = .error e → p e)
    (hf : ∀ a, x = .ok a → (f a).ErrorsOn p d) :
    ((liftM x : Txn D Row E α) >>= f).ErrorsOn p d := by
  change ((ofExcept x : Txn D Row E α) >>= f).ErrorsOn p d
  cases x with
  | ok a => exact hf a rfl
  | error e =>
    intro e' he'
    cases he'
    exact he e rfl

theorem ErrorsOn.query_bind (hf : (f (q d)).ErrorsOn p d) :
    (query q >>= f).ErrorsOn p d := hf

theorem ErrorsOn.acquire_bind {r : Row} {s : Strength} {f : Unit → Txn D Row E β}
    (hf : (f ()).ErrorsOn p d) : (acquire r s >>= f).ErrorsOn p d := hf

theorem ErrorsOn.modify_bind {w : D → D} {f : Unit → Txn D Row E β}
    (hf : (f ()).ErrorsOn p (w d)) : (modify w >>= f).ErrorsOn p d := hf

end Txn

end ReadCommitted
