import Mathlib.Data.List.AList
import Pactline.Concurrency.Owned

/-!
# Components of a database

A `Lens` is a component of a larger database. Two things are built on it.

* A table is a component, and each of its rows is a record that a transaction can own
  (`Lens.cell`) or make (`Owned.create`).
* A system of transactions over the component is a system over the larger database
  (`Txn.zoom`). What such a transaction relies on is what it relied on before (`Rely.pull`):
  its writes stay guarded, and each of its runs is a run on the component that leaves all else
  as it was.
-/

set_option autoImplicit false

namespace ReadCommitted

open List

/-- A component of type `V` of a database. -/
structure Lens (D V : Type) where
  get : D → V
  set : V → D → D
  get_set : ∀ v d, get (set v d) = v
  set_get : ∀ d, set (get d) d = d
  set_set : ∀ v w d, set v (set w d) = set v d

/-! ## Rows of a table -/

namespace Lens

section Rows

variable {D K V Row : Type} [DecidableEq K] (lens : Lens D (AList fun _ : K => V))

/-- One row of a table. -/
def cell (k : K) : Cell D V where
  get d := (lens.get d).lookup k
  put v d := lens.set ((lens.get d).insert k v) d
  Else d d' := ∃ table, d' = lens.set table d ∧
    ∀ k' ≠ k, table.lookup k' = (lens.get d).lookup k'
  get_put v d := by
    rw [lens.get_set]
    exact AList.lookup_insert _
  else_refl d := ⟨lens.get d, (lens.set_get d).symm, fun _ _ => rfl⟩
  else_trans := by
    rintro d₁ - - ⟨table, rfl, hother⟩ ⟨table', rfl, hother'⟩
    refine ⟨table', lens.set_set table' table d₁, fun k' hk' => ?_⟩
    rw [hother' k' hk', lens.get_set, hother k' hk']
  else_put v d := ⟨_, rfl, fun k' hk' => AList.lookup_insert_ne hk'⟩

/-- The locked rows of the table are as they were. -/
def Untouched (row : K → Row) (held : List (Lock Row)) (d d' : D) : Prop :=
  ∀ k s, ⟨row k, s⟩ ∈ held → (lens.get d').lookup k = (lens.get d).lookup k

variable {lens} {row : K → Row} {held held' : List (Lock Row)} {d d₁ d₂ d₃ d' : D} {k : K}

theorem Untouched.of_eq (h : lens.get d' = lens.get d) : lens.Untouched row held d d' :=
  fun k _ _ => congrArg (AList.lookup k) h

theorem Untouched.trans (h₁ : lens.Untouched row held d₁ d₂)
    (h₂ : lens.Untouched row held d₂ d₃) : lens.Untouched row held d₁ d₃ :=
  fun k s hs => (h₂ k s hs).trans (h₁ k s hs)

theorem Untouched.weaken (hle : held ⊆ held') (h : lens.Untouched row held' d d') :
    lens.Untouched row held d d' :=
  fun k s hs => h k s (hle hs)

/-- Both sides write the same row. -/
theorem Untouched.put (h : lens.Untouched row held d d') (k : K) (v : V) :
    lens.Untouched row held ((lens.cell k).put v d) ((lens.cell k).put v d') := by
  intro k' s hs
  have hrow := h k' s hs
  simp only [cell, lens.get_set]
  by_cases hk : k' = k
  · subst hk
    rw [AList.lookup_insert, AList.lookup_insert]
  · rw [AList.lookup_insert_ne hk, AList.lookup_insert_ne hk, hrow]

theorem lookup_of_else (hother : (lens.cell k).Else d d') {k'} (hne : k' ≠ k) :
    (lens.get d').lookup k' = (lens.get d).lookup k' := by
  obtain ⟨table, rfl, hsame⟩ := hother
  rw [lens.get_set, hsame k' hne]

/-- Whoever has locked a row and changed nothing else disturbs nobody. -/
theorem Untouched.of_else (hother : (lens.cell k).Else d d') (hlock : ⟨row k, .update⟩ ∈ held)
    (hcompatible : Compatible held held') : lens.Untouched row held' d d' := by
  intro k' s hs
  refine lookup_of_else hother ?_
  rintro rfl
  exact hcompatible.not_locked hlock s hs

end Rows

end Lens

/-! ## Making a record -/

namespace Owned

section Create

variable {D Row E V α : Type}

/-- The transaction inserts the record, which nobody else can see before it commits, and goes on
as its owner. -/
def create (c : Cell D V) (l : Lock Row) (v : V) (taken : E) (body : Owned D Row E V α) :
    Txn D Row E α :=
  .lock l (.read fun d =>
    match c.get d with
    | none => .write (c.put v) (body.toTxn c taken)
    | some _ => .fail taken)

variable {R : Rely D Row} {c : Cell D V} {l : Lock Row} {held held' : List (Lock Row)} {d d' : D}
  {v : V} {taken : E} {body : Owned D Row E V α} {a : α}

theorem guarded_create (hown : R.Owns l c) :
    (create c l v taken body).Guarded R held fun _ ls => held ⊆ ls := by
  have hmem : l ∈ l :: held := mem_cons_self
  simp only [create, Txn.Guarded]
  intro d
  cases c.get d with
  | some w => exact Txn.guarded_fail
  | none =>
    refine ⟨fun ls hle e e' hR => hown.put ls e e' v (hle hmem) hR, ?_⟩
    exact Txn.Guarded.mono (guarded_toTxn hown taken body hmem) fun _ ls _ hls x hx =>
      hls (mem_cons_of_mem l hx)

/-- The record was not there, and the rest of the transaction has run on it. -/
theorem runs_of_create (hown : R.Owns l c)
    (h : (create c l v taken body).Commits R held d a held' d') :
    c.get d = none ∧ ∃ v', body.Runs R c (l :: held) d v a held' v' ∧ c.get d' = some v' ∧
      c.Else d d' := by
  have hmem : l ∈ l :: held := mem_cons_self
  obtain ⟨d₀, hR, h⟩ := h
  have hexact := hown.exact _ d₀ d hmem hR
  cases hget : c.get d₀ with
  | some w =>
    simp only [hget] at h
    exact h.elim
  | none =>
    simp only [hget] at h
    refine ⟨hexact.trans hget, ?_⟩
    exact runs_of_commits hown hmem (c.get_put v d) (c.else_put v d) h

end Create

end Owned

/-! ## A system inside a larger one -/

section Zoom

variable {D V Row Row' E α : Type}

/-- The program, run on a component of a larger database. -/
def Txn.zoom (lens : Lens D V) (row : Row → Row') : Txn V Row E α → Txn D Row' E α
  | .ret a => .ret a
  | .fail e => .fail e
  | .lock l k => .lock ⟨row l.row, l.strength⟩ (k.zoom lens row)
  | .read k => .read fun d => (k (lens.get d)).zoom lens row
  | .write w k => .write (fun d => lens.set (w (lens.get d)) d) (k.zoom lens row)

/-- The locks `ls` of the component are held in the larger system. -/
def Holds (row : Row → Row') (ls : List (Lock Row)) (held : List (Lock Row')) : Prop :=
  ∀ l ∈ ls, ⟨row l.row, l.strength⟩ ∈ held

theorem Holds.nil (row : Row → Row') (held : List (Lock Row')) : Holds row [] held :=
  fun _ h => absurd h not_mem_nil

theorem Holds.cons {row : Row → Row'} {ls : List (Lock Row)} {held : List (Lock Row')}
    (h : Holds row ls held) (l : Lock Row) :
    Holds row (l :: ls) (⟨row l.row, l.strength⟩ :: held) := by
  intro x hx
  rcases mem_cons.mp hx with rfl | hx
  · exact mem_cons_self
  · exact mem_cons_of_mem _ (h x hx)

/-- Compatible in the larger system, compatible in the component. -/
theorem Holds.compatible {row : Row → Row'} {ls ls' : List (Lock Row)}
    {held held' : List (Lock Row')} (h : Holds row ls held) (h' : Holds row ls' held')
    (hcompatible : Compatible held held') : Compatible ls ls' := by
  intro a ha b hb hconflict
  exact hcompatible _ (h a ha) _ (h' b hb) ⟨congrArg row hconflict.1, hconflict.2⟩

/-- What a system relies on, as part of a larger one. -/
def Rely.pull (R : Rely V Row) (lens : Lens D V) (row : Row → Row') : Rely D Row' where
  rel held d d' := ∀ ls, Holds row ls held → R.rel ls (lens.get d) (lens.get d')
  refl _ _ ls _ := R.refl ls _
  trans _ _ _ _ h₁ h₂ ls hls := R.trans ls _ _ _ (h₁ ls hls) (h₂ ls hls)
  weaken _ _ _ _ hle h ls hls := h ls fun l hl => hle (hls l hl)

variable {R : Rely V Row} {lens : Lens D V} {row : Row → Row'} {p : Txn V Row E α}
  {held held' : List (Lock Row')} {ls : List (Lock Row)} {d d' : D} {a : α}

/-- A safe write is safe in the larger system. -/
theorem Rely.Safe.pull {w} (h : R.Safe ls w) (hls : Holds row ls held) :
    (R.pull lens row).Safe held fun d => lens.set (w (lens.get d)) d := by
  intro held₁ hle d d' hR ls₁ hls₁
  have hboth : Holds row (ls₁ ++ ls) held₁ := by
    intro l hl
    rcases mem_append.mp hl with hl | hl
    · exact hls₁ l hl
    · exact hle (hls l hl)
  have hw := h (ls₁ ++ ls) (subset_append_right ls₁ ls) _ _ (hR _ hboth)
  rw [lens.get_set, lens.get_set]
  exact R.weaken ls₁ _ _ _ (subset_append_left ls₁ ls) hw

theorem guarded_zoom {Q : α → List (Lock Row) → Prop} (h : p.Guarded R ls Q)
    (hls : Holds row ls held) :
    (p.zoom lens row).Guarded (R.pull lens row) held fun _ _ => True := by
  induction p generalizing held ls with
  | ret a => trivial
  | fail e => trivial
  | lock l k ih => exact ih h (hls.cons l)
  | read k ih => exact fun d => ih (lens.get d) (h (lens.get d)) hls
  | write w k ih => exact ⟨h.1.pull hls, ih h.2 hls⟩

/-- A run in the larger system is a run on the component. -/
theorem commits_of_zoom (hls : Holds row ls held)
    (h : (p.zoom lens row).Commits (R.pull lens row) held d a held' d') :
    ∃ ls', Holds row ls' held' ∧ p.Commits R ls (lens.get d) a ls' (lens.get d') ∧
      d' = lens.set (lens.get d') d := by
  induction p generalizing held ls d with
  | ret b =>
    obtain ⟨rfl, rfl, rfl⟩ := h
    exact ⟨ls, hls, ⟨rfl, rfl, rfl⟩, (lens.set_get d').symm⟩
  | fail e => exact h.elim
  | lock l k ih => exact ih (hls.cons l) h
  | read k ih =>
    obtain ⟨d₀, hR, h⟩ := h
    obtain ⟨ls', hls', hrun, hset⟩ := ih (lens.get d₀) hls h
    exact ⟨ls', hls', ⟨lens.get d₀, hR ls hls, hrun⟩, hset⟩
  | write w k ih =>
    obtain ⟨ls', hls', hrun, hset⟩ := ih hls h
    rw [lens.get_set] at hrun
    rw [lens.set_set] at hset
    exact ⟨ls', hls', hrun, hset⟩

end Zoom

end ReadCommitted
