import Mathlib.Data.Finset.Union
import Mathlib.Data.Finset.Card
import Mathlib.Logic.Relation

/-!
# Reachability in a finite graph by iteration

What a recursive query with `UNION` computes: starting from a finite set, the successors of the
set are added until nothing new appears. A round either leaves the set closed or adds a node, so
as many rounds as the graph has nodes are enough, and the result is reachability.
-/

set_option autoImplicit false

namespace FiniteClosure

variable {α : Type*} [DecidableEq α] (succ : α → Finset α)

/-- There is an edge from `a` to `b`. -/
def Edge (a b : α) : Prop := b ∈ succ a

/-- One round of the query. -/
def grow (s : Finset α) : Finset α := s ∪ s.biUnion succ

/-- The set after `n` rounds. -/
def closure (n : Nat) (s : Finset α) : Finset α := (grow succ)^[n] s

variable {succ}

theorem mem_grow {s x} : x ∈ grow succ s ↔ x ∈ s ∨ ∃ y ∈ s, x ∈ succ y := by
  simp [grow]

theorem subset_grow (s : Finset α) : s ⊆ grow succ s := Finset.subset_union_left

theorem closure_succ (n : Nat) (s : Finset α) :
    closure succ (n + 1) s = grow succ (closure succ n s) :=
  Function.iterate_succ_apply' _ _ _

theorem subset_closure (n : Nat) (s : Finset α) : s ⊆ closure succ n s := by
  induction n with
  | zero => exact Finset.Subset.refl s
  | succ n ih =>
    rw [closure_succ]
    exact ih.trans (subset_grow _)

/-- Whatever the rounds add is reachable. -/
theorem reachable_of_mem_closure {n s x} (h : x ∈ closure succ n s) :
    ∃ y ∈ s, Relation.ReflTransGen (Edge succ) y x := by
  induction n generalizing x with
  | zero => exact ⟨x, h, .refl⟩
  | succ n ih =>
    rw [closure_succ, mem_grow] at h
    rcases h with h | ⟨z, hz, hx⟩
    · exact ih h
    · obtain ⟨y, hy, hyz⟩ := ih hz
      exact ⟨y, hy, hyz.tail hx⟩

theorem closure_subset {u s} (hu : ∀ x ∈ u, succ x ⊆ u) (hs : s ⊆ u) (n : Nat) :
    closure succ n s ⊆ u := by
  induction n with
  | zero => exact hs
  | succ n ih =>
    rw [closure_succ]
    intro x hx
    rcases mem_grow.mp hx with hx | ⟨y, hy, hxy⟩
    · exact ih hx
    · exact hu y (ih hy) hxy

/-- After `n` rounds the set is closed, or each round has added a node. -/
theorem closed_or_le_card (n : Nat) (s : Finset α) :
    grow succ (closure succ n s) = closure succ n s ∨ n ≤ (closure succ n s).card := by
  induction n with
  | zero => exact Or.inr (Nat.zero_le _)
  | succ n ih =>
    by_cases hclosed : grow succ (closure succ n s) = closure succ n s
    · left
      rw [closure_succ, hclosed, hclosed]
    · right
      have hcard : n ≤ (closure succ n s).card := ih.resolve_left hclosed
      have hlt : (closure succ n s).card < (grow succ (closure succ n s)).card :=
        Finset.card_lt_card ((subset_grow _).ssubset_of_ne (Ne.symm hclosed))
      rw [closure_succ]
      omega

/-- A set of nodes that the edges do not leave is closed after as many rounds as it has nodes. -/
theorem grow_closure {u s : Finset α} (hu : ∀ x ∈ u, succ x ⊆ u) (hs : s ⊆ u) {n}
    (hn : u.card ≤ n) : grow succ (closure succ n s) = closure succ n s := by
  have hsub : closure succ n s ⊆ u := closure_subset hu hs n
  rcases closed_or_le_card n s with hclosed | hcard
  · exact hclosed
  · have hall : closure succ n s = u := Finset.eq_of_subset_of_card_le hsub (hn.trans hcard)
    apply Finset.Subset.antisymm _ (subset_grow _)
    intro x hx
    rw [hall] at hx ⊢
    rcases mem_grow.mp hx with hx | ⟨y, hy, hxy⟩
    · exact hx
    · exact hu y hy hxy

/-- The iteration decides reachability. -/
theorem mem_closure_iff {u s : Finset α} (hu : ∀ x ∈ u, succ x ⊆ u) (hs : s ⊆ u) {n}
    (hn : u.card ≤ n) {x} :
    x ∈ closure succ n s ↔ ∃ y ∈ s, Relation.ReflTransGen (Edge succ) y x := by
  constructor
  · exact reachable_of_mem_closure
  · rintro ⟨y, hy, hyx⟩
    induction hyx with
    | refl => exact subset_closure n s hy
    | tail _ hedge ih =>
      rw [← grow_closure hu hs hn]
      exact mem_grow.mpr (Or.inr ⟨_, ih, hedge⟩)

end FiniteClosure
