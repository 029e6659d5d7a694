import Mathlib.Logic.Relation

/-!
# Relations without cycles

What happens to the cycles of a relation when edges are taken away, or when the edges out of one
node are replaced.
-/

set_option autoImplicit false

namespace Acyclicity

open Relation

variable {α : Type*} {r r' : α → α → Prop}

/-- No path leads from a node back to it. -/
def Acyclic (r : α → α → Prop) : Prop := ∀ x, ¬ TransGen r x x

theorem Acyclic.mono (h : Acyclic r) (hle : ∀ x y, r' x y → r x y) : Acyclic r' :=
  fun x hx => h x (TransGen.mono hle x x hx)

/-- A path that uses an edge out of `t` passes through `t`. -/
theorem path_through {t} (hoff : ∀ x y, x ≠ t → r' x y → r x y) {x y}
    (h : TransGen r' x y) : TransGen r x y ∨ ReflTransGen r' x t ∧ TransGen r' t y := by
  induction h with
  | @single b hb =>
    by_cases hx : x = t
    · subst hx
      exact .inr ⟨.refl, .single hb⟩
    · exact .inl (.single (hoff x b hx hb))
  | @tail b c hxb hbc ih =>
    by_cases hbt : b = t
    · subst hbt
      exact .inr ⟨hxb.to_reflTransGen, .single hbc⟩
    · rcases ih with hleft | ⟨hxt, htb⟩
      · exact .inl (hleft.tail (hoff b c hbt hbc))
      · exact .inr ⟨hxt, htb.tail hbc⟩

/-- New edges out of one node make no cycle when none of their ends leads back to it. -/
theorem Acyclic.replace (h : Acyclic r) {t} (hoff : ∀ x y, x ≠ t → r' x y → r x y)
    (hback : ∀ y, r' t y → ¬ ReflTransGen r' y t) : Acyclic r' := by
  have hcycle : ¬ TransGen r' t t := by
    intro ht
    obtain ⟨y, hty, hyt⟩ := TransGen.head'_iff.mp ht
    exact hback y hty hyt
  intro x hx
  rcases path_through hoff hx with hold | ⟨hxt, htx⟩
  · exact h x hold
  · exact hcycle (htx.trans_left hxt)

/-- Which edges leave `t` does not matter for a path that leads to `t`. -/
theorem reaches_congr {t} (hoff : ∀ x y, x ≠ t → r x y → r' x y) {x}
    (h : ReflTransGen r x t) : ReflTransGen r' x t := by
  induction h using ReflTransGen.head_induction_on with
  | refl => exact .refl
  | @head y z hyz _ ih =>
    by_cases hy : y = t
    · subst hy
      exact .refl
    · exact .head (hoff y z hy hyz) ih

/-- With other edges out of `t`, a relation without cycles has one exactly if one of the new edges
leads to a node from which `t` was reached before. -/
theorem Acyclic.replace_iff (h : Acyclic r) {t} (hoff : ∀ x y, x ≠ t → (r' x y ↔ r x y)) :
    Acyclic r' ↔ ∀ y, r' t y → ¬ ReflTransGen r y t := by
  constructor
  · intro hacyclic y hty hback
    have hback' : ReflTransGen r' y t :=
      reaches_congr (fun x z hx => (hoff x z hx).mpr) hback
    exact hacyclic t (TransGen.head' hty hback')
  · intro hnone
    refine h.replace (fun x y hx => (hoff x y hx).mp) fun y hty hback => ?_
    exact hnone y hty (reaches_congr (fun x z hx => (hoff x z hx).mp) hback)

end Acyclicity
