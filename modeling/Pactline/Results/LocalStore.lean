import Pactline.Model.LocalStore

/-!
# Objects stay below their root

An accepted key is made of elements that stay where they are, and the store puts exactly these below
the elements of its root.
-/

set_option autoImplicit false

namespace Pactline.LocalStore

open Paths

variable {root key p : Bytes}

/-- A clean path that is lexically strictly inside a directory. -/
def Inside (root p : Bytes) : Prop :=
  isAbs p ∧ clean p = p ∧
    ∃ rest, rest ≠ [] ∧ (∀ e ∈ rest, Normal e) ∧ elements p = elements root ++ rest

theorem path_eq_some (habs : isAbs root) (h : path root key = some p) :
    ∃ es, es ≠ [] ∧ (∀ e ∈ es, Normal e) ∧ clean (trimSpaceBytes key) = [sep].intercalate es ∧
      p = render true (elements root ++ es) := by
  dsimp only [path] at h
  split at h
  case isTrue => cases h
  case isFalse haccepted =>
    simp only [leavesRoot, not_or, Bool.or_eq_true, decide_eq_true_eq] at haccepted
    obtain ⟨hdot, hrelative, hup, hout⟩ := haccepted
    obtain ⟨es, hne, hes, hkey⟩ := exists_clean hdot hrelative hup hout
    have hroot : root ≠ [] := by
      rintro rfl
      cases habs
    have hjoin : join root (clean (trimSpaceBytes key)) = render true (elements root ++ es) := by
      rw [join, if_neg hroot, hkey, clean_append habs hes hne]
    refine ⟨es, hne, hes, hkey, ?_⟩
    rw [← hjoin]
    split at h
    · cases h
    · split at h
      · cases h
      · exact (Option.some.inj h).symm

/-- **Every accepted key has its own place inside the root directory.** -/
theorem accepted_keys_inside (root : Bytes) (habs : isAbs root) :
    (∀ key p, path root key = some p → Inside root p) ∧
      ∀ key key' p p', path root key = some p → path root key' = some p' →
        clean (trimSpaceBytes key) ≠ clean (trimSpaceBytes key') → p ≠ p' := by
  have hnormal : ∀ {es}, (∀ e ∈ es, Normal e) → ∀ e ∈ elements root ++ es, Normal e := by
    intro es hes e he
    exact (List.mem_append.mp he).elim (normal_of_isAbs habs e) (hes e)
  constructor
  · intro key p h
    obtain ⟨es, hne, hes, -, rfl⟩ := path_eq_some habs h
    have helements := elements_render (hnormal hes)
    exact ⟨rfl, by rw [clean, helements]; rfl, es, hne, hes, helements⟩
  · intro key key' p p' h h' hdiffer heq
    obtain ⟨es, -, hes, hkey, rfl⟩ := path_eq_some habs h
    obtain ⟨es', -, hes', hkey', rfl⟩ := path_eq_some habs h'
    have hsame := congrArg elements heq
    rw [elements_render (hnormal hes), elements_render (hnormal hes'),
      List.append_cancel_left_eq] at hsame
    rw [hkey, hkey', hsame] at hdiffer
    exact hdiffer rfl

/-- The key `a/../b` below the root `/r`. -/
theorem accepted_keys_inside_sample :
    path [0x2F, 0x72] [0x61, 0x2F, 0x2E, 0x2E, 0x2F, 0x62] = some [0x2F, 0x72, 0x2F, 0x62] ∧
      Inside [0x2F, 0x72] [0x2F, 0x72, 0x2F, 0x62] := by
  have haccepted : path [0x2F, 0x72] [0x61, 0x2F, 0x2E, 0x2E, 0x2F, 0x62] =
      some [0x2F, 0x72, 0x2F, 0x62] := by decide +kernel
  exact ⟨haccepted, (accepted_keys_inside [0x2F, 0x72] rfl).1 _ _ haccepted⟩

end Pactline.LocalStore
