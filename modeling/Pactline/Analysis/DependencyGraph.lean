import Pactline.Analysis.History
import Pactline.Graph.Acyclic

/-!
# The graph of dependencies

The recursive query of the checks decides reachability (`Db.mem_reachable`). A commit that sets
dependencies and relies on it that nobody else does so at the same time keeps the graph acyclic;
so does a commit of any other command (`Step.acyclic`).
-/

set_option autoImplicit false

namespace Pactline

open ReadCommitted Relation

namespace Db

/-- A row of `task_dependencies`. -/
def DependsOn (d : Db) (t p : TaskId) : Prop := p ∈ d.dependencies t

/-- The rows of `task_dependencies` form no cycle. -/
def Acyclic (d : Db) : Prop := Acyclicity.Acyclic d.DependsOn

theorem acyclic_empty : Acyclic Db.empty := by
  intro t h
  obtain ⟨p, hp, -⟩ := TransGen.head'_iff.mp h
  obtain ⟨r, hr, -⟩ := mem_dependencies.mp hp
  cases hr

theorem dependencySet_subset (d : Db) (t : TaskId) : d.dependencySet t ⊆ d.dependencyTargets := by
  intro p hp
  obtain ⟨r, hr, hmem⟩ := mem_dependencies.mp (List.mem_toFinset.mp hp)
  rw [dependencyTargets, List.mem_toFinset, List.mem_flatMap]
  exact ⟨⟨t, r⟩, AList.mem_lookup_iff.mp hr, hmem⟩

/-- The recursive query finds what can be reached. -/
theorem mem_reachable {d : Db} {t p} : p ∈ d.reachable t ↔ TransGen d.DependsOn t p := by
  have hedge : FiniteClosure.Edge d.dependencySet = d.DependsOn := by
    funext x y
    exact propext List.mem_toFinset
  unfold reachable
  rw [FiniteClosure.mem_closure_iff (fun x _ => d.dependencySet_subset x) (d.dependencySet_subset t)
    le_rfl, hedge, TransGen.head'_iff]
  exact exists_congr fun y => and_congr_left fun _ => List.mem_toFinset

end Db

section Steps

variable {platform : Platform} {held : List (Lock Row)} {d d' : Db} {c : Cmd}

/-- A Task whose new dependencies have been checked closes no cycle. The check has looked at a
graph from which, as far as the rely goes, edges have only been taken away since. -/
theorem acyclic_of_checked {t ids} (hacyclic : d.Acyclic)
    (hself : d'.dependencies t = ids) (hne : ∀ p ∈ ids, p ≠ t)
    (hother : ∀ t' ≠ t, d'.dependencies t' = d.dependencies t')
    (hchecked : ∀ p ∈ ids, ∃ d₀, (rely True).rel held d₀ d' ∧ t ∉ d₀.reachable p) :
    d'.Acyclic := by
  refine Acyclicity.Acyclic.replace hacyclic (t := t) ?_ ?_
  · intro x y hx hxy
    unfold Db.DependsOn at hxy ⊢
    rwa [hother x hx] at hxy
  · intro p hp hback
    unfold Db.DependsOn at hp
    rw [hself] at hp
    obtain ⟨d₀, hrel, hnot⟩ := hchecked p hp
    rcases reflTransGen_iff_eq_or_transGen.mp hback with heq | hpath
    · exact hne p hp heq.symm
    · exact hnot (Db.mem_reachable.mpr
        (TransGen.mono (fun x _ hxy => hrel.2 trivial x hxy) _ _ hpath))

/-- Every commit keeps the graph acyclic, if those that set dependencies rely on being alone. -/
theorem Step.acyclic (h : Step platform (rely c.SetsDependencies) held d d' c)
    (hacyclic : d.Acyclic) : d'.Acyclic := by
  by_cases hsets : c.SetsDependencies
  · rw [eq_true hsets] at h
    cases h with
    | onTask on step => cases step <;> exact hsets.elim
    | @create t draft labelIds ids actor mainThreadId clock created =>
      refine acyclic_of_checked hacyclic (t := t) ?_ ?_ ?_ created.acyclic
      · unfold Db.dependencies
        rw [created.after]
        rfl
      · intro p hp
        obtain ⟨-, dependency, hfits⟩ := created.dependencies p hp
        exact hfits.ne
      · intro t' ht'
        unfold Db.dependencies
        rw [created.other t' ht']
    | @update t v patch actor clock old r' updated =>
      obtain ⟨ids, hids, -⟩ := hsets
      refine acyclic_of_checked hacyclic (t := t) ?_ ?_ ?_ (updated.acyclic ids hids)
      · unfold Db.dependencies
        rw [updated.after, updated.rows, Option.mem_def.mp hids]
        rfl
      · intro p hp
        obtain ⟨-, dependency, hfits⟩ := (updated.dependencies ids hids).2.2 p hp
        exact hfits.ne
      · intro t' ht'
        unfold Db.dependencies
        rcases updated.children t' ht' with heq | ⟨r, rc, -, hr, -, hrc, hf⟩
        · rw [heq]
        · rw [hr, hrc, Option.map_some, Option.map_some, hf.dependencies]
    | completeUpload => exact hsets.elim
    | side side =>
      refine Acyclicity.Acyclic.mono hacyclic fun x y hxy => ?_
      unfold Db.DependsOn Db.dependencies Db.task at hxy ⊢
      rwa [side.tasks] at hxy
  · exact Acyclicity.Acyclic.mono hacyclic fun x _ hxy => h.dependencies_subset hsets x hxy

end Steps

end Pactline
