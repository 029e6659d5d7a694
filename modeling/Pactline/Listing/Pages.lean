import Mathlib.Data.List.Sort
import Mathlib.Data.Prod.Lex

/-!
# Ordered listings and their pages

A listing orders rows by a key, and hands them out page by page. A query returns one row more than
the page holds, so that the caller learns whether another page follows (`page`). Where no two rows
share a key, a listing is known by its rows alone (`eq_sortBy`), and sorting may be exchanged with
selecting rows. A listing may also be continued from the key of the last row that was returned: what
lies behind it is what the page before has left over (`sortBy_behind`).
-/

set_option autoImplicit false

namespace Listing

open List

variable {α K : Type}

/-! ## Texts of cursors -/

/-- A way to write values as texts that are not empty, from which they can be read back. -/
structure TextCodec (α : Type) where
  encode : α → String
  decode : String → Option α
  decode_encode : ∀ a, decode (encode a) = some a
  encode_ne_empty : ∀ a, encode a ≠ ""

/-! ## Pages -/

/-- The page that a query for `limit + 1` rows makes, and whether there is more. -/
def page (limit : Nat) (rows : List α) : List α × Bool :=
  (rows.take limit, decide (limit < rows.length))

theorem page_take (limit : Nat) (l : List α) :
    page limit (l.take (limit + 1)) = (l.take limit, decide (limit < l.length)) := by
  unfold page
  rw [take_take, length_take]
  have hmin : min limit (limit + 1) = limit := by omega
  rw [hmin]
  congr 1
  rw [decide_eq_decide]
  omega

/-- If there is no more, the page is all there is. -/
theorem take_eq_of_not_lt {limit} {l : List α} (h : ¬ limit < l.length) :
    l.take limit = l :=
  take_of_length_le (by omega)

/-! ## Order -/

variable [LinearOrder K] {key : α → K} {l l' : List α}

def sortBy (key : α → K) (l : List α) : List α := l.insertionSort fun a b => key a ≤ key b

@[simp] theorem mem_sortBy {a} : a ∈ sortBy key l ↔ a ∈ l := mem_insertionSort _

theorem perm_sortBy : (sortBy key l).Perm l := perm_insertionSort _ l

/-- Rows with different keys are ordered strictly. -/
theorem pairwise_sortBy (h : (l.map key).Nodup) :
    (sortBy key l).Pairwise fun a b => key a < key b := by
  have : IsTrans α fun a b => key a ≤ key b := ⟨fun _ _ _ => le_trans⟩
  have : Std.Total fun a b : α => key a ≤ key b := ⟨fun a b => le_total (key a) (key b)⟩
  have hle : (sortBy key l).Pairwise fun a b => key a ≤ key b := pairwise_insertionSort _ l
  have hne : (sortBy key l).Pairwise fun a b => key a ≠ key b :=
    pairwise_map.mp ((perm_sortBy.map key).nodup_iff.mpr h)
  exact (hle.and hne).imp fun hab => lt_of_le_of_ne hab.1 hab.2

/-- The listing is the one way to order its rows. -/
theorem eq_sortBy (h : (l.map key).Nodup) (hsorted : l'.Pairwise fun a b => key a < key b)
    (hmem : ∀ a, a ∈ l' ↔ a ∈ l) : l' = sortBy key l := by
  have : Std.Irrefl fun a b : α => key a < key b := ⟨fun _ => lt_irrefl _⟩
  have : Std.Antisymm fun a b : α => key a < key b :=
    ⟨fun _ _ hab hba => absurd hab (lt_asymm hba)⟩
  apply hsorted.eq_of_mem_iff (pairwise_sortBy h)
  intro a
  rw [hmem, mem_sortBy]

theorem sortBy_filter (h : (l.map key).Nodup) (p : α → Bool) :
    sortBy key (l.filter p) = (sortBy key l).filter p := by
  symm
  apply eq_sortBy ((filter_sublist.map key).nodup h) ((pairwise_sortBy h).filter p)
  intro a
  rw [mem_filter, mem_filter, mem_sortBy]

/-! ## Behind a key -/

/-- Behind a row of an ordered listing are the rows that follow it. -/
theorem filter_behind {xs ys a}
    (h : (xs ++ a :: ys).Pairwise fun x y => key x < key y) :
    (xs ++ a :: ys).filter (fun x => key a < key x) = ys := by
  rw [pairwise_append, pairwise_cons] at h
  obtain ⟨-, ⟨hys, -⟩, hxs⟩ := h
  have hbefore : xs.filter (fun x => key a < key x) = [] := by
    apply filter_eq_nil_iff.mpr
    intro x hx
    have hlt : key x < key a := hxs x hx a mem_cons_self
    simpa using hlt.le
  have hafter : ys.filter (fun x => key a < key x) = ys :=
    filter_eq_self.mpr fun x hx => decide_eq_true (hys x hx)
  rw [filter_append, hbefore, nil_append, filter_cons_of_neg (by simp), hafter]

/-- The part of a listing behind the last row of a page is what the page leaves over. -/
theorem sortBy_behind {p xs ys a} (h : (l.map key).Nodup)
    (hrows : sortBy key (l.filter p) = xs ++ a :: ys)
    (hp : ∀ x ∈ l, key a < key x → p x) :
    sortBy key (l.filter fun x => key a < key x) = ys := by
  have hsorted : (xs ++ a :: ys).Pairwise fun x y => key x < key y := by
    rw [← hrows]
    exact pairwise_sortBy ((filter_sublist.map key).nodup h)
  have hsame : l.filter (fun x => key a < key x) =
      (l.filter p).filter fun x => key a < key x := by
    rw [filter_filter]
    apply filter_congr
    intro x hx
    by_cases hlt : key a < key x
    · simp [hlt, hp x hx hlt]
    · simp [hlt]
  rw [hsame, sortBy_filter ((filter_sublist.map key).nodup h), hrows, filter_behind hsorted]

end Listing
