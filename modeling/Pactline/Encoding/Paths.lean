import Mathlib.Data.List.Basic

/-!
# Slash-separated paths

The lexical path operations of Go's `path/filepath` on Unix, on bytes. A path is read as the list of
its elements; `clean` drops empty elements and dots and lets `..` take back the element before it.
-/

set_option autoImplicit false

namespace Paths

open List

abbrev Text := List UInt8

def sep : UInt8 := 0x2F

def dot : Text := [0x2E]

def up : Text := [0x2E, 0x2E]

/-- The next element of a path, on the stack of those before it. -/
def push (rooted : Bool) (stack : List Text) (e : Text) : List Text :=
  if e = [] ∨ e = dot then stack
  else if e = up then
    match stack with
    | [] => if rooted then [] else [up]
    | top :: rest => if top = up then up :: top :: rest else rest
  else e :: stack

def isAbs (path : Text) : Bool := path.head? = some sep

/-- The elements of the cleaned path. -/
def elements (path : Text) : List Text := ((path.splitOn sep).foldl (push (isAbs path)) []).reverse

def render (rooted : Bool) (es : List Text) : Text :=
  if rooted then sep :: [sep].intercalate es else if es = [] then dot else [sep].intercalate es

/-- `filepath.Clean`. -/
def clean (path : Text) : Text := render (isAbs path) (elements path)

/-- `filepath.Join` of two paths. -/
def join (a b : Text) : Text :=
  if a = [] then if b = [] then [] else clean b else clean (a ++ sep :: b)

/-- What is left of two paths after the elements that they begin with both. -/
def dropCommon : List Text → List Text → List Text × List Text
  | a :: as, b :: bs => if a = b then dropCommon as bs else (a :: as, b :: bs)
  | as, bs => (as, bs)

/-- `filepath.Rel`. -/
def rel (base target : Text) : Option Text :=
  let (bs, ts) := dropCommon (elements base) (elements target)
  if isAbs base ≠ isAbs target ∨ bs.head? = some up then none
  else some (render false (replicate bs.length up ++ ts))

/-- An element that stays where it is. -/
structure Normal (e : Text) : Prop where
  nonempty : e ≠ []
  notDot : e ≠ dot
  notUp : e ≠ up
  single : sep ∉ e

variable {path e : Text} {es ns : List Text} {rooted : Bool} {n : Nat}

theorem push_normal (h : Normal e) (stack : List Text) : push rooted stack e = e :: stack := by
  simp [push, h.nonempty, h.notDot, h.notUp]

theorem foldl_push_normal (h : ∀ e ∈ es, Normal e) (stack : List Text) :
    es.foldl (push rooted) stack = es.reverse ++ stack := by
  induction es generalizing stack with
  | nil => rfl
  | cons e es ih =>
    rw [foldl_cons, push_normal (h e mem_cons_self), ih fun e' he' => h e' (mem_cons_of_mem e he')]
    simp

theorem sep_notMem_of_mem_splitOn (h : e ∈ path.splitOn sep) : sep ∉ e := by
  induction path generalizing e with
  | nil =>
    rw [splitOn_nil, mem_singleton] at h
    subst h
    exact not_mem_nil
  | cons b path ih =>
    rw [splitOn_cons_eq_if_modifyHead] at h
    split at h
    · rcases mem_cons.mp h with rfl | h
      · exact not_mem_nil
      · exact ih h
    case isFalse hne =>
      cases hsplit : path.splitOn sep with
      | nil => exact absurd hsplit (splitOn_ne_nil _ _)
      | cons first rest =>
        rw [hsplit, modifyHead_cons] at h
        rcases mem_cons.mp h with rfl | h
        · have hfirst : sep ∉ first := ih (hsplit ▸ mem_cons_self)
          rw [mem_cons, not_or]
          exact ⟨fun heq => hne (by rw [heq]; exact beq_self_eq_true b), hfirst⟩
        · exact ih (hsplit ▸ mem_cons_of_mem first h)

/-- The elements on the stack stay where they are, above what leads out of a path that is not
rooted. -/
theorem exists_foldl_push (hes : ∀ e ∈ es, sep ∉ e) (hns : ∀ e ∈ ns, Normal e)
    (hn : rooted → n = 0) : ∃ ns' n', es.foldl (push rooted) (ns ++ replicate n up) =
      ns' ++ replicate n' up ∧ (∀ e ∈ ns', Normal e) ∧ (rooted → n' = 0) := by
  induction es generalizing ns n with
  | nil => exact ⟨ns, n, rfl, hns, hn⟩
  | cons e es ih =>
    have hrest : ∀ e ∈ es, sep ∉ e := fun e' he' => hes e' (mem_cons_of_mem e he')
    rw [foldl_cons]
    by_cases hskip : e = [] ∨ e = dot
    · rw [show push rooted (ns ++ replicate n up) e = _ from if_pos hskip]
      exact ih hrest hns hn
    by_cases hup : e = up
    · subst hup
      cases ns with
      | cons top rest =>
        have hpop : push rooted (top :: rest ++ replicate n up) up = rest ++ replicate n up :=
          if_neg (hns top mem_cons_self).notUp
        rw [hpop]
        exact ih hrest (fun e' he' => hns e' (mem_cons_of_mem top he')) hn
      | nil =>
        cases n with
        | zero =>
          cases rooted with
          | true => exact ih hrest hns (n := 0) fun _ => rfl
          | false => exact ih hrest hns (n := 1) fun hrooted => by cases hrooted
        | succ n =>
          exact ih hrest hns (n := n + 2) fun hrooted => by cases hn hrooted
    · have hnormal : Normal e :=
        ⟨fun h => hskip (.inl h), fun h => hskip (.inr h), hup, hes e mem_cons_self⟩
      rw [push_normal hnormal]
      exact ih hrest (forall_mem_cons.mpr ⟨hnormal, hns⟩) hn

theorem exists_elements (path : Text) : ∃ n es, elements path = replicate n up ++ es ∧
    (∀ e ∈ es, Normal e) ∧ (isAbs path → n = 0) := by
  have hstack : ∃ ns n, (path.splitOn sep).foldl (push (isAbs path)) ([] ++ replicate 0 up) =
      ns ++ replicate n up ∧ (∀ e ∈ ns, Normal e) ∧ (isAbs path → n = 0) :=
    exists_foldl_push (fun _ => sep_notMem_of_mem_splitOn) (by simp) fun _ => rfl
  obtain ⟨ns, n, heq, hns, hn⟩ := hstack
  refine ⟨n, ns.reverse, ?_, fun e he => hns e (mem_reverse.mp he), hn⟩
  exact (congrArg reverse heq).trans (by simp)

theorem normal_of_isAbs (h : isAbs path) : ∀ e ∈ elements path, Normal e := by
  obtain ⟨n, es, heq, hes, hn⟩ := exists_elements path
  rw [heq, hn h]
  exact hes

theorem splitOn_intercalate_normal (h : ∀ e ∈ es, Normal e) (hne : es ≠ []) :
    ([sep].intercalate es).splitOn sep = es :=
  splitOn_intercalate sep (fun e he => (h e he).single) hne

/-- What a rooted path is made of, it is read as. -/
theorem elements_render (h : ∀ e ∈ es, Normal e) : elements (render true es) = es := by
  have hsplit : (render true es).splitOn sep = [] :: ([sep].intercalate es).splitOn sep :=
    splitOn_append_cons_self [] _
  rw [elements, hsplit, foldl_cons]
  cases es with
  | nil => rfl
  | cons e es =>
    rw [splitOn_intercalate_normal h (cons_ne_nil e es), foldl_push_normal h]
    simp [push]

/-- Elements that stay where they are go on below a rooted path. -/
theorem clean_append (habs : isAbs path) (h : ∀ e ∈ es, Normal e) (hne : es ≠ []) :
    clean (path ++ sep :: [sep].intercalate es) = render true (elements path ++ es) := by
  have hrooted : isAbs (path ++ sep :: [sep].intercalate es) = isAbs path := by
    cases path with
    | nil => cases habs
    | cons => rfl
  rw [clean, elements, hrooted, splitOn_append_cons_self, splitOn_intercalate_normal h hne,
    foldl_append, foldl_push_normal h, habs, elements, habs]
  simp

/-- A cleaned path that neither is rooted nor leads out of where it is. -/
theorem exists_clean (hdot : clean path ≠ dot) (habs : ¬ isAbs (clean path)) (hup : clean path ≠ up)
    (hout : ¬ (up ++ [sep]).isPrefixOf (clean path)) :
    ∃ es, es ≠ [] ∧ (∀ e ∈ es, Normal e) ∧ clean path = [sep].intercalate es := by
  have hfree : isAbs path = false := by
    by_contra hrooted
    rw [Bool.not_eq_false] at hrooted
    exact habs (by rw [clean, hrooted]; rfl)
  obtain ⟨n, es, heq, hes, -⟩ := exists_elements path
  have hclean : clean path = render false (replicate n up ++ es) := by rw [clean, hfree, heq]
  rw [hclean] at hdot hup hout ⊢
  cases n with
  | zero =>
    have hne : es ≠ [] := by
      rintro rfl
      exact hdot rfl
    exact ⟨es, hne, hes, by simp [render, hne]⟩
  | succ n =>
    cases hrest : replicate n up ++ es with
    | nil =>
      rw [replicate_succ, cons_append, hrest] at hup
      exact absurd (by decide) hup
    | cons e rest =>
      rw [replicate_succ, cons_append, hrest] at hout
      exact absurd (by simp [render, up]) hout

end Paths
