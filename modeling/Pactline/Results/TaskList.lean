import Pactline.Model.TaskList
import Pactline.Results.TaskStructure

/-!
# The pages of the list of Tasks

The text that Go makes of the last row of a page is read by the query of the next page as the value
of its sort expression (`castPrimary_taskPrimaryValueString`). So the next page begins behind this
row, and the pages together are the Tasks that the filter admits, in order.
-/

set_option autoImplicit false

namespace Pactline

open Listing IsoText List

variable {t a : ListedTask} {order : SortOrder} {xs ys rows : List ListedTask}
  {cursor : Option (Int ×ₗ Int)}

/-! ## The value of a cursor -/

section Cursor

variable {sort : TaskSort}

theorem priorityRank_eq (p : TaskPriority) : priorityRank p = priorityCase p := by
  cases p <;> rfl

theorem whole_readNumber (n : Nat) : whole (readNumber (padded 0 n)) = some (n : Int) := by
  have hread := readNumber_padded 0 n stops_nil
  rw [append_nil] at hread
  rw [hread]
  rfl

theorem whole_readDate (n : Nat) : whole (readDate (dateText n)) = some (n : Int) := by
  have hread := readDate_dateText n stops_nil
  rw [append_nil] at hread
  rw [hread]
  rfl

theorem whole_readTimestamp (n : Nat) :
    whole (readTimestamp (timestampText n)) = some (n : Int) := by
  rw [readTimestamp_timestampText]
  rfl

/-- The dates that stand for a missing due date. -/
theorem castPrimary_missing :
    castPrimary .dueDate "9999-12-31" = some maxDate ∧
      castPrimary .dueDate "0001-01-01" = some 0 := by
  decide +kernel

/-- The value that Go computes for a row is the one of the SQL expression. -/
theorem castPrimary_taskPrimaryValueString (hdate : ∀ date ∈ t.row.dueDate, 0 ≤ date) :
    castPrimary sort (taskPrimaryValueString t sort order) = some (primaryExpr sort order t) := by
  cases sort with
  | createdAt | updatedAt =>
    simp only [castPrimary, taskPrimaryValueString, primaryExpr, String.toList_ofList,
      whole_readTimestamp]
  | number =>
    simp only [castPrimary, taskPrimaryValueString, primaryExpr, String.toList_ofList,
      whole_readNumber]
  | priority =>
    simp only [castPrimary, taskPrimaryValueString, primaryExpr, String.toList_ofList,
      whole_readNumber, priorityRank_eq]
  | dueDate =>
    unfold castPrimary taskPrimaryValueString primaryExpr
    cases hdue : t.row.dueDate with
    | some date =>
      have hpos : 0 ≤ date := hdate date hdue
      simp only [String.toList_ofList, whole_readDate, Int.toNat_of_nonneg hpos, Option.getD_some]
    | none => cases order with
        | asc => exact castPrimary_missing.1
        | desc => exact castPrimary_missing.2

end Cursor

section Pages

variable {env : TaskListing} {tasks : TaskTable} {f : TaskListFilter} {sort : TaskSort}

/-- The cursor of a row stands for its key. -/
theorem cursorKey_encode (ht : t ∈ tasks.rows) :
    cursorKey env sort (env.codec.encode
        ⟨sort.text, taskPrimaryValueString t sort order, t.number⟩) =
      .ok (some (rowKey sort order t)) := by
  have hcast : castPrimary sort (taskPrimaryValueString t sort order) =
      some (primaryExpr sort order t) :=
    castPrimary_taskPrimaryValueString fun date hdue => (tasks.dated t ht date hdue).1
  unfold cursorKey decodeTaskCursor
  rw [if_neg (env.codec.encode_ne_empty _), env.codec.decode_encode]
  dsimp only [bind, Except.bind]
  rw [if_neg (not_not.mpr rfl)]
  dsimp only
  rw [hcast]
  rfl

/-! ## The rows behind a cursor -/

/-- No two Tasks have the same key. -/
theorem nodup_rowKey (tasks : TaskTable) : (tasks.rows.map (rowKey sort order)).Nodup := by
  have hunique := tasks.unique
  rw [List.Nodup, pairwise_map] at hunique ⊢
  apply hunique.imp
  intro t t' hne heq
  have hnumber : (t.number : Int) = t'.number := congrArg (fun key => (ofLex key).2) heq
  exact hne (Int.ofNat_inj.mp hnumber)

theorem SortOrder.Behind.trans {a b c} (hab : order.Behind a b)
    (hbc : order.Behind b c) : order.Behind a c := by
  cases order with
  | asc => exact lt_trans hab hbc
  | desc => exact lt_trans hbc hab

namespace SortOrder

variable {key : ListedTask → Int ×ₗ Int} {l : List ListedTask}

theorem mem_sort : t ∈ order.sort key l ↔ t ∈ l := by
  cases order <;> exact mem_sortBy

theorem perm_sort : (order.sort key l).Perm l := by
  cases order <;> exact perm_sortBy

theorem nodup_toDual (h : (l.map key).Nodup) :
    (l.map fun t => OrderDual.toDual (key t)).Nodup := h

theorem pairwise_sort (h : (l.map key).Nodup) :
    (order.sort key l).Pairwise fun a b => order.Behind (key a) (key b) := by
  cases order with
  | asc => exact pairwise_sortBy h
  | desc => exact pairwise_sortBy (nodup_toDual h)

theorem sort_behind {p} (h : (l.map key).Nodup)
    (hrows : order.sort key (l.filter p) = xs ++ a :: ys)
    (hp : ∀ x ∈ l, order.Behind (key a) (key x) → p x) :
    order.sort key (l.filter fun x => order.Behind (key a) (key x)) = ys := by
  cases order with
  | asc => exact sortBy_behind h hrows hp
  | desc => exact sortBy_behind (nodup_toDual h) hrows hp

end SortOrder

/-- The rows of the query in the form in which they are selected: first by the filter, then by the
cursor. -/
theorem orderedRows_eq :
    orderedRows env tasks f sort cursor =
      f.sortOrder.sort (rowKey sort f.sortOrder)
        ((tasks.rows.filter (f.admits env)).filter fun t => cursor.all fun c =>
          f.sortOrder.Behind c (rowKey sort f.sortOrder t)) := by
  unfold orderedRows
  rw [filter_filter]
  congr 1
  apply filter_congr
  intro t _
  exact Bool.and_comm _ _

theorem orderedRows_none :
    orderedRows env tasks f sort none = f.sortOrder.sort (rowKey sort f.sortOrder)
      (tasks.rows.filter (f.admits env)) := by
  rw [orderedRows_eq]
  congr 1
  exact filter_eq_self.mpr fun _ _ => rfl

/-- Behind a row are the rows that follow it. -/
theorem orderedRows_behind (h : orderedRows env tasks f sort cursor = xs ++ a :: ys) :
    orderedRows env tasks f sort (some (rowKey sort f.sortOrder a)) = ys := by
  rw [orderedRows_eq] at h ⊢
  have hnodup : ((tasks.rows.filter (f.admits env)).map
      (rowKey sort f.sortOrder)).Nodup :=
    (filter_sublist.map _).nodup (nodup_rowKey tasks)
  -- The row itself lies behind the cursor.
  have ha : ∀ c ∈ cursor, f.sortOrder.Behind c (rowKey sort f.sortOrder a) := by
    have hmem : a ∈ xs ++ a :: ys := mem_append_right _ mem_cons_self
    rw [← h, SortOrder.mem_sort, mem_filter, Option.all_eq_true] at hmem
    exact fun c hc => of_decide_eq_true (hmem.2 c hc)
  apply SortOrder.sort_behind hnodup h
  intro x _ hx
  rw [Option.all_eq_true]
  exact fun c hc => decide_eq_true ((ha c hc).trans hx)

/-! ## Page after page -/

theorem one_le_pageLimit (limit : Int) : 1 ≤ pageLimit limit := by
  unfold pageLimit
  split
  · omega
  · split <;> omega

/-- A page that is not the last one ends with the row of its cursor. -/
theorem listTasks_ok (hsort : TaskSort.ofText f.sortField = some sort)
    (hcursor : cursorKey env sort f.cursor = .ok cursor)
    (hrows : orderedRows env tasks f sort cursor = rows) :
    ∃ result, listTasks env tasks f = .ok result ∧
      result.items = rows.take (pageLimit f.limit) ∧
      result.hasMore = decide (pageLimit f.limit < rows.length) ∧
      (pageLimit f.limit < rows.length → ∃ xs a ys, rows = xs ++ a :: ys ∧
        result.items = xs ++ [a] ∧ result.nextCursor = env.codec.encode
          ⟨sort.text, taskPrimaryValueString a sort f.sortOrder, a.number⟩) := by
  unfold listTasks
  rw [hsort]
  dsimp only
  rw [hcursor]
  dsimp only [bind, Except.bind, pure, Except.pure]
  rw [hrows, page_take]
  refine ⟨_, rfl, rfl, rfl, fun hmore => ?_⟩
  have hpos := one_le_pageLimit f.limit
  have hne : rows.take (pageLimit f.limit) ≠ [] := by
    intro hnil
    have hlength := congrArg length hnil
    rw [length_take, length_nil] at hlength
    omega
  obtain ⟨xs, a, htake⟩ := (eq_nil_or_concat' _).resolve_left hne
  refine ⟨xs, a, rows.drop (pageLimit f.limit), ?_, htake, ?_⟩
  · rw [append_cons, ← htake, take_append_drop]
  · dsimp only
    rw [htake, getLast?_concat, if_pos (decide_eq_true hmore)]

/-- From a cursor on, enough pages return the rows behind it. -/
theorem listAllTasks_ok {fuel} (hsort : TaskSort.ofText f.sortField = some sort)
    (hcursor : cursorKey env sort f.cursor = .ok cursor)
    (hrows : orderedRows env tasks f sort cursor = rows) (hfuel : rows.length < fuel) :
    listAllTasks env tasks fuel f = some (.ok rows) := by
  induction fuel generalizing f cursor rows with
  | zero => cases hfuel
  | succ fuel ih =>
    obtain ⟨result, hresult, hitems, hmore, hnext⟩ := listTasks_ok hsort hcursor hrows
    unfold listAllTasks
    rw [hresult]
    dsimp only
    by_cases hlong : pageLimit f.limit < rows.length
    · obtain ⟨xs, a, ys, hsplit, hpage, hencoded⟩ := hnext hlong
      have ha : a ∈ tasks.rows := by
        have hmem : a ∈ orderedRows env tasks f sort cursor := by
          rw [hrows, hsplit]
          exact mem_append_right _ mem_cons_self
        rw [orderedRows_eq, SortOrder.mem_sort] at hmem
        exact mem_of_mem_filter (mem_of_mem_filter hmem)
      have hrest : listAllTasks env tasks fuel { f with cursor := result.nextCursor } =
          some (.ok ys) := by
        apply ih (f := { f with cursor := result.nextCursor }) hsort
        · rw [hencoded]
          exact cursorKey_encode ha
        · exact orderedRows_behind (hrows.trans hsplit)
        · rw [hsplit, length_append, length_cons] at hfuel
          omega
      rw [if_pos (hmore.trans (decide_eq_true hlong)), hrest]
      rw [Option.map_some, Except.map, hpage, hsplit, append_assoc]
      rfl
    · rw [if_neg (by rw [hmore]; simpa using hlong), hitems, take_eq_of_not_lt hlong]

/-- Following the cursors from the first page on returns the Tasks that the filter admits, each of
them once, ordered by the sort expression and then by number. -/
theorem listed_tasks_complete (env : TaskListing) (tasks : TaskTable) {f : TaskListFilter}
    {sort : TaskSort} (hsort : TaskSort.ofText f.sortField = some sort) (hfirst : f.cursor = "")
    {fuel : Nat} (hfuel : tasks.rows.length < fuel) :
    ∃ items, listAllTasks env tasks fuel f = some (.ok items) ∧
      items.Perm (tasks.rows.filter (f.admits env)) ∧
      items.Pairwise fun a b => f.sortOrder.Behind (rowKey sort f.sortOrder a)
        (rowKey sort f.sortOrder b) := by
  have hcursor : cursorKey env sort f.cursor = .ok none := if_pos hfirst
  have hnodup : ((tasks.rows.filter (f.admits env)).map
      (rowKey sort f.sortOrder)).Nodup :=
    (filter_sublist.map _).nodup (nodup_rowKey tasks)
  refine ⟨_, listAllTasks_ok hsort hcursor orderedRows_none ?_, SortOrder.perm_sort,
    SortOrder.pairwise_sort hnodup⟩
  rw [SortOrder.perm_sort.length_eq]
  exact (length_filter_le _ _).trans_lt hfuel

end Pages

/-! ### A sample -/

/-- A text with a mark before each character and one behind the last. -/
def marked (cs : List Char) : List Char := cs.flatMap (fun c => ['+', c]) ++ ['.']

def readMarked : List Char → Option (List Char × List Char)
  | [] => none
  | [m] => if m = '+' then none else some ([], [])
  | m :: c :: cs =>
    if m = '+' then (readMarked cs).map fun r => (c :: r.1, r.2) else some ([], c :: cs)

theorem readMarked_marked (cs rest : List Char) :
    readMarked (marked cs ++ rest) = some (cs, rest) := by
  induction cs with
  | nil => cases rest <;> rfl
  | cons c cs ih =>
    have hcons : marked (c :: cs) ++ rest = '+' :: c :: (marked cs ++ rest) := rfl
    rw [hcons, readMarked, if_pos rfl, ih]
    rfl

/-- An integer in unary. -/
def unaryText : Int → List Char
  | .ofNat n => 'p' :: replicate n '1'
  | .negSucc n => 'n' :: replicate n '1'

def readUnary (cs : List Char) : Int :=
  if cs.head? = some 'p' then .ofNat cs.tail.length else .negSucc cs.tail.length

theorem readUnary_unaryText (n : Int) : readUnary (unaryText n) = n := by
  cases n with
  | ofNat n => simp [unaryText, readUnary]
  | negSucc n => simp [unaryText, readUnary]

/-- A text for cursors: its three fields one after the other. -/
def markedCursor : TextCodec TaskCursor where
  encode c := String.ofList
    (marked c.sort.toList ++ (marked c.primary.toList ++ unaryText c.number))
  decode text := do
    let (sort, cs) ← readMarked text.toList
    let (primary, cs) ← readMarked cs
    return ⟨String.ofList sort, String.ofList primary, readUnary cs⟩
  decode_encode c := by
    simp [readMarked_marked, readUnary_unaryText]
  encode_ne_empty c := by
    simp [marked]

/-- A listing that finds no text, and knows no members. -/
def sampleTaskListing : TaskListing where
  ilike _ _ := false
  codec := markedCursor
  memberships := []

/-- A sample Task with a due date. -/
def sampleListed (number : TaskId) (dueDate : Option Int) : ListedTask where
  number
  row := ({ sampleDraft none with dueDate }.created number [] [] sampleOperation 1001
    fun n => 100 + n).row
  labelIds := []
  createdAt := 100
  updatedAt := 100

/-- Three Tasks, of which two are due on the same day and one has no due date. -/
def sampleTable : TaskTable where
  rows := [sampleListed 1 none, sampleListed 3 (some 738000), sampleListed 2 (some 738000)]
  unique := by decide
  dated := by decide

/-- All of them by due date, one on a page. -/
def byDueDate : TaskListFilter where
  phases := []
  activities := []
  claimableStage := none
  statuses := []
  priorities := []
  executionModes := []
  assigneeId := none
  unassigned := false
  labelIds := []
  search := ""
  projectId := none
  milestoneId := none
  creatorId := none
  backlogOnly := false
  visibleToUserId := none
  archived := ""
  sort := "due_date"
  order := "ASC"
  cursor := ""
  limit := 1

theorem listed_tasks_complete_by_due_date :
    ∃ items, listAllTasks sampleTaskListing sampleTable 4 byDueDate = some (.ok items) ∧
      items.Perm (sampleTable.rows.filter (byDueDate.admits sampleTaskListing)) ∧
      items.Pairwise fun a b => byDueDate.sortOrder.Behind
        (rowKey .dueDate byDueDate.sortOrder a)
        (rowKey .dueDate byDueDate.sortOrder b) :=
  listed_tasks_complete sampleTaskListing sampleTable (by decide) rfl (by decide)

example : (listAllTasks sampleTaskListing sampleTable 4 byDueDate).map
    (fun result => result.toOption.map (·.map (·.number))) = some (some [2, 3, 1]) := by
  decide +kernel

end Pactline
