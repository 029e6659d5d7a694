import Pactline.Encoding.Timestamps
import Pactline.Listing.Pages
import Pactline.Model.Database

/-!
# The list of Tasks

`TaskStore.List` (`internal/store/task_store.go:1810-1978`): one page of the Tasks that a filter
admits, ordered by a sort expression and the Task number, from behind the row that a cursor names.
The cursor of the next page is computed in Go from the last row of the page
(`taskPrimaryValueString`), and read by the casts of the next query.

Those columns are kept that the query selects and orders by. Its joins give one row for each Task:
the creator and the Project exist, and the Main Thread is one
(`migrations/0026_task_lifecycle_threads_expand.sql:128-129`).
-/

set_option autoImplicit false

namespace Pactline

open Listing IsoText

/-! ## What the query works on -/

structure ListedTask where
  number : TaskId
  row : TaskRow
  labelIds : List Id
  createdAt : Time
  updatedAt : Time
deriving DecidableEq

/-- `DATE '9999-12-31'`, in days from `DATE '0001-01-01'`. -/
def maxDate : Int := 3652058

/-- Tasks with different numbers (`idx_tasks_number`) and with due dates in the years 1 to 9999. -/
structure TaskTable where
  rows : List ListedTask
  unique : (rows.map (·.number)).Nodup
  dated : ∀ t ∈ rows, ∀ date ∈ t.row.dueDate, 0 ≤ date ∧ date ≤ maxDate

/-- `taskCursor`. -/
structure TaskCursor where
  sort : String
  primary : String
  number : Int
deriving DecidableEq

/-- What is not the code's own: `text ILIKE pattern ESCAPE '\'`, the JSON and base64 text of a
cursor, and the rows of `project_memberships`, Project and user. -/
structure TaskListing where
  ilike : String → String → Bool
  codec : TextCodec TaskCursor
  memberships : List (Id × Id)

structure TaskListFilter where
  phases : List TaskPhase
  activities : List TaskActivityState
  claimableStage : Option TaskClaimStage
  statuses : List TaskStatus
  priorities : List TaskPriority
  executionModes : List TaskExecutionMode
  assigneeId : Option Id
  unassigned : Bool
  labelIds : List Id
  search : String
  projectId : Option Id
  milestoneId : Option Id
  creatorId : Option Id
  backlogOnly : Bool
  visibleToUserId : Option Id
  archived : String
  sort : String
  order : String
  cursor : String
  limit : Int

structure TaskListResult where
  items : List ListedTask
  nextCursor : String
  hasMore : Bool

/-! ## The `WHERE` clause -/

def escapeLike (s : String) : String :=
  String.ofList (s.toList.flatMap fun c =>
    if c = '\\' then ['\\', '\\'] else if c = '%' then ['\\', '%']
    else if c = '_' then ['\\', '_'] else [c])

/-- A list of values that is empty selects everything. -/
def anyOf {α : Type} [DecidableEq α] (values : List α) (a : α) : Bool :=
  values.isEmpty || values.contains a

namespace TaskListFilter

variable (f : TaskListFilter) (env : TaskListing) (t : ListedTask)

def admitsArchived : Bool :=
  if f.archived = "only" then t.row.archivedAt.isSome
  else if f.archived = "all" then true
  else t.row.archivedAt.isNone

/-- The activity of a phase that has none is `NULL`, which is equal to nothing. -/
def admitsActivity : Bool :=
  f.activities.isEmpty ||
    (t.row.lifecycle.activity ≠ .unset && f.activities.contains t.row.lifecycle.activity)

def admitsStage : Bool :=
  match f.claimableStage with
  | none => true
  | some .execution => t.row.lifecycle.phase = .ready ||
      (t.row.lifecycle.phase = .inProgress && t.row.lifecycle.activity = .available)
  | some .review => t.row.lifecycle.phase = .inReview && t.row.lifecycle.activity = .available

def admitsAssignee : Bool :=
  if f.unassigned then t.row.assigneeId.isNone
  else f.assigneeId.all fun id => t.row.assigneeId = some id

def admitsSearch : Bool :=
  blank f.search ||
    [t.row.title, t.row.context, t.row.expectedResult, t.row.description].any fun text =>
      env.ilike text ("%" ++ escapeLike f.search ++ "%")

/-- Every condition but the one of the cursor. -/
def admits : Bool :=
  f.admitsArchived t && anyOf f.statuses t.row.status && anyOf f.phases t.row.lifecycle.phase &&
    f.admitsActivity t && f.admitsStage t && anyOf f.priorities t.row.priority &&
    anyOf f.executionModes t.row.executionMode && f.admitsAssignee t &&
    (f.labelIds.isEmpty || t.labelIds.any f.labelIds.contains) &&
    (f.projectId.all fun id => t.row.projectId = id) &&
    (f.milestoneId.all fun id => t.row.milestoneId = some id) &&
    (f.creatorId.all fun id => t.row.creatorId = id) &&
    (!f.backlogOnly || t.row.milestoneId.isNone) &&
    (f.visibleToUserId.all fun id => env.memberships.contains (t.row.projectId, id)) &&
    f.admitsSearch env t

end TaskListFilter

/-! ## The order -/

inductive TaskSort
  | createdAt
  | updatedAt
  | number
  | priority
  | dueDate
deriving DecidableEq

def TaskSort.text : TaskSort → String
  | createdAt => "created_at"
  | updatedAt => "updated_at"
  | number => "number"
  | priority => "priority"
  | dueDate => "due_date"

def TaskSort.ofText (text : String) : Option TaskSort :=
  [createdAt, updatedAt, number, priority, dueDate].find? fun sort => sort.text = text

inductive SortOrder
  | asc
  | desc
deriving DecidableEq

def TaskListFilter.sortField (f : TaskListFilter) : String :=
  if f.sort = "" then "created_at" else f.sort

/-- `strings.ToUpper(f.Order) == "ASC"`. The long s is the one letter outside ASCII that becomes one
of these three. -/
def TaskListFilter.sortOrder (f : TaskListFilter) : SortOrder :=
  match f.order.toList with
  | [a, s, c] => if a ∈ ['a', 'A'] ∧ s ∈ ['s', 'S', 'ſ'] ∧ c ∈ ['c', 'C'] then .asc else .desc
  | _ => .desc

/-- `CASE t.priority WHEN 'urgent' THEN 4 ... ELSE 0 END`. -/
def priorityCase : TaskPriority → Nat
  | .urgent => 4
  | .high => 3
  | .medium => 2
  | .low => 1
  | .none => 0

/-- The SQL expression that the rows are ordered by. -/
def primaryExpr (sort : TaskSort) (order : SortOrder) (t : ListedTask) : Int :=
  match sort with
  | .createdAt => t.createdAt
  | .updatedAt => t.updatedAt
  | .number => t.number
  | .priority => priorityCase t.row.priority
  | .dueDate => t.row.dueDate.getD (match order with
      | .asc => maxDate
      | .desc => 0)

/-- `ROW(expr, t.number)`. -/
def rowKey (sort : TaskSort) (order : SortOrder) (t : ListedTask) : Int ×ₗ Int :=
  toLex (primaryExpr sort order t, (t.number : Int))

/-- `ORDER BY expr ASC, t.number ASC`, or both `DESC`. -/
def SortOrder.sort (order : SortOrder) (key : ListedTask → Int ×ₗ Int) (rows : List ListedTask) :
    List ListedTask :=
  match order with
  | .asc => sortBy key rows
  | .desc => sortBy (fun t => OrderDual.toDual (key t)) rows

/-- `ROW(...) > cursor`, or `<` for a descending order. -/
def SortOrder.Behind (order : SortOrder) (cursor key : Int ×ₗ Int) : Prop :=
  match order with
  | .asc => cursor < key
  | .desc => key < cursor

instance (order : SortOrder) (cursor key : Int ×ₗ Int) : Decidable (order.Behind cursor key) :=
  match order with
  | .asc => inferInstanceAs (Decidable (cursor < key))
  | .desc => inferInstanceAs (Decidable (key < cursor))

/-! ## Cursors -/

def priorityRank : TaskPriority → Nat
  | .urgent => 4
  | .high => 3
  | .medium => 2
  | .low => 1
  | .none => 0

/-- `taskPrimaryValueString` (`task_store.go:1984-2004`). A date is formatted as one
of the years from 1 on. -/
def taskPrimaryValueString (t : ListedTask) (sort : TaskSort) (order : SortOrder) : String :=
  match sort with
  | .createdAt => String.ofList (timestampText t.createdAt)
  | .updatedAt => String.ofList (timestampText t.updatedAt)
  | .number => String.ofList (padded 0 t.number)
  | .priority => String.ofList (padded 0 (priorityRank t.row.priority))
  | .dueDate =>
    match t.row.dueDate with
    | some date => String.ofList (dateText date.toNat)
    | none => match order with
        | .asc => "9999-12-31"
        | .desc => "0001-01-01"

/-- A text that has been read to its end. -/
def whole : Option (Nat × List Char) → Option Int
  | some (n, []) => some n
  | _ => none

/-- The casts `::timestamptz`, `::bigint`, `::int` and `::date`, for the texts that Go writes;
PostgreSQL reads others as well. -/
def castPrimary (sort : TaskSort) (text : String) : Option Int :=
  match sort with
  | .createdAt | .updatedAt => whole (readTimestamp text.toList)
  | .number | .priority => whole (readNumber text.toList)
  | .dueDate => whole (readDate text.toList)

def decodeTaskCursor (env : TaskListing) (raw expectSort : String) :
    Except DomainError TaskCursor :=
  match env.codec.decode raw with
  | none => .error (.invalidInput "malformed cursor")
  | some c =>
    if c.sort ≠ expectSort then
      .error (.invalidInput
        ("cursor was issued for sort " ++ quoted c.sort ++ ", not " ++ quoted expectSort))
    else .ok c

/-- The key the cursor stands for, if there is one. A text that the cast refuses fails the query. -/
def cursorKey (env : TaskListing) (sort : TaskSort) (cursor : String) :
    Except DomainError (Option (Int ×ₗ Int)) :=
  if cursor = "" then .ok none
  else do
    let c ← decodeTaskCursor env cursor sort.text
    match castPrimary sort c.primary with
    | some primary => return some (toLex (primary, c.number))
    | none => throw (.unclassified "list tasks")

/-! ## The page -/

def pageLimit (limit : Int) : Nat :=
  if limit ≤ 0 then 50 else if 200 < limit then 200 else limit.toNat

/-- The rows behind the cursor, in order. -/
def orderedRows (env : TaskListing) (tasks : TaskTable) (f : TaskListFilter) (sort : TaskSort)
    (cursor : Option (Int ×ₗ Int)) : List ListedTask :=
  f.sortOrder.sort (rowKey sort f.sortOrder) (tasks.rows.filter fun t =>
    f.admits env t && cursor.all fun c =>
      f.sortOrder.Behind c (rowKey sort f.sortOrder t))

/-- `TaskStore.List`. -/
def listTasks (env : TaskListing) (tasks : TaskTable) (f : TaskListFilter) :
    Except DomainError TaskListResult :=
  match TaskSort.ofText f.sortField with
  | none => .error (.invalidInput ("unknown sort field " ++ quoted f.sort))
  | some sort => do
      let cursor ← cursorKey env sort f.cursor
      let limit := pageLimit f.limit
      let rows := page limit ((orderedRows env tasks f sort cursor).take (limit + 1))
      let nextCursor := match rows.1.getLast? with
        | some last => env.codec.encode
            ⟨sort.text, taskPrimaryValueString last sort f.sortOrder, last.number⟩
        | none => ""
      return ⟨rows.1, if rows.2 then nextCursor else "", rows.2⟩

/-- Page after page, each with the cursor that the one before has returned, until there are no more.
There is no result if `fuel` pages do not suffice. -/
def listAllTasks (env : TaskListing) (tasks : TaskTable) :
    Nat → TaskListFilter → Option (Except DomainError (List ListedTask))
  | 0, _ => none
  | fuel + 1, f =>
    match listTasks env tasks f with
    | .error e => some (.error e)
    | .ok result =>
      if result.hasMore then
        (listAllTasks env tasks fuel { f with cursor := result.nextCursor }).map fun rest =>
          rest.map (result.items ++ ·)
      else some (.ok result.items)

end Pactline
