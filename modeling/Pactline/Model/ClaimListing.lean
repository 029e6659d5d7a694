import Pactline.Concurrency.Service
import Pactline.Encoding.Base64
import Pactline.Listing.Pages
import Pactline.Model.System

/-!
# The listing of a caller's Claims

`Handler.ListOwnedTaskStageClaims` (`internal/api/v1/task_workflow.go:87-142`) with `ListOwnedPage`
(`internal/store/task_stage_claim_store.go:107-160`). The handler reads a page, ends the Claims on
it that are past their deadline, each in a transaction of its own, and reads the page again if one
of them was ended.

A cursor is a text for the number of Claims before the page (`offsetCursor`). The check of access to
a Task is an argument: it only stops the handler.
-/

set_option autoImplicit false

namespace Pactline

open ReadCommitted Listing Service

/-! ## The page of the store -/

/-- Which of the caller's Claims are asked for. -/
structure ClaimFilter where
  operation : OperationActor
  status : Option StageClaimStatus
  stage : Option TaskClaimStage

/-- The `WHERE` clause. -/
def ClaimFilter.Admits (q : ClaimFilter) (claim : TaskStageClaim) : Prop :=
  claim.subjectUserId = q.operation.userId ∧ claim.authMethod = q.operation.authMethod ∧
    claim.apiTokenId = q.operation.tokenId ∧ claim.agentRunId = q.operation.agentRunId ∧
    (∀ status ∈ q.status, claim.status = status) ∧ ∀ stage ∈ q.stage, claim.stage = stage
deriving Decidable

/-- `ORDER BY created_at DESC, id DESC`. -/
def TaskStageClaim.listKey (claim : TaskStageClaim) : (Time ×ₗ Id)ᵒᵈ :=
  OrderDual.toDual (toLex (claim.createdAt, claim.id))

/-- The rows of `task_stage_claims`. -/
def Db.claims (d : Db) : List TaskStageClaim := d.tasks.entries.flatMap fun e => e.2.claims

/-- All rows of the query, without `OFFSET` and `LIMIT`. -/
def Db.ownedClaims (d : Db) (q : ClaimFilter) : List TaskStageClaim :=
  sortBy TaskStageClaim.listKey (d.claims.filter q.Admits)

/-- `ListOwnedPage`. An offset is never negative here, since `decodeCursor` refuses those. -/
def listOwnedPage (q : ClaimFilter) (offset limit : Nat) : Tx (List TaskStageClaim × Bool) := do
  q.operation.validate
  Txn.require (1 ≤ limit ∧ limit ≤ 10000) (.invalidInput "invalid Claim page")
  let rows ← Txn.query fun d => ((d.ownedClaims q).drop offset).take (limit + 1)
  return page limit rows

/-! ## The handler -/

/-- The transactions the handler runs. -/
inductive ClaimListingCmd
  | ownedPage (q : ClaimFilter) (offset limit : Nat)
  | command (c : Cmd)

inductive ClaimListingReply
  | ownedPage (rows : List TaskStageClaim × Bool)
  | command (reply : Reply)

def claimListingProg (platform : Platform) : ClaimListingCmd → Tx ClaimListingReply
  | .ownedPage q offset limit => do
      return .ownedPage (← listOwnedPage q offset limit)
  | .command c => do
      return .command (← prog platform c)

abbrev ClaimListing := Service ClaimListingCmd DomainError ClaimListingReply

/-- What the caller is told when a connection was lost. -/
def listingLost : DomainError := .unclassified "list owned Task Claims"

def ClaimListing.ownedPage (q : ClaimFilter) (offset limit : Nat) :
    ClaimListing (List TaskStageClaim × Bool) :=
  send listingLost (fun
    | .ownedPage rows => some rows
    | _ => none) (.ownedPage q offset limit)

def ClaimListing.expireDueClaim (t : TaskId) (operation : OperationActor) (now : Time)
    (fresh : Nat → Id) : ClaimListing Bool :=
  send listingLost (fun
    | .command (.expired expired) => some expired
    | _ => none) (.command (.expireDueClaim t operation now fresh))

/-- The Claim is active and its deadline is not after `now`. -/
def TaskStageClaim.Due (claim : TaskStageClaim) (now : Time) : Prop :=
  claim.status = .active ∧ claim.expiresAt ≤ now
deriving Decidable

/-- What a request gives besides its cursor, and what the handler draws: the time it takes as now,
and the identities of the Items, for each Claim it ends. -/
structure ClaimPageRequest where
  filter : ClaimFilter
  limit : Option Nat
  access : TaskId → Except DomainError Unit
  now : Time
  fresh : Id → Nat → Id

namespace ClaimPageRequest

variable (q : ClaimPageRequest)

/-- `Handler.expireDueClaims` (`task_workflow.go:175-196`). -/
def expireDueClaims (expiredAny : Bool) : List TaskStageClaim → ClaimListing Bool
  | [] => pure expiredAny
  | claim :: rest =>
    if ¬ claim.Due q.now then expireDueClaims expiredAny rest
    else do
      let expired ← ClaimListing.expireDueClaim claim.taskNumber q.filter.operation q.now
        (q.fresh claim.id)
      expireDueClaims (expiredAny || expired) rest

def requireTaskAccess : List TaskStageClaim → Except DomainError Unit
  | [] => .ok ()
  | claim :: rest => do
      q.access claim.taskNumber
      requireTaskAccess rest

end ClaimPageRequest

/-! ## Cursors -/

/-- `strconv.Atoi`, for numbers that are not negative. -/
def atoi (text : List Char) : Option Nat :=
  let digits := if text.head? ∈ [some '+', some '-'] then text.tail else text
  let n := Nat.ofDigitChars 10 digits 0
  if digits ≠ [] ∧ digits.all Char.isDigit ∧ (text.head? = some '-' → n = 0) then some n else none

theorem atoi_toDigits (n : Nat) : atoi (Nat.toDigits 10 n) = some n := by
  have hdigits : ∀ c ∈ Nat.toDigits 10 n, c.isDigit := fun c hc =>
    Nat.isDigit_of_mem_toDigits (by omega) (by omega) hc
  have hsign : ∀ c, c.isDigit = false → (Nat.toDigits 10 n).head? ≠ some c := fun c hc hhead =>
    by simpa [hc] using hdigits c (List.mem_of_head? hhead)
  simpa [atoi, hsign '+' rfl, hsign '-' rfl, Nat.toDigits_ne_nil,
    Nat.ofDigitChars_ten_toDigits] using hdigits

/-- `encodeCursor` (`internal/api/v1/handler.go:146-148`), and how `decodeCursor` reads the text. An
offset counts rows, so the bounds of `int` are left out. -/
def offsetCursor : TextCodec Nat where
  encode offset := String.ofList (Base64.encode ((Nat.toDigits 10 offset).map Char.toNat))
  decode text := do atoi ((← Base64.decode text.toList).map Char.ofNat)
  decode_encode offset := by
    have hbytes : ∀ b ∈ (Nat.toDigits 10 offset).map Char.toNat, b < 256 := by
      simp only [List.forall_mem_map]
      intro c hc
      have hdigit := Nat.isDigit_of_mem_toDigits (by omega) (by omega) hc
      simp only [Char.isDigit, Bool.and_eq_true, decide_eq_true_eq] at hdigit
      exact (show c.toNat ≤ 57 from hdigit.2).trans_lt (by decide)
    simp [Base64.decode_encode hbytes, Function.comp_def, atoi_toDigits]
  encode_ne_empty offset := by
    simpa using Base64.encode_ne_nil (by simp)

/-- `decodeCursor` (`handler.go:150-164`), with the error of the handler. -/
def decodeClaimCursor (codec : TextCodec Nat) (cursor : Option String) : Except DomainError Nat :=
  if cursor.getD "" = "" then .ok 0
  else match codec.decode (cursor.getD "") with
    | some offset => .ok offset
    | none => .error (.invalidInput "invalid request")

/-- `TaskStageClaimList`. -/
structure ClaimPage where
  items : List TaskStageClaim
  nextCursor : Option String
deriving DecidableEq

/-- The part of the handler between the cursor it is given and the one it returns. -/
def ClaimPageRequest.claimRows (q : ClaimPageRequest) (offset : Nat) :
    ClaimListing (List TaskStageClaim × Bool) := do
  let limit := q.limit.getD 50
  let first ← ClaimListing.ownedPage q.filter offset limit
  ofExcept (q.requireTaskAccess first.1)
  let expired ← q.expireDueClaims false first.1
  let rows ← (if expired then ClaimListing.ownedPage q.filter offset limit else pure first)
  ofExcept (q.requireTaskAccess rows.1)
  return rows

def listOwnedTaskStageClaims (codec : TextCodec Nat) (q : ClaimPageRequest)
    (cursor : Option String) : ClaimListing ClaimPage := do
  let offset ← ofExcept (decodeClaimCursor codec cursor)
  let rows ← q.claimRows offset
  return ⟨rows.1, if rows.2 then some (codec.encode (offset + rows.1.length)) else none⟩

/-- The response to a request that no other transaction overlaps, and the database it leaves. -/
def serveClaimPage (platform : Platform) (codec : TextCodec Nat) (q : ClaimPageRequest)
    (cursor : Option String) (d : Db) : Except DomainError ClaimPage × Db :=
  (listOwnedTaskStageClaims codec q cursor).exec (claimListingProg platform) d

/-! ## Following the cursors -/

/-- Where a caller is who asks for page after page: the database, the cursor for the next page, the
Claims returned so far, and whether the last page was among them. -/
structure ClaimTraversal where
  db : Db
  cursor : Option String
  items : List TaskStageClaim
  finished : Bool

/-- The caller asks for the next page, or a command commits between two requests. -/
inductive TraversalEvent
  | request (access : TaskId → Except DomainError Unit) (now : Time) (fresh : Id → Nat → Id)
  | commit (c : Cmd)

namespace ClaimTraversal

def start (d : Db) : ClaimTraversal := ⟨d, none, [], false⟩

variable (platform : Platform) (codec : TextCodec Nat) (filter : ClaimFilter) (limit : Option Nat)

def step (s : ClaimTraversal) (event : TraversalEvent) : Option ClaimTraversal :=
  if s.finished then none
  else match event with
    | .request access now fresh =>
      match serveClaimPage platform codec ⟨filter, limit, access, now, fresh⟩ s.cursor s.db with
      | (.ok response, d) =>
        some ⟨d, response.nextCursor, s.items ++ response.items, response.nextCursor.isNone⟩
      | (.error _, _) => none
    | .commit c => match (prog platform c).exec s.db with
        | .ok (_, d) => some { s with db := d }
        | .error _ => none

def run (s : ClaimTraversal) (events : List TraversalEvent) : Option ClaimTraversal :=
  events.foldlM (step platform codec filter limit) s

end ClaimTraversal

end Pactline
