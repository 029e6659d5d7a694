import Mathlib.Data.Rat.Defs
import Pactline.Concurrency.Rowwise
import Pactline.Model.Lifecycle

/-!
# Bounties and credits

The legacy mechanism (`internal/legacy`): its rules (`internal/legacy/domain`), the score of a
settlement (`internal/legacy/scoring`) and its stores (`internal/legacy/store`). Each operation of a
store is one statement that commits by itself. Scores, weights and person-days are rational numbers.

The times at which rows were created and last updated are left out, and so are the references to the
users but for the one that a request for a new bounty names. A statement that lists rows is given
the keys among which it looks.
-/

set_option autoImplicit false

namespace Pactline.Legacy

open ReadCommitted

/-! ## Types -/

inductive UserRole
  | sponsor
  | engineer
  | techLead
  | steward
deriving DecidableEq, Repr

/-- What the handlers read of the user that makes a request. -/
structure User where
  id : Id
  roles : List UserRole
deriving DecidableEq, Repr

def User.HasRole (u : User) (role : UserRole) : Prop := role ∈ u.roles
deriving Decidable

/-- A text that should be one of the values of `α`, and is not always checked. -/
inductive Text (α : Type)
  | known (a : α)
  | other (text : String)
deriving DecidableEq, Repr

/-- The text, where it is none of the values. -/
def Text.unknown {α : Type} : Text α → List String
  | .known _ => []
  | .other text => [text]

inductive Status
  | draft
  | «open»
  | claimed
  | delivered
  | completed
  | abandoned
deriving DecidableEq, Repr

inductive BountyType
  | plan
  | delivery
deriving DecidableEq, Repr

inductive Visibility
  | public_
  | restricted
  | directed
deriving DecidableEq, Repr

inductive Commitment
  | committed
  | exploratory
deriving DecidableEq, Repr

inductive ValueLevel
  | s
  | a
  | b
  | c
deriving DecidableEq, Repr

inductive Difficulty
  | xs
  | s
  | m
  | l
  | xl
deriving DecidableEq, Repr

inductive Completion
  | exceeded
  | met
  | partially
  | missed
deriving DecidableEq, Repr

structure BusinessLine where
  tag : String
  weight : ℚ
deriving DecidableEq

/-- A row of `bounties`; the levels are `none` where the source has the empty string. -/
structure Bounty where
  type : Text BountyType
  parentId : Option Id
  title : String
  goal : String
  acceptanceCriteria : String
  visibility : Text Visibility
  restriction : String
  directedTo : Option Id
  businessLines : List BusinessLine
  valueLevel : Option ValueLevel
  difficulty : Option Difficulty
  commitment : Text Commitment
  completion : Option Completion
  status : Status
  sponsorId : Id
  claimedBy : Option Id
  claimedAt : Option Time
  personDays : Option ℚ
  retrospective : String
  settledScore : Option ℚ
  settledAt : Option Time
  completedAt : Option Time
deriving DecidableEq

inductive CreditRole
  | define
  | lead
  | coDeliver
  | review
  | support
  | baseline
deriving DecidableEq, Repr

inductive CreditStatus
  | pending
  | confirmed
  | declined
deriving DecidableEq, Repr

/-- A row of `credits`. -/
structure Credit where
  bountyId : Id
  userId : Id
  role : CreditRole
  nominatedBy : Option Id
  evidence : String
  status : CreditStatus
  confirmedAt : Option Time
deriving DecidableEq, Repr

/-- A row of `calibrations`. -/
structure Calibration where
  bountyId : Id
  quarter : String
  originalValue : ValueLevel
  originalScore : ℚ
  calibratedValue : ValueLevel
  calibratedScore : ℚ
  note : String
  createdBy : Id
deriving DecidableEq

inductive AnchorDimension
  | value
  | difficulty
deriving DecidableEq, Repr

/-- A row of `anchor_examples`. -/
structure AnchorExample where
  dimension : AnchorDimension
  level : String
  bountyId : Id
  note : String
deriving DecidableEq, Repr

/-- The errors of `internal/legacy/domain/errors.go` with the shared `ErrNotFound`, what a handler
answers to a request it does not understand, and the errors that wrap none of them. -/
inductive LegacyError
  | badRequest (text : String)
  | notFound
  | invalidTransition
  | retrospectiveRequired
  | notClaimable
  | notDirectedToYou
  | forbidden
  | notYourCredit
  | creditNotPending
  | evidenceRequired
  | invalidCreditRole
  | creditNotDeclined
  | invalidValueLevel
  | valueLevelLocked
  | alreadySettled
  | notSettled
  | unscorable (text : String)
  | invalidAnchorDimension
  | invalidAnchorLevel
  | quarterRequired
  | invalidQuarterFormat
  | difficultySettled
  | internal
deriving DecidableEq, Repr

/-- The status that `writeError` answers (`internal/legacy/api/response.go:26-64`). -/
def LegacyError.status : LegacyError → Nat
  | .badRequest _ | .invalidCreditRole | .invalidValueLevel | .invalidAnchorDimension
  | .invalidAnchorLevel | .quarterRequired | .invalidQuarterFormat => 400
  | .notFound => 404
  | .forbidden | .notDirectedToYou | .notYourCredit => 403
  | .invalidTransition | .retrospectiveRequired | .notClaimable | .evidenceRequired
  | .creditNotPending | .creditNotDeclined | .valueLevelLocked | .alreadySettled | .notSettled
  | .unscorable _ | .difficultySettled => 409
  | .internal => 500

/-! ## Rules -/

def Status.Terminal (s : Status) : Prop := s = .completed ∨ s = .abandoned
deriving Decidable

def allowedTransitions : Status → List Status
  | .draft => [.open, .abandoned]
  | .open => [.draft, .claimed, .abandoned]
  | .claimed => [.open, .delivered, .abandoned]
  | .delivered => [.claimed, .completed, .abandoned]
  | .completed => []
  | .abandoned => []

/-- `ValidateTransition` (`bounty.go:192-208`). -/
def validateTransition (b : Bounty) (target : Status) : Except LegacyError Unit := do
  if target ∉ allowedTransitions b.status then throw .invalidTransition
  if target = .abandoned ∧ b.retrospective = "" then throw .retrospectiveRequired

def CanEdit (u : User) (b : Bounty) : Prop := u.id = b.sponsorId ∨ u.HasRole .steward
deriving Decidable

/-- `CanClaim` (`bounty.go:216-240`). -/
def canClaim (u : User) (b : Bounty) : Except LegacyError Unit := do
  if b.status ≠ .open then throw .notClaimable
  if b.visibility = .known .directed then
    if b.directedTo ≠ some u.id then throw .notDirectedToYou
  else if ¬ u.HasRole .engineer ∧ ¬ u.HasRole .steward then throw .forbidden

/-- `CanSetValueLevel` (`bounty.go:264-272`). -/
def canSetValueLevel (u : User) (b : Bounty) : Except LegacyError Unit := do
  if ¬ CanEdit u b then throw .forbidden
  if b.status ≠ .draft ∧ b.status ≠ .open then throw .valueLevelLocked

/-- `CanSetDifficulty` (`bounty.go:287-295`). -/
def canSetDifficulty (u : User) (b : Bounty) : Except LegacyError Unit := do
  if ¬ u.HasRole .techLead ∧ ¬ u.HasRole .steward then throw .forbidden
  if b.settledAt ≠ none then throw .difficultySettled

def CanNominate (u : User) (b : Bounty) : Prop := u.HasRole .steward ∨ b.claimedBy = some u.id
deriving Decidable

/-- `ValidateNomination` (`credit.go:68-76`), and the role it has found. -/
def validateNomination (role : Text CreditRole) (evidence : String) :
    Except LegacyError CreditRole := do
  match role with
  | .other _ => throw .invalidCreditRole
  | .known role =>
    if role = .review ∧ evidence = "" then throw .evidenceRequired
    return role

/-- `CanRespond` (`credit.go:80-88`). -/
def canRespond (u : User) (c : Credit) : Except LegacyError Unit := do
  if c.userId ≠ u.id then throw .notYourCredit
  if c.status ≠ .pending then throw .creditNotPending

/-- The regular expression of a quarter: four digits, `Q` and one of 1 to 4. -/
def IsValidQuarter (q : String) : Bool :=
  match q.toList with
  | [y₁, y₂, y₃, y₄, mark, n] =>
    y₁.isDigit && y₂.isDigit && y₃.isDigit && y₄.isDigit && mark = 'Q' &&
      (n = '1' || n = '2' || n = '3' || n = '4')
  | _ => false

/-- The checks of `ValidateCalibration` that can still fail once the new level is known to be one,
and the original level. -/
def validateCalibration (originalValue : Option ValueLevel) (quarter : String) :
    Except LegacyError ValueLevel := do
  match originalValue with
  | none => throw .invalidValueLevel
  | some level =>
    if quarter = "" then throw .quarterRequired
    if ¬ IsValidQuarter quarter then throw .invalidQuarterFormat
    return level

def isValidValueLevel (level : String) : Bool := level ∈ ["S", "A", "B", "C"]

def isValidDifficulty (level : String) : Bool := level ∈ ["XS", "S", "M", "L", "XL"]

/-- `ValidateAnchorExample`, and the dimension it has found. -/
def validateAnchorExample (dimension : Text AnchorDimension) (level : String) :
    Except LegacyError AnchorDimension := do
  match dimension with
  | .known .value =>
    if ¬ isValidValueLevel level then throw .invalidAnchorLevel
    return .value
  | .known .difficulty =>
    if ¬ isValidDifficulty level then throw .invalidAnchorLevel
    return .difficulty
  | .other _ => throw .invalidAnchorDimension

/-! ## Scores -/

def ValueLevel.weight : ValueLevel → ℚ
  | .s => 8
  | .a => 5
  | .b => 3
  | .c => 1

def Difficulty.weight : Difficulty → ℚ
  | .xs => 1 / 2
  | .s => 1
  | .m => 2
  | .l => 7 / 2
  | .xl => 6

def Completion.factor : Completion → ℚ
  | .exceeded => 6 / 5
  | .met => 1
  | .partially => 3 / 5
  | .missed => 1 / 5

def Commitment.factor : Commitment → ℚ
  | .committed => 1
  | .exploratory => 7 / 10

def abandonedExploratoryFactor : ℚ := 2 / 5

def abandonedCommittedScore : ℚ := 0

/-- `Score` (`score.go:23-49`). -/
def score (b : Bounty) : Except LegacyError ℚ :=
  match b.valueLevel, b.difficulty, b.commitment with
  | none, _, _ => .error (.unscorable ("missing or unknown value_level " ++ quoted ""))
  | _, none, _ => .error (.unscorable ("missing or unknown difficulty " ++ quoted ""))
  | _, _, .other text => .error (.unscorable ("missing or unknown commitment " ++ quoted text))
  | some value, some difficulty, .known commitment =>
    if b.status = .abandoned then
      if commitment = .committed then .ok abandonedCommittedScore
      else .ok (value.weight * difficulty.weight * abandonedExploratoryFactor * commitment.factor)
    else match b.completion with
      | none => .error (.unscorable ("missing or unknown completion " ++ quoted ""))
      | some completion =>
        .ok (value.weight * difficulty.weight * completion.factor * commitment.factor)

def scoreWithValueLevel (b : Bounty) (level : ValueLevel) : Except LegacyError ℚ :=
  score { b with valueLevel := some level }

/-! ## Requests that change a bounty -/

/-- A `transitionRequest` whose texts are known values. -/
structure TransitionRequest where
  /-- `To`. -/
  target : Status
  retrospective : String
  personDays : Option ℚ
  completion : Option Completion
deriving DecidableEq

/-- An `amendRequest` whose texts are known values. -/
structure AmendRequest where
  retrospective : Option String
  personDays : Option ℚ
  valueLevel : Option ValueLevel
  difficulty : Option Difficulty
  completion : Option Completion
deriving DecidableEq

/-- `applyTransitionFormFields` (`bounty_handler.go:283-309`): a field counts only
on its own edge. -/
def applyTransitionFormFields (b : Bounty) (req : TransitionRequest) : Bounty :=
  { b with
    retrospective := if req.retrospective ≠ "" ∧ req.target = .abandoned then req.retrospective
      else b.retrospective
    personDays := if req.target = .delivered then req.personDays <|> b.personDays else b.personDays
    completion :=
      if req.target = .completed then req.completion <|> b.completion else b.completion }

/-- `authorizeTransition` (`bounty_handler.go:311-336`). -/
def authorizeTransition (me : User) (b : Bounty) (target : Status) : Except LegacyError Unit :=
  if me.HasRole .steward then .ok ()
  else if target = .claimed ∧ b.status = .open then canClaim me b
  else if target = .completed then if CanEdit me b then .ok () else .error .forbidden
  else if CanEdit me b ∨ b.claimedBy = some me.id then .ok ()
  else .error .forbidden

/-- `applyTransitionEffects` (`bounty_handler.go:338-358`). -/
def applyTransitionEffects (b : Bounty) (me : User) (target : Status) (now : Time) : Bounty :=
  match target with
  | .claimed => if b.claimedBy = none then { b with claimedBy := some me.id, claimedAt := some now }
      else b
  | .open => { b with claimedBy := none, claimedAt := none }
  | .completed | .abandoned => { b with completedAt := some now }
  | _ => b

/-- A request that reads a bounty and writes it back. -/
inductive EditRequest
  | transition (me : User) (req : TransitionRequest) (now : Time)
  | amend (me : User) (req : AmendRequest)
  | setValueLevel (me : User) (valueLevel : ValueLevel)
  | setDifficulty (me : User) (difficulty : Difficulty)
deriving DecidableEq

/-- What the request makes of the bounty it has read. -/
def EditRequest.edit : EditRequest → Bounty → Except LegacyError Bounty
  | .transition me req now, b => do
      let b := applyTransitionFormFields b req
      authorizeTransition me b req.target
      validateTransition b req.target
      return { applyTransitionEffects b me req.target now with status := req.target }
  | .amend me req, b => do
      if req.difficulty ≠ none then canSetDifficulty me b
      return { b with
        retrospective := req.retrospective.getD b.retrospective
        personDays := req.personDays <|> b.personDays
        valueLevel := req.valueLevel <|> b.valueLevel
        difficulty := req.difficulty <|> b.difficulty
        completion := req.completion <|> b.completion }
  | .setValueLevel me valueLevel, b => do
      canSetValueLevel me b
      return { b with valueLevel := some valueLevel }
  | .setDifficulty me difficulty, b => do
      canSetDifficulty me b
      return { b with difficulty := some difficulty }

/-- A request that reads a credit and writes its status. -/
inductive CreditRequest
  | respond (me : User) (status : CreditStatus)
  | reset (me : User)
deriving DecidableEq

/-- The status that the request gives to the credit it has read: a nominee confirms or declines, and
a steward lets one decide again. -/
def CreditRequest.answer : CreditRequest → Credit → Except LegacyError CreditStatus
  | .respond me status, c => do
      canRespond me c
      return status
  | .reset _, c => do
      if c.status ≠ .declined then throw .creditNotDeclined
      return .pending

/-! ## Tables -/

/-- The rows, and the unique index of the credits. The users are those who were there before. -/
inductive Key
  | user (id : Id)
  | bounty (id : Id)
  | credit (id : Id)
  | creditKey (bountyId userId : Id) (role : CreditRole)
  | calibration (id : Id)
  | anchor (id : Id)
deriving DecidableEq, Repr

abbrev Columns : Key → Type
  | .user _ => Unit
  | .bounty _ => Bounty
  | .credit _ => Credit
  | .creditKey _ _ _ => Id
  | .calibration _ => Calibration
  | .anchor _ => AnchorExample

abbrev Db := Rows Columns

abbrev Statement := Rowwise Columns LegacyError

/-! ## Stores -/

/-- No text of a new row has a zero character, which the columns do not take. -/
def Bounty.Storable (b : Bounty) : Prop :=
  ∀ text ∈ b.type.unknown ++ b.visibility.unknown ++ b.commitment.unknown ++
    [b.title, b.goal, b.acceptanceCriteria, b.restriction] ++ b.businessLines.map (·.tag),
    '\x00' ∉ text.toList
deriving Decidable

namespace BountyStore

/-- A row that is referred to is there. -/
def requireRow (k : Key) : Statement Unit := do
  let found ← Rowwise.selectForShare k
  Rowwise.require (found.isSome = true) .internal

/-- The reference of a new bounty to its parent, which may be the bounty itself. -/
def requireParent (id : Id) : Option Id → Statement Unit
  | none => return ()
  | some parent => if parent = id then return () else requireRow (.bounty parent)

/-- The reference of a new bounty to the user it is directed to. -/
def requireDirectedTo : Option Id → Statement Unit
  | none => return ()
  | some userId => requireRow (.user userId)

/-- `Create` (`bounty_store.go:76-110`). -/
def create (id : Id) (b : Bounty) : Statement Bounty := do
  requireParent id b.parentId
  requireDirectedTo b.directedTo
  Rowwise.require b.Storable .internal
  let inserted ← Rowwise.insert (.bounty id) b
  Rowwise.require (inserted = true) .internal
  return b

/-- `GetByID`. -/
def getByID (id : Id) : Statement Bounty := do
  let found ← Rowwise.query fun d => d (.bounty id)
  Rowwise.demand found .notFound

/-- The columns that `Update` sets: all but the sponsor and the settlement. -/
def overwrite (old b : Bounty) : Bounty :=
  { b with
    sponsorId := old.sponsorId, settledScore := old.settledScore, settledAt := old.settledAt }

/-- `Update` (`bounty_store.go:135-168`): whatever the row has become since the
caller has read it. -/
def update (id : Id) (b : Bounty) : Statement Bounty := do
  let updated ← Rowwise.update (.bounty id) fun old => some (overwrite old b)
  Rowwise.demand updated .notFound

def SettlesIn (b : Bounty) (completedFrom completedTo : Time) : Prop :=
  b.status.Terminal ∧ ∃ at_ ∈ b.completedAt, completedFrom ≤ at_ ∧ at_ < completedTo
deriving Decidable

/-- `List` with the filter of a settlement. -/
def listTerminal (ids : List Id) (completedFrom completedTo : Time) :
    Statement (List (Id × Bounty)) :=
  Rowwise.query fun d => ids.filterMap fun id =>
    ((d (.bounty id)).filter fun b => SettlesIn b completedFrom completedTo).map fun b => (id, b)

/-- The columns that `Settle` sets, where there is no settlement yet. -/
def settled (score : ℚ) (settledAt : Time) (old : Bounty) : Option Bounty :=
  if old.settledAt = none then
    some { old with settledScore := some score, settledAt := some settledAt }
  else none

/-- `Settle` (`bounty_store.go:240-260`). -/
def settle (id : Id) (score : ℚ) (settledAt : Time) : Statement Bounty := do
  let updated ← Rowwise.update (.bounty id) (settled score settledAt)
  Rowwise.demand updated .alreadySettled

end BountyStore

namespace CreditStore

/-- The `INSERT` of `Nominate` (`credit_store.go:28-48`), and whether a row was inserted. -/
def insert (id : Id) (c : Credit) : Statement Bool := do
  let inserted ← Rowwise.insert (.creditKey c.bountyId c.userId c.role) id
  if inserted then
    let fresh ← Rowwise.insert (.credit id) c
    Rowwise.require (fresh = true) .internal
  return inserted

/-- The `SELECT` of `Nominate`. -/
def find (bountyId userId : Id) (role : CreditRole) : Statement (Id × Credit) := do
  let found ← Rowwise.query fun d => (d (.creditKey bountyId userId role)).bind fun id =>
    (d (.credit id)).map fun c => (id, c)
  Rowwise.demand found .internal

/-- `GetByID`. -/
def getByID (id : Id) : Statement Credit := do
  let found ← Rowwise.query fun d => d (.credit id)
  Rowwise.demand found .notFound

/-- `ListByBounty`, among the credits `ids`. -/
def listByBounty (ids : List Id) (bountyId : Id) : Statement (List (Id × Credit)) :=
  Rowwise.query fun d => ids.filterMap fun id =>
    ((d (.credit id)).filter fun c => c.bountyId = bountyId).map fun c => (id, c)

/-- `confirmedLeadHolders`, among the credits `ids`. -/
def confirmedLeadHolders (ids : List Id) (bountyId : Id) : Statement (List Id) :=
  Rowwise.query fun d => ids.filterMap fun id =>
    ((d (.credit id)).filter fun c =>
      c.bountyId = bountyId && c.role = .lead && c.status = .confirmed).map (·.userId)

/-- The columns that `Respond` sets. -/
def answered (c : Credit) (status : CreditStatus) (now : Time) : Credit :=
  { c with status, confirmedAt := if status = .confirmed then some now else none }

/-- `Respond` (`credit_store.go:107-127`): whatever the status has become since
the caller has read it. -/
def respond (id : Id) (status : CreditStatus) (now : Time) : Statement Credit := do
  let updated ← Rowwise.update (.credit id) fun c => some (answered c status now)
  Rowwise.demand updated .notFound

end CreditStore

/-- `CalibrationStore.Create`. -/
def CalibrationStore.create (id : Id) (c : Calibration) : Statement Calibration := do
  let inserted ← Rowwise.insert (.calibration id) c
  Rowwise.require (inserted = true) .internal
  return c

/-- `CalibrationStore.ListByBounty`, among the calibrations `ids`. -/
def CalibrationStore.listByBounty (ids : List Id) (bountyId : Id) :
    Statement (List (Id × Calibration)) :=
  Rowwise.query fun d => ids.filterMap fun id =>
    ((d (.calibration id)).filter fun c => c.bountyId = bountyId).map fun c => (id, c)

/-- `AnchorStore.Create`. -/
def AnchorStore.create (id : Id) (a : AnchorExample) : Statement AnchorExample := do
  let inserted ← Rowwise.insert (.anchor id) a
  Rowwise.require (inserted = true) .internal
  return a

/-! ## Commands -/

/-- The statements. A statement that writes a row back names the request it belongs to and the row
that the request has read; it makes no use of them. -/
inductive Cmd
  | createBounty (id : Id) (b : Bounty)
  | getBounty (id : Id)
  | updateBounty (request : EditRequest) (id : Id) (read b : Bounty)
  | listTerminal (ids : List Id) (completedFrom completedTo : Time)
  | settleBounty (id : Id) (read : Bounty) (score : ℚ) (settledAt : Time)
  | insertCredit (id : Id) (c : Credit)
  | findCredit (bountyId userId : Id) (role : CreditRole)
  | getCredit (id : Id)
  | listCredits (ids : List Id) (bountyId : Id)
  | leadHolders (ids : List Id) (bountyId : Id)
  | respondCredit (request : CreditRequest) (id : Id) (read : Credit) (status : CreditStatus)
      (now : Time)
  | createCalibration (id : Id) (c : Calibration)
  | listCalibrations (ids : List Id) (bountyId : Id)
  | createAnchor (id : Id) (a : AnchorExample)

inductive Reply
  | bounty (b : Bounty)
  | bounties (bs : List (Id × Bounty))
  | inserted (new : Bool)
  | credit (id : Id) (c : Credit)
  | credits (cs : List (Id × Credit))
  | users (ids : List Id)
  | calibration (c : Calibration)
  | calibrations (cs : List (Id × Calibration))
  | anchor (a : AnchorExample)

def statements : Cmd → Statement Reply
  | .createBounty id b => do return .bounty (← BountyStore.create id b)
  | .getBounty id => do return .bounty (← BountyStore.getByID id)
  | .updateBounty _ id _ b => do return .bounty (← BountyStore.update id b)
  | .listTerminal ids completedFrom completedTo => do
      return .bounties (← BountyStore.listTerminal ids completedFrom completedTo)
  | .settleBounty id _ score settledAt => do
      return .bounty (← BountyStore.settle id score settledAt)
  | .insertCredit id c => do return .inserted (← CreditStore.insert id c)
  | .findCredit bountyId userId role => do
      let (id, c) ← CreditStore.find bountyId userId role
      return .credit id c
  | .getCredit id => do return .credit id (← CreditStore.getByID id)
  | .listCredits ids bountyId => do return .credits (← CreditStore.listByBounty ids bountyId)
  | .leadHolders ids bountyId => do
      return .users (← CreditStore.confirmedLeadHolders ids bountyId)
  | .respondCredit _ id _ status now => do
      return .credit id (← CreditStore.respond id status now)
  | .createCalibration id c => do return .calibration (← CalibrationStore.create id c)
  | .listCalibrations ids bountyId => do
      return .calibrations (← CalibrationStore.listByBounty ids bountyId)
  | .createAnchor id a => do return .anchor (← AnchorStore.create id a)

def prog (c : Cmd) : Txn Db Key LegacyError Reply := (statements c).toTxn

end Pactline.Legacy
