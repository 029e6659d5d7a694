import Pactline.Concurrency.Service
import Pactline.Model.Legacy

/-!
# Requests on bounties and credits

The handlers of `internal/legacy/api`. A handler reads the rows it needs, decides, and writes in a
statement of its own, so that others may write in between. The body of a request is `none` where it
is no JSON of its type; the clock and the IDs that are drawn are arguments. The parsing of the IDs
in a path is left out, and so are the feed and the portfolios, which only read.
-/

set_option autoImplicit false

namespace Pactline.Legacy

open ReadCommitted

abbrev Handler := Service Cmd LegacyError Reply

/-- What a handler answers when it does not fail. -/
inductive Body
  | bounty (b : Bounty)
  | credit (id : Id) (c : Credit)
  | credits (cs : List (Id × Credit))
  | calibration (c : Calibration)
  | calibrations (cs : List (Id × Calibration))
  | anchor (a : AnchorExample)

structure Response where
  status : Nat
  body : Body

/-- The status of the answer. -/
def statusOf : Except LegacyError Response → Nat
  | .ok response => response.status
  | .error e => e.status

/-! ## Calls -/

def pickBounty : Reply → Option Bounty
  | .bounty b => some b
  | _ => none

def pickBounties : Reply → Option (List (Id × Bounty))
  | .bounties bs => some bs
  | _ => none

def pickInserted : Reply → Option Bool
  | .inserted new => some new
  | _ => none

def pickCredit : Reply → Option (Id × Credit)
  | .credit id c => some (id, c)
  | _ => none

def pickCredits : Reply → Option (List (Id × Credit))
  | .credits cs => some cs
  | _ => none

def pickUsers : Reply → Option (List Id)
  | .users ids => some ids
  | _ => none

def pickCalibration : Reply → Option Calibration
  | .calibration c => some c
  | _ => none

def pickCalibrations : Reply → Option (List (Id × Calibration))
  | .calibrations cs => some cs
  | _ => none

def pickAnchor : Reply → Option AnchorExample
  | .anchor a => some a
  | _ => none

def send {β : Type} (pick : Reply → Option β) (c : Cmd) : Handler β := Service.send .internal pick c

def getBounty (id : Id) : Handler Bounty := send pickBounty (.getBounty id)

def getCredit (id : Id) : Handler (Id × Credit) := send pickCredit (.getCredit id)

/-- The answer 400 to a request, and why. -/
def badRequest {β : Type} (text : String) : Handler β := Service.fail (.badRequest text)

/-- `DecodeBody`. -/
def decodeBody {β : Type} : Option β → Handler β
  | some body => return body
  | none => badRequest "invalid JSON body"

/-- A text that has to be a known value. -/
def knownText {β : Type} (message : String) : Text β → Handler β
  | .known b => return b
  | .other text => badRequest (message ++ text)

/-- A text that may be left out. -/
def optionalText {β : Type} (message : String) : Option (Text β) → Handler (Option β)
  | none => return none
  | some text => some <$> knownText message text

def refuseUnless (c : Prop) [Decidable c] (e : LegacyError) : Handler Unit :=
  if c then return () else Service.fail e

/-! ## Bounties -/

namespace BountyHandler

/-- The common part of the handlers that read a bounty and write it back. -/
def edit (request : EditRequest) (id : Id) : Handler Response := do
  let b ← getBounty id
  let edited ← Service.ofExcept (request.edit b)
  let updated ← send pickBounty (.updateBounty request id b edited)
  return ⟨200, .bounty updated⟩

structure CreateBody where
  type : Option (Text BountyType)
  parentId : Option Id
  title : String
  goal : String
  acceptanceCriteria : String
  visibility : Option (Text Visibility)
  restriction : String
  directedTo : Option Id
  businessLines : List BusinessLine
  commitment : Option (Text Commitment)
  valueLevel : Option (Text ValueLevel)

/-- The bounty that a request creates. -/
def CreateBody.bounty (body : CreateBody) (valueLevel : Option ValueLevel) (me : User) : Bounty :=
  { type := body.type.getD (.known .delivery), parentId := body.parentId, title := body.title
    goal := body.goal, acceptanceCriteria := body.acceptanceCriteria
    visibility := body.visibility.getD (.known .public_), restriction := body.restriction
    directedTo := body.directedTo, businessLines := body.businessLines, valueLevel
    difficulty := none, commitment := body.commitment.getD (.known .committed), completion := none
    status := .draft, sponsorId := me.id, claimedBy := none, claimedAt := none, personDays := none
    retrospective := "", settledScore := none, settledAt := none, completedAt := none }

/-- One nomination for each of the authors of the parent. -/
def nominateEach (child : Id) : List Id → (Nat → Id) → Handler Unit
  | [], _ => return ()
  | author :: authors, fresh => do
      let _ ← send pickInserted (.insertCredit (fresh 0)
        ⟨child, author, .define, none, "", .pending, none⟩)
      let _ ← send pickCredit (.findCredit child author .define)
      nominateEach child authors fun n => fresh (n + 1)

/-- The confirmed leads of the parent, or its claimer where there are none. -/
def authors (parent : Id) (leads : List Id) : Handler (List Id) :=
  if leads ≠ [] then return leads
  else do
    let b ← getBounty parent
    return b.claimedBy.toList

/-- `InheritDefineCredits` (`credit_store.go:135-178`). -/
def inheritDefineCredits (child : Id) (parentId : Option Id) (creditIds : List Id)
    (fresh : Nat → Id) :
    Handler Unit :=
  match parentId with
  | none => return ()
  | some parent => do
      let leads ← send pickUsers (.leadHolders creditIds parent)
      let authors ← authors parent leads
      nominateEach child authors fresh

/-- `create` (`bounty_handler.go:40-111`): what becomes of the inherited credits
does not change the answer. -/
def create (me : User) (body : Option CreateBody) (id : Id) (creditIds : List Id)
    (fresh : Nat → Id) :
    Handler Response := do
  let body ← decodeBody body
  refuseUnless (me.HasRole .sponsor ∨ me.HasRole .steward) .forbidden
  if body.title = "" then badRequest "title is required"
  else
    let valueLevel ← optionalText "value_level is not a known value: " body.valueLevel
    let created ← send pickBounty (.createBounty id (body.bounty valueLevel me))
    let _ ← (inheritDefineCredits id created.parentId creditIds fresh).result
    return ⟨201, .bounty created⟩

/-- `get` (`bounty_handler.go:113-137`). -/
def get (me : User) (id : Id) : Handler Response := do
  let b ← getBounty id
  if b.status = .draft ∧ ¬ CanEdit me b then Service.fail .notFound
  else return ⟨200, .bounty b⟩

structure TransitionBody where
  /-- `To`. -/
  target : Text Status
  retrospective : String
  personDays : Option ℚ
  completion : Option (Text Completion)

/-- `transition` (`bounty_handler.go:217-274`). -/
def transition (me : User) (id : Id) (body : Option TransitionBody) (now : Time) :
    Handler Response := do
  let body ← decodeBody body
  let target ← knownText "to is not a known status: " body.target
  let completion ← optionalText "completion is not a known value: " body.completion
  edit (.transition me ⟨target, body.retrospective, body.personDays, completion⟩ now) id

structure AmendBody where
  retrospective : Option String
  personDays : Option ℚ
  valueLevel : Option (Text ValueLevel)
  difficulty : Option (Text Difficulty)
  completion : Option (Text Completion)

/-- `amend` (`bounty_handler.go:402-499`): the caller is looked at before the body. -/
def amend (me : User) (id : Id) (body : Option AmendBody) : Handler Response := do
  refuseUnless (me.HasRole .steward) .forbidden
  let body ← decodeBody body
  let valueLevel ← optionalText "value_level is not a known value: " body.valueLevel
  let difficulty ← optionalText "difficulty is not a known value: " body.difficulty
  let completion ← optionalText "completion is not a known value: " body.completion
  edit (.amend me ⟨body.retrospective, body.personDays, valueLevel, difficulty, completion⟩) id

/-- `setValueLevel` (`scoring_handler.go:26-64`). -/
def setValueLevel (me : User) (id : Id) (body : Option (Text ValueLevel)) : Handler Response := do
  let body ← decodeBody body
  let valueLevel ← knownText "value_level is not a known value: " body
  edit (.setValueLevel me valueLevel) id

/-- `setDifficulty` (`scoring_handler.go:73-115`). -/
def setDifficulty (me : User) (id : Id) (body : Option (Text Difficulty)) : Handler Response := do
  let body ← decodeBody body
  let difficulty ← knownText "difficulty is not a known value: " body
  edit (.setDifficulty me difficulty) id

end BountyHandler

/-! ## Credits -/

namespace CreditHandler

structure NominateBody where
  userId : Id
  role : Text CreditRole
  evidence : String

/-- `nominate` (`credit_handler.go:26-74`). -/
def nominate (me : User) (bountyId : Id) (body : Option NominateBody) (id : Id) :
    Handler Response := do
  let body ← decodeBody body
  if body.userId = 0 then badRequest "user_id is required"
  else
    let b ← getBounty bountyId
    refuseUnless (CanNominate me b) .forbidden
    let role ← Service.ofExcept (validateNomination body.role body.evidence)
    let _ ← send pickInserted (.insertCredit id
      ⟨bountyId, body.userId, role, some me.id, body.evidence, .pending, none⟩)
    let (id, c) ← send pickCredit (.findCredit bountyId body.userId role)
    return ⟨201, .credit id c⟩

/-- `listByBounty` (`credit_handler.go:76-88`). -/
def listByBounty (ids : List Id) (bountyId : Id) : Handler Response := do
  let cs ← send pickCredits (.listCredits ids bountyId)
  return ⟨200, .credits cs⟩

/-- The common part of the handlers that read a credit and write its status. -/
def answer (request : CreditRequest) (id : Id) (now : Time) : Handler Response := do
  let (_, c) ← getCredit id
  let status ← Service.ofExcept (request.answer c)
  let (id, updated) ← send pickCredit (.respondCredit request id c status now)
  return ⟨200, .credit id updated⟩

/-- `respond` (`credit_handler.go:94-128`). -/
def respond (me : User) (id : Id) (body : Option (Text CreditStatus)) (now : Time) :
    Handler Response := do
  let body ← decodeBody body
  match body with
  | .known .confirmed => answer (.respond me .confirmed) id now
  | .known .declined => answer (.respond me .declined) id now
  | _ => badRequest "status must be CONFIRMED or DECLINED"

/-- `reset` (`credit_handler.go:141-175`). -/
def reset (me : User) (id : Id) (now : Time) : Handler Response := do
  refuseUnless (me.HasRole .steward) .forbidden
  answer (.reset me) id now

end CreditHandler

/-! ## Settlements, calibrations and anchors -/

namespace SettlementHandler

structure SettlementResponse where
  settled : List (Id × String × ℚ)
  alreadySettledCount : Nat
  unscorable : List (Id × String × LegacyError)
  failed : List (Id × String × LegacyError)
deriving DecidableEq

/-- The loop of `settle`. -/
def settleEach (settledAt : Time) :
    List (Id × Bounty) → SettlementResponse → Handler SettlementResponse
  | [], response => return response
  | (id, b) :: rest, response =>
    if b.settledAt ≠ none then
      settleEach settledAt rest
        { response with alreadySettledCount := response.alreadySettledCount + 1 }
    else match score b with
      | .error e => settleEach settledAt rest
          { response with unscorable := response.unscorable ++ [(id, b.title, e)] }
      | .ok points => do
          let updated ← Service.attempt .internal pickBounty (.settleBounty id b points settledAt)
          match updated with
          | .ok b' =>
            settleEach settledAt rest
              { response with settled := response.settled ++ [(id, b'.title, points)] }
          | .error .alreadySettled =>
            settleEach settledAt rest
              { response with alreadySettledCount := response.alreadySettledCount + 1 }
          | .error e =>
            settleEach settledAt rest
              { response with failed := response.failed ++ [(id, b.title, e)] }

/-- `settle` (`scoring_handler.go:188-272`); the body holds the two ends of the
period, which are 0 where they are missing, and `ids` are the bounties there are. -/
def settle (me : User) (body : Option (Time × Time)) (ids : List Id) (settledAt : Time) :
    Handler SettlementResponse := do
  refuseUnless (me.HasRole .steward) .forbidden
  let (start, stop) ← decodeBody body
  if start = 0 ∨ stop = 0 then badRequest "from and to are both required"
  else if stop < start then badRequest "to must not be before from"
  else
    let list ← send pickBounties (.listTerminal ids start stop)
    settleEach settledAt list ⟨[], 0, [], []⟩

end SettlementHandler

namespace CalibrationHandler

structure CalibrationBody where
  quarter : String
  calibratedValue : Text ValueLevel
  note : String

/-- `create` (`calibration_handler.go:38-125`). -/
def create (me : User) (bountyId : Id) (body : Option CalibrationBody) (id : Id) :
    Handler Response := do
  refuseUnless (me.HasRole .steward) .forbidden
  let body ← decodeBody body
  let level ← knownText "calibrated_value is not a known value: " body.calibratedValue
  let b ← getBounty bountyId
  refuseUnless (b.settledAt ≠ none) .notSettled
  let calibratedScore ← Service.ofExcept (scoreWithValueLevel b level)
  let originalValue ← Service.ofExcept (validateCalibration b.valueLevel body.quarter)
  let c ← send pickCalibration (.createCalibration id
    ⟨bountyId, body.quarter, originalValue, b.settledScore.getD 0, level, calibratedScore,
      body.note, me.id⟩)
  return ⟨201, .calibration c⟩

/-- `list` (`calibration_handler.go:130-142`). -/
def list (ids : List Id) (bountyId : Id) : Handler Response := do
  let cs ← send pickCalibrations (.listCalibrations ids bountyId)
  return ⟨200, .calibrations cs⟩

end CalibrationHandler

namespace AnchorHandler

structure AnchorBody where
  dimension : Text AnchorDimension
  level : String
  bountyId : Id
  note : String

/-- `create` (`anchor_handler.go:33-63`). -/
def create (me : User) (body : Option AnchorBody) (id : Id) : Handler Response := do
  refuseUnless (me.HasRole .steward) .forbidden
  let body ← decodeBody body
  let _ ← getBounty body.bountyId
  let dimension ← Service.ofExcept (validateAnchorExample body.dimension body.level)
  let a ← send pickAnchor (.createAnchor id ⟨dimension, body.level, body.bountyId, body.note⟩)
  return ⟨201, .anchor a⟩

end AnchorHandler

end Pactline.Legacy
