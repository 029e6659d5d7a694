import Pactline.Analysis.Legacy

/-!
# What a stranger learns of a draft

`GET` answers 404 for a draft to everybody but its sponsor and the stewards, as if the bounty did
not exist. The other endpoints that take the ID of a bounty load it first and then say why the
caller may not do what they ask for. The two answers have the same status exactly if the endpoint
does not get as far as the bounty with this request.
-/

set_option autoImplicit false

namespace Pactline.Legacy

open ReadCommitted BountyStore

variable {e : LegacyError} {target : Status} {request : EditRequest} {d' : Db} {new parent : Id}
  {child : Bounty} {body : Option BountyHandler.CreateBody} {creditIds : List Id} {fresh : Nat → Id}

/-! ## Endpoints -/

/-- The endpoints that take the ID of a bounty, with the rest of the request and the IDs that are
drawn while it is served. -/
inductive Endpoint
  | get
  | transition (body : Option BountyHandler.TransitionBody) (now : Time)
  | amend (body : Option BountyHandler.AmendBody)
  | setValueLevel (body : Option (Text ValueLevel))
  | setDifficulty (body : Option (Text Difficulty))
  | nominate (body : Option CreditHandler.NominateBody) (new : Id)
  | listCredits (ids : List Id)
  | createCalibration (body : Option CalibrationHandler.CalibrationBody) (new : Id)
  | listCalibrations (ids : List Id)
  | createAnchor (body : Option AnchorHandler.AnchorBody) (new : Id)
  | create (body : Option BountyHandler.CreateBody) (new : Id) (creditIds : List Id)
      (fresh : Nat → Id)

/-- The body with this parent. -/
def BountyHandler.CreateBody.under (body : BountyHandler.CreateBody) (parent : Id) :
    BountyHandler.CreateBody :=
  { body with parentId := some parent }

/-- The request of `me` with this ID: in the path, or in the body of an anchor (`bounty_id`) and of
a new bounty (`parent_id`). -/
def Endpoint.serve (me : User) : Endpoint → Id → Handler Response
  | .get, id => BountyHandler.get me id
  | .transition body now, id => BountyHandler.transition me id body now
  | .amend body, id => BountyHandler.amend me id body
  | .setValueLevel body, id => BountyHandler.setValueLevel me id body
  | .setDifficulty body, id => BountyHandler.setDifficulty me id body
  | .nominate body new, id => CreditHandler.nominate me id body new
  | .listCredits ids, id => CreditHandler.listByBounty ids id
  | .createCalibration body new, id => CalibrationHandler.create me id body new
  | .listCalibrations ids, id => CalibrationHandler.list ids id
  | .createAnchor body new, id =>
    AnchorHandler.create me (body.map fun b => { b with bountyId := id }) new
  | .create body new creditIds fresh, id =>
    BountyHandler.create me (body.map fun b => b.under id) new creditIds fresh

def Text.isKnown {α : Type} : Text α → Bool
  | .known _ => true
  | .other _ => false

/-- The references of a new bounty but the one to its parent, and its texts, are in order. -/
def Bounty.Accepted (d : Db) (b : Bounty) : Prop :=
  (∀ userId ∈ b.directedTo, d (.user userId) ≠ none) ∧ b.Storable

/-- The handler gets as far as the bounty, and does not treat a draft as missing. -/
def Endpoint.Discloses (d : Db) (me : User) : Endpoint → Prop
  | .transition body _ => ∃ b ∈ body, b.target.isKnown ∧ ∀ c ∈ b.completion, c.isKnown
  | .setValueLevel body => ∃ level ∈ body, level.isKnown
  | .setDifficulty body => ∃ difficulty ∈ body, difficulty.isKnown
  | .nominate body _ => ∃ b ∈ body, b.userId ≠ 0
  | .create body _ _ _ => ∃ b ∈ body, me.HasRole .sponsor ∧ b.title ≠ "" ∧
      (∀ level ∈ b.valueLevel, level.isKnown) ∧ (b.bounty none me).Accepted d
  | .get | .amend _ | .listCredits _ | .createCalibration _ _ | .listCalibrations _
  | .createAnchor _ _ => False

/-- The ID that is drawn for a new bounty is a new one. -/
def Endpoint.DrawsNew (d : Db) (missing : Id) : Endpoint → Prop
  | .create _ new _ _ => d (.bounty new) = none ∧ new ≠ missing
  | _ => True

/-- The status of the answer on the database `d`. -/
def statusIn (d : Db) (s : Handler Response) : Nat := statusOf (s.exec prog d).1

/-! ## Statuses -/

section Statuses

variable {β : Type} {d : Db} {s : Handler β} {f : β → Handler Response}

theorem statusIn_bind_ok {b} (h : s.exec prog d = (.ok b, d')) :
    statusIn d (s >>= f) = statusIn d' (f b) := by
  unfold statusIn
  rw [Service.exec_bind_ok h]

theorem statusIn_bind_error (h : s.exec prog d = (.error e, d')) :
    statusIn d (s >>= f) = e.status := by
  unfold statusIn
  rw [Service.exec_bind_error h]
  rfl

theorem status_eq_404 : e.status = 404 ↔ e = .notFound := by
  cases e <;> simp [LegacyError.status]

/-- An answer is not 404 where neither the first step nor what comes after it leads to 404. -/
theorem statusIn_bind_ne (herror : ∀ e d', s.exec prog d = (.error e, d') → e ≠ .notFound)
    (hok : ∀ b d', s.exec prog d = (.ok b, d') → statusIn d' (f b) ≠ 404) :
    statusIn d (s >>= f) ≠ 404 := by
  rcases hs : s.exec prog d with ⟨e | b, d'⟩
  · rw [statusIn_bind_error hs]
    exact fun h404 => herror e d' hs (status_eq_404.mp h404)
  · rw [statusIn_bind_ok hs]
    exact hok b d' hs

end Statuses

variable {d : Db} {me : User} {id : Id} {b : Bounty}

theorem getBounty_exec_some (h : d (.bounty id) = some b) :
    (getBounty id).exec prog d = (.ok b, d) := by
  refine Service.exec_send_ok (a := .bounty b) ?_ rfl
  change (((Rowwise.demand (d (.bounty id)) .notFound : Statement Bounty) >>=
    fun b => pure (Reply.bounty b)).toTxn).exec d = _
  rw [h]
  rfl

theorem getBounty_exec_none (h : d (.bounty id) = none) :
    (getBounty id).exec prog d = (.error .notFound, d) := by
  refine Service.exec_send_error ?_
  change (((Rowwise.demand (d (.bounty id)) .notFound : Statement Bounty) >>=
    fun b => pure (Reply.bounty b)).toTxn).exec d = _
  rw [h]
  rfl

/-- A request on a bounty that is not there is answered 404, once it gets as far as the bounty. -/
theorem statusIn_getBounty_none (h : d (.bounty id) = none) {f} :
    statusIn d (getBounty id >>= f) = 404 :=
  statusIn_bind_error (getBounty_exec_none h)

theorem authorizeTransition_error : authorizeTransition me b target ≠ .error .notFound := by
  intro h
  unfold authorizeTransition canClaim at h
  split_ifs at h <;> cases h

theorem validateTransition_error : validateTransition b target ≠ .error .notFound := by
  intro h
  simp only [validateTransition, ok_rules, guard_eq_error] at h
  rcases h with ⟨-, h⟩ | ⟨-, ⟨-, h⟩ | ⟨-, h⟩⟩ <;> cases h

theorem canSetDifficulty_error : canSetDifficulty me b ≠ .error .notFound := by
  intro h
  simp only [canSetDifficulty, ok_rules, guard_eq_error] at h
  rcases h with ⟨-, h⟩ | ⟨-, ⟨-, h⟩ | ⟨-, h⟩⟩ <;> cases h

theorem canSetValueLevel_error : canSetValueLevel me b ≠ .error .notFound := by
  intro h
  simp only [canSetValueLevel, ok_rules, guard_eq_error] at h
  rcases h with ⟨-, h⟩ | ⟨-, ⟨-, h⟩ | ⟨-, h⟩⟩ <;> cases h

/-- What speaks against a change of a bounty is never that the bounty is not there. -/
theorem edit_error : request.edit b ≠ .error .notFound := by
  intro h
  cases request with
  | transition =>
    simp only [EditRequest.edit, bind_eq_error, pure_eq_error, and_false, exists_false,
      or_false] at h
    rcases h with h | ⟨_, -, h⟩
    · exact authorizeTransition_error h
    · exact validateTransition_error h
  | amend =>
    simp only [EditRequest.edit] at h
    split at h
    · simp only [bind_eq_error, pure_eq_error, and_false, exists_false, or_false] at h
      exact canSetDifficulty_error h
    · cases h
  | setValueLevel =>
    simp only [EditRequest.edit, bind_eq_error, pure_eq_error, and_false, exists_false,
      or_false] at h
    exact canSetValueLevel_error h
  | setDifficulty =>
    simp only [EditRequest.edit, bind_eq_error, pure_eq_error, and_false, exists_false,
      or_false] at h
    exact canSetDifficulty_error h

/-! ## Requests that get as far as the bounty -/

theorem updateBounty_exec (h : d (.bounty id) = some b) {read new} :
    ∃ b' d', (send pickBounty (.updateBounty request id read new)).exec prog d = (.ok b', d') := by
  have hstatement : ∃ b' d', (prog (.updateBounty request id read new)).exec d =
      .ok (.bounty b', d') := by
    simp [prog, statements, update, Rowwise.update, Rowwise.demand, bind, Rowwise.bind,
      Rowwise.toTxn, Txn.exec, h, pure]
  obtain ⟨b', d', hexec⟩ := hstatement
  exact ⟨b', d', Service.exec_send_ok hexec rfl⟩

/-- A change of a bounty that is there is not answered 404. -/
theorem statusIn_edit_ne (h : d (.bounty id) = some b) :
    statusIn d (BountyHandler.edit request id) ≠ 404 := by
  unfold BountyHandler.edit
  rw [statusIn_bind_ok (getBounty_exec_some h)]
  refine statusIn_bind_ne ?_ ?_
  · intro e d' he hnot
    rw [Service.exec_ofExcept, Prod.mk.injEq] at he
    rw [hnot] at he
    exact edit_error he.1
  · intro edited d' hok
    rw [Service.exec_ofExcept, Prod.mk.injEq] at hok
    obtain ⟨-, rfl⟩ := hok
    obtain ⟨b', d', hupdate⟩ := updateBounty_exec h
    rw [statusIn_bind_ok hupdate]
    show (200 : Nat) ≠ 404
    decide

theorem statusIn_edit_none (h : d (.bounty id) = none) :
    statusIn d (BountyHandler.edit request id) = 404 :=
  statusIn_getBounty_none h

/-- A statement that never reports a missing row does not lead to 404. -/
theorem send_error {β : Type} {pick : Reply → Option β} {c : Cmd}
    (hc : (statements c).Errors (· ≠ .notFound)) (h : (send pick c).exec prog d = (.error e, d')) :
    e ≠ .notFound := by
  rcases Service.exec_send_error_cases h with rfl | hexec
  · decide
  · exact hc.exec hexec

theorem insertCredit_errors {c} :
    (statements (.insertCredit new c)).Errors (· ≠ .notFound) := by
  refine Rowwise.Errors.bind (Rowwise.Errors.bind (fun _ => trivial) ?_) fun _ => trivial
  intro inserted
  cases inserted with
  | false => trivial
  | true =>
    refine Rowwise.Errors.bind (fun _ => trivial) fun fresh => ?_
    exact Rowwise.Errors.bind (Rowwise.errors_require (by decide)) fun _ => trivial

theorem findCredit_errors {bountyId userId role} :
    (statements (.findCredit bountyId userId role)).Errors (· ≠ .notFound) := by
  refine Rowwise.Errors.bind (Rowwise.Errors.bind (fun _ => trivial) ?_) fun _ => trivial
  exact fun _ => Rowwise.errors_demand (by decide)

theorem validateNomination_error {role evidence} :
    validateNomination role evidence ≠ .error .notFound := by
  intro h
  cases role with
  | other => cases h
  | known =>
    simp only [validateNomination, ok_rules, guard_eq_error] at h
    rcases h with ⟨-, h⟩ | ⟨-, h⟩ <;> cases h

theorem refuseUnless_error {c : Prop} [Decidable c] {e'}
    (h : (refuseUnless c e).exec prog d = (.error e', d')) : e' = e := by
  unfold refuseUnless at h
  split at h
  · cases h
  · cases h
    rfl

/-- A nomination for a bounty that is there is not answered 404. -/
theorem statusIn_nominate_ne (h : d (.bounty id) = some b) {body : CreditHandler.NominateBody}
    (hbody : body.userId ≠ 0) :
    statusIn d (CreditHandler.nominate me id (some body) new) ≠ 404 := by
  unfold CreditHandler.nominate
  rw [statusIn_bind_ok rfl, if_neg hbody, statusIn_bind_ok (getBounty_exec_some h)]
  refine statusIn_bind_ne ?_ ?_
  · intro e d' he
    rw [refuseUnless_error he]
    decide
  intro _ d₁ _
  refine statusIn_bind_ne ?_ ?_
  · intro e d' he hnot
    rw [Service.exec_ofExcept, Prod.mk.injEq] at he
    rw [hnot] at he
    exact validateNomination_error he.1
  intro role d₂ _
  refine statusIn_bind_ne (fun e d' => send_error insertCredit_errors) ?_
  intro _ d₃ _
  refine statusIn_bind_ne (fun e d' => send_error findCredit_errors) ?_
  rintro ⟨found, c⟩ d₄ _
  show (201 : Nat) ≠ 404
  decide

/-- The answer is that of a change, or the request is not understood, whatever bounty it names. -/
def ChangesOr400 (d : Db) (discloses : Prop) (handler : Id → Handler Response) : Prop :=
  (discloses ∧ ∃ request, ∀ id,
      statusIn d (handler id) = statusIn d (BountyHandler.edit request id)) ∨
    (¬ discloses ∧ ∀ id, statusIn d (handler id) = 400)

theorem changesOr400_transition {body now} :
    ChangesOr400 d (Endpoint.Discloses d me (.transition body now))
      fun id => BountyHandler.transition me id body now := by
  rcases body with - | ⟨target, retrospective, personDays, completion⟩
  · refine .inr ⟨?_, fun _ => rfl⟩
    simp [Endpoint.Discloses]
  rcases target with target | text
  · rcases completion with - | completion | text
    · refine .inl ⟨?_, _, fun _ => rfl⟩
      simp [Endpoint.Discloses, Text.isKnown]
    · refine .inl ⟨?_, _, fun _ => rfl⟩
      simp [Endpoint.Discloses, Text.isKnown]
    · refine .inr ⟨?_, fun _ => rfl⟩
      simp [Endpoint.Discloses, Text.isKnown]
  · refine .inr ⟨?_, fun _ => rfl⟩
    simp [Endpoint.Discloses, Text.isKnown]

theorem changesOr400_setValueLevel {body} :
    ChangesOr400 d (Endpoint.Discloses d me (.setValueLevel body))
      fun id => BountyHandler.setValueLevel me id body := by
  rcases body with - | level | text
  · refine .inr ⟨?_, fun _ => rfl⟩
    simp [Endpoint.Discloses]
  · refine .inl ⟨?_, _, fun _ => rfl⟩
    simp [Endpoint.Discloses, Text.isKnown]
  · refine .inr ⟨?_, fun _ => rfl⟩
    simp [Endpoint.Discloses, Text.isKnown]

theorem changesOr400_setDifficulty {body} :
    ChangesOr400 d (Endpoint.Discloses d me (.setDifficulty body))
      fun id => BountyHandler.setDifficulty me id body := by
  rcases body with - | difficulty | text
  · refine .inr ⟨?_, fun _ => rfl⟩
    simp [Endpoint.Discloses]
  · refine .inl ⟨?_, _, fun _ => rfl⟩
    simp [Endpoint.Discloses, Text.isKnown]
  · refine .inr ⟨?_, fun _ => rfl⟩
    simp [Endpoint.Discloses, Text.isKnown]

section Compared

variable {missing : Id}

theorem ChangesOr400.same_iff {discloses : Prop} {handler}
    (h : ChangesOr400 d discloses handler) (hfound : d (.bounty id) = some b)
    (hmissing : d (.bounty missing) = none) :
    statusIn d (handler id) = statusIn d (handler missing) ↔ ¬ discloses := by
  rcases h with ⟨hdiscloses, request, hstatus⟩ | ⟨hnot, hstatus⟩
  · rw [hstatus, hstatus, statusIn_edit_none hmissing]
    exact iff_of_false (statusIn_edit_ne hfound) (not_not.mpr hdiscloses)
  · rw [hstatus, hstatus]
    exact iff_of_true rfl hnot

theorem nominate_same_iff (hfound : d (.bounty id) = some b) (hmissing : d (.bounty missing) = none)
    {body} :
    statusIn d (CreditHandler.nominate me id body new) =
        statusIn d (CreditHandler.nominate me missing body new) ↔
      ¬ Endpoint.Discloses d me (.nominate body new) := by
  rcases body with - | body
  · simp only [Endpoint.Discloses, Option.not_mem_none, false_and, exists_false, not_false_eq_true,
      iff_true]
    rfl
  by_cases hbody : body.userId = 0
  · have h400 : ∀ id, statusIn d (CreditHandler.nominate me id (some body) new) = 400 := by
      intro id
      unfold CreditHandler.nominate
      rw [statusIn_bind_ok rfl, if_pos hbody]
      rfl
    simp [h400, Endpoint.Discloses, hbody]
  · have h404 : statusIn d (CreditHandler.nominate me missing (some body) new) = 404 := by
      unfold CreditHandler.nominate
      rw [statusIn_bind_ok rfl, if_neg hbody]
      exact statusIn_getBounty_none hmissing
    rw [h404]
    refine iff_of_false (statusIn_nominate_ne hfound hbody) (not_not.mpr ?_)
    exact ⟨body, rfl, hbody⟩

/-- A steward's endpoint answers everybody else before it looks at the bounty. -/
theorem steward_status (hme : ¬ me.HasRole .steward) {f} :
    statusIn d (refuseUnless (me.HasRole .steward) .forbidden >>= f) = 403 := by
  have hrefused : (refuseUnless (me.HasRole .steward) .forbidden).exec prog d =
      (.error .forbidden, d) := by
    unfold refuseUnless
    rw [if_neg hme]
    rfl
  exact statusIn_bind_error hrefused

theorem createBounty_exec_found (hparent : child.parentId = some parent)
    (hfound : d (.bounty parent) = some b) (hnew : d (.bounty new) = none)
    (haccepted : child.Accepted d) :
    ∃ d', (send pickBounty (.createBounty new child)).exec prog d = (.ok child, d') := by
  have hne : parent ≠ new := by
    rintro rfl
    rw [hfound] at hnew
    cases hnew
  have hstatement : ∃ d', (prog (.createBounty new child)).exec d = .ok (.bounty child, d') := by
    obtain ⟨hdirected, hstorable⟩ := haccepted
    cases hto : child.directedTo with
    | none =>
      simp [prog, statements, create, requireParent, requireRow,
        requireDirectedTo, hparent, hne, hto, Rowwise.selectForShare, Rowwise.require,
        Rowwise.insert, bind, Rowwise.bind, Rowwise.toTxn, Txn.exec, hfound, hnew, hstorable, pure]
    | some userId =>
      have huser := Option.isSome_iff_ne_none.mpr (hdirected userId hto)
      simp [prog, statements, create, requireParent, requireRow, requireDirectedTo, hparent, hne,
        hto, huser, Rowwise.selectForShare, Rowwise.require, Rowwise.insert, bind, Rowwise.bind,
        Rowwise.toTxn, Txn.exec, hfound, hnew, hstorable, pure]
  obtain ⟨d', hexec⟩ := hstatement
  exact ⟨d', Service.exec_send_ok hexec rfl⟩

theorem createBounty_exec_missing (hparent : child.parentId = some parent)
    (hmissing : d (.bounty parent) = none) (hne : new ≠ parent) :
    (send pickBounty (.createBounty new child)).exec prog d = (.error .internal, d) := by
  refine Service.exec_send_error ?_
  simp [prog, statements, create, requireParent, requireRow, hparent, hne.symm,
    Rowwise.selectForShare, Rowwise.require, bind, Rowwise.bind, Rowwise.toTxn, Txn.exec, hmissing]

/-- A bounty that is created has been accepted. -/
theorem accepted_of_runs {reply held}
    (h : (statements (.createBounty new child)).Runs [] d reply held d') : child.Accepted d := by
  simp only [statements, create, Rowwise.runs_assoc] at h
  obtain ⟨_, _, _, hparent, hrest⟩ := Rowwise.runs_bind.mp h
  obtain rfl := runs_requireParent hparent
  rw [Rowwise.runs_assoc] at hrest
  obtain ⟨_, _, _, hdirected, hrow⟩ := Rowwise.runs_bind.mp hrest
  obtain ⟨rfl, husers⟩ := runs_requireDirectedTo hdirected
  simp only [Rowwise.steps] at hrow
  exact ⟨fun userId hmem => Option.isSome_iff_ne_none.mp (husers userId hmem), hrow.1⟩

theorem createBounty_errors : (statements (.createBounty new child)).Errors (· = .internal) := by
  have hrow : ∀ k, (requireRow k).Errors (· = .internal) := fun k =>
    .bind (fun _ => trivial) fun _ => Rowwise.errors_require rfl
  refine .bind (.bind ?_ fun _ => .bind ?_ fun _ => .bind (Rowwise.errors_require rfl) fun _ =>
    .bind (fun _ => trivial) fun _ => .bind (Rowwise.errors_require rfl) fun _ => trivial)
    fun _ => trivial
  · unfold requireParent
    split
    · trivial
    · split
      · trivial
      · exact hrow _
  · unfold requireDirectedTo
    split
    · trivial
    · exact hrow _

/-- Where the other references or the texts are not in order, the parent makes no difference. -/
theorem createBounty_exec_refused (hrefused : ¬ child.Accepted d) :
    (send pickBounty (.createBounty new child)).exec prog d = (.error .internal, d) := by
  rcases hexec : (prog (.createBounty new child)).exec d with e | ⟨reply, d'⟩
  · obtain rfl := createBounty_errors.exec hexec
    exact Service.exec_send_error hexec
  · obtain ⟨_, hcommits⟩ := Txn.commits_of_exec (R := Rows.locked) hexec
    exact absurd (accepted_of_runs (Rowwise.runs_of_commits hcommits)) hrefused

/-- A request for a new bounty is answered without regard to the parent, or comes to the statement
that inserts the bounty. -/
theorem create_cases (hme : ¬ me.HasRole .steward) :
    (¬ (Endpoint.create body new creditIds fresh).Discloses d me ∧ ∃ status, ∀ parent,
      statusIn d ((Endpoint.create body new creditIds fresh).serve me parent) = status) ∨
    ∃ child : Id → Bounty, ∀ parent, (child parent).parentId = some parent ∧
      ((Endpoint.create body new creditIds fresh).Discloses d me ↔ (child parent).Accepted d) ∧
      statusIn d ((Endpoint.create body new creditIds fresh).serve me parent) =
        statusIn d (do
          let created ← send pickBounty (.createBounty new (child parent))
          let _ ← (BountyHandler.inheritDefineCredits new created.parentId creditIds fresh).result
          return ⟨201, .bounty created⟩) := by
  rcases body with - | body
  · refine .inl ⟨?_, 400, fun _ => rfl⟩
    simp [Endpoint.Discloses]
  by_cases hrole : me.HasRole .sponsor
  case neg =>
    have hrefused : (refuseUnless (me.HasRole .sponsor ∨ me.HasRole .steward) .forbidden).exec
        prog d = (.error .forbidden, d) := by
      unfold refuseUnless
      rw [if_neg (not_or.mpr ⟨hrole, hme⟩)]
      rfl
    refine .inl ⟨?_, 403, fun parent => ?_⟩
    · simp [Endpoint.Discloses, hrole]
    · exact (statusIn_bind_ok rfl).trans (statusIn_bind_error hrefused)
  have haccepted : (refuseUnless (me.HasRole .sponsor ∨ me.HasRole .steward) .forbidden).exec
      prog d = (.ok (), d) := by
    unfold refuseUnless
    rw [if_pos (.inl hrole)]
    rfl
  by_cases htitle : body.title = ""
  case pos =>
    refine .inl ⟨?_, 400, fun parent => ?_⟩
    · simp [Endpoint.Discloses, htitle]
    · have htitle' : (body.under parent).title = "" := htitle
      refine (statusIn_bind_ok rfl).trans ((statusIn_bind_ok haccepted).trans ?_)
      rw [if_pos htitle']
      rfl
  have htitle' : ∀ parent, (body.under parent).title ≠ "" := fun _ => htitle
  rcases hlevel : body.valueLevel with - | level | text
  · refine .inr ⟨fun parent => (body.under parent).bounty none me, fun parent => ⟨rfl, ?_, ?_⟩⟩
    · simp [Endpoint.Discloses, hrole, htitle, hlevel]
      rfl
    have hlevel' : (body.under parent).valueLevel = none := hlevel
    refine (statusIn_bind_ok rfl).trans ((statusIn_bind_ok haccepted).trans ?_)
    rw [if_neg (htitle' parent), hlevel']
    exact statusIn_bind_ok rfl
  · refine .inr ⟨fun parent => (body.under parent).bounty (some level) me,
      fun parent => ⟨rfl, ?_, ?_⟩⟩
    · simp [Endpoint.Discloses, hrole, htitle, hlevel, Text.isKnown]
      rfl
    have hlevel' : (body.under parent).valueLevel = some (.known level) := hlevel
    refine (statusIn_bind_ok rfl).trans ((statusIn_bind_ok haccepted).trans ?_)
    rw [if_neg (htitle' parent), hlevel']
    exact statusIn_bind_ok rfl
  · refine .inl ⟨?_, 400, fun parent => ?_⟩
    · simp [Endpoint.Discloses, hlevel, Text.isKnown]
    · have hlevel' : (body.under parent).valueLevel = some (.other text) := hlevel
      refine (statusIn_bind_ok rfl).trans ((statusIn_bind_ok haccepted).trans ?_)
      rw [if_neg (htitle' parent), hlevel']
      rfl

/-- A new bounty under a missing one is refused by the reference to the parent. -/
theorem create_same_iff (hfound : d (.bounty id) = some b) (hmissing : d (.bounty missing) = none)
    (hme : ¬ me.HasRole .steward) (hnew : d (.bounty new) = none) (hne : new ≠ missing) :
    statusIn d ((Endpoint.create body new creditIds fresh).serve me id) =
        statusIn d ((Endpoint.create body new creditIds fresh).serve me missing) ↔
      ¬ (Endpoint.create body new creditIds fresh).Discloses d me := by
  rcases create_cases hme with ⟨hnot, status, hstatus⟩ | ⟨child, hchild⟩
  · rw [hstatus, hstatus]
    exact iff_of_true rfl hnot
  rw [(hchild id).2.2, (hchild missing).2.2]
  by_cases hdiscloses : (Endpoint.create body new creditIds fresh).Discloses d me
  · refine iff_of_false ?_ (not_not.mpr hdiscloses)
    obtain ⟨d₁, hcreated⟩ := createBounty_exec_found (hchild id).1 hfound hnew
      ((hchild id).2.1.mp hdiscloses)
    obtain ⟨r, d₂, hcredits⟩ : ∃ r d₂, (BountyHandler.inheritDefineCredits new (child id).parentId
        creditIds fresh).result.exec prog d₁ = (.ok r, d₂) := Service.exec_result _
    have hrefused := createBounty_exec_missing (hchild missing).1 hmissing hne
    rw [statusIn_bind_ok hcreated, statusIn_bind_ok hcredits, statusIn_bind_error hrefused]
    show (201 : Nat) ≠ 500
    decide
  · have hrefused : ∀ parent, (send pickBounty (.createBounty new (child parent))).exec prog d =
        (.error .internal, d) := fun parent =>
      createBounty_exec_refused fun h => hdiscloses ((hchild parent).2.1.mpr h)
    rw [statusIn_bind_error (hrefused id), statusIn_bind_error (hrefused missing)]
    exact iff_of_true rfl hdiscloses

/-- Somebody who is neither the sponsor nor a steward gets the same status for a draft as for a
bounty that does not exist exactly from the requests that do not disclose the draft. -/
theorem draft_hidden_iff {endpoint : Endpoint} (hdraft : d (.bounty id) = some b)
    (hstatus : b.status = .draft) (hme : ¬ CanEdit me b) (hmissing : d (.bounty missing) = none)
    (hnew : endpoint.DrawsNew d missing) :
    statusIn d (endpoint.serve me id) = statusIn d (endpoint.serve me missing) ↔
      ¬ endpoint.Discloses d me := by
  have hsteward : ¬ me.HasRole .steward := fun h => hme (.inr h)
  cases endpoint with
  | get =>
    refine iff_of_true ?_ not_false
    have hhidden : statusIn d (BountyHandler.get me id) = 404 := by
      unfold BountyHandler.get
      rw [statusIn_bind_ok (getBounty_exec_some hdraft), if_pos ⟨hstatus, hme⟩]
      rfl
    exact hhidden.trans (statusIn_getBounty_none hmissing).symm
  | transition => exact changesOr400_transition.same_iff hdraft hmissing
  | amend body | createCalibration body new | createAnchor body new =>
    exact iff_of_true ((steward_status hsteward).trans (steward_status hsteward).symm) not_false
  | setValueLevel => exact changesOr400_setValueLevel.same_iff hdraft hmissing
  | setDifficulty => exact changesOr400_setDifficulty.same_iff hdraft hmissing
  | nominate => exact nominate_same_iff hdraft hmissing
  | listCredits => exact iff_of_true rfl not_false
  | listCalibrations => exact iff_of_true rfl not_false
  | create =>
    exact create_same_iff hdraft hmissing hsteward hnew.1 hnew.2

end Compared

/-- Bounty 1 is a draft of user 7, and there is nothing else. -/
def draftBounty : Bounty :=
  { type := .known .delivery, parentId := none, title := "Search", goal := ""
    acceptanceCriteria := "", visibility := .known .public_, restriction := "", directedTo := none
    businessLines := [], valueLevel := none, difficulty := none, commitment := .known .committed
    completion := none, status := .draft, sponsorId := 7, claimedBy := none, claimedAt := none
    personDays := none, retrospective := "", settledScore := none, settledAt := none
    completedAt := none }

def draftBounties : Db
  | .bounty 1 => some draftBounty
  | _ => none

theorem draft_hidden_iff_get :
    ¬ CanEdit ⟨8, [.engineer]⟩ draftBounty ∧
      statusIn draftBounties (Endpoint.get.serve ⟨8, [.engineer]⟩ 1) =
        statusIn draftBounties (Endpoint.get.serve ⟨8, [.engineer]⟩ 2) := by
  have hme : ¬ CanEdit ⟨8, [.engineer]⟩ draftBounty := by decide
  have hnew : Endpoint.get.DrawsNew draftBounties 2 := trivial
  exact ⟨hme, (draft_hidden_iff (b := draftBounty) rfl rfl hme rfl hnew).mpr not_false⟩

/-- An engineer who asks to open the draft is told that they may not, and that bounty 2 does not
exist. -/
theorem draft_disclosed :
    draftBounties (.bounty 1) = some draftBounty ∧ draftBounty.status = .draft ∧
      ¬ CanEdit ⟨8, [.engineer]⟩ draftBounty ∧ draftBounties (.bounty 2) = none ∧
      statusIn draftBounties
        ((Endpoint.transition (some ⟨.known .open, "", none, none⟩) 50).serve
          ⟨8, [.engineer]⟩ 1) = 403 ∧
      statusIn draftBounties
        ((Endpoint.transition (some ⟨.known .open, "", none, none⟩) 50).serve ⟨8, [.engineer]⟩ 2) =
          404 := by
  refine ⟨rfl, rfl, ?_, rfl, ?_, ?_⟩
  · decide
  · decide +kernel
  · decide +kernel

end Pactline.Legacy
