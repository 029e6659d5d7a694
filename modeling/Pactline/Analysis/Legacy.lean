import Pactline.Checks
import Pactline.Model.LegacyHandlers

/-!
# The rows of bounties and credits over time

`RowStep` says what a statement can do to a row, and `Cmd.Issued` what the handlers have made sure
of before they send it. What a handler knows of a row is what it has read; whether the row is still
the same when the statement writes is a matter of the schedule (`Entry.FreshUpdate` and its like).
-/

set_option autoImplicit false

namespace Pactline.Legacy

open ReadCommitted Service Function

variable {d d' : Db} {P : Db → Prop} {message : String} {request : EditRequest} {id : Id}
  {read b b' : Bounty} {now : Time} {u : Unit} {me : User}

/-! ## Runs -/

abbrev Entry := Commit Db Key Cmd Reply

abbrev LegacyConfig := Config Db Key LegacyError Cmd Reply

abbrev LegacyClient := Client Cmd LegacyError Reply

abbrev LegacyEvent := Event Cmd LegacyError Reply

def runLegacy (d₀ : Db) (es : List LegacyEvent) : Option LegacyConfig :=
  run prog (Config.initial d₀) es

/-- The clients of the mechanism. -/
inductive Request : LegacyClient → Prop
  | create (me : User) (body : Option BountyHandler.CreateBody) (id : Id) (creditIds : List Id)
      (fresh : Nat → Id) : Request (BountyHandler.create me body id creditIds fresh).client
  | get (me : User) (id : Id) : Request (BountyHandler.get me id).client
  | transition (me : User) (id : Id) (body : Option BountyHandler.TransitionBody) (now : Time) :
      Request (BountyHandler.transition me id body now).client
  | amend (me : User) (id : Id) (body : Option BountyHandler.AmendBody) :
      Request (BountyHandler.amend me id body).client
  | setValueLevel (me : User) (id : Id) (body : Option (Text ValueLevel)) :
      Request (BountyHandler.setValueLevel me id body).client
  | setDifficulty (me : User) (id : Id) (body : Option (Text Difficulty)) :
      Request (BountyHandler.setDifficulty me id body).client
  | nominate (me : User) (bountyId : Id) (body : Option CreditHandler.NominateBody) (id : Id) :
      Request (CreditHandler.nominate me bountyId body id).client
  | listByBounty (ids : List Id) (bountyId : Id) :
      Request (CreditHandler.listByBounty ids bountyId).client
  | respond (me : User) (id : Id) (body : Option (Text CreditStatus)) (now : Time) :
      Request (CreditHandler.respond me id body now).client
  | reset (me : User) (id : Id) (now : Time) : Request (CreditHandler.reset me id now).client
  | settle (me : User) (body : Option (Time × Time)) (ids : List Id) (settledAt : Time) :
      Request (SettlementHandler.settle me body ids settledAt).client
  | createCalibration (me : User) (bountyId : Id)
      (body : Option CalibrationHandler.CalibrationBody) (id : Id) :
      Request (CalibrationHandler.create me bountyId body id).client
  | listCalibrations (ids : List Id) (bountyId : Id) :
      Request (CalibrationHandler.list ids bountyId).client
  | createAnchor (me : User) (body : Option AnchorHandler.AnchorBody) (id : Id) :
      Request (AnchorHandler.create me body id).client

/-- The commit is a run of its statement from the database before it. -/
def Runs (e : Entry) : Prop := (statements e.cmd).Runs [] e.before e.reply e.held e.after

variable {d₀ : Db} {es : List LegacyEvent} {cfg : LegacyConfig}

/-- The commits of a run are serial. -/
theorem serial_of_run (h : runLegacy d₀ es = some cfg) :
    Serial prog (fun _ => Rows.locked) d₀ cfg.log cfg.db :=
  (Rowwise.protocol statements).serial trivial h

/-- A commit is a run of its statements. -/
theorem runs_of_valid {e : Entry} (h : e.Valid prog fun _ => Rows.locked) : Runs e :=
  Rowwise.runs_of_valid h

/-- Where a property of the database comes to hold, a commit has brought it about. -/
theorem exists_turn {log} (h : Serial prog (fun _ => Rows.locked) d log d')
    (h₀ : ¬ P d) (hP : P d') : ∃ e ∈ log, ¬ P e.before ∧ P e.after := by
  induction log generalizing d' with
  | nil =>
    have heq : d' = d := h
    rw [heq] at hP
    exact absurd hP h₀
  | cons e _ ih =>
    obtain ⟨rfl, -, hearlier⟩ := h
    by_cases hbefore : P e.before
    · obtain ⟨e', he', hturn⟩ := ih hearlier hbefore
      exact ⟨e', List.mem_cons_of_mem _ he', hturn⟩
    · exact ⟨e, List.mem_cons_self, hbefore, hP⟩

/-- What the later commits keep is still there at the end. -/
theorem keeps_later {log} (h : Serial prog (fun _ => Rows.locked) d log d') (h₀ : P d)
    (hstep : ∀ e ∈ log, Runs e → P e.before → P e.after) : P d' := by
  induction log generalizing d' with
  | nil =>
    have heq : d' = d := h
    rw [heq]
    exact h₀
  | cons e _ ih =>
    obtain ⟨rfl, hv, hearlier⟩ := h
    have hbefore := ih hearlier fun e' he' => hstep e' (List.mem_cons_of_mem _ he')
    exact hstep e List.mem_cons_self (runs_of_valid hv) hbefore

/-! ## What a statement can do to a row -/

inductive RowStep (c : Cmd) : (k : Key) → Option (Columns k) → Option (Columns k) → Prop
  | createBounty {id : Id} {b : Bounty} (hc : c = .createBounty id b) :
      RowStep c (.bounty id) none (some b)
  | updateBounty {request id read b old}
      (hc : c = .updateBounty request id read b) :
      RowStep c (.bounty id) (some old) (some (BountyStore.overwrite old b))
  | settleBounty {id read old new points settledAt}
      (hc : c = .settleBounty id read points settledAt)
      (hnew : BountyStore.settled points settledAt old = some new) :
      RowStep c (.bounty id) (some old) (some new)
  | insertCredit {id x} (hc : c = .insertCredit id x) :
      RowStep c (.credit id) none (some x)
  | respondCredit {request id read old status now}
      (hc : c = .respondCredit request id read status now) :
      RowStep c (.credit id) (some old) (some (CreditStore.answered old status now))
  | insertKey {bountyId userId role id} :
      RowStep c (.creditKey bountyId userId role) none (some id)
  | insertCalibration {id x} : RowStep c (.calibration id) none (some x)
  | insertAnchor {id x} : RowStep c (.anchor id) none (some x)

/-- A commit leaves a row as it is, or makes one step. -/
def Entry.Moves (e : Entry) (k : Key) : Prop :=
  e.after k = e.before k ∨ RowStep e.cmd k (e.before k) (e.after k)

/-- One row has changed. -/
theorem moves_of_update {c k₀ new} (h : RowStep c k₀ (d k₀) (some new))
    (k : Key) :
    update d k₀ (some new) k = d k ∨
      RowStep c k (d k) (update d k₀ (some new) k) := by
  by_cases hk : k = k₀
  · subst hk
    rw [update_self]
    exact .inr h
  · rw [update_of_ne hk]
    exact .inl rfl

section References

variable {held held' : List (Lock Key)}

/-- A reference is only looked at, and its row is there. -/
theorem runs_requireRow {k} (h : (BountyStore.requireRow k).Runs held d u held' d') :
    d' = d ∧ (d k).isSome := by
  simp only [BountyStore.requireRow, Rowwise.rules] at h
  obtain ⟨_, _, _, ⟨rfl, -, rfl⟩, hfound, -, rfl⟩ := h
  exact ⟨rfl, hfound⟩

/-- The foreign key of the parent is only read. -/
theorem runs_requireParent {parent}
    (h : (BountyStore.requireParent id parent).Runs held d u held' d') : d' = d := by
  cases parent with
  | none => exact h.2.2
  | some parent =>
    simp only [BountyStore.requireParent, Rowwise.runs_ite] at h
    rcases h with ⟨-, -, -, rfl⟩ | ⟨-, h⟩
    · rfl
    · exact (runs_requireRow h).1

/-- A bounty is directed to a user that there is. -/
theorem runs_requireDirectedTo {userId}
    (h : (BountyStore.requireDirectedTo userId).Runs held d u held' d') :
    d' = d ∧ ∀ id ∈ userId, (d (.user id)).isSome := by
  cases userId with
  | none => exact ⟨h.2.2, fun _ hmem => by cases hmem⟩
  | some userId =>
    obtain ⟨rfl, hfound⟩ := runs_requireRow h
    refine ⟨rfl, fun id hmem => ?_⟩
    obtain rfl := Option.some.inj hmem
    exact hfound

end References

/-- A commit makes one step at most in every row. -/
theorem moves_of_runs {e : Entry} (h : Runs e) (k : Key) : e.Moves k := by
  obtain ⟨c, reply, held, d, d'⟩ := e
  change (statements c).Runs [] d reply held d' at h
  change d' k = d k ∨ RowStep c k (d k) (d' k)
  cases c with
  | createBounty id =>
    simp only [statements, BountyStore.create, Rowwise.runs_assoc] at h
    obtain ⟨_, _, _, hparent, hrest⟩ := Rowwise.runs_bind.mp h
    obtain rfl := runs_requireParent hparent
    rw [Rowwise.runs_assoc] at hrest
    obtain ⟨_, _, _, hdirected, hrow⟩ := Rowwise.runs_bind.mp hrest
    obtain ⟨rfl, -⟩ := runs_requireDirectedTo hdirected
    simp only [Rowwise.steps] at hrow
    rcases hrow with ⟨-, ⟨hnone, -, -, -, rfl⟩ | ⟨-, hfalse, -⟩⟩
    · exact moves_of_update (by rw [hnone]; exact .createBounty rfl) k
    · cases hfalse
  | updateBounty =>
    simp only [statements, BountyStore.update, Rowwise.steps] at h
    rcases h with ⟨-, a, hnone, -⟩ | ⟨old, new, hold, hnew, -, -, -, -, rfl⟩
    · cases hnone
    · cases hnew
      exact moves_of_update (by rw [hold]; exact .updateBounty rfl) k
  | settleBounty =>
    simp only [statements, BountyStore.settle, Rowwise.steps] at h
    rcases h with ⟨-, a, hnone, -⟩ | ⟨old, new, hold, hnew, -, -, -, -, rfl⟩
    · cases hnone
    · exact moves_of_update (by rw [hold]; exact .settleBounty rfl hnew) k
  | insertCredit id x =>
    simp only [statements, CreditStore.insert, Rowwise.steps] at h
    rcases h with ⟨hkey, h⟩ | ⟨-, h⟩
    · simp only [if_true, Rowwise.steps] at h
      rcases h with ⟨hnone, -, -, -, rfl⟩ | ⟨-, hfalse, -⟩
      · have hne : Key.credit id ≠ .creditKey x.bountyId x.userId x.role := by simp
        rw [update_of_ne hne] at hnone
        by_cases hk : k = .credit id
        · subst hk
          rw [update_self, hnone]
          exact .inr (.insertCredit rfl)
        · rw [update_of_ne hk]
          exact moves_of_update (by rw [hkey]; exact .insertKey) k
      · cases hfalse
    · obtain ⟨-, -, rfl⟩ := h
      exact .inl rfl
  | respondCredit =>
    simp only [statements, CreditStore.respond, Rowwise.steps] at h
    rcases h with ⟨-, a, hnone, -⟩ | ⟨old, new, hold, hnew, -, -, -, -, rfl⟩
    · cases hnone
    · cases hnew
      exact moves_of_update (by rw [hold]; exact .respondCredit rfl) k
  | createCalibration =>
    simp only [statements, CalibrationStore.create, Rowwise.steps] at h
    rcases h with ⟨hnone, -, -, -, rfl⟩ | ⟨-, hfalse, -⟩
    · exact moves_of_update (by rw [hnone]; exact .insertCalibration) k
    · cases hfalse
  | createAnchor =>
    simp only [statements, AnchorStore.create, Rowwise.steps] at h
    rcases h with ⟨hnone, -, -, -, rfl⟩ | ⟨-, hfalse, -⟩
    · exact moves_of_update (by rw [hnone]; exact .insertAnchor) k
    · cases hfalse
  | getBounty | findCredit | getCredit =>
    simp only [statements, BountyStore.getByID, CreditStore.find, CreditStore.getByID,
      Rowwise.steps] at h
    obtain ⟨_, -, _, -, -, -, rfl⟩ := h
    exact .inl rfl
  | listTerminal | listCredits | leadHolders | listCalibrations =>
    simp only [statements, BountyStore.listTerminal, CreditStore.listByBounty,
      CreditStore.confirmedLeadHolders, CalibrationStore.listByBounty, Rowwise.runs_query_bind,
      Rowwise.runs_pure] at h
    obtain ⟨_, -, -, -, rfl⟩ := h
    exact .inl rfl

/-! ## What the handlers make sure of -/

/-- What is known of a command that a handler sends. -/
def Cmd.Issued : Cmd → Prop
  | .createBounty _ b => b.settledScore = none ∧ b.settledAt = none ∧ b.claimedBy = none
  | .updateBounty request _ read b => request.edit read = .ok b
  | .settleBounty _ read points _ =>
    read.status.Terminal ∧ read.settledAt = none ∧ score read = .ok points
  | .insertCredit _ c => c.status = .pending
  | .respondCredit request _ read status _ => request.answer read = .ok status
  | _ => True

section Calls

variable {β : Type} {p : Cmd → Prop}

theorem calls_badRequest {text Q} :
    (badRequest text : Handler β).Calls p Q := trivial

theorem calls_decodeBody {body : Option β} {Q : β → Prop} (hQ : ∀ b, Q b) :
    (decodeBody body).Calls p Q := by
  cases body with
  | none => trivial
  | some b => exact hQ b

theorem calls_knownText {text : Text β} {Q : β → Prop} (hQ : ∀ b, Q b) :
    (knownText message text).Calls p Q := by
  cases text with
  | known b => exact hQ b
  | other => trivial

theorem calls_optionalText {text : Option (Text β)} {Q : Option β → Prop} (hQ : ∀ b, Q b) :
    (optionalText message text).Calls p Q := by
  rcases text with _ | b | text
  · exact hQ none
  · exact hQ (some b)
  · trivial

theorem calls_refuseUnless {c : Prop} [Decidable c] {e Q}
    (hQ : c → Q ()) : (refuseUnless c e).Calls p Q := by
  unfold refuseUnless
  split
  case isTrue hc => exact hQ hc
  case isFalse => trivial

/-- An edit writes what its request makes of the row it has read. -/
theorem calls_edit (request : EditRequest) (id : Id) :
    (BountyHandler.edit request id).Calls Cmd.Issued fun _ => True := by
  simp only [BountyHandler.edit, calls_bind]
  refine calls_send trivial fun b => ?_
  rw [calls_ofExcept]
  intro edited hedited
  exact calls_send hedited fun _ => trivial

/-- An answer writes the status that its request gives for what it has read. -/
theorem calls_answer (request : CreditRequest) (id : Id) (now : Time) :
    (CreditHandler.answer request id now).Calls Cmd.Issued fun _ => True := by
  simp only [CreditHandler.answer, calls_bind]
  refine calls_send trivial fun found => ?_
  rw [calls_ofExcept]
  intro status hstatus
  exact calls_send hstatus fun _ => trivial

/-- The nominations that a child inherits are pending. -/
theorem calls_nominateEach (child : Id) (authors : List Id) (fresh : Nat → Id) :
    (BountyHandler.nominateEach child authors fresh).Calls Cmd.Issued fun _ => True := by
  induction authors generalizing fresh with
  | nil => trivial
  | cons _ _ ih =>
    simp only [BountyHandler.nominateEach, calls_bind]
    refine calls_send rfl fun _ => calls_send trivial fun _ => ?_
    exact ih _

/-- A child inherits nominations only. -/
theorem calls_inheritDefineCredits (child : Id) (parentId : Option Id) (creditIds : List Id)
    (fresh : Nat → Id) : (BountyHandler.inheritDefineCredits child parentId creditIds fresh).Calls
      Cmd.Issued fun _ => True := by
  cases parentId with
  | none => trivial
  | some =>
    simp only [BountyHandler.inheritDefineCredits, BountyHandler.authors, calls_bind,
      calls_ite, calls_pure]
    refine calls_send trivial fun leads => ⟨fun _ => ?_, fun _ => ?_⟩
    · exact calls_nominateEach child _ fresh
    · exact calls_send trivial fun b => calls_nominateEach child _ fresh

/-- A new bounty is neither claimed nor settled, and its nominations are pending. -/
theorem calls_create (me : User) (body : Option BountyHandler.CreateBody) (id : Id)
    (creditIds : List Id) (fresh : Nat → Id) :
    (BountyHandler.create me body id creditIds fresh).Calls Cmd.Issued fun _ => True := by
  simp only [BountyHandler.create, calls_bind]
  refine calls_decodeBody fun body => calls_refuseUnless fun _ => ?_
  rw [calls_ite]
  refine ⟨fun _ => calls_badRequest, fun _ => ?_⟩
  simp only [calls_bind]
  refine calls_optionalText fun level => calls_send ⟨rfl, rfl, rfl⟩ fun created => ?_
  exact calls_result (calls_inheritDefineCredits ..) fun _ => trivial

/-- A nomination is pending. -/
theorem calls_nominate (me : User) (bountyId : Id) (body : Option CreditHandler.NominateBody)
    (id : Id) : (CreditHandler.nominate me bountyId body id).Calls Cmd.Issued fun _ => True := by
  simp only [CreditHandler.nominate, calls_bind]
  refine calls_decodeBody fun body => ?_
  rw [calls_ite]
  refine ⟨fun _ => calls_badRequest, fun _ => ?_⟩
  simp only [calls_bind]
  refine calls_send trivial fun b => calls_refuseUnless fun _ => ?_
  rw [calls_ofExcept]
  intro role _
  exact calls_send rfl fun _ => calls_send trivial fun _ => trivial

theorem calls_createCalibration (me : User) (bountyId : Id)
    (body : Option CalibrationHandler.CalibrationBody) (id : Id) :
    (CalibrationHandler.create me bountyId body id).Calls Cmd.Issued fun _ => True := by
  simp only [CalibrationHandler.create, calls_bind]
  refine calls_refuseUnless fun _ => calls_decodeBody fun body => calls_knownText fun level => ?_
  refine calls_send trivial fun b => calls_refuseUnless fun _ => ?_
  simp only [calls_ofExcept]
  exact fun _ _ _ _ => calls_send trivial fun _ => trivial

theorem calls_createAnchor (me : User) (body : Option AnchorHandler.AnchorBody) (id : Id) :
    (AnchorHandler.create me body id).Calls Cmd.Issued fun _ => True := by
  simp only [AnchorHandler.create, calls_bind]
  refine calls_refuseUnless fun _ => calls_decodeBody fun body => ?_
  refine calls_send trivial fun b => ?_
  rw [calls_ofExcept]
  exact fun _ _ => calls_send trivial fun _ => trivial

/-- A settlement writes the score of the terminal bounty it has read. -/
theorem calls_settleEach (settledAt : Time) {list}
    (hlist : ∀ x ∈ list, x.2.status.Terminal)
    (response : SettlementHandler.SettlementResponse) :
    (SettlementHandler.settleEach settledAt list response).Calls Cmd.Issued fun _ => True := by
  induction list generalizing response with
  | nil => trivial
  | cons x _ ih =>
    obtain ⟨id, b⟩ := x
    have hrest := ih fun y hy => hlist y (List.mem_cons_of_mem _ hy)
    unfold SettlementHandler.settleEach
    rw [calls_ite]
    refine ⟨fun _ => hrest _, fun hopen => ?_⟩
    cases hscore : score b with
    | error => exact hrest _
    | ok =>
      simp only [calls_bind]
      have hterminal := hlist (id, b) List.mem_cons_self
      refine calls_attempt ⟨hterminal, not_not.mp hopen, hscore⟩ fun r => ?_
      split <;> exact hrest _

end Calls

/-- A settlement goes over the terminal bounties that its list has found. -/
theorem respects_settle (me : User) (body : Option (Time × Time)) (ids : List Id)
    (settledAt : Time) (log : List Entry) (d : Db) :
    (SettlementHandler.settle me body ids settledAt).client.Respects prog (fun _ => Rows.locked)
      (fun _ e => e.cmd.Issued) log d := by
  have hlist : ∀ start stop, ((send pickBounties (.listTerminal ids start stop)) >>= fun list =>
      SettlementHandler.settleEach settledAt list ⟨[], 0, [], []⟩).client.Respects prog
        (fun _ => Rows.locked) (fun _ e => e.cmd.Issued) log d := by
    intro start stop
    refine Client.respects_expect (fun _ e _ hc => ?_) (fun _ => rfl) rfl ?_
    · rw [hc]
      trivial
    · intro newer e _ hv hc
      have hrun := runs_of_valid hv
      unfold Runs at hrun
      rw [hc] at hrun
      simp only [statements, BountyStore.listTerminal, Rowwise.runs_query_bind,
        Rowwise.runs_pure] at hrun
      obtain ⟨found, -, hreply, -⟩ := hrun
      rw [hreply]
      refine (calls_settleEach settledAt ?_ _).only.respects (fun _ _ _ hp => hp) _ _
      intro x hx
      obtain ⟨id, -, hid⟩ := List.mem_filterMap.mp hx
      obtain ⟨b, hb, rfl⟩ := Option.map_eq_some_iff.mp hid
      have hsettles := of_decide_eq_true (Option.filter_eq_some_iff.mp hb).2
      exact hsettles.1
  unfold SettlementHandler.settle
  by_cases hrole : me.HasRole .steward
  · rw [refuseUnless, if_pos hrole]
    rcases body with _ | ⟨start, stop⟩
    · trivial
    · change (if start = 0 ∨ stop = 0 then badRequest "from and to are both required"
        else if stop < start then badRequest "to must not be before from"
        else (send pickBounties (.listTerminal ids start stop)) >>= fun list =>
          SettlementHandler.settleEach settledAt list ⟨[], 0, [], []⟩).client.Respects _ _ _ _ _
      split
      · trivial
      · split
        · trivial
        · exact hlist start stop
  · rw [refuseUnless, if_neg hrole]
    trivial

/-- The commands of a request are issued as its handler has made sure. -/
theorem Request.respects {client : LegacyClient} (h : Request client) (log : List Entry) (d : Db) :
    client.Respects prog (fun _ => Rows.locked) (fun _ e => e.cmd.Issued) log d := by
  have hcalls : ∀ {β : Type} {s : Handler β}, s.Calls Cmd.Issued (fun _ => True) →
      s.client.Respects prog (fun _ => Rows.locked) (fun _ e => e.cmd.Issued) log d :=
    fun hs => hs.only.respects (fun _ _ _ hp => hp) log d
  cases h with
  | create => exact hcalls (calls_create ..)
  | get =>
    apply hcalls
    simp only [BountyHandler.get, calls_bind]
    refine calls_send trivial fun b => ?_
    rw [calls_ite]
    exact ⟨fun _ => trivial, fun _ => trivial⟩
  | transition =>
    apply hcalls
    simp only [BountyHandler.transition, calls_bind]
    exact calls_decodeBody fun _ => calls_knownText fun _ => calls_optionalText fun _ =>
      calls_edit _ _
  | amend =>
    apply hcalls
    simp only [BountyHandler.amend, calls_bind]
    exact calls_refuseUnless fun _ => calls_decodeBody fun _ => calls_optionalText fun _ =>
      calls_optionalText fun _ => calls_optionalText fun _ => calls_edit _ _
  | setValueLevel | setDifficulty =>
    apply hcalls
    simp only [BountyHandler.setValueLevel, BountyHandler.setDifficulty, calls_bind]
    exact calls_decodeBody fun _ => calls_knownText fun _ => calls_edit _ _
  | nominate => exact hcalls (calls_nominate ..)
  | listByBounty | listCalibrations =>
    apply hcalls
    simp only [CreditHandler.listByBounty, CalibrationHandler.list, calls_bind]
    exact calls_send trivial fun _ => trivial
  | respond _ id body now =>
    apply hcalls
    simp only [CreditHandler.respond, calls_bind]
    refine calls_decodeBody fun body => ?_
    split
    · exact calls_answer _ id now
    · exact calls_answer _ id now
    · exact calls_badRequest
  | reset =>
    apply hcalls
    simp only [CreditHandler.reset, calls_bind]
    exact calls_refuseUnless fun _ => calls_answer _ _ _
  | settle => exact respects_settle ..
  | createCalibration => exact hcalls (calls_createCalibration ..)
  | createAnchor => exact hcalls (calls_createAnchor ..)

/-- So is every command that commits. -/
theorem issued_of_run (hclients : ∀ client, .connect client ∈ es → Request client)
    (h : runLegacy d₀ es = some cfg) {e : Entry} (he : e ∈ cfg.log) : e.cmd.Issued := by
  have hobeys : Obeys (fun _ e => e.cmd.Issued) cfg.log :=
    Protocol.obeys (Rowwise.protocol statements) trivial
      (fun client hmem log d _ _ => (hclients client hmem).respects log d) h
  obtain ⟨newer, older, hlog⟩ := List.append_of_mem he
  rw [hlog] at hobeys
  exact hobeys.split.1

/-! ## Rows that have not changed since they were read -/

/-- The bounty that an update writes, as its request has read it. -/
def Cmd.updates : Cmd → Option (Id × Bounty)
  | .updateBounty _ id read _ => some (id, read)
  | _ => none

/-- The bounty that a settlement writes, as it was when the score was computed. -/
def Cmd.settles : Cmd → Option (Id × Bounty)
  | .settleBounty id read _ _ => some (id, read)
  | _ => none

/-- The credit whose status is written, as the request has read it. -/
def Cmd.answers : Cmd → Option (Id × Credit)
  | .respondCredit _ id read _ _ => some (id, read)
  | _ => none

/-- An update finds the row that its request has read. -/
def Entry.FreshUpdate (e : Entry) : Prop :=
  ∀ x ∈ e.cmd.updates, e.before (.bounty x.1) = some x.2
deriving Decidable

/-- A settlement finds the row from which its score was computed. -/
def Entry.FreshSettlement (e : Entry) : Prop :=
  ∀ x ∈ e.cmd.settles, e.before (.bounty x.1) = some x.2
deriving Decidable

/-- An answer finds the credit that its request has read. -/
def Entry.FreshAnswer (e : Entry) : Prop :=
  ∀ x ∈ e.cmd.answers, e.before (.credit x.1) = some x.2
deriving Decidable

theorem Entry.FreshUpdate.before {e : Entry} (h : e.FreshUpdate)
    (hc : e.cmd = .updateBounty request id read b) : e.before (.bounty id) = some read :=
  h (id, read) (by rw [hc]; rfl)

theorem Entry.FreshSettlement.before {e : Entry} (h : e.FreshSettlement) {points settledAt}
    (hc : e.cmd = .settleBounty id read points settledAt) :
    e.before (.bounty id) = some read :=
  h (id, read) (by rw [hc]; rfl)

theorem Entry.FreshAnswer.before {e : Entry} (h : e.FreshAnswer) {request read status}
    (hc : e.cmd = .respondCredit request id read status now) :
    e.before (.credit id) = some read :=
  h (id, read) (by rw [hc]; rfl)

/-! ## What an edit can do -/

/-- A transition goes along an edge of the table. -/
theorem validateTransition_ok {target} (h : validateTransition b target = .ok u) :
    target ∈ allowedTransitions b.status := by
  simp only [validateTransition, ok_rules, not_not] at h
  exact h.1

/-- A transition leaves the difficulty alone. -/
theorem applyTransitionEffects_difficulty (b : Bounty) (me : User) (target : Status) (now : Time) :
    (applyTransitionEffects b me target now).difficulty = b.difficulty := by
  unfold applyTransitionEffects
  split
  · split <;> rfl
  · rfl
  · rfl
  · rfl
  · rfl

/-- What a transition does to the status and the difficulty. -/
theorem edit_transition {req : TransitionRequest}
    (h : (EditRequest.transition me req now).edit b = .ok b') :
    req.target ∈ allowedTransitions b.status ∧ b'.status = req.target ∧
      b'.difficulty = b.difficulty := by
  simp only [EditRequest.edit, ok_rules] at h
  obtain ⟨_, -, _, hvalid, rfl⟩ := h
  have hstatus : (applyTransitionFormFields b req).status = b.status := rfl
  have hallowed := validateTransition_ok hvalid
  rw [hstatus] at hallowed
  exact ⟨hallowed, rfl, applyTransitionEffects_difficulty _ me req.target now⟩

/-- Only a transition changes the status. -/
theorem edit_status (h : request.edit b = .ok b') :
    b'.status = b.status ∨ b'.status ∈ allowedTransitions b.status := by
  cases request with
  | transition =>
    obtain ⟨hallowed, hstatus, -⟩ := edit_transition h
    rw [hstatus]
    exact .inr hallowed
  | amend =>
    simp only [EditRequest.edit] at h
    split at h
    · simp only [ok_rules] at h
      obtain ⟨_, -, rfl⟩ := h
      exact .inl rfl
    · cases h
      exact .inl rfl
  | setValueLevel | setDifficulty =>
    simp only [EditRequest.edit, ok_rules] at h
    obtain ⟨_, -, rfl⟩ := h
    exact .inl rfl

end Pactline.Legacy
