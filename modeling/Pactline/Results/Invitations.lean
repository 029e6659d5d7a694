import Pactline.Analysis.Identity

/-!
# Invitations and authorization states

An invitation is accepted once, while it is pending, by the principal it names and with the token
hash it has at that moment; an authorization state is consumed once. The unique index on token
hashes is part of the model, so a hash leads to one invitation only (`Indexed`).
-/

set_option autoImplicit false

namespace Pactline.Identity

open ReadCommitted Rowwise Function

variable {d₀ : Db}

variable {e : Entry} {id : Id} {now : Time} {hash : Bytes} {i : Invitation} {d : Db}

/-! ## Commits on invitations -/

/-- The commit accepts the invitation `id`. -/
def Accepts (e : Entry) (id : Id) (lookup : InvitationLookup) (key : PrincipalKey) (now : Time) :
    Prop :=
  (∃ credential userId seed, e.cmd = .acceptInvitation lookup key credential userId seed now) ∧
    e.reply = .accepted id

def Consumes (e : Entry) (stateHash : Bytes) : Prop :=
  ∃ now, e.cmd = .consumeAuthorizationState stateHash now

/-- The command gives the token hash to an invitation. -/
def Cmd.Issues (c : Cmd) (hash : Bytes) : Prop :=
  (∃ id target createdByUserId now, c = .createInvitation id target hash createdByUserId now) ∨
    ∃ id expiresAt now states, c = .rotateInvitation id hash expiresAt now states

/-- Rows of invitations and of the index on their token hashes. -/
def Key.OfInvitation : Key → Prop
  | .invitation _ => True
  | .tokenHash _ => True
  | _ => False

abbrev besideInvitations : Rowwise.Evolution Columns := .frame Key.OfInvitation

theorem insertUser_frame (userId : Id) (key : PrincipalKey) (credential : OAuthCredential)
    (now : Time) (e : IdentityError) :
    (insertUser userId key credential now e).Keeps besideInvitations fun _ => True := by
  simp [insertUser, insertExternalIdentityAndCredential, Rowwise.Evolution.frame, Key.OfInvitation]

theorem insertSession_frame (userId : Id) (seed : SessionSeed) :
    (insertSession userId seed).Keeps besideInvitations fun _ => True := by
  simp [insertSession, Rowwise.Evolution.frame, Key.OfInvitation]

theorem invalidate_frame (id : Id) (now : Time) (states : List Bytes) :
    (invalidateInvitationAuthorizations id now states).Keeps besideInvitations fun _ => True := by
  induction states with
  | nil => trivial
  | cons stateHash rest ih =>
    simp only [invalidateInvitationAuthorizations, keeps_bind, keeps_update]
    exact ⟨fun _ _ _ hk => hk.elim, fun _ => ih⟩

/-- The invitation that is accepted is pending, names the principal and has the token hash. -/
theorem accepts_runs (h : Runs e) {lookup : InvitationLookup} {key}
    (ha : Accepts e id lookup key now) :
    ∃ i : Invitation, e.before (.invitation id) = some i ∧ i.Matches key now ∧ lookup.Holds i ∧
      ∃ i' : Invitation, e.after (.invitation id) = some i' ∧ i'.status = .accepted := by
  obtain ⟨⟨credential, userId, seed, hc⟩, hreply⟩ := ha
  rw [Runs, hc, hreply] at h
  simp only [statements, acceptInvitation, rules, runs_update] at h
  obtain ⟨_, _, _, ⟨found, _, _, hfind, id', _, _, ⟨-, rfl, rfl⟩, row, _, _, ⟨rfl, rfl, rfl⟩,
    i, _, _, ⟨hrow, rfl, rfl⟩, _, _, _, ⟨hi, rfl, rfl⟩, _, _, d₁, huser, hrest⟩, hid, -,
      hafter⟩ := h
  obtain ⟨row', _, d₂, ⟨-, hupdate⟩, _, _, _, ⟨hsome, rfl, rfl⟩, hseed⟩ := hrest
  have hd₁ : d₁ (.invitation id') = some i := by
    rw [(huser.evolves (insertUser_frame userId key credential now .invitationInvalid)).1
      (.invitation id') trivial, hrow]
  rcases hupdate with ⟨rfl, -⟩ | ⟨old, new, rfl, hold, hnew, rfl⟩
  · cases hsome
  have hnew' : new.status = .accepted := by
    split at hnew
    · cases hnew
      rfl
    · cases hnew
  -- What follows only starts a session.
  have hlast : id = id' ∧ e.after (.invitation id') = some new := by
    rw [hafter]
    cases seed with
    | none =>
      obtain ⟨rfl, -, rfl⟩ := hseed
      exact ⟨Reply.accepted.inj hid, update_self _ _ _⟩
    | some seed =>
      obtain ⟨_, _, d₃, hsession, rfl, -, rfl⟩ := runs_bind.mp hseed
      refine ⟨Reply.accepted.inj hid, ?_⟩
      rw [(hsession.evolves (insertSession_frame userId seed)).1 (.invitation _) trivial]
      exact update_self _ _ _
  obtain ⟨rfl, hafter'⟩ := hlast
  rw [(find_runs hfind).2] at hrow
  exact ⟨i, hrow, hi.1, hi.2, new, hafter', hnew'⟩

/-! ## What the other commits leave of an invitation -/

/-- The row is still there with its token hash, and as it was if it is not pending; no row has
appeared. -/
def Settles (row row' : Option Invitation) : Prop :=
  (row = none → row' = none) ∧ ∀ i, row = some i →
    ∃ i', row' = some i' ∧ i'.tokenHash = i.tokenHash ∧ (i.status ≠ .pending → i' = i)

/-- Commands that give no token hash. -/
def settling : Rowwise.Evolution Columns where
  rel
    | .invitation _, row, row' => Settles row row'
    | .tokenHash _, row, row' => row' = row
    | _, _, _ => True
  refl k row := by
    cases k with
    | invitation _ => exact ⟨fun h => h, fun i hi => ⟨i, hi, rfl, fun _ => rfl⟩⟩
    | tokenHash hash => rfl
    | _ => trivial
  trans k a b c h₁ h₂ := by
    cases k with
    | invitation id =>
      refine ⟨fun ha => h₂.1 (h₁.1 ha), fun i hi => ?_⟩
      obtain ⟨i', hi', hhash, hsame⟩ := h₁.2 i hi
      obtain ⟨i'', hi'', hhash', hsame'⟩ := h₂.2 i' hi'
      refine ⟨i'', hi'', hhash'.trans hhash, fun hstatus => ?_⟩
      have heq := hsame hstatus
      subst heq
      exact hsame' hstatus
    | tokenHash hash => exact Eq.trans h₂ h₁
    | _ => trivial

theorem RowStep.settles {c : Cmd} (hc : ∀ hash, ¬ c.Issues hash) {k a b} (h : RowStep c k a b) :
    settling.rel k a b := by
  cases h with
  | invite heq => exact absurd (.inl ⟨_, _, _, _, heq⟩) (hc _)
  | issue heq => exact absurd (.inl ⟨_, _, _, _, heq⟩) (hc _)
  | rotate heq | giveUp heq | reissue heq => exact absurd (.inr ⟨_, _, _, _, heq⟩) (hc _)
  | revoke hi | expire hi | accept _ hi =>
    constructor
    · intro heq
      cases heq
    · intro i heq
      cases heq
      exact ⟨_, rfl, rfl, fun h => absurd hi h⟩
  | _ => trivial

theorem settles_of_runs (h : Runs e) (hc : ∀ hash, ¬ e.cmd.Issues hash) (k : Key) :
    settling.rel k (e.before k) (e.after k) :=
  settling.closure_le (fun _ _ => RowStep.settles hc) (rowSteps_of_runs h k)

/-- The commit gives the token hash `hash`, which no other invitation has, to the invitation `id`;
the hash it had before is free from then on. -/
def Gives (e : Entry) (id : Id) (hash : Bytes) (old : Option Invitation) : Prop :=
  e.before (.invitation id) = old ∧ (∀ i, old = some i → i.status = .pending) ∧
    (old.map (·.tokenHash) ≠ some hash → e.before (.tokenHash hash) = none) ∧
    (∃ i : Invitation, e.after (.invitation id) = some i ∧ i.tokenHash = hash) ∧
    (∀ id', id' ≠ id → e.after (.invitation id') = e.before (.invitation id')) ∧
    ∀ hash', e.after (.tokenHash hash') = if hash' = hash then some id
      else if old.map (·.tokenHash) = some hash' then none else e.before (.tokenHash hash')

theorem createInvitation_runs (h : Runs e) {createdByUserId target}
    (hc : e.cmd = .createInvitation id target hash createdByUserId now) : Gives e id hash none := by
  rw [Runs, hc] at h
  simp only [statements, createInvitation, rules, runs_insert] at h
  obtain ⟨_, _, _, ⟨free, _, _, ⟨-, hfree⟩, _, _, _, ⟨rfl, rfl, rfl⟩, fresh, _, _, ⟨-, hfresh⟩,
    rfl, rfl, rfl⟩, -, -, hafter⟩ := h
  rcases hfree with ⟨-, hhash, rfl⟩ | ⟨h, -⟩
  case inr => cases h
  rcases hfresh with ⟨-, hid, rfl⟩ | ⟨h, -⟩
  case inr => cases h
  rw [update_of_ne (by simp)] at hid
  rw [Gives, hafter]
  refine ⟨hid, fun i hi => ?_, fun _ => hhash, ⟨_, update_self _ _ _, rfl⟩,
    fun id' hne => ?_, fun hash' => ?_⟩
  · cases hi
  · rw [update_of_ne (by simpa using hne), update_of_ne (by simp)]
  · rw [update_of_ne (by simp)]
    split
    case isTrue heq =>
      subst heq
      exact update_self _ _ _
    case isFalse hne => exact update_of_ne (by simpa using hne) _ _

theorem rotateInvitation_runs (h : Runs e) {expiresAt states}
    (hc : e.cmd = .rotateInvitation id hash expiresAt now states) :
    ∃ i, Gives e id hash (some i) := by
  rw [Runs, hc] at h
  simp only [statements, rotateInvitation, lockPendingInvitation, rules,
    runs_insert, runs_update] at h
  obtain ⟨_, _, _, ⟨i, _, _, ⟨_, _, _, ⟨rfl, rfl, rfl⟩, i', _, _, ⟨hrow, rfl, rfl⟩, _, _, _,
    ⟨hpending, rfl, rfl⟩, rfl, rfl, rfl⟩, _, _, _, ⟨-, rfl⟩, free, _, _, ⟨-, hfree⟩, _, _, _,
    ⟨rfl, rfl, rfl⟩, row, _, d₁, ⟨-, hupdate⟩, _, _, d₂, hrest, -, -, rfl⟩, -, -, hafter⟩ := h
  rcases hfree with ⟨-, hhash, rfl⟩ | ⟨h, -⟩
  case inr => cases h
  have hold : update (update e.before (.tokenHash i.tokenHash) none)
      (.tokenHash hash) (some id) (.invitation id) = some i := by
    rw [update_of_ne (by simp), update_of_ne (by simp), hrow]
  rcases hupdate with ⟨-, hnone, -⟩ | ⟨old, new, -, hold', hnew, rfl⟩
  · cases hnone i hold
  rw [hold] at hold'
  cases hold'
  cases hnew
  have hframe := (hrest.evolves (invalidate_frame id now states)).1
  refine ⟨i, hrow, fun i' hi' => ?_, fun hne => ?_, ⟨i.rotate hash expiresAt now, ?_, rfl⟩,
    fun id' hne => ?_, fun hash' => ?_⟩
  · cases hi'
    exact hpending.1
  · rwa [update_of_ne (by simpa [eq_comm] using hne)] at hhash
  · rw [hafter, hframe (.invitation id) trivial, update_self]
  · rw [hafter, hframe (.invitation id') trivial, update_of_ne (by simpa using hne),
      update_of_ne (by simp), update_of_ne (by simp)]
  · rw [hafter, hframe (.tokenHash hash') trivial, update_of_ne (by simp)]
    split
    case isTrue heq =>
      subst heq
      exact update_self _ _ _
    case isFalse hne =>
      rw [update_of_ne (by simpa using hne)]
      split
      case isTrue heq =>
        cases heq
        exact update_self _ _ _
      case isFalse hne' => exact update_of_ne (by simpa [eq_comm] using hne') _ _

/-- A command gives a token hash to one invitation, or only settles invitations. -/
theorem gives_or_settles (h : Runs e) :
    (∀ k, settling.rel k (e.before k) (e.after k)) ∨
      ∃ id hash old, e.cmd.Issues hash ∧ Gives e id hash old := by
  by_cases hc : ∃ hash, e.cmd.Issues hash
  · right
    obtain ⟨hash, hc⟩ := hc
    rcases hc with ⟨id, target, by_, now, heq⟩ | ⟨id, expiresAt, now, states, heq⟩
    · exact ⟨id, hash, none, .inl ⟨id, target, by_, now, heq⟩, createInvitation_runs h heq⟩
    · obtain ⟨i, hgives⟩ := rotateInvitation_runs h heq
      exact ⟨id, hash, some i, .inr ⟨id, expiresAt, now, states, heq⟩, hgives⟩
  · left
    have hnone : ∀ hash, ¬ e.cmd.Issues hash := fun hash hissues => hc ⟨hash, hissues⟩
    exact settles_of_runs h hnone

/-! ## Along a run -/

/-- The index leads from a token hash to the one invitation that has it. -/
def Indexed (d : Db) : Prop :=
  ∀ hash id, d (.tokenHash hash) = some id ↔
    ∃ i : Invitation, d (.invitation id) = some i ∧ i.tokenHash = hash

theorem Settles.hash_iff {row row'} (h : Settles row row') (hash : Bytes) :
    (∃ i, row' = some i ∧ i.tokenHash = hash) ↔ ∃ i, row = some i ∧ i.tokenHash = hash := by
  cases row with
  | none => rw [h.1 rfl]
  | some i =>
    obtain ⟨i', hi', hhash, -⟩ := h.2 i rfl
    rw [hi']
    simp [hhash]

theorem indexed_of_runs (h : Runs e) (hbefore : Indexed e.before) : Indexed e.after := by
  intro hash id
  rcases gives_or_settles h with hsettles |
    ⟨id₀, hash₀, old, -, hold, -, hfree, hnew, hother, hindex⟩
  · have hhash : e.after (.tokenHash hash) = e.before (.tokenHash hash) :=
      hsettles (.tokenHash hash)
    have hrow : Settles (e.before (.invitation id)) (e.after (.invitation id)) :=
      hsettles (.invitation id)
    rw [hhash, hbefore hash id]
    exact (hrow.hash_iff hash).symm
  -- The hash that the invitation had leads to it.
  have holdIndex : ∀ hash', old.map (·.tokenHash) = some hash' ↔
      e.before (.tokenHash hash') = some id₀ := by
    intro hash'
    rw [hbefore hash' id₀, hold]
    exact Option.map_eq_some_iff
  rw [hindex hash]
  by_cases hid : id = id₀
  · subst hid
    obtain ⟨i, hi, hih⟩ := hnew
    rw [hi]
    split
    case isTrue heq => exact ⟨fun _ => ⟨i, rfl, hih.trans heq.symm⟩, fun _ => rfl⟩
    case isFalse hne =>
      have hright : ¬ ∃ i', some i = some i' ∧ i'.tokenHash = hash := by
        rintro ⟨i', heq, hi'⟩
        cases heq
        exact hne (hi'.symm.trans hih)
      refine iff_of_false (fun hsome => ?_) hright
      split at hsome
      · cases hsome
      case isFalse hold' => exact hold' ((holdIndex hash).mpr hsome)
  · rw [hother id hid, ← hbefore hash id]
    split
    case isTrue heq =>
      subst heq
      refine iff_of_false (fun hsome => hid (Option.some.inj hsome).symm) fun hsome => ?_
      by_cases hmine : old.map (·.tokenHash) = some hash
      · rw [(holdIndex hash).mp hmine] at hsome
        exact hid (Option.some.inj hsome).symm
      · rw [hfree hmine] at hsome
        cases hsome
    case isFalse hne =>
      split
      case isTrue hmine =>
        rw [(holdIndex hash).mp hmine]
        refine iff_of_false (fun hsome => ?_) fun hsome => hid (Option.some.inj hsome).symm
        cases hsome
      case isFalse => exact Iff.rfl

/-- An invitation that is not pending any more never changes. -/
theorem frozen_of_runs (h : Runs e) (hi : e.before (.invitation id) = some i)
    (hstatus : i.status ≠ .pending) : e.after (.invitation id) = some i := by
  rcases gives_or_settles h with hsettles | ⟨id₀, hash₀, old, -, hold, hpending, -, -, hother, -⟩
  · have hrow : Settles (e.before (.invitation id)) (e.after (.invitation id)) :=
      hsettles (.invitation id)
    obtain ⟨i', hi', -, hsame⟩ := hrow.2 i hi
    rw [hi', hsame hstatus]
  · have hne : id ≠ id₀ := by
      rintro rfl
      exact hstatus (hpending i (hold.symm.trans hi))
    rw [hother id hne, hi]

/-- A token hash that no invitation has stays so until it is given to one. -/
theorem free_of_runs (h : Runs e) (hc : ¬ e.cmd.Issues hash)
    (hfree : e.before (.tokenHash hash) = none) : e.after (.tokenHash hash) = none := by
  rcases gives_or_settles h with hsettles | ⟨id₀, hash₀, old, hissues, -, -, -, -, -, hindex⟩
  · exact (hsettles (.tokenHash hash)).trans hfree
  · have hne : hash ≠ hash₀ := by
      rintro rfl
      exact hc hissues
    rw [hindex hash, if_neg hne]
    split
    · rfl
    · exact hfree

theorem consumes_runs (h : Runs e) {stateHash} (hc : Consumes e stateHash) :
    ∃ t t' : AuthorizationTransaction, e.before (.authorization stateHash) = some t ∧
      t.consumedAt = none ∧ e.after (.authorization stateHash) = some t' ∧
      t'.consumedAt ≠ none := by
  obtain ⟨now, hc⟩ := hc
  rw [Runs, hc] at h
  simp only [statements, consumeAuthorizationState, rules, runs_update] at h
  obtain ⟨_, _, _, ⟨_, _, _, ⟨rfl, rfl, rfl⟩, t, _, _, ⟨hrow, rfl, rfl⟩, _, _, _,
    ⟨hopen, rfl, rfl⟩, _, _, _, ⟨-, hupdate⟩, -, -, rfl⟩, -, -, hafter⟩ := h
  rcases hupdate with ⟨-, hnone, -⟩ | ⟨old, new, -, -, hnew, rfl⟩
  · cases hnone t hrow
  · cases hnew
    refine ⟨t, old.consume now, hrow, hopen.1, ?_, Option.some_ne_none _⟩
    rw [hafter, update_self]

variable {users : Id → Option Bool} {es : List IdentityEvent} {cfg : IdentityConfig}
  {newer older : List Entry}

theorem indexed_initial (users : Id → Option Bool) : Indexed (Db.initial users) := by
  intro hash id
  simp [Db.initial]

theorem indexed_of_serial (h : Serial prog (fun _ => Rows.locked) (Db.initial users) older d) :
    Indexed d :=
  h.invariant (indexed_initial users) fun _ hv hb => indexed_of_runs (runs_of_valid hv) hb

theorem frozen_of_serial (h : Serial prog (fun _ => Rows.locked) d₀ newer d)
    (hi : d₀ (.invitation id) = some i) (hstatus : i.status ≠ .pending) :
    d (.invitation id) = some i :=
  h.invariant (P := fun d => d (.invitation id) = some i) hi fun _ hv hb =>
    frozen_of_runs (runs_of_valid hv) hb hstatus

theorem free_of_serial (h : Serial prog (fun _ => Rows.locked) d₀ newer d)
    (hc : ∀ e ∈ newer, ¬ e.cmd.Issues hash) (hfree : d₀ (.tokenHash hash) = none) :
    d (.tokenHash hash) = none := by
  induction newer generalizing d with
  | nil => exact (show d = d₀ from h) ▸ hfree
  | cons e newer ih =>
    obtain ⟨rfl, hv, hs⟩ := h
    have hbefore := ih hs fun e' he' => hc e' (List.mem_cons_of_mem e he')
    exact free_of_runs (runs_of_valid hv) (hc e List.mem_cons_self) hbefore

/-- A revocation leaves the token hash of the invitation as it is. -/
theorem revokeInvitation_runs (h : Runs e) {states}
    (hc : e.cmd = .revokeInvitation id now states) :
    ∃ i : Invitation, e.before (.invitation id) = some i ∧
      e.after (.invitation id) = some (i.revoke now) := by
  rw [Runs, hc] at h
  simp only [statements, revokeInvitation, lockPendingInvitation, steps] at h
  obtain ⟨i, hi, hpending, ⟨-, hno, -⟩ | ⟨old, new, hold, hnew, -, hrest⟩⟩ := h
  · cases hno
  cases hi.symm.trans hold
  rw [if_pos hpending.1] at hnew
  cases hnew
  obtain ⟨_, _, _, hinvalidate, -, -, hafter⟩ := runs_bind.mp hrest
  have hframe := (hinvalidate.evolves (invalidate_frame id now states)).1 (.invitation id) trivial
  exact ⟨i, hi, by rw [hafter, hframe, update_self]⟩

/-! ## The results -/

/-- The token hash is the one of an invitation that was revoked, or was taken from an invitation by
a rotation and given to none since. -/
def Retired (log : List Entry) (hash : Bytes) : Prop :=
  (∃ e ∈ log, ∃ id now states, e.cmd = .revokeInvitation id now states ∧
    ∃ i : Invitation, e.before (.invitation id) = some i ∧ i.tokenHash = hash) ∨
  ∃ newer e older, log = newer ++ e :: older ∧
    (∃ id new expiresAt now states, e.cmd = .rotateInvitation id new expiresAt now states ∧
      ∃ i : Invitation, e.before (.invitation id) = some i ∧ i.tokenHash = hash) ∧
    ∀ e' ∈ newer ++ [e], ¬ e'.cmd.Issues hash

/-- No pending invitation has a token hash that is retired. -/
theorem retired_of_serial (h : Serial prog (fun _ => Rows.locked) (Db.initial users) older d)
    (hretired : Retired older hash) (hi : d (.invitation id) = some i)
    (hstatus : i.status = .pending) : i.tokenHash ≠ hash := by
  intro hhash
  have hindexed := indexed_of_serial h
  have hid : d (.tokenHash hash) = some id := (hindexed hash id).mpr ⟨i, hi, hhash⟩
  rcases hretired with ⟨e₀, hmem, id₀, now, states, hc, i₀, hi₀, hhash₀⟩ |
    ⟨newer, e₀, older, rfl, ⟨id₀, new, expiresAt, now, states, hc, i₀, hi₀, hhash₀⟩, hissues⟩
  · obtain ⟨newer, older, rfl⟩ := List.append_of_mem hmem
    obtain ⟨hnewer, hvalid, -⟩ := h.split
    obtain ⟨i₁, hold, hrevoked⟩ := revokeInvitation_runs (runs_of_valid hvalid) hc
    cases hi₀.symm.trans hold
    have hstays := frozen_of_serial hnewer hrevoked nofun
    have hid₀ : d (.tokenHash hash) = some id₀ := (hindexed hash id₀).mpr ⟨_, hstays, hhash₀⟩
    cases hid.symm.trans hid₀
    cases hi.symm.trans hstays
    cases hstatus
  · obtain ⟨hnewer, hvalid, -⟩ := h.split
    obtain ⟨i₁, hold, -, -, -, -, hindex⟩ := rotateInvitation_runs (runs_of_valid hvalid) hc
    cases hi₀.symm.trans hold
    have hne : hash ≠ new := by
      rintro rfl
      exact hissues e₀ (by simp) (.inr ⟨id₀, expiresAt, now, states, hc⟩)
    have hgone : e₀.after (.tokenHash hash) = none := by
      rw [hindex hash, if_neg hne, Option.map_some, hhash₀, if_pos rfl]
    have hfree := free_of_serial hnewer
      (fun e' he' => hissues e' (List.mem_append_left _ he')) hgone
    cases hid.symm.trans hfree

/-- In every interleaving, an invitation is accepted at most once, while it is pending and has not
expired, by the principal it names and with its token hash of that moment; a token hash that was
rotated away, or is the one of a revoked invitation, is not accepted any more; and an authorization
state is consumed at most once. -/
theorem invitation_accepted_once (h : runIdentity users es = some cfg) :
    (∀ newer e older id lookup key now, cfg.log = newer ++ e :: older →
      Accepts e id lookup key now →
      (∃ i : Invitation, e.before (.invitation id) = some i ∧ i.status = .pending ∧
        now < i.expiresAt ∧ i.target = key ∧ i.tokenHash = lookup.tokenHash) ∧
      (∀ e' ∈ newer, ∀ lookup' key' now', ¬ Accepts e' id lookup' key' now') ∧
      ¬ Retired older lookup.tokenHash) ∧
    ∀ newer e older stateHash, cfg.log = newer ++ e :: older → Consumes e stateHash →
      ∀ e' ∈ newer, ¬ Consumes e' stateHash := by
  have hserial := serial_of_run h
  constructor
  · intro newer e older id lookup key now hlog haccepts
    rw [hlog] at hserial
    obtain ⟨hnewer, hvalid, holder⟩ := hserial.split
    obtain ⟨i, hi, ⟨hstatus, hexpiry, htarget⟩, hholds, i', hi', hstatus'⟩ :=
      accepts_runs (runs_of_valid hvalid) haccepts
    refine ⟨⟨i, hi, hstatus, hexpiry, htarget, hholds.1⟩, ?_, ?_⟩
    · intro e' hmem lookup' key' now' haccepts'
      obtain ⟨newer', older', rfl⟩ := List.append_of_mem hmem
      obtain ⟨-, hvalid', holder'⟩ := hnewer.split
      obtain ⟨j, hj, hmatches, -⟩ := accepts_runs (runs_of_valid hvalid') haccepts'
      have hstays := frozen_of_serial holder' hi' (by rw [hstatus']; decide)
      cases hj.symm.trans hstays
      cases hstatus'.symm.trans hmatches.1
    · intro hretired
      exact retired_of_serial holder hretired hi hstatus hholds.1
  · intro newer e older stateHash hlog hconsumes e' hmem hconsumes'
    rw [hlog] at hserial
    obtain ⟨hnewer, hvalid, -⟩ := hserial.split
    obtain ⟨newer', older', rfl⟩ := List.append_of_mem hmem
    obtain ⟨-, hvalid', holder'⟩ := hnewer.split
    obtain ⟨-, t', -, -, ht', hconsumed⟩ := consumes_runs (runs_of_valid hvalid) hconsumes
    obtain ⟨t, -, ht, hopen, -⟩ := consumes_runs (runs_of_valid hvalid') hconsumes'
    obtain ⟨t'', ht'', hstays⟩ := evolves_of_serial holder' (.authorization stateHash)
      (by simp) t' ht'
    cases ht.symm.trans ht''
    exact hstays hconsumed hopen

/-! ## A token that is rotated and one that is revoked -/

def sampleTarget (subjectId : String) : PrincipalKey := ⟨"lark", "tenant", subjectId⟩

/-- The invitation is created and its token rotated; a login with the old token is refused, one with
the new token accepts the invitation, and a second one is refused. Another invitation is revoked,
and a login with its token is refused. -/
def rotatedInvitation : List IdentityEvent :=
  .connect (.script [.createInvitation 1 (sampleTarget "a") [1] 7 0,
    .rotateInvitation 1 [2] invitationLifetime 1 [],
    .acceptInvitation (.byHash [1]) (sampleTarget "a") ⟨9, 9⟩ 5 none 2,
    .acceptInvitation (.byId 1 [2]) (sampleTarget "a") ⟨9, 9⟩ 5 none 3,
    .acceptInvitation (.byId 1 [2]) (sampleTarget "a") ⟨9, 9⟩ 6 none 4,
    .createInvitation 2 (sampleTarget "b") [3] 7 5, .revokeInvitation 2 6 [],
    .acceptInvitation (.byHash [3]) (sampleTarget "b") ⟨9, 9⟩ 6 none 7]) ::
      List.replicate 72 (.advance 0)

def invitationStatus (e : Entry) (id : Id) : Option InvitationStatus :=
  (e.after (.invitation id) : Option Invitation).map (·.status)

theorem invitation_accepted_once_rotated :
    ∃ cfg, runIdentity (fun _ => none) rotatedInvitation = some cfg ∧
      cfg.log.map (fun e => [1, 2].map (invitationStatus e)) =
        [[some .accepted, some .revoked], [some .accepted, some .pending], [some .accepted, none],
          [some .pending, none], [some .pending, none]] ∧
      ∀ newer e older id lookup key now, cfg.log = newer ++ e :: older →
        Accepts e id lookup key now → (∀ e' ∈ newer, ∀ lookup' key' now',
          ¬ Accepts e' id lookup' key' now') ∧ ¬ Retired older lookup.tokenHash := by
  obtain ⟨cfg, hrun, hseen⟩ : ∃ cfg, runIdentity (fun _ => none) rotatedInvitation = some cfg ∧
      cfg.log.map (fun e => [1, 2].map (invitationStatus e)) =
        [[some .accepted, some .revoked], [some .accepted, some .pending], [some .accepted, none],
          [some .pending, none], [some .pending, none]] := by decide +kernel
  refine ⟨cfg, hrun, hseen, fun newer e older id lookup key now hlog haccepts => ?_⟩
  exact ((invitation_accepted_once hrun).1 newer e older id lookup key now hlog haccepts).2

end Pactline.Identity
