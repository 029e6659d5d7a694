import Pactline.Analysis.Workspaces
import Pactline.Results.TaskStructure

/-!
# Repository Connections

A Connection to which some Project is bound is active, and its repository never changes. Binding a
repository locks the Connection `FOR SHARE` and disabling it locks it `FOR UPDATE`, so that neither
can miss the other.
-/

set_option autoImplicit false

namespace Pactline

open ReadCommitted Workspace

variable {k p : Id} {x x' : ConnectionRecord}

section Invariant

variable {platform : Platform} {active opened : Prop} {held : List (Lock WorkRow)}
  {d d' : Workspace} {c : Command}

/-- Whatever a Project is bound to is an active Connection. -/
def Workspace.BoundActive (d : Workspace) : Prop :=
  ∀ p k, d.Bound p k → ∃ x, d.connections.lookup k = some x ∧ x.connection.status = .active

theorem boundActive_empty : empty.BoundActive := by
  rintro p k ⟨r, hr, -⟩
  cases hr

/-- A Connection to which a Project is bound is not disabled. -/
theorem ConnectionStep.staysActive (h : ConnectionStep d k c x x') (hbound : d.Bound p k)
    (hactive : x.connection.status = .active) : x'.connection.status = .active := by
  cases h with
  | validate => exact hactive
  | disable hfree => exact absurd hbound (hfree p)

/-- A commit leaves the repository of a Connection alone. -/
theorem ConnectionStep.identity (h : ConnectionStep d k c x x') :
    x'.connection.provider = x.connection.provider ∧ x'.connection.origin = x.connection.origin ∧
      x'.connection.providerRepositoryId = x.connection.providerRepositoryId := by
  cases h <;> exact ⟨rfl, rfl, rfl⟩

/-- An active binding is an old one, or was made on an active Connection that nobody can disable
before the commit. -/
theorem WorkStep.bound (h : WorkStep platform active opened held d d' c) (hbound : d'.Bound p k) :
    d.Bound p k ∨ (∃ x, d.connections.lookup k = some x ∧ x.connection.status = .active) ∧
      ∀ x x', ¬ ConnectionStep d k c x x' := by
  obtain ⟨r', hr', hbinds⟩ := hbound
  have hchange := h.projectChange hr'
  generalize hr : d.project p = old at hchange
  cases hchange with
  | same => exact .inl ⟨r', hr, hbinds⟩
  | create =>
    obtain ⟨b, hb, -⟩ := hbinds
    cases hb
  | @step r _ step =>
    rcases step.binds hbinds with hold | ⟨-, hactive⟩
    · exact .inl ⟨r, hr, hold⟩
    · refine .inr ⟨hactive, fun x x' hconnection => ?_⟩
      cases hconnection <;> cases step

/-- A commit leaves bound Connections active. -/
theorem WorkStep.boundActive (h : WorkStep platform active opened held d d' c)
    (hd : d.BoundActive) : d'.BoundActive := by
  intro p k hbound
  rcases h.bound hbound with hold | ⟨⟨x, hx, hactive⟩, hnone⟩
  · obtain ⟨x, hx, hactive⟩ := hd p k hold
    obtain ⟨x', hx', hsame | hstep⟩ := h.connectionChange hx
    · exact ⟨x', hx', by rw [hsame]; exact hactive⟩
    · exact ⟨x', hx', hstep.staysActive hold hactive⟩
  · obtain ⟨x', hx', hsame | hstep⟩ := h.connectionChange hx
    · exact ⟨x', hx', by rw [hsame]; exact hactive⟩
    · exact absurd hstep (hnone x x')

end Invariant

/-- The repository that a Connection names. -/
def RepositoryConnection.identity (c : RepositoryConnection) :
    RepositoryProvider × String × String :=
  (c.provider, c.origin, c.providerRepositoryId)

/-- In every committed database no disabled Connection has an active binding, and a Connection keeps
its provider, its origin and its provider repository ID from the commit that made it on. -/
theorem connections_bound_and_fixed {platform : Platform} {es : WorkSchedule} {cfg : WorkConfig}
    (h : runWork platform empty es = some cfg) :
    (∀ p k x, cfg.db.connections.lookup k = some x → x.connection.status = .disabled →
      ¬ cfg.db.Bound p k) ∧
    ∀ newer e older, cfg.log = newer ++ e :: older →
      ∀ k x, e.after.connections.lookup k = some x →
        ∃ x', cfg.db.connections.lookup k = some x' ∧
          x'.connection.identity = x.connection.identity := by
  have hhistory := workHistory_of_runWork lawful_empty h
  constructor
  · intro p k x hx hdisabled hbound
    have hactive : cfg.db.BoundActive := hhistory.invariant lawful_empty boundActive_empty
      fun e _ hstep _ hbefore => hstep.boundActive hbefore
    obtain ⟨x', hx', hstatus⟩ := hactive p k hbound
    obtain rfl := Option.some.inj (hx'.symm.trans hx)
    rw [hdisabled] at hstatus
    cases hstatus
  · intro newer e older hlog k x hx
    rw [hlog] at hhistory
    obtain ⟨hlater, hv, hearlier⟩ := Serial.split hhistory
    refine Serial.invariant hlater (P := fun d => ∃ x', d.connections.lookup k = some x' ∧
      x'.connection.identity = x.connection.identity) ⟨x, hx, rfl⟩ ?_
    rintro e' hv' ⟨x₁, hx₁, hidentity⟩
    obtain ⟨x', hx', hsame | hstep⟩ := (workStep_of_valid hv').connectionChange hx₁
    · exact ⟨x', hx', by rw [hsame]; exact hidentity⟩
    · obtain ⟨hprovider, horigin, hrepository⟩ := hstep.identity
      refine ⟨x', hx', ?_⟩
      rw [← hidentity]
      unfold RepositoryConnection.identity
      rw [hprovider, horigin, hrepository]

/-! ## A sample -/

/-- `n` statements of session `i`. -/
def workAdvances (i n : Nat) : WorkSchedule := List.replicate n (.advance i)

def sampleConnection : RepositoryConnection :=
  { version := 1, label := "code", provider := .gitLab, origin := "https://git"
    providerRepositoryId := "9", pathWithNamespace := "a/b", pathLookupKey := "a/b"
    canonicalWebURL := "https://git/a/b", defaultBranch := "main", credentialCiphertext := [1]
    encryptionKeyId := "key", credentialExpiresAt := none, status := .active, lastValidatedAt := 50
    createdBy := 7, disabledBy := none, disabledAt := none, createdAt := 50, updatedAt := 50 }

/-- User 7 and their Project 5. -/
def sampleProject : List Command :=
  [.createUser 7 ⟨true, .user⟩, .createProject 5 "project" "" 7 sampleOperation 70 60]

/-- Connection 9 is bound to Project 5, unbound and disabled. -/
def disableSchedule : WorkSchedule :=
  .connect (.script (sampleProject ++ [.createConnection 9 sampleConnection sampleOperation,
    .bindRepository 5 1 9 30 sampleOperation 61, .unbindRepository 5 2 30 sampleOperation 62,
    .disableConnection 9 1 sampleOperation 63])) :: workAdvances 0 44

theorem connections_bound_and_fixed_disabled :
    ∃ cfg, runWork asciiPlatform empty disableSchedule = some cfg ∧
      (∃ x, cfg.db.connections.lookup 9 = some x ∧ x.connection.status = .disabled) ∧
      ¬ cfg.db.Bound 5 9 := by
  obtain ⟨cfg, hcfg, x, hx, hdisabled⟩ : ∃ cfg,
      runWork asciiPlatform empty disableSchedule = some cfg ∧
      ∃ x, cfg.db.connections.lookup 9 = some x ∧ x.connection.status = .disabled := by
    decide +kernel
  exact ⟨cfg, hcfg, ⟨x, hx, hdisabled⟩, (connections_bound_and_fixed hcfg).1 5 9 x hx hdisabled⟩

end Pactline
