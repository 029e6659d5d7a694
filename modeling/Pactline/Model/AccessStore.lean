import Pactline.Model.ProjectStore

/-!
# Users and access

The part of `internal/store/identity_store.go` that decides which users are active and who is a
platform administrator, and the reads behind `internal/application/project_access.go`. Sessions
and the audit trail of identities are not modelled.
-/

set_option autoImplicit false

namespace Pactline

open ReadCommitted

/-- `UPDATE users SET … WHERE id=$1`, which has to find its row. -/
def updateUser (u : Id) (f : UserRow → UserRow) : WorkTx Unit :=
  withRow Workspace.userTable .user u fun _ => Owned.update f

/-- `DeactivateUser` (`identity_store.go:891-925`). The Projects of the user play no part. -/
def deactivateUser (u : Id) : WorkTx Unit :=
  updateUser u fun row => { row with active := false }

/-- `ReactivateUser` (`identity_store.go:927-940`). -/
def reactivateUser (u : Id) : WorkTx Unit :=
  updateUser u fun row => { row with active := true }

/-- `BootstrapAdmin` (`identity_store.go:489-541`) on the seed user `u`: the one
place where a platform role changes. -/
def bootstrapAdmin (u : Id) : WorkTx Unit := do
  let admins ← Txn.query fun d => d.users.entries.any fun e => e.2.platformRole = .admin
  Txn.require (admins = false) (.unclassified "login denied")
  updateUser u fun _ => { active := true, platformRole := .admin }

/-- A user of `users`, as provisioning inserts it. -/
def createUser (u : Id) (row : UserRow) : WorkTx Unit :=
  insertRow Workspace.userTable .user u row "users_pkey" (return ())

/-- `ProjectStore.GetByNumber` and `GetByID`: one statement without a lock. -/
def getProject (p : Id) : WorkTx Project := do
  let found ← Txn.query fun d => (d.project p).map (·.row)
  Txn.demand found .notFound

/-- `ProjectMembershipStore.Get` (`project_membership_store.go:42-57`). -/
def getMembership (p userId : Id) : WorkTx ProjectMembership := do
  let found ← Txn.query fun d =>
    if d.users.lookup userId = none then none
    else (d.project p).bind fun r => r.members.lookup userId
  Txn.demand found .notFound

/-- `BelongsToProject` (`milestone_store.go:380-388`). -/
def milestoneBelongsToProject (m p : Id) : WorkTx Bool :=
  Txn.query fun d => (d.project p).any fun r => (r.milestones.lookup m).isSome

end Pactline
