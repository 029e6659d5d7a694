import Pactline.Encoding.Paths
import Pactline.Model.Idempotency

/-!
# The local object store

Where `internal/blob/local.go` puts the object of a key below its root directory.
-/

set_option autoImplicit false

namespace Pactline.LocalStore

open Paths

/-- The path leads out of the directory it starts in. -/
def leavesRoot (path : Bytes) : Bool := path = up || (up ++ [sep]).isPrefixOf path

/-- `LocalStore.path`, `local.go` 126-137. -/
def path (root key : Bytes) : Option Bytes :=
  let key := clean (trimSpaceBytes key)
  if key = dot ∨ isAbs key ∨ leavesRoot key then none
  else
    let path := join root key
    match rel root path with
    | none => none
    | some relative => if leavesRoot relative then none else some path

end Pactline.LocalStore
