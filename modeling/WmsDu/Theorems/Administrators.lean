import WmsDu.User.Admins

/-!
# There is always an administrator

A removal counts the administrators in one statement and takes its user's
administration in another, without a lock. As long as no two removals of
different users overlap, the one that was counted beside the user is still
there; otherwise two removals count each other's user and leave none.
-/

namespace WmsDu

open Txn

/-- A pool of admin calls. -/
abbrev UserPool := Pool (Stmt UserDb UserRedo UserErr) UserDb UserLock UserRedo UserErr UserCall Unit

/-- **An administrator remains.** In every committed state that calls reach
without overlapping removals of different users, some active user holds
`page.admin.write`. -/
theorem an_administrator_remains {db : UserDb} (hdb : db.HasAdmin) {calls : List UserCall}
    {p : UserPool}
    (h : Pool.Reach UserCall.prog (userTerms db.rootPages) (.fresh db calls) p) :
    p.shared.HasAdmin := by
  have hgov : Pool.Governed (userDiscipline db.rootPages) p :=
    Pool.Governed.reach (.fresh (D := userDiscipline db.rootPages) ⟨rfl, hdb⟩ calls) h
  exact hgov.inv.2

/-! ## Overlapping removals -/

/-- Two administrators and the page of their permission. -/
def sampleUserDb : UserDb where
  users := ⟨[{ id := 1, username := "ann" }, { id := 2, username := "bob" }], by decide⟩
  permissions := ⟨[⟨1, "page.admin.read"⟩, ⟨2, "page.admin.write"⟩], by decide⟩
  userPermissions := ⟨[⟨1, 1⟩, ⟨1, 2⟩, ⟨2, 1⟩, ⟨2, 2⟩], by decide⟩
  pages := ⟨[⟨"admin", "admin", 1, true, false, some 1, some 2⟩], by decide⟩

def sampleDeactivate (userId : Int) : UserCall := .updateUser userId { isActive := some false }

/-- The second user takes the first one's write cell. -/
def sampleTakeWrite : UserCall :=
  .updateMatrixForUser 1 2 { pageCodes := ["admin"], pages := [("admin", { read := true })] }

/-- One call after the other: the first user loses the permission, a third one
comes with it, and the second one is deleted. -/
theorem an_administrator_remains_sample :
    let p : UserPool := (Pool.fresh sampleUserDb
      [sampleTakeWrite, sampleDeactivate 2, .createUser { username := "eve", permissionIds := [2] } 3,
        .deleteUser 2]).run UserCall.prog ([0, 1, 2, 3].flatMap (List.replicate 14))
    p.shared.HasAdmin ∧ (p.shared.users.rows.map fun u => u.id) = [1, 3] ∧
      p.shared.permissionNames 1 = ["page.admin.read"] := by
  have hadmin : sampleUserDb.HasAdmin := by decide
  refine ⟨an_administrator_remains hadmin (Pool.Keeps.reach ?_), ?_, ?_⟩
  · decide
  · decide
  · decide

/-- Two administrators are deactivated side by side: each is counted as the
other's substitute. -/
theorem an_administrator_remains_not :
    sampleUserDb.HasAdmin ∧ ∃ p : UserPool, Pool.Reach UserCall.prog .free
      (.fresh sampleUserDb [sampleDeactivate 1, sampleDeactivate 2]) p ∧ ¬ p.shared.HasAdmin := by
  refine ⟨by decide, _,
    Pool.reach_run _ (List.replicate 4 0 ++ List.replicate 8 1 ++ List.replicate 4 0), ?_⟩
  decide

end WmsDu
