import ScratchArena.Arena.Checkpoint

/-! # Guards — rollback at the end of a scope

    A guard holds a checkpoint until it is rolled back or released, and is
    spent from then on: either call answers with the guard that is left.  A
    scope that ends with the guard still live rolls the arena back; a
    rejected rollback has been logged and is otherwise ignored. -/

namespace ScratchArena

/-- A rollback that is pending, or no longer. -/
structure Guard where
  checkpoint : Option Checkpoint
deriving DecidableEq, Repr

/-- A guard with nothing left to roll back. -/
def Guard.spent : Guard := ⟨none⟩

namespace Guard

/-- The rollback is still pending. -/
def isLive (g : Guard) : Bool := g.checkpoint.isSome

/-- Total when the guard was made, while it is live. -/
def captured? (g : Guard) : Option Nat := g.checkpoint.map Checkpoint.total

end Guard

namespace Site

/-- A guard over the arena as it is. -/
def guarded (s : Site) : Guard × Site :=
  match s.checkpoint with
  | (c, s) => (⟨some c⟩, s)

/-- Roll back now, and only once: the guard that is left is spent, whatever
    came of it. -/
def rollbackGuard (s : Site) (g : Guard) : (Except Failure Unit × Guard) × Site :=
  match g.checkpoint with
  | some c =>
      match s.rollback c with
      | (result, s) => ((result, .spent), s)
  | none => ((.ok (), .spent), s)

/-- Keep all allocations; the guard that is left is spent. -/
def releaseGuard (s : Site) (g : Guard) : Guard × Site :=
  match g.checkpoint with
  | some c => (.spent, s.forget c)
  | none => (.spent, s)

/-- The end of the guard's scope; what a rollback answers is ignored. -/
def dropGuard (s : Site) (g : Guard) : Site := (s.rollbackGuard g).2

end Site

end ScratchArena
