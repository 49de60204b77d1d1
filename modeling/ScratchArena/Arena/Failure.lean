/-! # Failures of an arena — causes and their wording -/

namespace ScratchArena

/-- Why an operation on an arena failed. -/
inductive Failure where
  /-- The heap refused a chunk of `requested` bytes. -/
  | outOfMemory (requested : Nat)
  /-- `requested` bytes on top of `total` in use do not stay below `limit`. -/
  | overflow (requested total limit : Nat)
  /-- The checkpoint no longer matches the arena. -/
  | staleCheckpoint
  /-- The checkpoint belongs to another arena. -/
  | foreignCheckpoint
  /-- The settings cannot work. -/
  | invalidSettings (reason : String)
deriving DecidableEq, Repr

/-- A failure in words. -/
def Failure.message : Failure → String
  | .outOfMemory requested =>
      "Out of memory: cannot allocate a chunk of " ++ toString requested ++ " bytes"
  | .overflow requested total limit =>
      "Allocation overflow: " ++ toString requested ++ " bytes requested with "
        ++ toString total ++ " in use exceeds limit " ++ toString limit
  | .staleCheckpoint => "Snapshot is stale: the arena was reset or rolled back past it"
  | .foreignCheckpoint => "Snapshot belongs to a different arena"
  | .invalidSettings reason => "Invalid arena config: " ++ reason

end ScratchArena
