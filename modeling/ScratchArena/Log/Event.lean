import ScratchArena.Arena.Failure
import ScratchArena.Log.Level

/-! # Log events — what an arena reports about itself

    An event is a fact about an arena, and `record` is how it is logged:
    a level, a target, a message and named fields.  Field names are the
    same wherever an event of that kind is logged. -/

namespace ScratchArena

/-- Why a checkpoint is not rolled back. -/
inductive Rejection where
  | foreignArena
  | arenaReset
  | outOfOrder
  | rolledBackPast
  | chunkReleased
deriving DecidableEq, Repr

/-- A rejection in the words of the log. -/
def Rejection.reason : Rejection → String
  | .foreignArena => "foreign arena"
  | .arenaReset => "arena was reset"
  | .outOfOrder => "rolled back out of order"
  | .rolledBackPast => "rolled back past it"
  | .chunkReleased => "chunk released"

/-- The failure a rejected rollback answers with: only an arena that the
    checkpoint does not belong to makes it foreign. -/
def Rejection.failure : Rejection → Failure
  | .foreignArena => .foreignCheckpoint
  | _ => .staleCheckpoint

/-- What an arena reports about itself. -/
inductive Event where
  | allocated (size padding total : Nat)
  | chunkAcquired (chunk capacity : Nat) (extended : Bool)
  | chunkReleased (chunk capacity : Nat)
  | coalescing (freedChunks peak : Nat)
  | coalescingFailed (failure : Failure)
  | rollbackRejected (rejection : Rejection) (captured total : Nat)
  | allocationFailed (failure : Failure)
  | aborting (failure : Failure)
deriving DecidableEq, Repr

/-- The value of a field of a record. -/
inductive FieldValue where
  | count (n : Nat)
  | flag (b : Bool)
  /-- Text that a log line puts in quotes. -/
  | quoted (text : String)
  /-- Text that a log line leaves bare. -/
  | bare (text : String)
  /-- A memory address, which differs from run to run and is not shown. -/
  | address
deriving DecidableEq, Repr

/-- An event as it is logged. -/
structure Record where
  level : Level
  target : String
  message : String
  fields : List (String × FieldValue)
deriving DecidableEq, Repr

/-- The fields but addresses, which differ from run to run. -/
def Record.shown (r : Record) : List (String × FieldValue) := r.fields.filter (·.2 ≠ .address)

namespace Event

/-- The target of what concerns allocations. -/
def allocTarget : String := "stored_arena::alloc"

/-- The target of what concerns chunks. -/
def chunkTarget : String := "stored_arena::chunk"

/-- The target of what concerns checkpoints. -/
def snapshotTarget : String := "stored_arena::snapshot"

/-- How an event is logged: its level, its target, its message and its
    fields. -/
def record : Event → Record
  | .allocated size padding total =>
      ⟨.trace, allocTarget, "allocated",
        [("size", .count size), ("padding", .count padding), ("total", .count total),
          ("address", .address)]⟩
  | .chunkAcquired chunk capacity extended =>
      ⟨.debug, chunkTarget, "chunk acquired",
        [("chunk", .count chunk), ("capacity", .count capacity), ("extended", .flag extended)]⟩
  | .chunkReleased chunk capacity =>
      ⟨.debug, chunkTarget, "chunk released",
        [("chunk", .count chunk), ("capacity", .count capacity)]⟩
  | .coalescing freedChunks peak =>
      ⟨.debug, chunkTarget, "coalescing chunks",
        [("freed_chunks", .count freedChunks), ("peak", .count peak)]⟩
  | .coalescingFailed failure =>
      ⟨.warn, chunkTarget, "could not coalesce chunks", [("error", .bare failure.message)]⟩
  | .rollbackRejected rejection captured total =>
      ⟨.warn, snapshotTarget, "rollback rejected",
        [("reason", .quoted rejection.reason), ("captured_total", .count captured),
          ("total", .count total)]⟩
  | .allocationFailed failure =>
      ⟨.error, allocTarget, "allocation failed", [("error", .bare failure.message)]⟩
  | .aborting failure =>
      ⟨.error, allocTarget, "unrecoverable arena failure, aborting",
        [("error", .bare failure.message)]⟩

end Event

end ScratchArena
