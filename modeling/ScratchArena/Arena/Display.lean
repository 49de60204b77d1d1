import ScratchArena.Arena.Guard
import ScratchArena.Text.Braces
import ScratchArena.Text.Quoted

/-! # Display — arenas and checkpoints shown for inspection

    The identity of an arena is not shown: it only tells arenas of one
    process apart. -/

namespace ScratchArena

open Text

/-- The identity of an arena, without its number. -/
def hiddenId : String := applied "ArenaId" "_"

/-- The debug text of a failure. -/
def Failure.display : Failure → String
  | .outOfMemory requested => braced "OutOfMemory" [("requested", toString requested)]
  | .overflow requested total limit =>
      braced "AllocationOverflow"
        [("requested", toString requested), ("total", toString total), ("limit", toString limit)]
  | .staleCheckpoint => "StaleSnapshot"
  | .foreignCheckpoint => "ForeignSnapshot"
  | .invalidSettings reason => applied "InvalidConfig" (quoted reason)

/-- The debug text of a growth. -/
def Growth.display : Growth → String
  | .extend capacity => braced "Extend" [("capacity", toString capacity)]
  | .replace capacity => braced "Replace" [("capacity", toString capacity)]

/-- The debug text of a position. -/
def Position.display (p : Position) : String :=
  braced "Position"
    [("chunk", applied "ChunkId" (toString p.chunk)), ("offset", toString p.offset)]

/-- The debug text of a checkpoint. -/
def Checkpoint.display (c : Checkpoint) : String :=
  braced "Checkpoint"
    [("arena", hiddenId), ("generation", toString c.generation.toNat),
      ("mark", toString c.mark), ("position", optional (c.position.map Position.display)),
      ("total", toString c.total)]

/-- The debug text of a guard. -/
def Guard.display (g : Guard) : String :=
  braced "Snapshot" [("checkpoint", optional (g.checkpoint.map Checkpoint.display))]

/-- The debug text of an arena: its counters and how many chunks it has. -/
def Arena.display (a : Arena) : String :=
  braced "Arena"
    [("id", hiddenId), ("generation", toString a.generation.toNat),
      ("size", toString a.total), ("max", toString a.peak),
      ("capacity", toString a.capacity), ("chunks", toString a.chunks.length)]

end ScratchArena
