import ScratchArena.Arena.Reset

/-! # Checkpoints — rolling back in reverse order

    A checkpoint records where the bump offset was, by chunk number and
    offset rather than by address, together with the arena and its
    generation, so that a stale or foreign checkpoint is detected instead
    of trusted.  An arena keeps the marks of the checkpoints that may
    still be rolled back; rolling one back drops its mark and all newer
    ones. -/

namespace ScratchArena

/-- Where the bump offset was. -/
structure Position where
  chunk : Nat
  offset : Nat
deriving DecidableEq, Repr

/-- A point an arena can be rolled back to, once. -/
structure Checkpoint where
  arena : Nat
  generation : UInt64
  /-- Order of creation within the generation. -/
  mark : Nat
  /-- Nothing when the arena was empty. -/
  position : Option Position
  /-- Total when the checkpoint was taken. -/
  total : Nat
deriving DecidableEq, Repr

/-- What a rollback has to do. -/
inductive Rollback where
  | rejected (why : Rejection)
  /-- The checkpoint is of the empty arena. -/
  | toEmpty
  /-- Free the `depth` newest chunks and resume at `offset`. -/
  | resume (depth offset : Nat)
deriving DecidableEq, Repr

namespace Arena

/-- Where the bump offset is, unless nothing is in use. -/
def position? (a : Arena) : Option Position :=
  if 0 < a.total then a.current?.map fun c => ⟨c.number, a.used⟩ else none

/-- The checkpoint that would be taken now. -/
def checkpoint (a : Arena) : Checkpoint :=
  ⟨a.id, a.generation, a.nextMark, a.position?, a.total⟩

/-- The mark of that checkpoint on record. -/
def marked (a : Arena) : Arena :=
  { a with marks := a.nextMark :: a.marks, nextMark := a.nextMark + 1 }

/-- How many chunks are newer than the one numbered `number`. -/
def chunkDepth? (a : Arena) (number : Nat) : Option Nat :=
  a.chunks.findIdx? (·.number == number)

/-- What rolling back to `c` has to do. -/
def rollbackTo (a : Arena) (c : Checkpoint) : Rollback :=
  if c.arena ≠ a.id then .rejected .foreignArena
  else if c.generation ≠ a.generation then .rejected .arenaReset
  else if c.mark ∉ a.marks then .rejected .outOfOrder
  else
    match c.position with
    | none => .toEmpty
    | some position =>
        if c.total = 0 then .toEmpty
        else if a.total < c.total then .rejected .rolledBackPast
        else
          match a.chunkDepth? position.chunk with
          | none => .rejected .chunkReleased
          | some depth => .resume depth position.offset

/-- The arena without a mark and all newer ones. -/
def dropMarks (a : Arena) (mark : Nat) : Arena := { a with marks := a.marks.filter (· < mark) }

end Arena

namespace Site

/-- Take a checkpoint and put its mark on record. -/
def checkpoint (s : Site) : Checkpoint × Site :=
  (s.arena.checkpoint, { s with arena := s.arena.marked })

/-- Give up a checkpoint, keeping the allocations since. -/
def forget (s : Site) (c : Checkpoint) : Site :=
  if c.arena = s.arena.id ∧ c.generation = s.arena.generation then
    { s with arena := { s.arena with marks := s.arena.marks.filter (· ≠ c.mark) } }
  else s

/-- Undo every allocation since `c` was taken; a rejected checkpoint
    changes nothing. -/
def rollback (s : Site) (c : Checkpoint) : Except Failure Unit × Site :=
  match s.arena.rollbackTo c with
  | .rejected why =>
      (.error why.failure, s.log (.rollbackRejected why c.total s.arena.total))
  | .toEmpty => (.ok (), { s with arena := s.arena.dropMarks c.mark }.clear)
  | .resume depth offset =>
      let s' := s.release (s.arena.chunks.take depth)
      (.ok (),
        { s' with arena := { s.arena.dropMarks c.mark with
                               chunks := s.arena.chunks.drop depth
                               total := c.total
                               used := offset } })

end Site

end ScratchArena
