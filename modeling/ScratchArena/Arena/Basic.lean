import ScratchArena.Alignment
import ScratchArena.Arena.Settings
import ScratchArena.Heap
import ScratchArena.Log.Event
import ScratchArena.Word

/-! # Arenas — a stack of chunks and a bump offset

    An arena keeps the chunks it holds as a stack.  Allocations come from
    the newest chunk; older ones are retired, and live allocations may
    still point into them.  Beside the stack there are three counters: the
    bytes used in the newest chunk, the bytes in use over all chunks
    (padding included), and the highest such total seen.

    `Site` is an arena at work: with the heap it draws chunks from and the
    events it has logged.  Every operation on an arena is a function on
    sites that returns its result beside the new site, also when it
    fails. -/

namespace ScratchArena

/-- A block of the heap in the hands of an arena.  The number of a chunk
    is its own, not the block's, and survives when growth moves the chunk to
    another block. -/
structure Chunk where
  block : Nat
  capacity : Nat
  number : Nat
deriving DecidableEq, Repr

/-- An arena: what it holds and what it counts. -/
structure Arena where
  settings : Settings
  /-- Which arena this is; a checkpoint of another is foreign. -/
  id : Nat
  /-- The chunks held, newest first. -/
  chunks : List Chunk := []
  /-- Bytes used in the newest chunk. -/
  used : Nat := 0
  /-- Bytes handed out over all chunks, padding included. -/
  total : Nat := 0
  /-- Highest total seen. -/
  peak : Nat := 0
  /-- Counts resets, modulo the word size. -/
  generation : UInt64 := 0
  /-- Number of the next chunk. -/
  nextChunk : Nat := 0
  /-- Checkpoints that may still be rolled back, newest first. -/
  marks : List Nat := []
  /-- Mark of the next checkpoint. -/
  nextMark : Nat := 0
deriving DecidableEq, Repr

namespace Arena

/-- The chunk that is allocated from. -/
def current? (a : Arena) : Option Chunk := a.chunks.head?

/-- The chunks that are no longer allocated from, newest first. -/
def retired (a : Arena) : List Chunk := a.chunks.tail

/-- The capacity of the chunk that is allocated from. -/
def currentCapacity (a : Arena) : Nat := (a.current?.map Chunk.capacity).getD 0

/-- Bytes the arena can hold without another chunk. -/
def capacity (a : Arena) : Nat := a.total - a.used + a.currentCapacity

/-- Nothing is in use. -/
def isEmpty (a : Arena) : Bool := a.total == 0

/-- The figures that an arena reports. -/
structure Stats where
  size : Nat
  max : Nat
  capacity : Nat
  chunks : Nat
deriving DecidableEq, Repr

/-- The figures of an arena as it is. -/
def stats (a : Arena) : Stats := ⟨a.total, a.peak, a.capacity, a.chunks.length⟩

end Arena

/-- Where an allocation starts: a block of the heap and an offset in it. -/
structure Pointer where
  block : Nat
  offset : Nat
deriving DecidableEq, Repr

/-- An arena at work. -/
structure Site where
  arena : Arena
  heap : Heap
  /-- Every event the arena has logged, in order. -/
  events : List Event := []

namespace Site

/-- Put an event behind all earlier ones. -/
def log (s : Site) (e : Event) : Site := { s with events := s.events ++ [e] }

/-- Log a failed allocation and answer with the failure. -/
def refuse {α : Type} (s : Site) (failure : Failure) : Except Failure α × Site :=
  (.error failure, s.log (.allocationFailed failure))

/-- Give chunks back to the heap, in order. -/
def release (s : Site) (chunks : List Chunk) : Site :=
  chunks.foldl
    (fun s c => { s.log (.chunkReleased c.number c.capacity) with
      heap := s.heap.free c.block c.capacity })
    s

end Site

end ScratchArena
