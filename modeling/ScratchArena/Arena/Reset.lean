import ScratchArena.Arena.Growth

/-! # Reset — dropping every allocation

    A reset keeps the capacity: several chunks are coalesced into the
    newest one, which is extended to the highest total seen.  Coalescing
    is an optimization, so a refusal is logged and the reset completes.
    `shrinkToFit` gives memory back instead, `dispose` gives all of it
    back. -/

namespace ScratchArena

namespace Arena

/-- The arena with nothing in use, its chunks and its peak kept. -/
def emptied (a : Arena) : Arena := { a with used := 0, total := 0 }

/-- Every checkpoint so far made stale. -/
def nextGeneration (a : Arena) : Arena := { a with generation := a.generation + 1, marks := [] }

end Arena

namespace Site

/-- Drop every allocation and coalesce the chunks. -/
def clear (s : Site) : Site :=
  match s.arena.chunks with
  | chunk :: old :: older =>
      let retired := old :: older
      let s := { s with arena := { s.arena.emptied with chunks := [chunk] } }
      let s := (s.log (.coalescing retired.length s.arena.peak)).release retired.reverse
      match s.reserve s.arena.peak with
      | (.ok _, s) => s
      | (.error e, s) => s.log (.coalescingFailed e)
  | _ => { s with arena := s.arena.emptied }

/-- Drop every allocation, keeping the capacity; all checkpoints become
    stale. -/
def reset (s : Site) : Site := { s with arena := s.arena.nextGeneration }.clear

/-- Give unused memory back.  An empty arena releases all chunks and
    forgets its peak; otherwise only the peak is lowered, since moving
    memory now would break live pointers. -/
def shrinkToFit (s : Site) : Site :=
  if s.arena.isEmpty then
    { s with arena := { s.arena.nextGeneration with chunks := [], used := 0, peak := 0 } }.release
      (s.arena.retired.reverse ++ s.arena.current?.toList)
  else { s with arena := { s.arena with peak := s.arena.total } }

/-- The order in which an arena that goes away frees its chunks: the
    newest, then the retired ones oldest first. -/
def disposal (a : Arena) : List Chunk := a.current?.toList ++ a.retired.reverse

/-- The heap after an arena has gone away; nothing is logged. -/
def dispose (s : Site) : Heap :=
  (disposal s.arena).foldl (fun heap c => heap.free c.block c.capacity) s.heap

end Site

end ScratchArena
