import ScratchArena.Arena.Basic

/-! # Growth — making room when the newest chunk is too small

    A chunk that nothing points into may move, so it is extended, and the
    arena goes on with the block it then has; any other is retired and a
    new chunk takes over.  A site asks
    its heap at most once per growth, and a refusal leaves the arena as it
    was. -/

namespace ScratchArena

/-- How an arena makes room. -/
inductive Growth where
  /-- Resize the newest chunk; nothing points into it. -/
  | extend (capacity : Nat)
  /-- Retire the newest chunk and start another. -/
  | replace (capacity : Nat)
deriving DecidableEq, Repr

/-- The capacity that is asked for. -/
def Growth.capacity : Growth → Nat
  | .extend capacity => capacity
  | .replace capacity => capacity

namespace Arena

/-- The growth that fits `more` bytes at `offset` of the newest chunk. -/
def growthFor (a : Arena) (offset more : Nat) : Growth :=
  if a.chunks ≠ [] ∧ offset = 0 then .extend more
  else .replace (Word.satAdd more a.settings.spare)

/-- The newest chunk extended, on the block that the heap has made of its
    own. -/
def extend (a : Arena) (block capacity : Nat) : Arena :=
  { a with chunks := a.chunks.modifyHead ({ · with block, capacity }) }

/-- The number the next chunk will carry, on a block just granted. -/
def newChunk (a : Arena) (block capacity : Nat) : Chunk := ⟨block, capacity, a.nextChunk⟩

/-- A new chunk on top of the stack, with nothing used in it. -/
def push (a : Arena) (block capacity : Nat) : Arena :=
  { a with chunks := a.newChunk block capacity :: a.chunks, used := 0,
           nextChunk := a.nextChunk + 1 }

end Arena

namespace Site

/-- Have the newest chunk extended; it may move. -/
def extend (s : Site) (chunk : Chunk) (capacity : Nat) : Except Failure Chunk × Site :=
  match s.heap.grow chunk.block chunk.capacity capacity with
  | (some block, heap) =>
      (.ok { chunk with block, capacity },
        { s with arena := s.arena.extend block capacity, heap }.log
          (.chunkAcquired chunk.number capacity true))
  | (none, heap) => { s with heap }.refuse (.outOfMemory capacity)

/-- Take a new chunk from the heap. -/
def acquire (s : Site) (capacity : Nat) : Except Failure Chunk × Site :=
  match s.heap.alloc capacity with
  | (some block, heap) =>
      (.ok (s.arena.newChunk block capacity),
        { s with arena := s.arena.push block capacity, heap }.log
          (.chunkAcquired s.arena.nextChunk capacity false))
  | (none, heap) => { s with heap }.refuse (.outOfMemory capacity)

/-- Make room; the result is the chunk to allocate from. -/
def grow (s : Site) (growth : Growth) : Except Failure Chunk × Site :=
  match growth, s.arena.chunks with
  | .extend capacity, chunk :: _ => s.extend chunk capacity
  | .extend capacity, [] => s.acquire capacity
  | .replace capacity, _ => s.acquire capacity

/-- Make sure that `more` bytes fit after the bytes in use. -/
def reserve (s : Site) (more : Nat) : Except Failure Unit × Site :=
  if Word.satAdd s.arena.used more ≤ s.arena.currentCapacity then (.ok (), s)
  else
    match s.grow (s.arena.growthFor s.arena.used more) with
    | (.ok _, s) => (.ok (), s)
    | (.error e, s) => (.error e, s)

/-- A site with nothing on loan, settings unchecked. -/
def bare (settings : Settings) (id : Nat) (heap : Heap) : Site :=
  { arena := { settings, id }, heap }

/-- A new arena on `heap`: refused when its settings cannot work or the
    heap does not grant what it reserves. -/
def establish (settings : Settings) (id : Nat) (heap : Heap) : Except Failure Unit × Site :=
  match settings.flaw? with
  | some flaw => (.error (.invalidSettings flaw.reason), bare settings id heap)
  | none => (bare settings id heap).reserve settings.reserve

end Site

end ScratchArena
