import ScratchArena.Arena.Growth

/-! # Allocation — bumping an offset

    A request is aligned, checked against the size limit, given a place,
    and only then recorded.  When the newest chunk is too small the arena
    grows, and sizes the growth by the highest total it has seen, so that
    repeated traffic soon fits one chunk.  Padding counts towards the
    total even when it is left behind in a retired chunk, because a
    coalesced chunk would need it. -/

namespace ScratchArena

/-- What an array holds: elements of one size and one alignment. -/
structure Element where
  size : Nat
  align : Nat
deriving DecidableEq, Repr

/-- Where a request goes. -/
inductive Placement where
  /-- It fits in the newest chunk. -/
  | inside (chunk : Chunk)
  /-- The arena has to grow first. -/
  | after (growth : Growth)
deriving DecidableEq, Repr

namespace Arena

/-- Bytes between the total and the highest one seen, which a new chunk
    makes room for. -/
def headroom (a : Arena) : Nat := a.peak - a.total

/-- Where `size` bytes at `offset` of the newest chunk go.  A chunk that
    is too small even for the padding is replaced by one that starts
    aligned. -/
def placement (a : Arena) (offset size : Nat) : Placement :=
  match a.chunks with
  | [] => .after (a.growthFor offset (max a.headroom size))
  | chunk :: _ =>
      if offset + size ≤ chunk.capacity then .inside chunk
      else if offset ≤ chunk.capacity then .after (a.growthFor offset (max a.headroom size))
      else .after (.replace (max a.headroom (Word.satAdd size a.settings.spare)))

/-- The counters after `size` bytes at `offset` of the newest chunk, with
    `padding` charged. -/
def bump (a : Arena) (offset padding size : Nat) : Arena :=
  { a with used := offset + size, total := a.total + padding + size,
           peak := max a.peak (a.total + padding + size) }

end Arena

/-- Where the request lands once the arena has grown: a new chunk is
    filled from its start. -/
def Growth.landing (growth : Growth) (offset : Nat) : Nat :=
  match growth with
  | .extend _ => offset
  | .replace _ => 0

namespace Site

/-- Refuse a request that would take the total past the limit, with the
    bytes requested, the total and the limit. -/
def overflow {α : Type} (s : Site) (requested : Nat) : Except Failure α × Site :=
  s.refuse (.overflow requested s.arena.total s.arena.settings.maxSize)

/-- Record `size` bytes at `offset` of the newest chunk and poison them. -/
def place (s : Site) (chunk : Chunk) (offset padding size : Nat) :
    Except Failure Pointer × Site :=
  (.ok ⟨chunk.block, offset⟩,
    { s with
        arena := s.arena.bump offset padding size
        heap :=
          if s.arena.settings.poison then s.heap.fill chunk.block offset size poisonByte
          else s.heap }.log
      (.allocated size padding (s.arena.total + padding + size)))

/-- An allocation of no bytes: the start of the newest chunk.  An arena
    without a chunk acquires one first. -/
def allocNothing (s : Site) : Except Failure Pointer × Site :=
  match s.arena.chunks with
  | chunk :: _ => (.ok ⟨chunk.block, 0⟩, s)
  | [] =>
      match s.grow (s.arena.growthFor s.arena.used s.arena.settings.spare) with
      | (.ok chunk, s) => (.ok ⟨chunk.block, 0⟩, s)
      | (.error e, s) => (.error e, s)

/-- Allocate `size` bytes aligned to `align`, clamped to the word size. -/
def allocBytes (s : Site) (size align : Nat) : Except Failure Pointer × Site :=
  if size = 0 then s.allocNothing
  else
    let padding := padding s.arena.used (clampAlign align)
    if s.arena.settings.maxSize < s.arena.total + padding + size then s.overflow size
    else
      let offset := s.arena.used + padding
      match s.arena.placement offset size with
      | .inside chunk => s.place chunk offset padding size
      | .after growth =>
          match s.grow growth with
          | (.ok chunk, s) => s.place chunk (growth.landing offset) padding size
          | (.error e, s) => (.error e, s)

/-- Room for so many elements of one size.  A product that no word holds is
    refused like a request past the limit. -/
def allocAligned (s : Site) (count size align : Nat) : Except Failure Pointer × Site :=
  match Word.mul? count size with
  | some bytes => s.allocBytes bytes align
  | none => s.overflow (Word.satMul count size)

/-- Room for an array. -/
def alloc (s : Site) (element : Element) (count : Nat) : Except Failure Pointer × Site :=
  s.allocAligned count element.size element.align

/-- The bytes of `n` as `width` digits to the base 256, lowest first. -/
def littleEndian : Nat → Nat → List UInt8
  | 0, _ => []
  | width + 1, n => UInt8.ofNat n :: littleEndian width (n / 256)

/-- The number whose bytes are given, lowest first. -/
def ofLittleEndian : List UInt8 → Nat
  | [] => 0
  | b :: bs => b.toNat + 256 * ofLittleEndian bs

/-- Allocate room for `values`, unsigned integers of a type, and copy them
    in. -/
def allocCopy (s : Site) (element : Element) (values : List Nat) :
    Except Failure Pointer × Site :=
  match s.alloc element values.length with
  | (.ok p, s) =>
      (.ok p, { s with heap := s.heap.write p.block p.offset
                         (values.flatMap (littleEndian element.size)) })
  | (.error e, s) => (.error e, s)

end Site

end ScratchArena
