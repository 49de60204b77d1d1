import ScratchArena.Arena.Display
import ScratchArena.Proofs.Atomicity

/-! # Checked — the operations as a machine performs them

    An arena is modelled on natural numbers.  A machine has words: a plain
    sum may pass the largest one, a plain difference may fall below zero,
    and on its way an operation asserts what it relies on and takes some
    cases to be impossible.  Here every operation is spelled out with all
    of these, in order, as steps that may fault; sums that are meant to
    saturate or to be refused stay what they are.

    Where nothing faults the outcome is meant to be the one of the
    operation on natural numbers. -/

namespace ScratchArena

/-- What a machine would stop at. -/
inductive Fault where
  /-- A plain sum passes the largest word. -/
  | overflow
  /-- A plain difference falls below zero. -/
  | underflow
  /-- An assertion does not hold. -/
  | assertion
  /-- A case that was taken to be impossible. -/
  | unreachable
deriving DecidableEq, Repr

namespace Word

/-- A plain sum. -/
def add (a b : Nat) : Except Fault Nat :=
  if a + b ≤ largest then .ok (a + b) else .error .overflow

/-- A plain difference. -/
def sub (a b : Nat) : Except Fault Nat := if b ≤ a then .ok (a - b) else .error .underflow

/-- A sum, when a word holds it. -/
def add? (a b : Nat) : Option Nat := if a + b ≤ largest then some (a + b) else none

/-- A sum that a word holds does not fault. -/
theorem add_ok {a b : Nat} (h : a + b ≤ largest) : add a b = .ok (a + b) := if_pos h

/-- A difference that is not negative does not fault. -/
theorem sub_ok {a b : Nat} (h : b ≤ a) : sub a b = .ok (a - b) := if_pos h

end Word

/-- An assertion. -/
def require (p : Prop) [Decidable p] : Except Fault Unit :=
  if p then .ok () else .error .assertion

/-- What holds may be asserted. -/
theorem require_ok {p : Prop} [Decidable p] (h : p) : require p = .ok () := if_pos h

/-- What follows an assertion that holds. -/
theorem require_bind {α : Type} {p : Prop} [Decidable p] (h : p) (f : Unit → Except Fault α) :
    (require p >>= f) = f () := by
  rw [require_ok h]
  rfl

@[simp] theorem ok_bind {α β : Type} (a : α) (f : α → Except Fault β) :
    (Except.ok a >>= f) = f a := rfl

@[simp] theorem pure_eq_ok {α : Type} (a : α) : (pure a : Except Fault α) = .ok a := rfl

/-! ## Reading an arena -/

namespace Arena

/-- Bytes the arena can hold without another chunk. -/
def checkedCapacity (a : Arena) : Except Fault Nat := do
  let behind ← Word.sub a.total a.used
  Word.add behind a.currentCapacity

/-- How many chunks an arena has. -/
def checkedCount (a : Arena) : Except Fault Nat :=
  Word.add a.retired.length (if a.current?.isSome then 1 else 0)

/-- The figures of an arena. -/
def checkedStats (a : Arena) : Except Fault Stats := do
  let capacity ← a.checkedCapacity
  let chunks ← a.checkedCount
  return ⟨a.total, a.peak, capacity, chunks⟩

/-- The debug text of an arena. -/
def checkedDisplay (a : Arena) : Except Fault String := do
  let capacity ← a.checkedCapacity
  let chunks ← a.checkedCount
  return Text.braced "Arena"
    [("id", hiddenId), ("generation", toString a.generation.toNat),
      ("size", toString a.total), ("max", toString a.peak),
      ("capacity", toString capacity), ("chunks", toString chunks)]

/-- The growth that fits `more` bytes at `offset`, unless they fit. -/
def planned? (a : Arena) (offset more : Nat) : Option Growth :=
  if Word.satAdd offset more ≤ a.currentCapacity then none
  else if a.chunks ≠ [] ∧ offset = 0 then some (.extend (Word.satAdd offset more))
  else some (.replace (Word.satAdd more a.settings.spare))

/-- The total after one more request, if the size limit admits it. -/
def admitted? (a : Arena) (padding size : Nat) : Option Nat :=
  ((Word.add? a.total padding).bind (Word.add? · size)).filter (· ≤ a.settings.maxSize)

/-- The growth that `size` bytes at `offset` take, unless they fit. -/
def checkedGrowth (a : Arena) (offset size : Nat) : Except Fault (Option Growth) := do
  let stop ← Word.add offset size
  if stop ≤ a.currentCapacity then return none
  else if offset ≤ a.currentCapacity then
    let headroom ← Word.sub a.peak a.total
    return a.planned? offset (max headroom size)
  else
    let headroom ← Word.sub a.peak a.total
    return some (.replace (max headroom (Word.satAdd size a.settings.spare)))

/-- How many chunks are newer than the one numbered `number`: it may be the
    newest, else the retired ones are gone through from the newest on. -/
def checkedDepth? (a : Arena) (number : Nat) : Except Fault (Option Nat) :=
  match a.chunks with
  | [] => .ok none
  | chunk :: older =>
      if chunk.number = number then .ok (some 0)
      else
        match older.findIdx? (·.number == number) with
        | none => .ok none
        | some depth => do
            let depth ← Word.add depth 1
            return some depth

/-- What rolling back has to do, with the chunks above the one to resume
    counted by words. -/
def checkedRollbackTo (a : Arena) (c : Checkpoint) : Except Fault Rollback :=
  if c.arena ≠ a.id then .ok (.rejected .foreignArena)
  else if c.generation ≠ a.generation then .ok (.rejected .arenaReset)
  else if c.mark ∉ a.marks then .ok (.rejected .outOfOrder)
  else
    match c.position with
    | none => .ok .toEmpty
    | some position =>
        if c.total = 0 then .ok .toEmpty
        else if a.total < c.total then .ok (.rejected .rolledBackPast)
        else do
          match ← a.checkedDepth? position.chunk with
          | none => return .rejected .chunkReleased
          | some depth => return .resume depth position.offset

end Arena

/-! ## Operations -/

namespace Site

/-- The chunk and the heap both assert that the block becomes larger. -/
def checkedExtend (s : Site) (chunk : Chunk) (capacity : Nat) :
    Except Fault (Except Failure Unit × Site) := do
  require (chunk.capacity < capacity)
  match s.heap.grow chunk.block chunk.capacity capacity with
  | (some block, heap) =>
      return (.ok (), { s with arena := s.arena.extend block capacity, heap }.log
        (.chunkAcquired chunk.number capacity true))
  | (none, heap) => return { s with heap }.refuse (.outOfMemory capacity)

/-- The chunk and the heap both assert that the block is not empty. -/
def checkedAcquire (s : Site) (capacity : Nat) :
    Except Fault (Except Failure Unit × Site) := do
  require (0 < capacity)
  match s.heap.alloc capacity with
  | (some block, heap) =>
      let nextChunk ← Word.add s.arena.nextChunk 1
      return (.ok (), { s with arena := { s.arena.push block capacity with nextChunk }, heap }.log
        (.chunkAcquired s.arena.nextChunk capacity false))
  | (none, heap) => return { s with heap }.refuse (.outOfMemory capacity)

/-- A growth: of the newest chunk, or by another chunk. -/
def checkedGrow (s : Site) (growth : Growth) : Except Fault (Except Failure Unit × Site) :=
  match growth, s.arena.chunks with
  | .extend capacity, chunk :: _ => s.checkedExtend chunk capacity
  | .extend capacity, [] => s.checkedAcquire capacity
  | .replace capacity, _ => s.checkedAcquire capacity

/-- Room ahead of allocations. -/
def checkedReserve (s : Site) (more : Nat) : Except Fault (Except Failure Unit × Site) :=
  match s.arena.planned? s.arena.used more with
  | some growth => s.checkedGrow growth
  | none => .ok (.ok (), s)

/-- The start of the newest chunk, which is there by now. -/
def checkedTop (s : Site) : Except Fault (Except Failure Pointer × Site) :=
  match s.arena.chunks with
  | chunk :: _ => .ok (.ok ⟨chunk.block, 0⟩, s)
  | [] => .error .unreachable

/-- An allocation of no bytes. -/
def checkedAllocNothing (s : Site) : Except Fault (Except Failure Pointer × Site) :=
  match s.arena.chunks with
  | _ :: _ => s.checkedTop
  | [] => do
      match ← s.checkedReserve s.arena.settings.spare with
      | (.ok _, s) => s.checkedTop
      | (.error e, s) => return (.error e, s)

/-- Record `size` bytes at `offset` of the newest chunk, which is there by
    now, with `total` bytes in use. -/
def checkedPlace (s : Site) (offset padding size total : Nat) :
    Except Fault (Except Failure Pointer × Site) :=
  match s.arena.chunks with
  | [] => .error .unreachable
  | chunk :: _ => do
      require (offset ≤ chunk.capacity)
      let used ← Word.add offset size
      let peak := if s.arena.peak < total then total else s.arena.peak
      let arena : Arena := { s.arena with used, total, peak }
      require (arena.used ≤ arena.currentCapacity)
      require (arena.used ≤ arena.total)
      return (.ok ⟨chunk.block, offset⟩,
        { s with
            arena
            heap :=
              if s.arena.settings.poison then s.heap.fill chunk.block offset size poisonByte
              else s.heap }.log (.allocated size padding total))

/-- An allocation of bytes. -/
def checkedAllocBytes (s : Site) (size align : Nat) :
    Except Fault (Except Failure Pointer × Site) :=
  if size = 0 then s.checkedAllocNothing
  else do
    let align := clampAlign align
    let _mask ← Word.sub align 1
    let padding := padding s.arena.used align
    match s.arena.admitted? padding size with
    | none => return s.overflow size
    | some total =>
        let offset ← Word.add s.arena.used padding
        match ← s.arena.checkedGrowth offset size with
        | none => s.checkedPlace offset padding size total
        | some growth =>
            match ← s.checkedGrow growth with
            | (.ok _, s) => s.checkedPlace (growth.landing offset) padding size total
            | (.error e, s) => return (.error e, s)

/-- An allocation of elements of one size. -/
def checkedAllocAligned (s : Site) (count size align : Nat) :
    Except Fault (Except Failure Pointer × Site) :=
  match Word.mul? count size with
  | some bytes => s.checkedAllocBytes bytes align
  | none => .ok (s.overflow (Word.satMul count size))

/-- An allocation with the bytes of some values. -/
def checkedAllocCopy (s : Site) (element : Element) (values : List Nat) :
    Except Fault (Except Failure Pointer × Site) := do
  match ← s.checkedAllocAligned values.length element.size element.align with
  | (.ok p, s) =>
      return (.ok p, { s with heap := s.heap.write p.block p.offset
                                (values.flatMap (littleEndian element.size)) })
  | (.error e, s) => return (.error e, s)

/-- An allocation of any kind. -/
def checkedServe (s : Site) : Demand → Except Fault (Except Failure Pointer × Site)
  | .array element count => s.checkedAllocAligned count element.size element.align
  | .aligned count size align => s.checkedAllocAligned count size align
  | .bytes size align => s.checkedAllocBytes size align
  | .copy element values => s.checkedAllocCopy element values

/-- Give everything up but the newest chunk. -/
def checkedClear (s : Site) : Except Fault Site :=
  match s.arena.chunks with
  | chunk :: old :: older => do
      let retired := old :: older
      let s := { s with arena := { s.arena.emptied with chunks := [chunk] } }
      let s := (s.log (.coalescing retired.length s.arena.peak)).release retired.reverse
      match ← s.checkedReserve s.arena.peak with
      | (.ok _, s) => return s
      | (.error e, s) => return s.log (.coalescingFailed e)
  | _ => .ok { s with arena := s.arena.emptied }

/-- Start a new generation in one chunk. -/
def checkedReset (s : Site) : Except Fault Site :=
  { s with arena := s.arena.nextGeneration }.checkedClear

/-- Take a checkpoint. -/
def checkedCheckpoint (s : Site) : Except Fault (Checkpoint × Site) := do
  let nextMark ← Word.add s.arena.nextMark 1
  return (s.arena.checkpoint,
    { s with arena := { s.arena with marks := s.arena.nextMark :: s.arena.marks, nextMark } })

/-- Undo every allocation since a checkpoint, with its offset asserted to
    lie in the chunk and not to exceed the total. -/
def checkedRollback (s : Site) (c : Checkpoint) :
    Except Fault (Except Failure Unit × Site) := do
  match ← s.arena.checkedRollbackTo c with
  | .rejected why =>
      return (.error why.failure, s.log (.rollbackRejected why c.total s.arena.total))
  | .toEmpty =>
      let s ← { s with arena := s.arena.dropMarks c.mark }.checkedClear
      return (.ok (), s)
  | .resume depth offset =>
      let released := s.release (s.arena.chunks.take depth)
      let arena := { s.arena.dropMarks c.mark with chunks := s.arena.chunks.drop depth }
      require (offset ≤ arena.currentCapacity)
      require (offset ≤ c.total)
      return (.ok (), { released with arena := { arena with total := c.total, used := offset } })

/-- Roll a guard back. -/
def checkedRollbackGuard (s : Site) (g : Guard) :
    Except Fault ((Except Failure Unit × Guard) × Site) :=
  match g.checkpoint with
  | some c => do
      let (outcome, s) ← s.checkedRollback c
      return ((outcome, .spent), s)
  | none => .ok ((.ok (), .spent), s)

/-- One call.  Where nothing is added, subtracted or asserted, the call is
    made as it is. -/
def checkedAct (s : Site) : Act → Except Fault (Reply × Site)
  | .allocate demand => do
      let (outcome, s) ← s.checkedServe demand
      return (.served outcome, s)
  | .reserve more => do
      let (outcome, s) ← s.checkedReserve more
      return (.done outcome, s)
  | .reset => do
      let s ← s.checkedReset
      return (.nothing, s)
  | .shrinkToFit => .ok (.nothing, s.shrinkToFit)
  | .checkpoint => do
      let (c, s) ← s.checkedCheckpoint
      return (.checkpoint c, s)
  | .rollback c => do
      let (outcome, s) ← s.checkedRollback c
      return (.done outcome, s)
  | .forget c => .ok (.nothing, s.forget c)
  | .guarded => do
      let (c, s) ← s.checkedCheckpoint
      return (.guard ⟨some c⟩, s)
  | .rollbackGuard g => do
      let ((outcome, left), s) ← s.checkedRollbackGuard g
      return (.rolledBack outcome left, s)
  | .releaseGuard g => .ok (.guard (s.releaseGuard g).1, (s.releaseGuard g).2)
  | .dropGuard g => do
      let (_, s) ← s.checkedRollbackGuard g
      return (.nothing, s)

/-- A site with nothing on loan asserts that its settings have slack. -/
def checkedBare (settings : Settings) (id : Nat) (heap : Heap) : Except Fault Site := do
  require (0 < settings.spare)
  return bare settings id heap

/-- Make an arena with settings. -/
def checkedEstablish (settings : Settings) (id : Nat) (heap : Heap) :
    Except Fault (Except Failure Unit × Site) :=
  match settings.flaw? with
  | some flaw => .ok (.error (.invalidSettings flaw.reason), bare settings id heap)
  | none => do
      let s ← checkedBare settings id heap
      s.checkedReserve settings.reserve

end Site

end ScratchArena
