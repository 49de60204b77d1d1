import ScratchArena.Arena.Display
import ScratchArena.Platform
import ScratchArena.Script.Step

/-! # Benches — arenas side by side under one script

    A bench holds arenas in numbered slots, each on a heap of its own, and
    the names a script has given to pointers and checkpoints.  A pointer
    belongs to the heap it came from, wherever that heap's slot has moved;
    a checkpoint belongs to its arena. -/

namespace ScratchArena.Script

/-- A place for an arena on a heap of its own. -/
structure Slot where
  /-- Which heap this is; pointers refer to it. -/
  heapId : Nat
  site : Site
  /-- Limits of the heap, when a script may change them and look at its
      blocks. -/
  limits : Option Limits
  /-- The arena exists: it could be made and was not dropped. -/
  alive : Bool

/-- The state of a script. -/
structure Bench where
  slots : List Slot := []
  /-- Identity of the next arena. -/
  nextArena : Nat := 0
  checkpoints : List (String × Checkpoint) := []
  pointers : List (String × Nat × Pointer) := []
  /-- The program is built with assertions. -/
  assertions : Bool
  /-- A script may ask for an allocation that aborts when it fails. -/
  mayAbort : Bool := false
  /-- Such an allocation has failed, and nothing more happens. -/
  aborted : Bool := false

/-- What happened between two states of an arena. -/
def Entry.between (before after : Site) (reply : Reply) : Entry :=
  { reply
    state := some (after.arena.stats, after.arena.generation)
    calls := after.heap.calls.drop before.heap.calls.length
    events := after.events.drop before.events.length }

namespace Bench

/-- The slot with a number, if its arena exists. -/
def slot? (b : Bench) (i : Nat) : Option Slot := b.slots[i]?.filter Slot.alive

/-- The bench with a slot replaced. -/
def setSlot (b : Bench) (i : Nat) (slot : Slot) : Bench :=
  { b with slots := b.slots.set i slot }

/-- Where the slot with a heap is. -/
def heapSlot? (b : Bench) (heapId : Nat) : Option (Nat × Slot) :=
  (b.slots.zipIdx.find? fun (slot, _) => slot.heapId == heapId).map fun (slot, i) => (i, slot)

/-- Keep a pointer under a name. -/
def namePointer (b : Bench) (name : Option String) (heapId : Nat) (p : Pointer) : Bench :=
  match name with
  | some name => { b with pointers := (name, heapId, p) :: b.pointers }
  | none => b

/-- Keep a checkpoint under a name, in the place of one kept there. -/
def nameCheckpoint (b : Bench) (name : String) (c : Checkpoint) : Bench :=
  { b with checkpoints := (name, c) :: b.checkpoints.filter (·.1 ≠ name) }

/-- The checkpoint kept under a name, which is given out once. -/
def takeCheckpoint (b : Bench) (name : String) : Option (Checkpoint × Bench) :=
  (b.checkpoints.lookup name).map fun c =>
    (c, { b with checkpoints := b.checkpoints.filter (·.1 ≠ name) })

/-- The bytes `offset` to `offset + length` past a kept pointer: the slot
    of their heap and where they are, or why they cannot be reached.  A
    place beyond the last address is out of range whatever became of the
    block. -/
def locate (b : Bench) (name : String) (offset length : Nat) :
    Except Refusal (Nat × Slot × Pointer) :=
  match b.pointers.lookup name with
  | none => .error .noPointer
  | some (heapId, p) =>
      match b.heapSlot? heapId with
      | none => .error .noPointer
      | some (i, slot) =>
          if Word.largest < p.offset + offset then .error .range
          else
            match slot.site.heap.blocks[p.block]? with
            | none => .error .dangling
            | some block =>
                if !block.held then .error .dangling
                else if p.offset + offset + length ≤ block.size then
                  .ok (i, slot, ⟨p.block, p.offset + offset⟩)
                else .error .range

/-- Change the limits of a heap that has some. -/
def changeLimits (slot : Slot) (f : Limits → Limits) : Reply × Slot :=
  match slot.limits with
  | some limits =>
      (.done, { slot with limits := some (f limits),
                          site := { slot.site with
                            heap := { slot.site.heap with policy := (f limits).policy } } })
  | none => (.refused .badStep, slot)

end Bench

end ScratchArena.Script
