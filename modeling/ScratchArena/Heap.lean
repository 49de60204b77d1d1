/-! # Heaps — blocks on request, or a refusal

    A heap hands out blocks and numbers them in the order it grants them.
    What it makes of a request is its own affair: the policy sees every
    earlier call and the request, and refuses it, grants it where the
    block lies, or grants it with another block that the bytes are moved
    to.  A block that comes back, or that was moved away from, stays on
    record, but what its bytes read as is up to the heap from then on, and
    so is what a byte reads as before anybody has written it.  Every call
    is journalled with its answer, so that what a heap has lent out can be
    read off the journal alone. -/

namespace ScratchArena

/-- A call on a heap, with its answer. -/
inductive Call where
  /-- A block of `size` bytes was asked for; `none` is a refusal. -/
  | alloc (size : Nat) (block : Option Nat)
  /-- A block of `old` bytes was to become one of `new` bytes; the answer
      is the block it then was, and `none` is a refusal. -/
  | grow (block old new : Nat) (answer : Option Nat)
  /-- A block of `size` bytes came back. -/
  | free (block size : Nat)
deriving DecidableEq, Repr

/-- Bytes on loan after a call. -/
def Call.onLoanAfter (onLoan : Nat) : Call → Nat
  | .alloc size (some _) => onLoan + size
  | .alloc _ none => onLoan
  | .grow _ old new (some _) => onLoan - old + new
  | .grow _ _ _ none => onLoan
  | .free _ size => onLoan - size

/-- Bytes on loan after some calls on a heap that had lent nothing. -/
def bytesOnLoan (calls : List Call) : Nat := calls.foldl Call.onLoanAfter 0

/-- A call that may be refused: a block of `old` bytes, zero for no block
    at all, is to become one of `new` bytes. -/
structure Request where
  old : Nat
  new : Nat
deriving DecidableEq, Repr

/-- What a heap makes of a request. -/
inductive Verdict where
  | refused
  /-- A block that is to become larger does so where it lies. -/
  | granted
  /-- A block that is to become larger is moved to another one. -/
  | moved
deriving DecidableEq, Repr

/-- How a heap answers: the calls so far and the request decide. -/
abbrev Policy := List Call → Request → Verdict

namespace Policy

/-- Every request is granted, in one way or the other. -/
def RefusesNothing (p : Policy) : Prop := ∀ calls request, p calls request ≠ .refused

/-- Every request is granted, and no block is ever moved. -/
def generous : Policy := fun _ _ => .granted

/-- Every request is granted, and every block that becomes larger is
    moved. -/
def restless : Policy := fun _ _ => .moved

/-- A heap that grants everything refuses nothing. -/
theorem generous_refusesNothing : generous.RefusesNothing := fun _ _ => nofun

end Policy

/-- What the bytes read as that are the heap's, by block and offset. -/
structure Residue where
  /-- Before anybody has written them. -/
  unwritten : Nat → Nat → UInt8
  /-- Once their block has come back. -/
  returned : Nat → Nat → UInt8

namespace Residue

/-- The same byte everywhere. -/
def all (byte : UInt8) : Residue := ⟨fun _ _ => byte, fun _ _ => byte⟩

end Residue

/-- What a heap may have on loan. -/
structure Limits where
  /-- Largest block. -/
  block : Nat
  /-- Most bytes on loan at once. -/
  budget : Nat
  /-- Refuse every request. -/
  closed : Bool
deriving DecidableEq, Repr

/-- A heap with limits grants what stays within them, in place. -/
def Limits.policy (limits : Limits) : Policy := fun calls request =>
  if !limits.closed && request.new ≤ limits.block &&
      bytesOnLoan calls - request.old + request.new ≤ limits.budget then .granted
  else .refused

/-- A block on record. -/
structure Block where
  size : Nat
  /-- Still on loan. -/
  held : Bool
  /-- The byte at an offset. -/
  byteAt : Nat → UInt8

namespace Block

/-- A block with `size` bytes, of which the first `kept` are as before. -/
def resized (b : Block) (kept size : Nat) (unwritten : Nat → UInt8) : Block :=
  { b with size, byteAt := fun i => if i < kept then b.byteAt i else unwritten i }

/-- A block that came back: all bytes are the heap's. -/
def returned (b : Block) (byteAt : Nat → UInt8) : Block := { b with held := false, byteAt }

end Block

/-- A heap: how it behaves, and what it has on record. -/
structure Heap where
  policy : Policy
  residue : Residue
  /-- Every block ever granted, by number. -/
  blocks : List Block
  /-- Every call ever made, in order. -/
  calls : List Call

namespace Heap

/-- A heap that no call was made on yet. -/
def fresh (policy : Policy) (residue : Residue := .all 0) : Heap := ⟨policy, residue, [], []⟩

/-- The byte at an offset of a block, zero where there is no such block. -/
def byteAt (h : Heap) (block offset : Nat) : UInt8 :=
  (h.blocks[block]?.map (·.byteAt offset)).getD 0

/-- Ask for a block of `size` bytes: its number, or nothing. -/
def alloc (h : Heap) (size : Nat) : Option Nat × Heap :=
  match h.policy h.calls ⟨0, size⟩ with
  | .refused => (none, { h with calls := h.calls ++ [.alloc size none] })
  | _ =>
      (some h.blocks.length,
        { h with blocks := h.blocks ++ [⟨size, true, h.residue.unwritten h.blocks.length⟩],
                 calls := h.calls ++ [.alloc size (some h.blocks.length)] })

/-- Ask for a block to become larger, its first `old` bytes kept: the block
    it then is, or nothing.  A block that was moved away from has come
    back. -/
def grow (h : Heap) (block old new : Nat) : Option Nat × Heap :=
  match h.policy h.calls ⟨old, new⟩ with
  | .refused => (none, { h with calls := h.calls ++ [.grow block old new none] })
  | .granted =>
      (some block,
        { h with blocks := h.blocks.modify block (·.resized old new (h.residue.unwritten block)),
                 calls := h.calls ++ [.grow block old new (some block)] })
  | .moved =>
      let copy : Block := ⟨new, true, h.byteAt block⟩
      (some h.blocks.length,
        { h with
            blocks := h.blocks.modify block (·.returned (h.residue.returned block))
              ++ [copy.resized old new
              (h.residue.unwritten h.blocks.length)]
            calls := h.calls ++ [.grow block old new (some h.blocks.length)] })

/-- Give a block back. -/
def free (h : Heap) (block size : Nat) : Heap :=
  { h with blocks := h.blocks.modify block (·.returned (h.residue.returned block)),
           calls := h.calls ++ [.free block size] }

/-- Set `length` bytes of a block from `offset` on. -/
def update (h : Heap) (block offset length : Nat) (byte : Nat → UInt8) : Heap :=
  { h with blocks := h.blocks.modify block fun b =>
      { b with byteAt := fun i =>
          if offset ≤ i ∧ i < offset + length then byte (i - offset) else b.byteAt i } }

/-- Set them all to one byte. -/
def fill (h : Heap) (block offset length : Nat) (byte : UInt8) : Heap :=
  h.update block offset length fun _ => byte

/-- Set them to `data`. -/
def write (h : Heap) (block offset : Nat) (data : List UInt8) : Heap :=
  let bytes := data.toArray
  h.update block offset data.length fun i => bytes.getD i 0

/-- The bytes of a block from `offset` on. -/
def read (h : Heap) (block offset length : Nat) : List UInt8 :=
  (List.range length).map fun i => h.byteAt block (offset + i)

/-! ## What an answer leaves behind -/

/-- A heap that refuses a block only journals the call. -/
theorem alloc_refused {h h' : Heap} {size : Nat} (e : h.alloc size = (none, h')) :
    h' = { h with calls := h.calls ++ [.alloc size none] } := by
  unfold alloc at e
  split at e
  · exact (congrArg Prod.snd e).symm
  · exact nomatch congrArg Prod.fst e

/-- A granted block is numbered after all earlier ones. -/
theorem alloc_granted {h h' : Heap} {size block : Nat} (e : h.alloc size = (some block, h')) :
    block = h.blocks.length
      ∧ h' = { h with
          blocks := h.blocks ++ [⟨size, true, h.residue.unwritten h.blocks.length⟩]
          calls := h.calls ++ [.alloc size (some h.blocks.length)] } := by
  unfold alloc at e
  split at e
  · exact nomatch congrArg Prod.fst e
  · exact ⟨(Option.some.inj (congrArg Prod.fst e)).symm, (congrArg Prod.snd e).symm⟩

/-- A heap that refuses to enlarge a block only journals the call. -/
theorem grow_refused {h h' : Heap} {block old new : Nat}
    (e : h.grow block old new = (none, h')) :
    h' = { h with calls := h.calls ++ [.grow block old new none] } := by
  unfold grow at e
  split at e
  · exact (congrArg Prod.snd e).symm
  · exact nomatch congrArg Prod.fst e
  · exact nomatch congrArg Prod.fst e

/-- A block that becomes larger stays where it lies or moves to a new
    block, and then the old one has come back. -/
theorem grow_granted {h h' : Heap} {block old new answer : Nat}
    (e : h.grow block old new = (some answer, h')) :
    (answer = block
      ∧ h' = { h with
          blocks := h.blocks.modify block (·.resized old new (h.residue.unwritten block))
          calls := h.calls ++ [.grow block old new (some block)] })
    ∨ answer = h.blocks.length
      ∧ h' = { h with
          blocks := h.blocks.modify block (·.returned (h.residue.returned block))
            ++ [Block.resized ⟨new, true, h.byteAt block⟩ old new
              (h.residue.unwritten h.blocks.length)]
          calls := h.calls ++ [.grow block old new (some h.blocks.length)] } := by
  unfold grow at e
  split at e
  · exact nomatch congrArg Prod.fst e
  · exact Or.inl ⟨(Option.some.inj (congrArg Prod.fst e)).symm, (congrArg Prod.snd e).symm⟩
  · exact Or.inr ⟨(Option.some.inj (congrArg Prod.fst e)).symm, (congrArg Prod.snd e).symm⟩

/-- Whether a block is granted is for the policy to say. -/
theorem alloc_fst_eq_none_iff (h : Heap) (size : Nat) :
    (h.alloc size).1 = none ↔ h.policy h.calls ⟨0, size⟩ = .refused := by
  unfold alloc
  split
  · rename_i heq
    exact ⟨fun _ => heq, fun _ => rfl⟩
  · rename_i hne
    exact ⟨(nomatch ·), fun heq => absurd heq hne⟩

/-- Whether a block may become larger is for the policy to say. -/
theorem grow_fst_eq_none_iff (h : Heap) (block old new : Nat) :
    (h.grow block old new).1 = none ↔ h.policy h.calls ⟨old, new⟩ = .refused := by
  unfold grow
  split
  · rename_i heq
    exact ⟨fun _ => heq, fun _ => rfl⟩
  · rename_i heq
    simp [heq]
  · rename_i heq
    simp [heq]

/-- A request for a block is journalled with its answer. -/
theorem calls_of_alloc {h h' : Heap} {size : Nat} {answer : Option Nat}
    (e : h.alloc size = (answer, h')) : h'.calls = h.calls ++ [.alloc size answer] := by
  cases answer with
  | none =>
      obtain rfl := alloc_refused e
      rfl
  | some block =>
      obtain ⟨rfl, rfl⟩ := alloc_granted e
      rfl

/-- So is a request for a larger one. -/
theorem calls_of_grow {h h' : Heap} {block old new : Nat} {answer : Option Nat}
    (e : h.grow block old new = (answer, h')) :
    h'.calls = h.calls ++ [.grow block old new answer] := by
  cases answer with
  | none =>
      obtain rfl := grow_refused e
      rfl
  | some answer =>
      rcases grow_granted e with ⟨rfl, rfl⟩ | ⟨rfl, rfl⟩
      · rfl
      · rfl

/-- A heap keeps its policy when a block is asked for. -/
theorem policy_of_alloc {h h' : Heap} {size : Nat} {answer : Option Nat}
    (e : h.alloc size = (answer, h')) : h'.policy = h.policy := by
  cases answer with
  | none =>
      obtain rfl := alloc_refused e
      rfl
  | some block =>
      obtain ⟨-, rfl⟩ := alloc_granted e
      rfl

/-- A heap keeps its policy when a block is to grow. -/
theorem policy_of_grow {h h' : Heap} {block old new : Nat} {answer : Option Nat}
    (e : h.grow block old new = (answer, h')) : h'.policy = h.policy := by
  cases answer with
  | none =>
      obtain rfl := grow_refused e
      rfl
  | some answer =>
      rcases grow_granted e with ⟨-, rfl⟩ | ⟨-, rfl⟩
      · rfl
      · rfl

/-- A block that becomes larger keeps its number, or takes the next one. -/
theorem blocks_of_grow {h h' : Heap} {block old new answer : Nat}
    (e : h.grow block old new = (some answer, h')) :
    (answer = block ∧ h'.blocks.length = h.blocks.length)
      ∨ answer = h.blocks.length ∧ h'.blocks.length = h.blocks.length + 1 := by
  rcases grow_granted e with ⟨rfl, rfl⟩ | ⟨rfl, rfl⟩
  · exact Or.inl ⟨rfl, List.length_modify ..⟩
  · refine Or.inr ⟨rfl, ?_⟩
    show (_ ++ [_]).length = _
    rw [List.length_append, List.length_modify]
    rfl

theorem calls_free (h : Heap) (block size : Nat) :
    (h.free block size).calls = h.calls ++ [.free block size] := rfl

/-! ## The bytes -/

/-- Blocks that are added change nothing in those there are. -/
theorem byteAt_of_append {h h' : Heap} {added : List Block}
    (hblocks : h'.blocks = h.blocks ++ added) {block : Nat} (hb : block < h.blocks.length)
    (offset : Nat) : h'.byteAt block offset = h.byteAt block offset := by
  unfold byteAt
  rw [hblocks, List.getElem?_append_left hb]

/-- A change to one block leaves the bytes of the others alone. -/
theorem byteAt_of_modify {h h' : Heap} {target : Nat} {f : Block → Block} {added : List Block}
    (hblocks : h'.blocks = h.blocks.modify target f ++ added) {block : Nat}
    (hb : block < h.blocks.length) (hne : block ≠ target) (offset : Nat) :
    h'.byteAt block offset = h.byteAt block offset := by
  unfold byteAt
  rw [hblocks, List.getElem?_append_left (by rwa [List.length_modify]), List.getElem?_modify]
  simp [hne.symm]

/-- A heap that lends a block changes no byte of another. -/
theorem byteAt_alloc (h : Heap) (size : Nat) {block : Nat} (hb : block < h.blocks.length)
    (offset : Nat) : (h.alloc size).2.byteAt block offset = h.byteAt block offset := by
  cases e : h.alloc size with
  | mk answer h' =>
      cases answer with
      | none =>
          obtain rfl := alloc_refused e
          rfl
      | some b =>
          obtain ⟨-, rfl⟩ := alloc_granted e
          exact byteAt_of_append rfl hb offset

/-- Nor does one that enlarges a block. -/
theorem byteAt_grow_of_ne (h : Heap) (target old new : Nat) {block : Nat}
    (hb : block < h.blocks.length) (hne : block ≠ target) (offset : Nat) :
    (h.grow target old new).2.byteAt block offset = h.byteAt block offset := by
  cases e : h.grow target old new with
  | mk answer h' =>
      cases answer with
      | none =>
          obtain rfl := grow_refused e
          rfl
      | some b =>
          rcases grow_granted e with ⟨-, rfl⟩ | ⟨-, rfl⟩
          · exact byteAt_of_modify (List.append_nil _).symm hb hne offset
          · exact byteAt_of_modify rfl hb hne offset

/-- Nor does one that takes a block back. -/
theorem byteAt_free_of_ne (h : Heap) (target size : Nat) {block : Nat}
    (hb : block < h.blocks.length) (hne : block ≠ target) (offset : Nat) :
    (h.free target size).byteAt block offset = h.byteAt block offset :=
  byteAt_of_modify (List.append_nil _).symm hb hne offset

/-- A block that becomes larger keeps its bytes, wherever it goes. -/
theorem byteAt_grow_kept {h h' : Heap} {block old new answer i : Nat}
    (e : h.grow block old new = (some answer, h')) (hb : block < h.blocks.length) (hi : i < old) :
    h'.byteAt answer i = h.byteAt block i := by
  rcases grow_granted e with ⟨rfl, rfl⟩ | ⟨rfl, rfl⟩
  · unfold byteAt
    rw [List.getElem?_modify, List.getElem?_eq_getElem hb]
    simp [Block.resized, hi]
  · show (Option.map _ (_ ++ _)[h.blocks.length]?).getD 0 = h.byteAt block i
    rw [List.getElem?_append_right (Nat.le_of_eq (List.length_modify ..)), List.length_modify,
      Nat.sub_self]
    simp [Block.resized, hi]

/-- Bytes that are set are there. -/
theorem byteAt_update_inside {h : Heap} {block offset length i : Nat} {byte : Nat → UInt8}
    (hb : block < h.blocks.length) (hlo : offset ≤ i) (hhi : i < offset + length) :
    (h.update block offset length byte).byteAt block i = byte (i - offset) := by
  unfold update byteAt
  rw [List.getElem?_modify, List.getElem?_eq_getElem hb]
  simp [hlo, hhi]

/-- All others stay. -/
theorem byteAt_update_outside {h : Heap} {target offset length block i : Nat}
    {byte : Nat → UInt8}
    (hout : block ≠ target ∨ i < offset ∨ offset + length ≤ i) :
    (h.update target offset length byte).byteAt block i = h.byteAt block i := by
  unfold update byteAt
  rw [List.getElem?_modify]
  cases h.blocks[block]? with
  | none => rfl
  | some b =>
      by_cases heq : target = block
      · have hnot : ¬(offset ≤ i ∧ i < offset + length) := by omega
        simp [heq, hnot]
      · simp [heq]

end Heap

end ScratchArena
