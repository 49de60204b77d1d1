/-! # Alignment — offsets instead of addresses

    Every block starts at a multiple of the word size and no request is
    aligned beyond it, so an aligned offset is an aligned address.  Two
    rules: an alignment is clamped to a power of two between one and the
    word size, and the padding before an allocation is the two's
    complement of the offset under the alignment's mask. -/

namespace ScratchArena

/-- Bytes in a machine word: the strongest alignment on offer, and the
    alignment of every block. -/
def wordBytes : Nat := 8

/-- The least power of two that is no smaller than `align`, at most a
    word. -/
def clampAlign (align : Nat) : Nat :=
  if align ≤ 1 then 1
  else if align ≤ 2 then 2
  else if align ≤ 4 then 4
  else wordBytes

/-- Bytes from `offset` to the next multiple of `align`, a power of two:
    the offset negated in two's complement, under the mask of the
    alignment. -/
def padding (offset align : Nat) : Nat :=
  (-(UInt64.ofNat offset) &&& (UInt64.ofNat align - 1)).toNat

end ScratchArena
