import ScratchArena.Heap

/-! # The platform's heap — whatever the address space holds -/

namespace ScratchArena.Platform

/-- Bytes a process can address. -/
def addressSpace : Nat := Nat.pow 2 47

/-- The platform refuses what no address space holds. -/
def policy : Policy := fun _ request =>
  if request.new ≤ addressSpace then .granted else .refused

/-- The heap that arenas draw on unless they are given another. -/
def heap : Heap := .fresh policy

/-- What is left of a block after an attempt to grow it. -/
structure Attempt where
  granted : Bool
  size : Nat
  kept : List UInt8
deriving DecidableEq, Repr

/-- Attempts to grow a block, in order; one that would not enlarge it is
    not made. -/
def attempts (h : Heap) (block size kept : Nat) : List Nat → List Attempt
  | [] => []
  | new :: rest =>
      if size < new then
        match h.grow block size new with
        | (some block, h) => ⟨true, new, h.read block 0 kept⟩ :: attempts h block new kept rest
        | (none, h) => ⟨false, size, h.read block 0 kept⟩ :: attempts h block size kept rest
      else ⟨false, size, h.read block 0 kept⟩ :: attempts h block size kept rest

/-- What comes of a trial. -/
inductive Trial where
  /-- A block of no bytes must not be asked for. -/
  | misuse
  | refused
  | granted (attempts : List Attempt)
deriving DecidableEq, Repr

/-- A block of `size` bytes that begins with `data`, then grown. -/
def trial (size : Nat) (data : List UInt8) (sizes : List Nat) : Trial :=
  if size = 0 then .misuse
  else
    match heap.alloc size with
    | (some block, h) =>
        let data := data.take size
        .granted (attempts (h.write block 0 data) block size data.length sizes)
    | (none, _) => .refused

end ScratchArena.Platform
