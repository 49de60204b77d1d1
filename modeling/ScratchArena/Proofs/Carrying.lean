import ScratchArena.Proofs.Moves

/-! # Carrying — memory while chunks come, move and go

    A heap keeps the bytes of a block while it enlarges it, be it by moving
    them, and touches no other block when it lends one or takes one back.
    So where chunks are given back and room is made, memory is *carried*: a
    chunk that is still there has the bytes it had, wherever it is now, and
    no block of anybody else has changed.  Of bytes that nobody has written
    yet, and of blocks that have come back, nothing is said. -/

namespace ScratchArena

namespace Heap

/-- Chunks that come back leave the bytes of all other blocks alone. -/
theorem byteAt_freeAll (h : Heap) {chunks : List Chunk} {block : Nat}
    (hb : block < h.blocks.length) (hne : block ∉ chunks.map Chunk.block) (i : Nat) :
    (h.freeAll chunks).byteAt block i = h.byteAt block i := by
  induction chunks generalizing h with
  | nil => rfl
  | cons c rest ih =>
      rw [List.map_cons, List.mem_cons, not_or] at hne
      refine (ih (h.free c.block c.capacity) ?_ hne.2).trans (h.byteAt_free_of_ne _ _ hb hne.1 i)
      rw [h.length_blocks_free]
      exact hb

end Heap

namespace Site

/-- A chunk of an earlier moment and what has become of it: it may have
    grown, and moved to a block that was not there before, but it has its
    bytes. -/
structure Carried (s s' : Site) (c d : Chunk) : Prop where
  number : d.number = c.number
  capacity : c.capacity ≤ d.capacity
  block : d.block = c.block ∨ s.heap.blocks.length ≤ d.block
  bytes : ∀ i < c.capacity, s'.heap.byteAt d.block i = s.heap.byteAt c.block i

/-- Nobody has written between two moments.  A chunk is one from before,
    with the bytes it had, or a new one on a new block; and the blocks that
    were none of the arena's are as they were. -/
structure Carries (s s' : Site) : Prop where
  chunks : ∀ d ∈ s'.arena.chunks, (∃ c ∈ s.arena.chunks, s.Carried s' c d)
    ∨ s.arena.nextChunk ≤ d.number ∧ s.heap.blocks.length ≤ d.block
  others : ∀ block < s.heap.blocks.length, (∀ c ∈ s.arena.chunks, c.block ≠ block) →
    ∀ i, s'.heap.byteAt block i = s.heap.byteAt block i
  nextChunk : s.arena.nextChunk ≤ s'.arena.nextChunk
  blocks : s.heap.blocks.length ≤ s'.heap.blocks.length

variable {s s' s'' : Site}

/-- The same chunks on a heap that has changed nothing else. -/
theorem Carries.of_same (hchunks : s'.arena.chunks = s.arena.chunks)
    (hnext : s'.arena.nextChunk = s.arena.nextChunk)
    (hblocks : s'.heap.blocks = s.heap.blocks) : s.Carries s' where
  chunks := by
    intro d hd
    refine Or.inl ⟨d, hchunks ▸ hd, rfl, Nat.le_refl _, Or.inl rfl, fun i _ => ?_⟩
    rw [Heap.byteAt, Heap.byteAt, hblocks]
  others := by
    intro block _ _ i
    rw [Heap.byteAt, Heap.byteAt, hblocks]
  nextChunk := Nat.le_of_eq hnext.symm
  blocks := by rw [hblocks]

theorem Carries.refl (s : Site) : s.Carries s := .of_same rfl rfl rfl

theorem Carries.trans (h : s.Carries s') (h' : s'.Carries s'') : s.Carries s'' where
  chunks := by
    intro e he
    rcases h'.chunks e he with ⟨d, hd, hcarried'⟩ | ⟨hnumber, hblock⟩
    · rcases h.chunks d hd with ⟨c, hc, hcarried⟩ | ⟨hnumber, hblock⟩
      · refine Or.inl ⟨c, hc, hcarried'.number.trans hcarried.number,
          Nat.le_trans hcarried.capacity hcarried'.capacity, ?_, fun i hi => ?_⟩
        · rcases hcarried'.block with hstays | hmoved
          · rw [hstays]
            exact hcarried.block
          · exact Or.inr (Nat.le_trans h.blocks hmoved)
        · rw [hcarried'.bytes i (Nat.lt_of_lt_of_le hi hcarried.capacity),
            hcarried.bytes i hi]
      · refine Or.inr ⟨hcarried'.number ▸ hnumber, ?_⟩
        rcases hcarried'.block with hstays | hmoved
        · rw [hstays]
          exact hblock
        · exact Nat.le_trans h.blocks hmoved
    · exact Or.inr ⟨Nat.le_trans h.nextChunk hnumber, Nat.le_trans h.blocks hblock⟩
  others := by
    intro block hb hnone i
    rw [h'.others block (Nat.lt_of_lt_of_le hb h.blocks) ?_ i, h.others block hb hnone i]
    -- no chunk has come to a block that was there before
    rintro d hd rfl
    rcases h.chunks d hd with ⟨c, hc, hcarried⟩ | ⟨-, hnew⟩
    · rcases hcarried.block with hstays | hmoved
      · exact hnone c hc hstays.symm
      · omega
    · omega
  nextChunk := Nat.le_trans h.nextChunk h'.nextChunk
  blocks := Nat.le_trans h.blocks h'.blocks

/-- Where a chunk number is one from before, it is the same chunk. -/
theorem Carries.of_number (h : s.Carries s') (hs : s.Sound) {c d : Chunk}
    (hc : c ∈ s.arena.chunks) (hd : d ∈ s'.arena.chunks) (hnumber : d.number = c.number) :
    s.Carried s' c d := by
  rcases h.chunks d hd with ⟨e, he, hcarried⟩ | ⟨hnew, -⟩
  · rw [List.inj_on_of_nodup_map hs.nodup_numbers hc he (hnumber.symm.trans hcarried.number)]
    exact hcarried
  · have := hs.arena.number_lt c hc
    omega

/-- Where a block is one from before, so is the chunk. -/
theorem Carries.of_block (h : s.Carries s') (hs : s.Sound) {c d : Chunk}
    (hc : c ∈ s.arena.chunks) (hd : d ∈ s'.arena.chunks) (hblock : d.block = c.block) :
    s.Carried s' c d := by
  have hlt := hs.block_lt c hc
  rcases h.chunks d hd with ⟨e, he, hcarried⟩ | ⟨-, hnew⟩
  · rcases hcarried.block with hstays | hmoved
    · rw [List.inj_on_of_nodup_map hs.nodup_blocks hc he (hblock.symm.trans hstays)]
      exact hcarried
    · omega
  · omega

/-- Chunks that are given back take no byte of the others with them. -/
theorem Freed.carries {gone : List Chunk} (h : s.Freed s' gone) (hs : s.Sound) :
    s.Carries s' where
  chunks := by
    intro c hc
    have hmem := h.kept.mem hc
    refine Or.inl ⟨c, hmem, rfl, Nat.le_refl _, Or.inl rfl, fun i _ => ?_⟩
    rw [h.heap]
    exact s.heap.byteAt_freeAll (hs.block_lt c hmem) (h.block_notMem hs hc) i
  others := by
    intro block hb hnone i
    rw [h.heap]
    refine s.heap.byteAt_freeAll hb (fun hgone => ?_) i
    obtain ⟨c, hc, rfl⟩ := List.mem_map.mp hgone
    exact hnone c (h.perm.subset (List.mem_append_left _ hc)) rfl
  nextChunk := Nat.le_of_eq h.nextChunk.symm
  blocks := Nat.le_of_eq h.blocks_length.symm

end Site

namespace Resized

variable {s s' : Site}

/-- Making room changes the bytes of no block but that of the unused newest
    chunk. -/
theorem byteAt (h : Resized s s') {block : Nat} (hb : block < s.heap.blocks.length)
    (hne : ∀ c older, s.arena.chunks = c :: older → s.arena.used = 0 → block ≠ c.block)
    (i : Nat) : s'.heap.byteAt block i = s.heap.byteAt block i := by
  cases h with
  | idle arena heap => rw [heap]
  | refusedGrow chunks unused larger arena refused =>
      rw [Heap.grow_refused refused]
      rfl
  | refusedAlloc positive arena refused =>
      rw [Heap.alloc_refused refused]
      rfl
  | extended chunks unused larger arena granted =>
      exact congrArg (·.2.byteAt block i) granted ▸
        s.heap.byteAt_grow_of_ne _ _ _ hb (hne _ _ chunks unused) i
  | pushed positive inUse arena granted =>
      exact congrArg (·.2.byteAt block i) granted ▸ s.heap.byteAt_alloc _ hb i

/-- A chunk that becomes larger takes its bytes along, wherever it goes. -/
theorem carries_extended (hs : s.Sound) {c : Chunk} {older : List Chunk} {block capacity : Nat}
    (chunks : s.arena.chunks = c :: older) (larger : c.capacity < capacity)
    (arena : s'.arena = s.arena.extend block capacity)
    (granted : s.heap.grow c.block c.capacity capacity = (some block, s'.heap)) :
    s.Carries s' := by
  have hchunks : s'.arena.chunks = { c with block, capacity } :: older := by
    rw [arena, Arena.extend_chunks chunks]
  have hbyte (b : Nat) (hb : b < s.heap.blocks.length) (hne : b ≠ c.block) (i : Nat) :
      s'.heap.byteAt b i = s.heap.byteAt b i :=
    congrArg (·.2.byteAt b i) granted ▸ s.heap.byteAt_grow_of_ne _ _ _ hb hne i
  have hlt := hs.block_lt
  have hblocks := hs.blocks_newest_first
  rw [chunks] at hlt hblocks
  obtain ⟨hc, holder⟩ := List.forall_mem_cons.mp hlt
  have hne := (List.pairwise_cons.mp hblocks).1
  refine ⟨?_, ?_, by rw [arena]; exact Nat.le_refl _, ?_⟩
  · rw [chunks, hchunks]
    intro d hd
    rcases List.mem_cons.mp hd with rfl | hd
    · refine Or.inl ⟨c, List.mem_cons_self, rfl, Nat.le_of_lt larger, ?_,
        fun i hi => Heap.byteAt_grow_kept granted hc hi⟩
      exact (Heap.blocks_of_grow granted).imp And.left fun h => Nat.le_of_eq h.1.symm
    · exact Or.inl ⟨d, List.mem_cons_of_mem _ hd, rfl, Nat.le_refl _, Or.inl rfl,
        fun i _ => hbyte _ (holder d hd) (Nat.ne_of_lt (hne d hd)) i⟩
  · intro b hb hnone
    exact hbyte b hb (hnone c (chunks ▸ List.mem_cons_self)).symm
  · rcases Heap.blocks_of_grow granted with ⟨-, hlen⟩ | ⟨-, hlen⟩
    · omega
    · omega

/-- A new chunk leaves the bytes of the others alone. -/
theorem carries_pushed (hs : s.Sound) {block capacity : Nat}
    (arena : s'.arena = s.arena.push block capacity)
    (granted : s.heap.alloc capacity = (some block, s'.heap)) : s.Carries s' := by
  have hbyte (b : Nat) (hb : b < s.heap.blocks.length) (i : Nat) :
      s'.heap.byteAt b i = s.heap.byteAt b i :=
    congrArg (·.2.byteAt b i) granted ▸ s.heap.byteAt_alloc capacity hb i
  obtain ⟨hblock, hheap⟩ := Heap.alloc_granted granted
  refine ⟨?_, fun b hb _ => hbyte b hb, by rw [arena]; exact Nat.le_succ _, ?_⟩
  · rw [arena]
    intro d hd
    rcases List.mem_cons.mp hd with rfl | hd
    · exact Or.inr ⟨Nat.le_refl _, Nat.le_of_eq hblock.symm⟩
    · exact Or.inl ⟨d, hd, rfl, Nat.le_refl _, Or.inl rfl,
        fun i _ => hbyte _ (hs.block_lt d hd) i⟩
  · rw [hheap]
    show _ ≤ (_ ++ [_]).length
    rw [List.length_append]
    exact Nat.le_add_right ..

/-- Making room takes no byte away, even where the newest chunk moves for
    it. -/
theorem carries (hr : Resized s s') (hs : s.Sound) : s.Carries s' := by
  cases hr with
  | idle arena heap => exact .of_same (by rw [arena]) (by rw [arena]) (by rw [heap])
  | refusedGrow chunks unused larger arena refused =>
      exact .of_same (by rw [arena]) (by rw [arena]) (by rw [Heap.grow_refused refused])
  | refusedAlloc positive arena refused =>
      exact .of_same (by rw [arena]) (by rw [arena]) (by rw [Heap.alloc_refused refused])
  | extended chunks unused larger arena granted =>
      exact carries_extended hs chunks larger arena granted
  | pushed positive inUse arena granted => exact carries_pushed hs arena granted

end Resized

namespace Site

variable {s : Site}

/-- Clearing an arena writes nothing. -/
theorem Sound.carries_clear (hs : s.Sound) : s.Carries s.clear := by
  obtain ⟨kept, gone, hfreed, hkept, hr⟩ := clear_split hs
  exact (hfreed.carries hs).trans (hr.carries hkept)

/-- Nor does a reset. -/
theorem Sound.carries_reset (hs : s.Sound) : s.Carries s.reset := by
  have hn : ({ s with arena := s.arena.nextGeneration } : Site).Sound :=
    hs.of_sublist hs.arena.nextGeneration (.refl _) rfl
  have hsame : s.Carries { s with arena := s.arena.nextGeneration } := .of_same rfl rfl rfl
  exact hsame.trans hn.carries_clear

/-- Nor does a shrink. -/
theorem Sound.carries_shrinkToFit (hs : s.Sound) : s.Carries s.shrinkToFit := by
  unfold shrinkToFit
  split
  · obtain ⟨harena, hheap⟩ := release_freed
      { s with arena := { s.arena.nextGeneration with chunks := [], used := 0, peak := 0 } }
      (s.arena.retired.reverse ++ s.arena.current?.toList)
    exact (Freed.all (by rw [harena]) (by rw [harena]; rfl) hheap).carries hs
  · exact .of_same rfl rfl rfl

/-- Whatever checkpoint is presented, and whatever comes of it. -/
theorem Sound.carries_rollback (hs : s.Sound) (c : Checkpoint) :
    s.Carries (s.rollback c).2 := by
  unfold rollback
  split
  · exact .of_same rfl rfl rfl
  · have hd : ({ s with arena := s.arena.dropMarks c.mark } : Site).Sound :=
      hs.of_sublist (hs.arena.dropMarks c.mark) (.refl _) rfl
    have hsame : s.Carries { s with arena := s.arena.dropMarks c.mark } := .of_same rfl rfl rfl
    exact hsame.trans hd.carries_clear
  · rename_i depth offset hto
    obtain ⟨-, hheap⟩ := s.release_freed (s.arena.chunks.take depth)
    refine Freed.carries (.newest ?_ rfl hheap) hs
    exact List.take_append_drop ..

end Site

end ScratchArena
