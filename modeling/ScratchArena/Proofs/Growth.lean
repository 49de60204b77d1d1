import ScratchArena.Proofs.Representation

/-! # Growth — everything a site does to get room

    A site that makes room asks its heap at most once.  `Resized` lists
    what can come of it: nothing had to be asked, the heap refused, the
    unused newest chunk was extended, or a new chunk was pushed.  `reserve`
    and the growth of an allocation are both instances, so whatever is
    shown of `Resized` holds of them.  `Site.Grown` is a single growth, with
    its size and the answer of the heap. -/

namespace ScratchArena

/-- A success is no failure. -/
theorem ok_ne_error {α : Type} {x : α} {e : Failure} {s s' : Site} :
    ((.ok x, s) : Except Failure α × Site) ≠ (.error e, s') := by
  intro h
  cases h

/-- The terms of a block: its size, and whether it is still on loan. -/
def Block.terms (b : Block) : Nat × Bool := (b.size, b.held)

namespace Heap

/-- The terms of every block, by number. -/
def terms (h : Heap) : List (Nat × Bool) := h.blocks.map Block.terms

/-- The same but for what is written in the blocks. -/
structure Alike (h h' : Heap) : Prop where
  policy : h'.policy = h.policy
  calls : h'.calls = h.calls
  terms : h'.terms = h.terms

theorem Alike.refl (h : Heap) : h.Alike h := ⟨rfl, rfl, rfl⟩

theorem Alike.trans {h h' h'' : Heap} (ha : h.Alike h') (ha' : h'.Alike h'') : h.Alike h'' :=
  ⟨ha'.policy.trans ha.policy, ha'.calls.trans ha.calls, ha'.terms.trans ha.terms⟩

/-- Alike heaps have the same number of blocks. -/
theorem Alike.blocks {h h' : Heap} (ha : h.Alike h') : h'.blocks.length = h.blocks.length := by
  simpa [Heap.terms] using congrArg List.length ha.terms

/-- A change to one block that leaves its terms alone changes none. -/
theorem terms_of_modify {h h' : Heap} {target : Nat} {f : Block → Block}
    (hblocks : h'.blocks = h.blocks.modify target f) (hf : ∀ b, (f b).terms = b.terms) :
    h'.terms = h.terms := by
  refine List.ext_getElem? ?_
  intro i
  rw [terms, terms, hblocks, List.getElem?_map, List.getElem?_map, List.getElem?_modify]
  cases h.blocks[i]? with
  | none => rfl
  | some b =>
      by_cases heq : target = i
      · simp [heq, hf]
      · simp [heq]

theorem alike_update (h : Heap) (block offset length : Nat) (byte : Nat → UInt8) :
    h.Alike (h.update block offset length byte) :=
  ⟨rfl, rfl, terms_of_modify rfl fun _ => rfl⟩

/-- Writing bytes leaves a heap alike. -/
theorem alike_write (h : Heap) (block offset : Nat) (data : List UInt8) :
    h.Alike (h.write block offset data) :=
  ⟨rfl, rfl, terms_of_modify rfl fun _ => rfl⟩

theorem length_blocks_free (h : Heap) (block size : Nat) :
    (h.free block size).blocks.length = h.blocks.length := List.length_modify ..

end Heap

/-- What one attempt to make room leaves behind. -/
inductive Resized (s s' : Site) : Prop where
  | idle (arena : s'.arena = s.arena) (heap : s'.heap = s.heap)
  | refusedGrow {chunk : Chunk} {older : List Chunk} {capacity : Nat}
      (chunks : s.arena.chunks = chunk :: older) (unused : s.arena.used = 0)
      (larger : chunk.capacity < capacity) (arena : s'.arena = s.arena)
      (refused : s.heap.grow chunk.block chunk.capacity capacity = (none, s'.heap))
  | refusedAlloc {capacity : Nat} (positive : 0 < capacity)
      (arena : s'.arena = s.arena) (refused : s.heap.alloc capacity = (none, s'.heap))
  | extended {chunk : Chunk} {older : List Chunk} {block capacity : Nat}
      (chunks : s.arena.chunks = chunk :: older) (unused : s.arena.used = 0)
      (larger : chunk.capacity < capacity) (arena : s'.arena = s.arena.extend block capacity)
      (granted : s.heap.grow chunk.block chunk.capacity capacity = (some block, s'.heap))
  | pushed {block capacity : Nat} (positive : 0 < capacity)
      (inUse : s.arena.chunks = [] ∨ 0 < s.arena.total)
      (arena : s'.arena = s.arena.push block capacity)
      (granted : s.heap.alloc capacity = (some block, s'.heap))

/-- The call may move a block or take it away. -/
def Call.Touches (block : Nat) : Call → Prop
  | .alloc _ _ => False
  | .grow target _ _ _ => target = block
  | .free target _ => target = block

/-- Making room asks the heap about the unused newest chunk, if about any. -/
theorem Resized.asked {s s' : Site} (h : Resized s s') :
    ∃ calls, s'.heap.calls = s.heap.calls ++ calls
      ∧ ∀ call ∈ calls, ∀ block, call.Touches block →
        s.arena.used = 0 ∧ ∃ c older, s.arena.chunks = c :: older ∧ c.block = block := by
  cases h with
  | idle arena heap =>
      exact ⟨[], by rw [heap, List.append_nil], fun _ hc => nomatch hc⟩
  | @refusedGrow c older capacity chunks unused larger arena refused =>
      refine ⟨_, Heap.calls_of_grow refused, ?_⟩
      intro call hcall block ht
      obtain rfl := List.mem_singleton.mp hcall
      exact ⟨unused, c, older, chunks, ht⟩
  | refusedAlloc positive arena refused =>
      refine ⟨_, Heap.calls_of_alloc refused, ?_⟩
      intro call hcall block ht
      obtain rfl := List.mem_singleton.mp hcall
      exact ht.elim
  | @extended c older block capacity chunks unused larger arena granted =>
      refine ⟨_, Heap.calls_of_grow granted, ?_⟩
      intro call hcall block ht
      obtain rfl := List.mem_singleton.mp hcall
      exact ⟨unused, c, older, chunks, ht⟩
  | pushed positive inUse arena granted =>
      refine ⟨_, Heap.calls_of_alloc granted, ?_⟩
      intro call hcall block ht
      obtain rfl := List.mem_singleton.mp hcall
      exact ht.elim

/-- A growth takes nothing out of the journal. -/
theorem Resized.calls_length_le {s s' : Site} (h : Resized s s') :
    s.heap.calls.length ≤ s'.heap.calls.length := by
  obtain ⟨calls, heq, -⟩ := h.asked
  rw [heq, List.length_append]
  exact Nat.le_add_right ..

/-- A growth that is in place: an extension makes the unused newest chunk
    larger, a new chunk is not empty and retires only a chunk in use. -/
def Growth.Apt (a : Arena) : Growth → Prop
  | .extend capacity =>
      a.used = 0 ∧ ∃ c older, a.chunks = c :: older ∧ c.capacity < capacity
  | .replace capacity => 0 < capacity ∧ (a.chunks = [] ∨ 0 < a.total)

namespace Site

/-- Acquiring a chunk is refused, or puts a new chunk on top. -/
theorem acquire_cases (s : Site) (capacity : Nat) :
    (∃ heap, s.heap.alloc capacity = (none, heap)
      ∧ s.acquire capacity = { s with heap }.refuse (.outOfMemory capacity))
    ∨ ∃ block heap, s.heap.alloc capacity = (some block, heap)
      ∧ s.acquire capacity = (.ok (s.arena.newChunk block capacity),
        { s with arena := s.arena.push block capacity, heap }.log
          (.chunkAcquired s.arena.nextChunk capacity false)) := by
  cases he : s.heap.alloc capacity with
  | mk answer heap =>
      cases answer with
      | none =>
          refine Or.inl ⟨heap, rfl, ?_⟩
          simp only [acquire, he]
      | some block =>
          refine Or.inr ⟨block, heap, rfl, ?_⟩
          simp only [acquire, he]

/-- Growing a chunk is refused, or gives it the block that the heap
    answers with. -/
theorem extend_cases (s : Site) (c : Chunk) (capacity : Nat) :
    (∃ heap, s.heap.grow c.block c.capacity capacity = (none, heap)
      ∧ s.extend c capacity = { s with heap }.refuse (.outOfMemory capacity))
    ∨ ∃ block heap, s.heap.grow c.block c.capacity capacity = (some block, heap)
      ∧ s.extend c capacity = (.ok { c with block, capacity },
        { s with arena := s.arena.extend block capacity, heap }.log
          (.chunkAcquired c.number capacity true)) := by
  cases he : s.heap.grow c.block c.capacity capacity with
  | mk answer heap =>
      cases answer with
      | none =>
          refine Or.inl ⟨heap, rfl, ?_⟩
          simp only [extend, he]
      | some block =>
          refine Or.inr ⟨block, heap, rfl, ?_⟩
          simp only [extend, he]

/-- Acquiring a chunk asks the heap for a block. -/
theorem acquire_heap (s : Site) (capacity : Nat) :
    (s.acquire capacity).2.heap = (s.heap.alloc capacity).2 := by
  rcases s.acquire_cases capacity with ⟨heap, he, hx⟩ | ⟨block, heap, he, hx⟩
  · rw [hx, he]
    rfl
  · rw [hx, he]
    rfl

/-- Growing a chunk asks the heap to grow its block. -/
theorem extend_heap (s : Site) (c : Chunk) (capacity : Nat) :
    (s.extend c capacity).2.heap = (s.heap.grow c.block c.capacity capacity).2 := by
  rcases s.extend_cases c capacity with ⟨heap, he, hx⟩ | ⟨block, heap, he, hx⟩
  · rw [hx, he]
    rfl
  · rw [hx, he]
    rfl

theorem grow_extend {s : Site} {c : Chunk} {older : List Chunk} (capacity : Nat)
    (hc : s.arena.chunks = c :: older) : s.grow (.extend capacity) = s.extend c capacity := by
  simp only [grow, hc]

/-- What can come of a growth, with the answer of the heap. -/
inductive Grown (s : Site) : Growth → Except Failure Chunk × Site → Prop where
  | refusedGrow {c : Chunk} {older : List Chunk} {n : Nat} {s' : Site}
      (chunks : s.arena.chunks = c :: older) (unused : s.arena.used = 0)
      (larger : c.capacity < n) (arena : s'.arena = s.arena)
      (refused : s.heap.grow c.block c.capacity n = (none, s'.heap)) :
      Grown s (.extend n) (.error (.outOfMemory n), s')
  | extended {c : Chunk} {older : List Chunk} {n block : Nat} {s' : Site}
      (chunks : s.arena.chunks = c :: older) (unused : s.arena.used = 0)
      (larger : c.capacity < n) (arena : s'.arena = s.arena.extend block n)
      (granted : s.heap.grow c.block c.capacity n = (some block, s'.heap)) :
      Grown s (.extend n) (.ok { c with block, capacity := n }, s')
  | refusedAlloc {n : Nat} {s' : Site} (positive : 0 < n) (arena : s'.arena = s.arena)
      (refused : s.heap.alloc n = (none, s'.heap)) :
      Grown s (.replace n) (.error (.outOfMemory n), s')
  | pushed {n block : Nat} {s' : Site} (positive : 0 < n)
      (inUse : s.arena.chunks = [] ∨ 0 < s.arena.total) (arena : s'.arena = s.arena.push block n)
      (granted : s.heap.alloc n = (some block, s'.heap)) :
      Grown s (.replace n) (.ok (s.arena.newChunk block n), s')

/-- A growth in place asks the heap once. -/
theorem grow_grown {s : Site} {growth : Growth} (hg : growth.Apt s.arena) :
    s.Grown growth (s.grow growth) := by
  cases growth with
  | extend n =>
      obtain ⟨hunused, c, older, hc, hlt⟩ := hg
      rw [grow_extend n hc]
      rcases s.extend_cases c n with ⟨heap, he, hx⟩ | ⟨block, heap, he, hx⟩
      · rw [hx]
        exact .refusedGrow hc hunused hlt rfl he
      · rw [hx]
        exact .extended hc hunused hlt rfl he
  | replace n =>
      show s.Grown _ (s.acquire n)
      rcases s.acquire_cases n with ⟨heap, he, hx⟩ | ⟨block, heap, he, hx⟩
      · rw [hx]
        exact .refusedAlloc hg.1 rfl he
      · rw [hx]
        exact .pushed hg.1 hg.2 rfl he

namespace Grown

variable {s : Site} {growth : Growth}

/-- Making room ends in one of the ways in which an arena can be resized. -/
theorem resized {outcome : Except Failure Chunk × Site} (h : s.Grown growth outcome) :
    Resized s outcome.2 := by
  cases h with
  | refusedGrow chunks unused larger arena refused =>
      exact .refusedGrow chunks unused larger arena refused
  | extended chunks unused larger arena granted =>
      exact .extended chunks unused larger arena granted
  | refusedAlloc positive arena refused => exact .refusedAlloc positive arena refused
  | pushed positive inUse arena granted => exact .pushed positive inUse arena granted

/-- A growth that fails leaves the arena as it was. -/
theorem arena_of_error {e : Failure} {s' : Site} (h : s.Grown growth (.error e, s')) :
    s'.arena = s.arena := by
  cases h with
  | refusedGrow chunks unused larger arena refused => exact arena
  | refusedAlloc positive arena refused => exact arena

/-- A granted growth puts a chunk of the wanted capacity on top, with
    nothing used in it. -/
theorem on_top {c : Chunk} {room : Site} (h : s.Grown growth (.ok c, room)) :
    c.capacity = growth.capacity ∧ room.arena.used = 0
      ∧ ∃ older, room.arena.chunks = c :: older := by
  cases h with
  | @extended c older n block room chunks unused larger arena granted =>
      rw [arena]
      exact ⟨rfl, unused, older, Arena.extend_chunks chunks block n⟩
  | pushed positive inUse arena granted =>
      rw [arena]
      exact ⟨rfl, rfl, _, rfl⟩

end Grown

theorem grow_resized {s : Site} {growth : Growth} (hg : growth.Apt s.arena) :
    Resized s (s.grow growth).2 :=
  (grow_grown hg).resized

/-- A growth that fails leaves the arena alone. -/
theorem grow_error {s s' : Site} {growth : Growth} {e : Failure}
    (hg : growth.Apt s.arena) (h : s.grow growth = (.error e, s')) :
    s'.arena = s.arena := by
  have hgrown := grow_grown hg
  rw [h] at hgrown
  exact hgrown.arena_of_error

/-- A growth that succeeds leaves an unused chunk of the capacity asked for
    on top. -/
theorem grow_ok {s s' : Site} {growth : Growth} {c : Chunk}
    (hg : growth.Apt s.arena) (h : s.grow growth = (.ok c, s')) :
    c.capacity = growth.capacity ∧ s'.arena.used = 0
      ∧ ∃ older, s'.arena.chunks = c :: older := by
  have hgrown := grow_grown hg
  rw [h] at hgrown
  exact hgrown.on_top

end Site

/-! ## Planned growths are in place -/

namespace Arena

/-- A growth planned at an offset that is zero only in an unused chunk. -/
theorem Sound.growthFor_apt {a : Arena} (h : a.Sound) {offset more : Nat}
    (hunused : offset = 0 → a.used = 0)
    (hused : 0 < offset → a.chunks = [] ∨ 0 < a.total)
    (hlarger : offset = 0 → a.currentCapacity < more) :
    (a.growthFor offset more).Apt a := by
  have hspare := h.spare_pos
  by_cases hx : a.chunks ≠ [] ∧ offset = 0
  · rw [show a.growthFor offset more = .extend more from if_pos hx]
    obtain ⟨c, older, hc⟩ := List.exists_cons_of_ne_nil hx.1
    refine ⟨hunused hx.2, c, older, hc, ?_⟩
    rw [← currentCapacity_of_cons hc]
    exact hlarger hx.2
  · rw [show a.growthFor offset more = .replace (Word.satAdd more a.settings.spare)
      from if_neg hx]
    refine ⟨?_, ?_⟩
    · show 0 < min (more + a.settings.spare) Word.largest
      have : 0 < Word.largest := by decide
      omega
    · by_cases hz : offset = 0
      · exact Or.inl (Classical.not_not.mp fun hne => hx ⟨hne, hz⟩)
      · exact hused (Nat.pos_of_ne_zero hz)

/-- The growth that a reservation plans when there is no room. -/
theorem Sound.reserve_apt {a : Arena} (h : a.Sound) {more : Nat}
    (hfull : ¬ Word.satAdd a.used more ≤ a.currentCapacity) :
    (a.growthFor a.used more).Apt a := by
  have hle := h.used_le_total
  refine h.growthFor_apt (fun hz => hz) (fun _ => Or.inr (by omega)) ?_
  intro hz
  rw [hz] at hfull
  have hfull : ¬ min (0 + more) Word.largest ≤ a.currentCapacity := hfull
  omega

theorem le_satAdd {a b n : Nat} (hn : n ≤ a) (hw : n ≤ Word.largest) :
    n ≤ Word.satAdd a b :=
  Nat.le_min.mpr ⟨Nat.le_trans hn (Nat.le_add_right ..), hw⟩

/-- A growth has room for what it is made for. -/
theorem growthFor_capacity {a : Arena} {offset more n : Nat} (hn : n ≤ more)
    (hw : n ≤ Word.largest) : n ≤ (a.growthFor offset more).capacity := by
  by_cases hx : a.chunks ≠ [] ∧ offset = 0
  · rw [show a.growthFor offset more = .extend more from if_pos hx]
    exact hn
  · rw [show a.growthFor offset more = .replace (Word.satAdd more a.settings.spare)
      from if_neg hx]
    exact le_satAdd hn hw

/-- After it a request starts with its chunk. -/
theorem growthFor_landing (a : Arena) (offset more : Nat) :
    (a.growthFor offset more).landing offset = 0 := by
  by_cases hx : a.chunks ≠ [] ∧ offset = 0
  · rw [show a.growthFor offset more = .extend more from if_pos hx]
    exact hx.2
  · rw [show a.growthFor offset more = .replace (Word.satAdd more a.settings.spare)
      from if_neg hx]
    rfl

/-- A request that is placed inside fits the newest chunk. -/
theorem placement_inside {a : Arena} {offset size : Nat} {c : Chunk}
    (h : a.placement offset size = .inside c) :
    (∃ older, a.chunks = c :: older) ∧ offset + size ≤ c.capacity := by
  cases hc : a.chunks with
  | nil =>
      simp only [placement, hc] at h
      exact nomatch h
  | cons d older =>
      simp only [placement, hc] at h
      split at h
      · rename_i hfit
        obtain rfl := Placement.inside.inj h
        exact ⟨⟨older, rfl⟩, hfit⟩
      · split at h
        · exact nomatch h
        · exact nomatch h

/-- A request that does not fit leads to a growth that is in place, large
    enough, and filled from its start. -/
theorem Sound.placement_after {a : Arena} (h : a.Sound) {align size : Nat}
    (hsize : 0 < size)
    (hlim : a.total + padding a.used (clampAlign align) + size ≤ a.settings.maxSize)
    {growth : Growth}
    (hp : a.placement (a.used + padding a.used (clampAlign align)) size = .after growth) :
    growth.Apt a ∧ size ≤ growth.capacity
      ∧ growth.landing (a.used + padding a.used (clampAlign align)) = 0 := by
  have hword : size ≤ Word.largest := by
    have := h.words
    omega
  have hle := h.used_le_total
  have hcap := h.used_le_capacity
  have hpad : a.used = 0 → padding a.used (clampAlign align) = 0 := by
    intro hz
    rw [hz]
    exact padding_zero_clampAlign align
  cases hc : a.chunks with
  | nil =>
      -- a first chunk: the offset is zero, and so is the capacity
      simp only [placement, hc] at hp
      obtain rfl := Placement.after.inj hp
      refine ⟨h.growthFor_apt (by omega) (fun _ => Or.inl hc) ?_,
        growthFor_capacity (Nat.le_max_right ..) hword, growthFor_landing ..⟩
      intro _
      rw [currentCapacity_of_nil hc]
      exact Nat.lt_of_lt_of_le hsize (Nat.le_max_right ..)
  | cons c older =>
      rw [currentCapacity_of_cons hc] at hcap
      simp only [placement, hc] at hp
      split at hp
      · exact nomatch hp
      · rename_i hnofit
        split at hp
        · -- the padding fits: an unused chunk is extended, any other retired
          obtain rfl := Placement.after.inj hp
          refine ⟨h.growthFor_apt (by omega) (fun _ => Or.inr (by omega)) ?_,
            growthFor_capacity (Nat.le_max_right ..) hword, growthFor_landing ..⟩
          intro hz
          rw [currentCapacity_of_cons hc]
          have : size ≤ max a.headroom size := Nat.le_max_right ..
          omega
        · -- not even the padding fits, so some of the chunk is in use
          obtain rfl := Placement.after.inj hp
          have hsat : size ≤ Word.satAdd size a.settings.spare :=
            le_satAdd (Nat.le_refl _) hword
          have hroom : size ≤ max a.headroom (Word.satAdd size a.settings.spare) :=
            Nat.le_trans hsat (Nat.le_max_right ..)
          exact ⟨⟨by omega, Or.inr (by omega)⟩, hroom, rfl⟩

end Arena

/-! ## Operations that may grow -/

namespace Site

/-- A reservation with no room for it is the growth it plans. -/
theorem reserve_of_full {s : Site} {more : Nat}
    (hfull : ¬ Word.satAdd s.arena.used more ≤ s.arena.currentCapacity) :
    s.reserve more = ((s.grow (s.arena.growthFor s.arena.used more)).1.map fun _ => (),
      (s.grow (s.arena.growthFor s.arena.used more)).2) := by
  rw [reserve, if_neg hfull]
  generalize s.grow (s.arena.growthFor s.arena.used more) = outcome
  obtain ⟨answer, s'⟩ := outcome
  cases answer with
  | error e => rfl
  | ok c => rfl

/-- A reservation finds room or is one growth. -/
theorem reserve_grown {s : Site} (h : s.arena.Sound) (more : Nat) :
    (Word.satAdd s.arena.used more ≤ s.arena.currentCapacity ∧ s.reserve more = (.ok (), s))
    ∨ s.arena.currentCapacity < Word.satAdd s.arena.used more
      ∧ ∃ outcome, s.Grown (s.arena.growthFor s.arena.used more) outcome
        ∧ s.reserve more = (outcome.1.map fun _ => (), outcome.2) := by
  by_cases hfits : Word.satAdd s.arena.used more ≤ s.arena.currentCapacity
  · exact Or.inl ⟨hfits, if_pos hfits⟩
  · exact Or.inr ⟨Nat.lt_of_not_le hfits, _, grow_grown (h.reserve_apt hfits),
      reserve_of_full hfits⟩

/-- A reservation resizes the arena at most. -/
theorem reserve_resized {s : Site} (h : s.arena.Sound) (more : Nat) :
    Resized s (s.reserve more).2 := by
  rcases reserve_grown h more with ⟨-, heq⟩ | ⟨-, outcome, hgrown, heq⟩
  · rw [heq]
    exact .idle rfl rfl
  · rw [heq]
    exact hgrown.resized

/-- A reservation that fails leaves the arena as it was. -/
theorem reserve_error {s s' : Site} (h : s.arena.Sound) {more : Nat} {e : Failure}
    (he : s.reserve more = (.error e, s')) : s'.arena = s.arena := by
  rcases reserve_grown h more with ⟨-, heq⟩ | ⟨-, ⟨answer, room⟩, hgrown, heq⟩
  · exact absurd (heq.symm.trans he) ok_ne_error
  · obtain rfl : room = s' := congrArg Prod.snd (heq.symm.trans he)
    cases answer with
    | error e => exact hgrown.arena_of_error
    | ok c => exact absurd (heq.symm.trans he) ok_ne_error

/-- The growth for no bytes is apt. -/
theorem allocNothing_growth_apt {s : Site} (h : s.arena.Sound)
    (hc : s.arena.chunks = []) :
    (s.arena.growthFor s.arena.used s.arena.settings.spare).Apt s.arena := by
  refine h.growthFor_apt id (fun _ => Or.inl hc) ?_
  intro _
  rw [Arena.currentCapacity_of_nil hc]
  exact h.spare_pos

/-- No bytes start where the newest chunk does. -/
theorem allocNothing_of_cons {s : Site} {c : Chunk} {older : List Chunk}
    (hc : s.arena.chunks = c :: older) : s.allocNothing = (.ok ⟨c.block, 0⟩, s) := by
  simp only [allocNothing, hc]

/-- A request for nothing without a chunk is the growth it plans. -/
theorem allocNothing_of_nil {s : Site} (hc : s.arena.chunks = []) :
    s.allocNothing
      = ((s.grow (s.arena.growthFor s.arena.used s.arena.settings.spare)).1.map
          fun c => ⟨c.block, 0⟩,
        (s.grow (s.arena.growthFor s.arena.used s.arena.settings.spare)).2) := by
  simp only [allocNothing, hc]
  generalize s.grow (s.arena.growthFor s.arena.used s.arena.settings.spare) = outcome
  obtain ⟨answer, s'⟩ := outcome
  cases answer with
  | error e => rfl
  | ok c => rfl

/-- A request for nothing finds a chunk or is one growth. -/
theorem allocNothing_grown {s : Site} (h : s.arena.Sound) :
    (∃ c older, s.arena.chunks = c :: older ∧ s.allocNothing = (.ok ⟨c.block, 0⟩, s))
    ∨ s.arena.chunks = []
      ∧ ∃ outcome, s.Grown (s.arena.growthFor s.arena.used s.arena.settings.spare) outcome
        ∧ s.allocNothing = (outcome.1.map fun c => ⟨c.block, 0⟩, outcome.2) := by
  cases hc : s.arena.chunks with
  | cons c older => exact Or.inl ⟨c, older, rfl, allocNothing_of_cons hc⟩
  | nil =>
      exact Or.inr ⟨rfl, _, grow_grown (allocNothing_growth_apt h hc), allocNothing_of_nil hc⟩

theorem allocNothing_resized {s : Site} (h : s.arena.Sound) :
    Resized s s.allocNothing.2 := by
  rcases allocNothing_grown h with ⟨c, older, -, heq⟩ | ⟨-, outcome, hgrown, heq⟩
  · rw [heq]
    exact .idle rfl rfl
  · rw [heq]
    exact hgrown.resized

/-- No bytes are refused only with the arena left alone. -/
theorem allocNothing_error {s s' : Site} (h : s.arena.Sound) {e : Failure}
    (he : s.allocNothing = (.error e, s')) : s'.arena = s.arena := by
  rcases allocNothing_grown h with ⟨c, older, -, heq⟩ | ⟨-, ⟨answer, room⟩, hgrown, heq⟩
  · exact absurd (heq.symm.trans he) ok_ne_error
  · obtain rfl : room = s' := congrArg Prod.snd (heq.symm.trans he)
    cases answer with
    | error e => exact hgrown.arena_of_error
    | ok c => exact absurd (heq.symm.trans he) ok_ne_error

theorem allocNothing_ok {s : Site} (h : s.arena.Sound) {p : Pointer}
    (hok : s.allocNothing.1 = .ok p) : s.allocNothing.2.arena.chunks ≠ [] := by
  rcases allocNothing_grown h with ⟨c, older, hc, heq⟩ | ⟨-, ⟨answer, room⟩, hgrown, heq⟩
  · rw [heq, hc]
    exact List.cons_ne_nil _ _
  · rw [heq] at hok ⊢
    cases answer with
    | error e => exact nomatch hok
    | ok c =>
        obtain ⟨-, -, older, htop⟩ := hgrown.on_top
        rw [htop]
        exact List.cons_ne_nil _ _

/-- How some bytes are allotted: room is made if need be, then the offset
    of the newest chunk is bumped past the padding and the bytes. -/
structure Allotted (s room s' : Site) (c : Chunk) (offset size align : Nat) : Prop where
  resized : Resized s room
  on_top : ∃ older, room.arena.chunks = c :: older
  padded : offset = room.arena.used + padding room.arena.used (clampAlign align)
  within : offset + size ≤ c.capacity
  charged : offset ≤ s.arena.total + padding s.arena.used (clampAlign align)
  limit : s.arena.total + padding s.arena.used (clampAlign align) + size
    ≤ s.arena.settings.maxSize
  arena : s'.arena = room.arena.bump offset (padding s.arena.used (clampAlign align)) size
  heap : room.heap.Alike s'.heap

/-- What placing a request does: a pointer, new counters, and bytes on the
    heap. -/
theorem place_eq (s : Site) (c : Chunk) (offset padding size : Nat) :
    (s.place c offset padding size).1 = .ok ⟨c.block, offset⟩
      ∧ (s.place c offset padding size).2.arena = s.arena.bump offset padding size
      ∧ s.heap.Alike (s.place c offset padding size).2.heap := by
  refine ⟨rfl, rfl, ?_⟩
  show s.heap.Alike (if s.arena.settings.poison then s.heap.fill c.block offset size poisonByte
    else s.heap)
  split
  · exact s.heap.alike_update ..
  · exact Heap.Alike.refl _

/-- The three ways of a request for some bytes. -/
theorem allocBytes_eq (s : Site) {size : Nat} (hsize : 0 < size) (align : Nat) :
    s.allocBytes size align =
      if s.arena.settings.maxSize
          < s.arena.total + padding s.arena.used (clampAlign align) + size then
        s.overflow size
      else
        match s.arena.placement (s.arena.used + padding s.arena.used (clampAlign align)) size with
        | .inside chunk =>
            s.place chunk (s.arena.used + padding s.arena.used (clampAlign align))
              (padding s.arena.used (clampAlign align)) size
        | .after growth =>
            match s.grow growth with
            | (.ok chunk, s') =>
                s'.place chunk
                  (growth.landing (s.arena.used + padding s.arena.used (clampAlign align)))
                  (padding s.arena.used (clampAlign align)) size
            | (.error e, s') => (.error e, s') :=
  if_neg (Nat.ne_of_gt hsize)

/-- A failed request asks the heap at most once and leaves the arena as
    it was. -/
theorem allocBytes_error {s s' : Site} (h : s.arena.Sound) {size align : Nat} {e : Failure}
    (he : s.allocBytes size align = (.error e, s')) :
    Resized s s' ∧ s'.arena = s.arena := by
  rcases Nat.eq_zero_or_pos size with hz | hsize
  · rw [show s.allocBytes size align = s.allocNothing from if_pos hz] at he
    have hr := allocNothing_resized h
    rw [he] at hr
    exact ⟨hr, allocNothing_error h he⟩
  · rw [allocBytes_eq s hsize align] at he
    split at he
    · -- over the limit: nothing is asked
      obtain rfl := congrArg Prod.snd he
      exact ⟨.idle rfl rfl, rfl⟩
    · rename_i hlim
      split at he
      · exact absurd he ok_ne_error
      · rename_i growth hp
        obtain ⟨hapt, -, -⟩ := h.placement_after hsize (by omega) hp
        split at he
        · exact absurd he ok_ne_error
        · rename_i hg
          obtain rfl := congrArg Prod.snd he
          have hr := grow_resized hapt
          rw [hg] at hr
          exact ⟨hr, grow_error hapt hg⟩

/-- A request that succeeds is allotted some offset of the newest chunk. -/
theorem allocBytes_ok {s s' : Site} (h : s.arena.Sound) {size align : Nat} {p : Pointer}
    (hsize : 0 < size) (he : s.allocBytes size align = (.ok p, s')) :
    ∃ room c, s.Allotted room s' c p.offset size align ∧ p.block = c.block := by
  rw [allocBytes_eq s hsize align] at he
  have hle := h.used_le_total
  split at he
  · exact absurd he.symm ok_ne_error
  · rename_i hlim
    split at he
    · rename_i c hp
      obtain ⟨htop, hfit⟩ := Arena.placement_inside hp
      obtain ⟨-, harena, hheap⟩ := s.place_eq c
        (s.arena.used + padding s.arena.used (clampAlign align))
        (padding s.arena.used (clampAlign align)) size
      obtain rfl := congrArg Prod.snd he
      obtain rfl := Except.ok.inj (congrArg Prod.fst he)
      exact ⟨s, c, {
        resized := .idle rfl rfl
        on_top := htop
        padded := rfl
        within := hfit
        charged := Nat.add_le_add_right hle _
        limit := by omega
        arena := harena
        heap := hheap }, rfl⟩
    · -- the grown chunk is unused, and offset 0 needs no padding
      rename_i growth hp
      obtain ⟨hapt, hroom, hland⟩ := h.placement_after hsize (by omega) hp
      split at he
      · rename_i c room hg
        obtain ⟨hcap, hused, htop⟩ := grow_ok hapt hg
        have hr := grow_resized hapt
        rw [hg] at hr
        rw [hland] at he
        obtain ⟨-, harena, hheap⟩ := room.place_eq c 0
          (padding s.arena.used (clampAlign align)) size
        obtain rfl := congrArg Prod.snd he
        obtain rfl := Except.ok.inj (congrArg Prod.fst he)
        exact ⟨room, c, {
          resized := hr
          on_top := htop
          padded := by rw [hused, padding_zero_clampAlign]
          within := by
            rw [Nat.zero_add, hcap]
            exact hroom
          charged := Nat.zero_le _
          limit := by omega
          arena := harena
          heap := hheap }, rfl⟩
      · exact absurd he.symm ok_ne_error

end Site

end ScratchArena
