import ScratchArena.Proofs.Growth

/-! # Underlying — what of an arena is still there in a later one

    A checkpoint keeps three numbers of an arena: the newest chunk's, the
    bytes used in it and the total.  They are enough to return because the
    arena of that moment still *underlies* the present one: its older
    chunks are the bottom of the present stack, untouched, and its newest
    chunk stands right above them, unchanged unless nothing was used in
    it: then it may have become larger and have moved.  The relation is
    transitive, every growth and every allocation preserves it, and an
    arena cut back to one that underlies it is sound again. -/

namespace ScratchArena

/-- A site whose chunks sit on blocks of their own, newer chunks on newer
    blocks. -/
structure Site.Sound (s : Site) : Prop where
  arena : s.arena.Sound
  blocks_newest_first : s.arena.chunks.Pairwise fun c d => d.block < c.block
  block_lt : ∀ c ∈ s.arena.chunks, c.block < s.heap.blocks.length

/-- A site keeps sound with some of its chunks. -/
theorem Site.Sound.of_sublist {s s' : Site} (hs : s.Sound) (ha : s'.arena.Sound)
    (hchunks : s'.arena.chunks.Sublist s.arena.chunks)
    (hblocks : s'.heap.blocks.length = s.heap.blocks.length) : s'.Sound where
  arena := ha
  blocks_newest_first := hs.blocks_newest_first.sublist hchunks
  block_lt := fun c hc => hblocks ▸ hs.block_lt c (hchunks.mem hc)

theorem Site.Sound.of_arena_eq {s s' : Site} (hs : s.Sound) (harena : s'.arena = s.arena)
    (hblocks : s'.heap.blocks.length = s.heap.blocks.length) : s'.Sound :=
  hs.of_sublist (harena ▸ hs.arena) (harena ▸ List.Sublist.refl _) hblocks

namespace Arena

/-- How the chunks of `b` stand in `a`: under `newer` ones, its newest
    chunk `c` in the shape of `c'`. -/
structure Grafted (b a : Arena) (newer : List Chunk) (c c' : Chunk)
    (older : List Chunk) : Prop where
  below : b.chunks = c :: older
  above : a.chunks = newer ++ c' :: older
  number : c'.number = c.number
  capacity : c.capacity ≤ c'.capacity
  same : 0 < b.used → c' = c
  used : newer = [] → b.used ≤ a.used
  total : b.total ≤ a.total

/-- What was allocated in `b` has its place in `a`.  An arena without
    allocations underlies any other. -/
def Underlies (b a : Arena) : Prop :=
  0 < b.total → ∃ newer c c' older, b.Grafted a newer c c' older

/-- A sound arena underlies itself. -/
theorem Sound.underlies_refl {a : Arena} (h : a.Sound) : a.Underlies a := by
  intro ht
  obtain ⟨c, older, hc⟩ := h.current_of_total_pos ht
  exact ⟨[], c, c, older, {
    below := hc
    above := hc
    number := rfl
    capacity := Nat.le_refl _
    same := fun _ => rfl
    used := fun _ => Nat.le_refl _
    total := Nat.le_refl _ }⟩

/-- What underlies an earlier arena underlies the later one. -/
theorem Underlies.trans {b d a : Arena} (hbd : b.Underlies d) (hda : d.Underlies a) :
    b.Underlies a := by
  intro ht
  obtain ⟨newer, c, c', older, hg⟩ := hbd ht
  obtain ⟨more, e, e', under, hg'⟩ := hda (Nat.lt_of_lt_of_le ht hg.total)
  have htotal := Nat.le_trans hg.total hg'.total
  have hsplit := hg.above.symm.trans hg'.below
  cases newer with
  | nil =>
      -- the newest chunk of `b` is that of `d`: it may have been extended twice
      obtain ⟨rfl, rfl⟩ := List.cons.inj hsplit
      refine ⟨more, c, e', older, {
        below := hg.below
        above := hg'.above
        number := hg'.number.trans hg.number
        capacity := Nat.le_trans hg.capacity hg'.capacity
        same := ?_
        used := fun hnil => Nat.le_trans (hg.used rfl) (hg'.used hnil)
        total := htotal }⟩
      intro hpos
      rw [hg'.same (Nat.lt_of_lt_of_le hpos (hg.used rfl)), hg.same hpos]
  | cons n newer =>
      obtain ⟨rfl, rfl⟩ := List.cons.inj hsplit
      refine ⟨more ++ e' :: newer, c, c', older, {
        below := hg.below
        above := hg'.above.trans (List.append_assoc more (e' :: newer) (c' :: older)).symm
        number := hg.number
        capacity := hg.capacity
        same := hg.same
        used := fun hnil => by simp at hnil
        total := htotal }⟩

/-- Chunks and counters decide what an arena underlies. -/
theorem Underlies.congr {b a a' : Arena} (h : b.Underlies a)
    (hchunks : a'.chunks = a.chunks) (hused : a'.used = a.used)
    (htotal : a'.total = a.total) : b.Underlies a' := by
  intro ht
  obtain ⟨newer, c, c', older, hg⟩ := h ht
  exact ⟨newer, c, c', older, { hg with
    above := hchunks.trans hg.above
    used := fun hnil => hused ▸ hg.used hnil
    total := htotal ▸ hg.total }⟩

/-- An arena underlies the one with its unused chunk grown. -/
theorem underlies_extend {a : Arena} {c : Chunk} {older : List Chunk}
    (hc : a.chunks = c :: older) (hunused : a.used = 0) (block : Nat) {capacity : Nat}
    (hlt : c.capacity < capacity) : a.Underlies (a.extend block capacity) := by
  intro _
  exact ⟨[], c, { c with block, capacity }, older, {
    below := hc
    above := extend_chunks hc block capacity
    number := rfl
    capacity := Nat.le_of_lt hlt
    same := fun hpos => absurd hunused (Nat.ne_of_gt hpos)
    used := fun _ => Nat.le_refl _
    total := Nat.le_refl _ }⟩

/-- An arena underlies the one with a chunk more. -/
theorem Sound.underlies_push {a : Arena} (h : a.Sound) (block capacity : Nat) :
    a.Underlies (a.push block capacity) := by
  intro ht
  obtain ⟨c, older, hc⟩ := h.current_of_total_pos ht
  refine ⟨[a.newChunk block capacity], c, c, older, {
    below := hc
    above := ?_
    number := rfl
    capacity := Nat.le_refl _
    same := fun _ => rfl
    used := fun hnil => nomatch hnil
    total := Nat.le_refl _ }⟩
  show a.newChunk block capacity :: a.chunks = _
  rw [hc]
  rfl

/-- An arena underlies the one with more in use. -/
theorem Sound.underlies_bump {a : Arena} (h : a.Sound) {offset : Nat} (hle : a.used ≤ offset)
    (padding size : Nat) : a.Underlies (a.bump offset padding size) := by
  intro ht
  obtain ⟨c, older, hc⟩ := h.current_of_total_pos ht
  have htotal : a.total ≤ a.total + padding + size := by omega
  exact ⟨[], c, c, older, {
    below := hc
    above := hc
    number := rfl
    capacity := Nat.le_refl _
    same := fun _ => rfl
    used := fun _ => Nat.le_trans hle (Nat.le_add_right ..)
    total := htotal }⟩

/-! ## Cutting back -/

namespace Grafted

variable {b a : Arena} {newer older : List Chunk} {c c' : Chunk}

/-- Newer chunks have higher numbers. -/
theorem newer_number (hg : b.Grafted a newer c c' older) (h : a.Sound) :
    ∀ d ∈ newer, c.number < d.number := by
  intro d hd
  rw [← hg.number]
  exact h.not_mem_older hg.above d hd

/-- The recorded chunk is found under exactly the newer ones. -/
theorem chunkDepth? (hg : b.Grafted a newer c c' older) (h : a.Sound) :
    a.chunkDepth? c.number = some newer.length := by
  -- no newer chunk carries the number
  have hnone : newer.findIdx? (·.number == c.number) = none := by
    refine List.findIdx?_eq_none_iff.mpr ?_
    intro d hd
    have := hg.newer_number h d hd
    exact beq_eq_false_iff_ne.mpr (by omega)
  show a.chunks.findIdx? (·.number == c.number) = _
  rw [hg.above, List.findIdx?_append, hnone, List.findIdx?_cons,
    show (c'.number == c.number) = true from beq_iff_eq.mpr hg.number]
  simp

/-- The chunks above the recorded one are those numbered after it. -/
theorem newer_eq_filter (hg : b.Grafted a newer c c' older) (h : a.Sound) :
    newer = a.chunks.filter (c.number < ·.number) := by
  -- nor is any chunk from the recorded one down numbered after it
  have hold : ∀ d ∈ c' :: older, ¬ c.number < d.number := by
    have hp := h.newest_first
    rw [hg.above] at hp
    have hq := List.pairwise_cons.mp (List.pairwise_append.mp hp).2.1
    intro d hd
    rcases List.mem_cons.mp hd with rfl | hd
    · rw [hg.number]
      exact Nat.lt_irrefl _
    · have := hq.1 d hd
      rw [hg.number] at this
      omega
  rw [hg.above, List.filter_append,
    List.filter_eq_self.mpr fun d hd => decide_eq_true (hg.newer_number h d hd),
    List.filter_eq_nil_iff.mpr fun d hd hlt => hold d hd (of_decide_eq_true hlt),
    List.append_nil]

theorem drop_chunks (hg : b.Grafted a newer c c' older) :
    a.chunks.drop newer.length = c' :: older := by
  rw [hg.above, List.drop_left]

theorem take_chunks (hg : b.Grafted a newer c c' older) :
    a.chunks.take newer.length = newer := by
  rw [hg.above, List.take_left]

/-- The arena cut back to the chunks and counters of `b`. -/
theorem sound_cut (hg : b.Grafted a newer c c' older) (ha : a.Sound) (hb : b.Sound)
    (hpos : 0 < b.total) (mark : Nat) :
    Sound { a.dropMarks mark with
      chunks := c' :: older, total := b.total, used := b.used } := by
  have hmem : ∀ d ∈ c' :: older, d ∈ a.chunks := by
    intro d hd
    rw [hg.above]
    exact List.mem_append_right newer hd
  have hnum := ha.newest_first
  rw [hg.above] at hnum
  have hcap := hb.used_le_capacity
  rw [currentCapacity_of_cons hg.below] at hcap
  have hmark : ∀ m ∈ a.marks.filter (· < mark), m ∈ a.marks :=
    fun m hm => (List.mem_filter.mp hm).1
  exact {
    spare_pos := ha.spare_pos
    words := ha.words
    used_le_capacity := Nat.le_trans hcap hg.capacity
    used_le_total := hb.used_le_total
    total_le_peak := Nat.le_trans hg.total ha.total_le_peak
    peak_le_limit := ha.peak_le_limit
    peak_of_chunkless := fun hnil => nomatch hnil
    -- both have the same chunks below the newest
    used_of_unretired := by
      intro hnil
      refine hb.used_of_unretired ?_
      rw [retired_of_cons hg.below]
      exact hnil
    unretired_of_empty := fun hz => absurd hz (Nat.ne_of_gt hpos)
    capacity_pos := fun d hd => ha.capacity_pos d (hmem d hd)
    newest_first := (List.pairwise_append.mp hnum).2.1
    number_lt := fun d hd => ha.number_lt d (hmem d hd)
    marks_newest_first := ha.marks_newest_first.filter _
    mark_lt := fun m hm => ha.mark_lt m (hmark m hm) }

/-- What is cut back still has all of `b`. -/
theorem underlies_cut (hg : b.Grafted a newer c c' older) (mark : Nat) :
    b.Underlies { a.dropMarks mark with
      chunks := c' :: older, total := b.total, used := b.used } := by
  intro _
  exact ⟨[], c, c', older, { hg with
    above := rfl
    used := fun _ => Nat.le_refl _
    total := Nat.le_refl _ }⟩

end Grafted

/-- The same checkpoints are on record. -/
structure SameMarks (a a' : Arena) : Prop where
  id : a'.id = a.id
  generation : a'.generation = a.generation
  marks : a'.marks = a.marks
  nextMark : a'.nextMark = a.nextMark

/-- Everything but the chunks and what is used of the newest one. -/
structure SameBooks (a a' : Arena) : Prop extends SameMarks a a' where
  settings : a'.settings = a.settings
  total : a'.total = a.total
  peak : a'.peak = a.peak

end Arena

/-! ## Making room -/

namespace Resized

variable {s s' : Site}

/-- Room is made of chunks alone. -/
theorem books (h : Resized s s') : s.arena.SameBooks s'.arena := by
  cases h with
  | idle arena heap => rw [arena]; exact ⟨⟨rfl, rfl, rfl, rfl⟩, rfl, rfl, rfl⟩
  | refusedGrow chunks unused larger arena refused =>
      rw [arena]; exact ⟨⟨rfl, rfl, rfl, rfl⟩, rfl, rfl, rfl⟩
  | refusedAlloc positive arena refused =>
      rw [arena]; exact ⟨⟨rfl, rfl, rfl, rfl⟩, rfl, rfl, rfl⟩
  | extended chunks unused larger arena granted =>
      rw [arena]; exact ⟨⟨rfl, rfl, rfl, rfl⟩, rfl, rfl, rfl⟩
  | pushed positive inUse arena granted =>
      rw [arena]; exact ⟨⟨rfl, rfl, rfl, rfl⟩, rfl, rfl, rfl⟩

/-- An arena underlies what it is resized to. -/
theorem underlies (h : Resized s s') (hs : s.arena.Sound) :
    s.arena.Underlies s'.arena := by
  cases h with
  | idle arena heap => rw [arena]; exact hs.underlies_refl
  | refusedGrow chunks unused larger arena refused => rw [arena]; exact hs.underlies_refl
  | refusedAlloc positive arena refused => rw [arena]; exact hs.underlies_refl
  | extended chunks unused larger arena granted =>
      rw [arena]; exact Arena.underlies_extend chunks unused _ larger
  | pushed positive inUse arena granted => rw [arena]; exact hs.underlies_push _ _

theorem policy (h : Resized s s') : s'.heap.policy = s.heap.policy := by
  cases h with
  | idle arena heap => rw [heap]
  | refusedGrow chunks unused larger arena refused => exact Heap.policy_of_grow refused
  | refusedAlloc positive arena refused => exact Heap.policy_of_alloc refused
  | extended chunks unused larger arena granted => exact Heap.policy_of_grow granted
  | pushed positive inUse arena granted => exact Heap.policy_of_alloc granted

/-- Where one chunk is left, nothing was retired for the room. -/
theorem used_of_unretired (h : Resized s s') (hs : s.arena.Sound)
    (hnil : s'.arena.retired = []) : s'.arena.used = s.arena.used := by
  cases h with
  | idle arena heap => rw [arena]
  | refusedGrow chunks unused larger arena refused => rw [arena]
  | refusedAlloc positive arena refused => rw [arena]
  | extended chunks unused larger arena granted => rw [arena]; rfl
  | pushed positive inUse arena granted =>
      rw [arena] at hnil ⊢
      have hnil : s.arena.chunks = [] := hnil
      have hz := hs.total_of_chunkless hnil
      have := hs.used_le_total
      show 0 = s.arena.used
      omega

/-- A site that is resized is sound. -/
theorem sound (h : Resized s s') (hs : s.Sound) : s'.Sound := by
  cases h with
  | idle arena heap => exact hs.of_arena_eq arena (by rw [heap])
  | refusedGrow chunks unused larger arena refused =>
      exact hs.of_arena_eq arena (by rw [Heap.grow_refused refused])
  | refusedAlloc positive arena refused =>
      exact hs.of_arena_eq arena (by rw [Heap.alloc_refused refused])
  | @extended c older block capacity chunks unused larger arena granted =>
      -- the newest chunk stays on its block or goes to one newer than all
      have hx := Arena.extend_chunks chunks block capacity
      obtain ⟨hbelow, hrest⟩ := List.pairwise_cons.mp (chunks ▸ hs.blocks_newest_first)
      have hlt : ∀ d ∈ c :: older, d.block < s.heap.blocks.length := chunks ▸ hs.block_lt
      obtain ⟨hcl, hol⟩ := List.forall_mem_cons.mp hlt
      have hle : c.block ≤ block ∧ block < s'.heap.blocks.length
          ∧ s.heap.blocks.length ≤ s'.heap.blocks.length := by
        rcases Heap.blocks_of_grow granted with ⟨rfl, hlen⟩ | ⟨rfl, hlen⟩
        · omega
        · omega
      refine ⟨?_, ?_, ?_⟩
      · rw [arena]
        exact hs.arena.extend chunks block (Nat.le_of_lt larger)
      · rw [arena, hx]
        exact List.pairwise_cons.mpr
          ⟨fun d hd => Nat.lt_of_lt_of_le (hbelow d hd) hle.1, hrest⟩
      · rw [arena, hx]
        exact List.forall_mem_cons.mpr
          ⟨hle.2.1, fun d hd => Nat.lt_of_lt_of_le (hol d hd) hle.2.2⟩
  | @pushed block capacity positive inUse arena granted =>
      obtain ⟨rfl, heap⟩ := Heap.alloc_granted granted
      have hlen : s'.heap.blocks.length = s.heap.blocks.length + 1 := by
        rw [heap]
        exact List.length_append
      refine ⟨?_, ?_, ?_⟩
      · rw [arena]
        exact hs.arena.push positive inUse
      · rw [arena]
        exact List.pairwise_cons.mpr ⟨hs.block_lt, hs.blocks_newest_first⟩
      · rw [arena, hlen]
        intro d hd
        rcases List.mem_cons.mp hd with rfl | hd
        · exact Nat.lt_succ_self _
        · exact Nat.lt_succ_of_lt (hs.block_lt d hd)

end Resized

end ScratchArena
