import ScratchArena.Proofs.Underlies

/-! # Clearing — chunks given back, the newest one kept

    Chunks are freed in a given order and nothing else of the arena
    changes.  Dropping every allocation frees the retired chunks, keeps
    the newest one with nothing used in it, and then makes room for the
    highest total seen, which is an extension if it is anything. -/

namespace ScratchArena

/-- The call that gives a chunk back. -/
def Chunk.freed (c : Chunk) : Call := .free c.block c.capacity

namespace Heap

/-- Chunks come back to a heap, in order. -/
def freeAll (h : Heap) (chunks : List Chunk) : Heap :=
  chunks.foldl (fun heap c => heap.free c.block c.capacity) h

/-- Chunks that come back leave one call each behind. -/
theorem freeAll_eq (h : Heap) (chunks : List Chunk) :
    (h.freeAll chunks).calls = h.calls ++ chunks.map Chunk.freed
      ∧ (h.freeAll chunks).blocks.length = h.blocks.length := by
  induction chunks generalizing h with
  | nil => exact ⟨(List.append_nil _).symm, rfl⟩
  | cons c rest ih =>
      obtain ⟨hcalls, hblocks⟩ := ih (h.free c.block c.capacity)
      refine ⟨?_, hblocks.trans (h.length_blocks_free ..)⟩
      refine hcalls.trans ?_
      show (h.calls ++ [c.freed]) ++ rest.map Chunk.freed = _
      rw [List.append_assoc]
      rfl

/-- A heap keeps its policy when blocks are freed. -/
theorem policy_freeAll (h : Heap) (chunks : List Chunk) :
    (h.freeAll chunks).policy = h.policy := by
  induction chunks generalizing h with
  | nil => rfl
  | cons c rest ih => exact ih (h.free c.block c.capacity)

end Heap

namespace Site

/-- Releasing chunks frees them and leaves the arena alone. -/
theorem release_freed (s : Site) (chunks : List Chunk) :
    (s.release chunks).arena = s.arena
      ∧ (s.release chunks).heap = s.heap.freeAll chunks := by
  induction chunks generalizing s with
  | nil => exact ⟨rfl, rfl⟩
  | cons c rest ih =>
      exact ih { s.log (.chunkReleased c.number c.capacity) with
        heap := s.heap.free c.block c.capacity }

/-- Releasing chunks frees their blocks in order and leaves the arena as
    it is. -/
theorem release_eq (s : Site) (chunks : List Chunk) :
    (s.release chunks).arena = s.arena
      ∧ (s.release chunks).heap.calls = s.heap.calls ++ chunks.map Chunk.freed
      ∧ (s.release chunks).heap.blocks.length = s.heap.blocks.length := by
  obtain ⟨harena, hheap⟩ := s.release_freed chunks
  rw [hheap]
  exact ⟨harena, s.heap.freeAll_eq chunks⟩

end Site

namespace Arena

/-- The newest chunk alone, with nothing used in it. -/
def newestOnly (a : Arena) : Arena := { a.emptied with chunks := a.chunks.take 1 }

/-- An arena with nothing in use and its newest chunk alone is sound. -/
theorem Sound.newestOnly {a : Arena} (h : a.Sound) : a.newestOnly.Sound := by
  have hmem : ∀ c ∈ a.chunks.take 1, c ∈ a.chunks := fun c hc => List.mem_of_mem_take hc
  have hlen : (a.chunks.take 1).tail = [] := by
    cases a.chunks with
    | nil => rfl
    | cons c older => rfl
  exact {
    spare_pos := h.spare_pos
    words := h.words
    used_le_capacity := Nat.zero_le _
    used_le_total := Nat.le_refl 0
    total_le_peak := Nat.zero_le _
    peak_le_limit := h.peak_le_limit
    peak_of_chunkless := by
      intro hnil
      have hnil : a.chunks.take 1 = [] := hnil
      refine h.peak_of_chunkless ?_
      cases hc : a.chunks with
      | nil => rfl
      | cons c older =>
          rw [hc] at hnil
          exact nomatch hnil
    used_of_unretired := fun _ => rfl
    unretired_of_empty := fun _ => hlen
    capacity_pos := fun c hc => h.capacity_pos c (hmem c hc)
    newest_first := h.newest_first.sublist (List.take_sublist ..)
    number_lt := fun c hc => h.number_lt c (hmem c hc)
    marks_newest_first := h.marks_newest_first
    mark_lt := h.mark_lt }

end Arena

namespace Site

/-- An event more makes no difference to a growth. -/
theorem resized_log {s s' : Site} (h : Resized s s') (e : Event) : Resized s (s'.log e) := by
  cases h with
  | idle arena heap => exact .idle arena heap
  | refusedGrow chunks unused larger arena refused =>
      exact .refusedGrow chunks unused larger arena refused
  | refusedAlloc positive arena refused => exact .refusedAlloc positive arena refused
  | extended chunks unused larger arena granted =>
      exact .extended chunks unused larger arena granted
  | pushed positive inUse arena granted => exact .pushed positive inUse arena granted

/-- With at most one chunk there is nothing to coalesce. -/
theorem clear_of_unretired {s : Site} (h : s.arena.retired = []) :
    s.clear = { s with arena := s.arena.newestOnly } := by
  have heq : s.arena.newestOnly = s.arena.emptied := by
    show { s.arena.emptied with chunks := s.arena.chunks.take 1 } = s.arena.emptied
    rw [show s.arena.chunks.take 1 = s.arena.chunks from
      List.take_of_length_le (by
        have hlen := congrArg List.length h
        rw [show s.arena.retired = s.arena.chunks.tail from rfl, List.length_tail] at hlen
        simp only [List.length_nil] at hlen
        omega)]
    rfl
  rw [heq]
  cases hc : s.arena.chunks with
  | nil => simp only [clear, hc]
  | cons chunk rest =>
      rw [Arena.retired_of_cons hc] at h
      rw [h] at hc
      simp only [clear, hc]

/-- The newest chunk kept and the retired ones freed, oldest first. -/
def kept (s : Site) : Site :=
  ({ s with arena := s.arena.newestOnly }.log
    (.coalescing s.arena.retired.length s.arena.peak)).release s.arena.retired.reverse

/-- What is kept when an arena is cleared, and what is asked of the heap for
    it. -/
theorem kept_eq (s : Site) :
    s.kept.arena = s.arena.newestOnly
      ∧ s.kept.heap.calls = s.heap.calls ++ s.arena.retired.reverse.map Chunk.freed
      ∧ s.kept.heap.blocks.length = s.heap.blocks.length :=
  release_eq _ _

/-- Several chunks are coalesced by room for the highest total seen. -/
theorem clear_of_retired {s : Site} (h : s.arena.retired ≠ []) :
    s.clear = match s.kept.reserve s.kept.arena.peak with
      | (.ok _, s') => s'
      | (.error e, s') => s'.log (.coalescingFailed e) := by
  obtain ⟨chunk, old, older, hc⟩ : ∃ chunk old older,
      s.arena.chunks = chunk :: old :: older := by
    obtain ⟨old, older, hr⟩ := List.exists_cons_of_ne_nil h
    cases hc : s.arena.chunks with
    | nil =>
        rw [show s.arena.retired = s.arena.chunks.tail from rfl, hc] at hr
        exact nomatch hr
    | cons chunk rest =>
        rw [Arena.retired_of_cons hc] at hr
        exact ⟨chunk, old, older, by rw [hr]⟩
  -- the arena that is reserved in, as `kept` spells it
  have hnewest : { s.arena.emptied with chunks := [chunk] } = s.arena.newestOnly := by
    show _ = { s.arena.emptied with chunks := s.arena.chunks.take 1 }
    rw [hc]
    rfl
  have hkept : s.kept = ({ s with arena := s.arena.newestOnly }.log
      (.coalescing (old :: older).length s.arena.newestOnly.peak)).release
        (old :: older).reverse := by
    rw [show s.kept = ({ s with arena := s.arena.newestOnly }.log
      (.coalescing s.arena.retired.length s.arena.peak)).release s.arena.retired.reverse
      from rfl, Arena.retired_of_cons hc]
    rfl
  rw [hkept]
  simp only [clear, hc, hnewest]
  rfl

/-- Clearing frees the retired chunks, oldest first, and makes room in the
    newest one. -/
theorem clear_freed {s : Site} (h : s.arena.Sound) :
    ∃ kept : Site, kept.arena = s.arena.newestOnly
      ∧ kept.heap = s.heap.freeAll s.arena.retired.reverse ∧ Resized kept s.clear := by
  by_cases hr : s.arena.retired = []
  · rw [clear_of_unretired hr, hr]
    exact ⟨{ s with arena := s.arena.newestOnly }, rfl, rfl, .idle rfl rfl⟩
  · obtain ⟨harena, hheap⟩ := release_freed ({ s with arena := s.arena.newestOnly }.log
      (.coalescing s.arena.retired.length s.arena.peak)) s.arena.retired.reverse
    have harena : s.kept.arena = s.arena.newestOnly := harena
    refine ⟨s.kept, harena, hheap, ?_⟩
    have hsound : s.kept.arena.Sound := by
      rw [harena]
      exact h.newestOnly
    have hres := reserve_resized hsound s.kept.arena.peak
    rw [clear_of_retired hr]
    split
    · rename_i hx
      rw [hx] at hres
      exact hres
    · rename_i hx
      rw [hx] at hres
      exact resized_log hres _

/-- Clearing an arena keeps its newest chunk, frees the others oldest first,
    and then makes room for the peak. -/
theorem clear_resized {s : Site} (h : s.arena.Sound) :
    ∃ kept : Site, kept.arena = s.arena.newestOnly
      ∧ kept.heap.calls = s.heap.calls ++ s.arena.retired.reverse.map Chunk.freed
      ∧ kept.heap.blocks.length = s.heap.blocks.length
      ∧ Resized kept s.clear := by
  obtain ⟨kept, harena, hheap, hr⟩ := clear_freed h
  obtain ⟨hcalls, hblocks⟩ := s.heap.freeAll_eq s.arena.retired.reverse
  exact ⟨kept, harena, hheap ▸ hcalls, hheap ▸ hblocks, hr⟩

/-- Clearing touches no book but the total. -/
theorem clear_books {s : Site} (h : s.arena.Sound) :
    s.arena.newestOnly.SameBooks s.clear.arena := by
  obtain ⟨kept, harena, -, -, hr⟩ := clear_resized h
  rw [← harena]
  exact hr.books

/-- A site that is cleared is sound. -/
theorem clear_sound {s : Site} (hs : s.Sound) : s.clear.Sound := by
  obtain ⟨kept, harena, -, hblocks, hr⟩ := clear_resized hs.arena
  refine hr.sound (hs.of_sublist ?_ ?_ hblocks)
  · rw [harena]
    exact hs.arena.newestOnly
  · rw [harena]
    exact List.take_sublist ..

/-- The chunks that an arena frees when it goes away are all it has. -/
theorem disposal_perm (a : Arena) : (disposal a).Perm a.chunks := by
  show (a.chunks.head?.toList ++ a.chunks.tail.reverse).Perm a.chunks
  cases a.chunks with
  | nil => exact .nil
  | cons c older => exact (List.reverse_perm older).cons c

end Site

end ScratchArena
