import ScratchArena.Proofs.Preservation

/-! # Live allocations — what a caller may rely on

    An allocation is live from the moment it is returned until the next
    reset, or the next rollback to a checkpoint taken before it.  While it
    is live it stays inside a block that the arena holds, aligned, apart
    from every other one, and the heap is asked neither to move nor to
    take back its block.

    The last point rests on two facts.  Room is only ever made in the
    newest chunk when nothing is used in it; and chunks are only freed
    above the one that a rollback returns to, or when nothing is live. -/

namespace ScratchArena

namespace History

/-- Between two moments the heap was not asked about the block of any
    allocation that is live at both. -/
def Undisturbed (h h' : History) : Prop :=
  ∃ calls, h'.site.heap.calls = h.site.heap.calls ++ calls
    ∧ ∀ l ∈ h.live, l ∈ h'.live → ∀ call ∈ calls, ¬ call.Touches l.pointer.block

variable {h h' : History}

/-- Where the heap is not called, nothing is disturbed. -/
theorem undisturbed_of_calls (hcalls : h'.site.heap.calls = h.site.heap.calls) :
    h.Undisturbed h' :=
  ⟨[], by rw [hcalls, List.append_nil], fun _ _ _ _ hc => nomatch hc⟩

/-- Where nothing is live any more, nothing is disturbed. -/
theorem undisturbed_of_live_eq_nil {calls : List Call}
    (hcalls : h'.site.heap.calls = h.site.heap.calls ++ calls) (hnil : h'.live = []) :
    h.Undisturbed h' := by
  refine ⟨calls, hcalls, ?_⟩
  intro l _ hl
  rw [hnil] at hl
  exact nomatch hl

namespace Sound

/-- Live allocations are on blocks that there are. -/
theorem block_lt (hs : h.Sound) {l : Live} (hl : l ∈ h.live) :
    l.pointer.block < h.site.heap.blocks.length := by
  obtain ⟨c, hc, hblock, -, -⟩ := hs.within l hl
  exact hblock ▸ hs.site.block_lt c hc

/-- The block of a live allocation is not that of an unused newest chunk. -/
theorem block_ne_unused (hs : h.Sound) {c : Chunk} {older : List Chunk}
    (hc : h.site.arena.chunks = c :: older) (hunused : h.site.arena.used = 0) {l : Live}
    (hl : l ∈ h.live) : c.block ≠ l.pointer.block := by
  obtain ⟨d, hd, hblock, -, hused⟩ := hs.within l hl
  have hblocks := hs.site.blocks_newest_first
  have hpos := (hs.proper l hl).size_pos
  rw [hc] at hd hblocks
  rcases List.mem_cons.mp hd with rfl | hd
  · have hstop := hused (Arena.current?_of_cons hc)
    unfold Live.stop at hstop
    omega
  · have := (List.pairwise_cons.mp hblocks).1 d hd
    omega

/-- A growth disturbs no live allocation: it grows a chunk only while that
    is unused. -/
theorem undisturbed_resized (hs : h.Sound) {room : Site} (hr : Resized h.site room)
    (hcalls : h'.site.heap.calls = room.heap.calls) : h.Undisturbed h' := by
  obtain ⟨calls, heq, htouch⟩ := hr.asked
  refine ⟨calls, hcalls.trans heq, ?_⟩
  intro l hl _ call hcall ht
  obtain ⟨hunused, c, older, hc, hblock⟩ := htouch call hcall _ ht
  exact hs.block_ne_unused hc hunused hl hblock

/-- Coalescing frees and moves chunks when nothing is live any more. -/
theorem undisturbed_clear {s : Site} (hs : s.Sound) (hcalls : s.heap.calls = h.site.heap.calls)
    (hsite : h'.site = s.clear) (hnil : h'.live = []) : h.Undisturbed h' := by
  obtain ⟨kept, -, hkept, -, hr⟩ := Site.clear_resized hs.arena
  obtain ⟨calls, heq, -⟩ := hr.asked
  have hprefix : h'.site.heap.calls
      = h.site.heap.calls ++ (s.arena.retired.reverse.map Chunk.freed ++ calls) := by
    rw [hsite, heq, hkept, hcalls, List.append_assoc]
  exact undisturbed_of_live_eq_nil hprefix hnil

/-- A rollback frees chunks that are newer than those of the allocations it
    keeps. -/
theorem undisturbed_rollback (hs : h.Sound) (mark : Nat) :
    h.Undisturbed (h.step (.rollback mark)) := by
  have hp := hs.presented mark
  generalize h.step (.rollback mark) = h' at hp ⊢
  cases hp with
  | absent away => exact undisturbed_of_calls rfl
  | stale inHand offRecord alike => exact undisturbed_of_calls alike.heap.calls
  | @empty b inHand onRecord nothing =>
      have hstand := hs.return_empty (held?_some inHand).1 onRecord nothing
      have hd := hs.site_dropMarks b.nextMark
      exact undisturbed_clear hd rfl rfl (hstand.live_eq_nil (Site.clear_books hd.arena).total)
  | @grafted b newer older c c' inHand onRecord inUse grafted =>
      have hstand := hs.return_grafted (held?_some inHand).1 onRecord inUse grafted
      refine ⟨newer.map Chunk.freed, (h.site.release_eq newer).2.1, ?_⟩
      intro l _ hl call hcall ht
      obtain ⟨d, hd, rfl⟩ := List.mem_map.mp hcall
      obtain ⟨e, he, hblock, -, -⟩ := hstand.within l hl
      -- what is freed and what is kept sit on blocks of their own
      have hblocks := hs.site.blocks_newest_first
      rw [grafted.above] at hblocks
      have hlt := (List.pairwise_append.mp hblocks).2.2 d hd e he
      have ht : d.block = l.pointer.block := ht
      omega

/-- Nor does a shrink. -/
theorem undisturbed_shrinkToFit (hs : h.Sound) : h.Undisturbed (h.step .shrinkToFit) := by
  by_cases he : h.site.arena.isEmpty
  · obtain ⟨s, heq, -, hcalls, -⟩ := step_shrinkToFit_empty he
    rw [heq]
    exact undisturbed_of_live_eq_nil hcalls (hs.live_eq_nil (beq_iff_eq.mp he))
  · rw [step_shrinkToFit_inUse he]
    exact undisturbed_of_calls rfl

theorem undisturbed_forget (h : History) (mark : Nat) :
    h.Undisturbed (h.step (.forget mark)) := by
  obtain ⟨marks, -, heq⟩ := step_forget h mark
  rw [heq]
  exact undisturbed_of_calls rfl

/-- No call disturbs what is live. -/
theorem undisturbed (hs : h.Sound) (op : Op) : h.Undisturbed (h.step op) := by
  rw [← step_plain]
  cases op with
  | allocate demand =>
      obtain ⟨room, hr, hcalls⟩ := (Demand.answered hs.site.arena demand).asked
      refine hs.undisturbed_resized hr (Eq.trans ?_ hcalls)
      show (h.served demand (demand.serve h.site)).site.heap.calls = _
      unfold served
      split
      · rename_i ho
        rw [ho]
      · rename_i ho
        rw [ho]
  | reserve more => exact hs.undisturbed_resized (Site.reserve_resized hs.site.arena more) rfl
  | reset => exact undisturbed_clear hs.site_nextGeneration rfl rfl rfl
  | shrinkToFit => exact hs.undisturbed_shrinkToFit
  | checkpoint => exact undisturbed_of_calls rfl
  | rollback mark => exact hs.undisturbed_rollback mark
  | forget mark => exact undisturbed_forget h mark
  | abandon mark => exact undisturbed_of_calls rfl
  | guarded => exact undisturbed_of_calls rfl
  | rollbackGuard mark => exact hs.undisturbed_rollback mark
  | releaseGuard mark => exact undisturbed_forget h mark
  | dropGuard mark => exact hs.undisturbed_rollback mark
  | rollbackForeign c =>
      obtain ⟨s, ha, heq⟩ := step_rollbackForeign h c
      refine undisturbed_of_calls ?_
      rw [show h.step (plain (.rollbackForeign c)) = { h with site := s } from heq]
      exact ha.heap.calls
  | forgetForeign c =>
      refine undisturbed_of_calls ?_
      rw [show h.step (plain (.forgetForeign c)) = h from step_forgetForeign h c]

end Sound

/-- In every state of every run, each live allocation lies in a block that
    the arena holds, in the part in use, at an offset that is aligned as
    asked; no two overlap; and whatever the next call is, the heap is not
    asked to grow or free a block with an allocation that stays live. -/
theorem live_allocations_hold {settings : Settings} (words : settings.maxSize ≤ Word.largest)
    {id : Nat} {heap : Heap} (built : (Site.establish settings id heap).1 = .ok ())
    (ops : List Op) (h : History) (reached : h = (start settings id heap).run ops) :
    (∀ l ∈ h.live,
      (∃ c ∈ h.site.arena.chunks, c.block = l.pointer.block
        ∧ l.pointer.offset + l.size ≤ c.capacity
        ∧ (h.site.arena.current? = some c →
            l.pointer.offset + l.size ≤ h.site.arena.used))
      ∧ clampAlign l.align ∣ l.pointer.offset)
    ∧ h.live.Pairwise Live.Apart
    ∧ ∀ op, ∃ calls, (h.step op).site.heap.calls = h.site.heap.calls ++ calls
        ∧ ∀ l ∈ h.live, l ∈ (h.step op).live →
          ∀ call ∈ calls, ¬ call.Touches l.pointer.block := by
  subst reached
  have hs := (Sound.start words built).run ops
  refine ⟨?_, hs.apart, hs.undisturbed⟩
  intro l hl
  exact ⟨hs.within l hl, (hs.proper l hl).aligned⟩

/-- A chunk that runs full, a second one, and a rollback that ends in the
    first: one allocation is left. -/
theorem live_allocations_hold_after_rollback :
    let h := (start (.standard true) 0 (Heap.fresh .generous)).run
      [.allocate (.bytes 60 1), .checkpoint, .allocate (.bytes 100 8), .rollback 0]
    h.live.length = 1
      ∧ (∀ l ∈ h.live,
          (∃ c ∈ h.site.arena.chunks, c.block = l.pointer.block
            ∧ l.pointer.offset + l.size ≤ c.capacity
            ∧ (h.site.arena.current? = some c →
                l.pointer.offset + l.size ≤ h.site.arena.used))
          ∧ clampAlign l.align ∣ l.pointer.offset)
      ∧ h.live.Pairwise Live.Apart :=
  ⟨by decide, (live_allocations_hold (by decide) (by rfl) _ _ rfl).1,
    (live_allocations_hold (by decide) (by rfl) _ _ rfl).2.1⟩

end History

end ScratchArena
