import ScratchArena.Proofs.Record

/-! # Restoration — a rollback returns to the moment of its checkpoint

    Whatever happened since a checkpoint was taken, once it is accepted the
    arena is back as it was: the counters, the retired chunks, the newest
    chunk.  One thing may differ.  A chunk in which nothing was used at the
    time may have been extended since, which may have moved it, and it stays
    so.  The chunks above
    go back to the heap, newest first.  The marks on record are those of
    the time without the ones forgotten since; the generation and the peak
    are not part of what is restored. -/

namespace ScratchArena

namespace History

/-- An arena in use is back as it was when a checkpoint was taken.  `a` is
    the arena of that time, `s` the site before the rollback and `s'` the
    one after it. -/
structure Restored (a : Arena) (s s' : Site) : Prop where
  total : s'.arena.total = a.total
  used : s'.arena.used = a.used
  retired : s'.arena.retired = a.retired
  /-- The newest chunk is the one of the time, on the same block and with the
      same capacity, only that a chunk in which nothing was used may have
      become larger; the chunks numbered after it have been freed, the newest
      first and each of them once. -/
  current : ∃ c c', a.current? = some c ∧ s'.arena.current? = some c'
    ∧ c'.number = c.number ∧ c.capacity ≤ c'.capacity
    ∧ (0 < a.used → c'.block = c.block ∧ c'.capacity = c.capacity)
    ∧ s'.heap.calls = s.heap.calls
      ++ (s.arena.chunks.filter (c.number < ·.number)).map Chunk.freed
  newest_first : s.arena.chunks.Pairwise fun c d => d.number < c.number

/-- The arena is empty as it was, and keeps at most one chunk. -/
structure Emptied (s' : Site) : Prop where
  total : s'.arena.total = 0
  used : s'.arena.used = 0
  chunks : s'.arena.chunks.length ≤ 1

namespace Sound

variable {h : History}

/-- A rollback to something in use restores the arena of that moment. -/
theorem restored (hs : h.Sound) {b : Arena} (hb : b ∈ h.held)
    (hm : b.nextMark ∈ h.site.arena.marks) (hpos : 0 < b.total) :
    Restored b h.site (h.site.rollback b.checkpoint).2 := by
  obtain ⟨newer, c, c', older, hg⟩ := (hs.anchored b hb hm).underlies hpos
  rw [hs.rollback_grafted hb hm hpos hg]
  refine ⟨rfl, rfl, (Arena.retired_of_cons hg.below).symm, ?_, hs.site.arena.newest_first⟩
  refine ⟨c, c', Arena.current?_of_cons hg.below, rfl, hg.number, hg.capacity, ?_, ?_⟩
  · intro hused
    rw [hg.same hused]
    exact ⟨rfl, rfl⟩
  · rw [← hg.newer_eq_filter hs.site.arena]
    exact (h.site.release_eq newer).2.1

/-- A rollback to nothing in use empties the arena. -/
theorem emptied (hs : h.Sound) {b : Arena} (hb : b ∈ h.held)
    (hm : b.nextMark ∈ h.site.arena.marks) (hz : b.total = 0) :
    Emptied (h.site.rollback b.checkpoint).2 := by
  have hclear := (hs.return_empty hb hm hz).site.arena
  have htotal := (Site.clear_books (hs.site_dropMarks b.nextMark).arena).total
  rw [hs.rollback_empty hb hm hz]
  exact ⟨htotal, hclear.used_of_empty htotal, hclear.length_of_empty htotal⟩

/-- Either way newer marks are dropped, and generation and peak are kept. -/
theorem rollback_books (hs : h.Sound) {b : Arena} (hb : b ∈ h.held)
    (hm : b.nextMark ∈ h.site.arena.marks) :
    (h.site.rollback b.checkpoint).2.arena.marks = h.site.arena.marks.filter (· < b.nextMark)
      ∧ (h.site.rollback b.checkpoint).2.arena.generation = h.site.arena.generation
      ∧ (h.site.rollback b.checkpoint).2.arena.peak = h.site.arena.peak := by
  rcases Nat.eq_zero_or_pos b.total with hz | hpos
  · rw [hs.rollback_empty hb hm hz]
    obtain ⟨⟨-, generation, marks, -⟩, -, -, peak⟩ :=
      Site.clear_books (hs.site_dropMarks b.nextMark).arena
    exact ⟨marks, generation, peak⟩
  · obtain ⟨newer, c, c', older, hg⟩ := (hs.anchored b hb hm).underlies hpos
    rw [hs.rollback_grafted hb hm hpos hg]
    exact ⟨rfl, rfl, rfl⟩

end Sound

end History

end ScratchArena
