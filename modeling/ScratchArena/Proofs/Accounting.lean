import ScratchArena.Proofs.Preservation

/-! # Accounting — three counters for a stack of allocations

    An arena knows its live allocations only by what they were charged in
    sum, and its past only by one peak.  That the sum is right is part of
    the invariant of histories.  The peak is shown right here, by one step
    at a time: every call raises it to the new total where that goes beyond
    it, but for `shrinkToFit`, which sets it to the total.  So it is the
    greatest total of all moments that no `shrinkToFit` has come after. -/

namespace ScratchArena

namespace History

namespace Sound

variable {h : History}

/-- A shrink lowers the peak to the total. -/
theorem peak_shrinkToFit (h : History) :
    (h.step .shrinkToFit).site.arena.peak = (h.step .shrinkToFit).site.arena.total := by
  by_cases he : h.site.arena.isEmpty
  · obtain ⟨s, heq, harena, -, -⟩ := step_shrinkToFit_empty he
    rw [heq, show ({ h with site := s } : History).site = s from rfl, harena]
    exact (beq_iff_eq.mp he).symm
  · rw [step_shrinkToFit_inUse he]

end Sound

end History

end ScratchArena
