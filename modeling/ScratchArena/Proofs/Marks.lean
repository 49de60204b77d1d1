import ScratchArena.Arena.Checkpoint
import ScratchArena.Proofs.Representation

/-! # Marks — searched for in a sorted list, cut and taken out by index

    Marks are put on record in ascending order and looked up by their
    place: a search in a sorted list answers with the one index of a mark,
    a rollback cuts the list there, and a checkpoint that is given up takes
    its mark out there.  On an arena that is sound this is the same as
    asking for membership, keeping the smaller marks and keeping the other
    marks, which is what the definitions do. -/

namespace ScratchArena

/-! ## Sorted lists -/

/-- A list around an element that stands at some index. -/
theorem split_of_getElem? {l : List Nat} {i x : Nat} (found : l[i]? = some x) :
    ∃ older newer, l = older ++ x :: newer ∧ older.length = i := by
  obtain ⟨hi, rfl⟩ := List.getElem?_eq_some_iff.mp found
  refine ⟨l.take i, l.drop (i + 1), ?_, List.length_take_of_le (Nat.le_of_lt hi)⟩
  rw [List.getElem_cons_drop, List.take_append_drop]

variable {l : List Nat} {i x : Nat}

/-- What is smaller than an element of a sorted list stands before it. -/
theorem filter_lt_eq_take (sorted : l.Pairwise (· < ·)) (found : l[i]? = some x) :
    l.filter (· < x) = l.take i := by
  obtain ⟨older, newer, rfl, rfl⟩ := split_of_getElem? found
  obtain ⟨-, hcons, hacross⟩ := List.pairwise_append.mp sorted
  have holder : older.filter (· < x) = older :=
    List.filter_eq_self.mpr fun m hm => decide_eq_true (hacross m hm x List.mem_cons_self)
  have hnewer : newer.filter (· < x) = [] :=
    List.filter_eq_nil_iff.mpr fun m hm => by
      have := (List.pairwise_cons.mp hcons).1 m hm
      simpa using Nat.le_of_lt this
  rw [List.filter_append, holder, List.filter_cons_of_neg (by simp), hnewer, List.append_nil,
    List.take_left]

/-- An element stands in a sorted list once. -/
theorem filter_ne_eq_eraseIdx (sorted : l.Pairwise (· < ·)) (found : l[i]? = some x) :
    l.filter (· ≠ x) = l.eraseIdx i := by
  obtain ⟨older, newer, rfl, rfl⟩ := split_of_getElem? found
  obtain ⟨-, hcons, hacross⟩ := List.pairwise_append.mp sorted
  have holder : older.filter (· ≠ x) = older :=
    List.filter_eq_self.mpr fun m hm =>
      decide_eq_true (Nat.ne_of_lt (hacross m hm x List.mem_cons_self))
  have hnewer : newer.filter (· ≠ x) = newer :=
    List.filter_eq_self.mpr fun m hm =>
      decide_eq_true (Nat.ne_of_gt ((List.pairwise_cons.mp hcons).1 m hm))
  rw [List.filter_append, holder, List.filter_cons_of_neg (by simp), hnewer,
    List.eraseIdx_append_of_length_le (Nat.le_refl _), Nat.sub_self]
  rfl

/-! ## The marks of an arena -/

namespace Arena

variable {a : Arena} {mark : Nat}

/-- The marks in the order in which they were put on record. -/
def ascending (a : Arena) : List Nat := a.marks.reverse

/-- A mark is put on record at the end. -/
theorem ascending_marked (a : Arena) : a.marked.ascending = a.ascending ++ [a.nextMark] :=
  List.reverse_cons

/-- The marks of a sound arena are sorted. -/
theorem Sound.sorted_ascending (h : a.Sound) : a.ascending.Pairwise (· < ·) :=
  List.pairwise_reverse.mpr h.marks_newest_first

/-- A mark is on record if it has a place. -/
theorem mem_marks_iff : mark ∈ a.marks ↔ ∃ i : Nat, a.ascending[i]? = some mark := by
  rw [← List.mem_iff_getElem?, ascending, List.mem_reverse]

/-- A mark has one place at most. -/
theorem Sound.place_unique (h : a.Sound) {i j : Nat} (hi : a.ascending[i]? = some mark)
    (hj : a.ascending[j]? = some mark) : i = j := by
  have hnodup : a.ascending.Nodup := h.sorted_ascending.imp Nat.ne_of_lt
  obtain ⟨hlt, -⟩ := List.getElem?_eq_some_iff.mp hi
  exact (List.getElem?_inj hlt hnodup).mp (hi.trans hj.symm)

/-- Dropping a mark and all newer ones cuts the list at its place. -/
theorem Sound.ascending_dropMarks (h : a.Sound) {i : Nat} (found : a.ascending[i]? = some mark) :
    (a.dropMarks mark).ascending = a.ascending.take i := by
  rw [← filter_lt_eq_take h.sorted_ascending found]
  exact List.filter_reverse.symm

end Arena

/-- Giving up a checkpoint on record takes the mark at its place out. -/
theorem Site.ascending_forget {s : Site} {c : Checkpoint} (h : s.arena.Sound)
    (own : c.arena = s.arena.id) (present : c.generation = s.arena.generation) {i : Nat}
    (found : s.arena.ascending[i]? = some c.mark) :
    (s.forget c).arena.ascending = s.arena.ascending.eraseIdx i := by
  rw [forget, if_pos ⟨own, present⟩, ← filter_ne_eq_eraseIdx h.sorted_ascending found]
  exact List.filter_reverse.symm

/-- Giving up any other checkpoint changes nothing. -/
theorem Site.forget_of_unmarked {s : Site} {c : Checkpoint}
    (unmarked : ∀ i : Nat, s.arena.ascending[i]? ≠ some c.mark) : s.forget c = s := by
  have hnone : c.mark ∉ s.arena.marks := fun hmem =>
    (Arena.mem_marks_iff.mp hmem).elim unmarked
  rw [forget]
  split
  · rw [List.filter_eq_self.mpr]
    intro m hm
    refine decide_eq_true ?_
    rintro rfl
    exact hnone hm
  · rfl

end ScratchArena
