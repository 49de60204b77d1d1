import ScratchArena.Arena.Guard
import ScratchArena.Arena.Alloc
import ScratchArena.Proofs.Padding

/-! # Representation — what holds of an arena at all times

    The three counters, the stack of chunks and the marks are kept apart
    and restored apart, so each operation relies on facts that another one
    left behind: the bytes used fit the newest chunk, chunk numbers fall
    from the newest chunk to the oldest, an arena without allocations has
    no retired chunk.  `Arena.Sound` collects these facts.  One lemma for
    each elementary change (a chunk extended, a chunk pushed, an offset
    bumped, everything dropped) says that the change keeps them. -/

namespace ScratchArena

namespace Arena

/-- The representation invariant of an arena. -/
structure Sound (a : Arena) : Prop where
  spare_pos : 0 < a.settings.spare
  words : a.settings.maxSize ≤ Word.largest
  used_le_capacity : a.used ≤ a.currentCapacity
  used_le_total : a.used ≤ a.total
  total_le_peak : a.total ≤ a.peak
  peak_le_limit : a.peak ≤ a.settings.maxSize
  peak_of_chunkless : a.chunks = [] → a.peak = 0
  used_of_unretired : a.retired = [] → a.used = a.total
  unretired_of_empty : a.total = 0 → a.retired = []
  capacity_pos : ∀ c ∈ a.chunks, 0 < c.capacity
  newest_first : a.chunks.Pairwise fun c d => d.number < c.number
  number_lt : ∀ c ∈ a.chunks, c.number < a.nextChunk
  marks_newest_first : a.marks.Pairwise fun m n => n < m
  mark_lt : ∀ m ∈ a.marks, m < a.nextMark

theorem currentCapacity_of_cons {a : Arena} {c : Chunk} {older : List Chunk}
    (h : a.chunks = c :: older) : a.currentCapacity = c.capacity := by
  show ((a.chunks.head?).map Chunk.capacity).getD 0 = c.capacity
  rw [h]
  rfl

theorem currentCapacity_of_nil {a : Arena} (h : a.chunks = []) : a.currentCapacity = 0 := by
  show ((a.chunks.head?).map Chunk.capacity).getD 0 = 0
  rw [h]
  rfl

theorem current?_of_cons {a : Arena} {c : Chunk} {older : List Chunk}
    (h : a.chunks = c :: older) : a.current? = some c := by
  show a.chunks.head? = some c
  rw [h]
  rfl

theorem retired_of_cons {a : Arena} {c : Chunk} {older : List Chunk}
    (h : a.chunks = c :: older) : a.retired = older := by
  show a.chunks.tail = older
  rw [h]
  rfl

namespace Sound

variable {a : Arena}

/-- The total never passes the limit. -/
theorem total_le_limit (h : a.Sound) : a.total ≤ a.settings.maxSize :=
  Nat.le_trans h.total_le_peak h.peak_le_limit

/-- Without a chunk nothing is in use. -/
theorem total_of_chunkless (h : a.Sound) (hc : a.chunks = []) : a.total = 0 := by
  have := h.peak_of_chunkless hc
  have := h.total_le_peak
  omega

/-- What is in use is in a chunk. -/
theorem current_of_total_pos (h : a.Sound) (ht : 0 < a.total) :
    ∃ c older, a.chunks = c :: older := by
  cases hc : a.chunks with
  | nil =>
      have := h.total_of_chunkless hc
      omega
  | cons c older => exact ⟨c, older, rfl⟩

/-- With nothing in use the newest chunk is unused. -/
theorem used_of_empty (h : a.Sound) (hz : a.total = 0) : a.used = 0 := by
  have := h.used_le_total
  omega

/-- With nothing in use there is one chunk at most. -/
theorem length_of_empty (h : a.Sound) (hz : a.total = 0) : a.chunks.length ≤ 1 := by
  have hlen := congrArg List.length (h.unretired_of_empty hz)
  rw [show a.retired = a.chunks.tail from rfl, List.length_tail, List.length_nil] at hlen
  omega

/-- The newest chunk is not among the older ones. -/
theorem not_mem_older (h : a.Sound) {newer older : List Chunk} {c : Chunk}
    (hc : a.chunks = newer ++ c :: older) : ∀ d ∈ newer, c.number < d.number := by
  intro d hd
  have hp := h.newest_first
  rw [hc] at hp
  exact (List.pairwise_append.mp hp).2.2 d hd c List.mem_cons_self

end Sound

/-! ## Elementary changes -/

/-- A new arena is sound. -/
theorem Sound.bare {settings : Settings} (hv : settings.Valid)
    (hw : settings.maxSize ≤ Word.largest) (id : Nat) :
    Sound { settings, id } where
  spare_pos := hv.1
  words := hw
  used_le_capacity := Nat.le_refl 0
  used_le_total := Nat.le_refl 0
  total_le_peak := Nat.le_refl 0
  peak_le_limit := Nat.zero_le _
  peak_of_chunkless := fun _ => rfl
  used_of_unretired := fun _ => rfl
  unretired_of_empty := fun _ => rfl
  capacity_pos := fun _ hc => nomatch hc
  newest_first := List.Pairwise.nil
  number_lt := fun _ hc => nomatch hc
  marks_newest_first := List.Pairwise.nil
  mark_lt := fun _ hm => nomatch hm

/-- A checkpoint taken now carries the newest mark. -/
theorem Sound.marked {a : Arena} (h : a.Sound) : a.marked.Sound :=
  { h with
    marks_newest_first := List.pairwise_cons.mpr ⟨h.mark_lt, h.marks_newest_first⟩
    mark_lt := by
      intro m hm
      rcases List.mem_cons.mp hm with rfl | hm
      · exact Nat.lt_succ_self _
      · exact Nat.lt_succ_of_lt (h.mark_lt m hm) }

/-- All older marks are smaller than the next one. -/
theorem Sound.filter_marked {a : Arena} (h : a.Sound) :
    a.marked.marks.filter (· < a.nextMark) = a.marks :=
  (List.filter_cons_of_neg (by simp)).trans
    (List.filter_eq_self.mpr fun m hm => decide_eq_true (h.mark_lt m hm))

/-- Marks may be dropped, and generations counted, at any time. -/
theorem Sound.unmark {a : Arena} (h : a.Sound) {marks : List Nat}
    (hsub : marks.Sublist a.marks) (generation : UInt64) :
    Sound { a with marks, generation } :=
  { h with
    marks_newest_first := h.marks_newest_first.sublist hsub
    mark_lt := fun m hm => h.mark_lt m (hsub.mem hm) }

theorem Sound.dropMarks {a : Arena} (h : a.Sound) (mark : Nat) : (a.dropMarks mark).Sound :=
  h.unmark List.filter_sublist a.generation

theorem Sound.nextGeneration {a : Arena} (h : a.Sound) : a.nextGeneration.Sound :=
  h.unmark (List.nil_sublist _) (a.generation + 1)

/-- The peak may be lowered to the total. -/
theorem Sound.lower {a : Arena} (h : a.Sound) : Sound { a with peak := a.total } :=
  { h with
    total_le_peak := Nat.le_refl _
    peak_le_limit := h.total_le_limit
    peak_of_chunkless := h.total_of_chunkless }

theorem extend_chunks {a : Arena} {c : Chunk} {older : List Chunk}
    (hc : a.chunks = c :: older) (block capacity : Nat) :
    (a.extend block capacity).chunks = { c with block, capacity } :: older := by
  show a.chunks.modifyHead _ = _
  rw [hc]
  rfl

/-- A chunk that grows keeps the counters and its place in the stack,
    wherever it is moved to. -/
theorem Sound.extend {a : Arena} (h : a.Sound) {c : Chunk} {older : List Chunk}
    (hc : a.chunks = c :: older) (block : Nat) {capacity : Nat} (hle : c.capacity ≤ capacity) :
    (a.extend block capacity).Sound := by
  -- only the fields about the newest capacity have something to show
  have hx := extend_chunks hc block capacity
  have hcap := h.used_le_capacity
  rw [currentCapacity_of_cons hc] at hcap
  have hpos := h.capacity_pos
  have hnum := h.newest_first
  have hlt := h.number_lt
  rw [hc] at hpos hnum hlt
  exact {
    spare_pos := h.spare_pos
    words := h.words
    used_le_capacity := by
      rw [currentCapacity_of_cons hx]
      exact Nat.le_trans hcap hle
    used_le_total := h.used_le_total
    total_le_peak := h.total_le_peak
    peak_le_limit := h.peak_le_limit
    peak_of_chunkless := by
      intro hnil
      rw [hx] at hnil
      exact nomatch hnil
    used_of_unretired := by
      rw [retired_of_cons hx, ← retired_of_cons hc]
      exact h.used_of_unretired
    unretired_of_empty := by
      rw [retired_of_cons hx, ← retired_of_cons hc]
      exact h.unretired_of_empty
    capacity_pos := by
      rw [hx]
      intro d hd
      rcases List.mem_cons.mp hd with rfl | hd
      · exact Nat.lt_of_lt_of_le (hpos c List.mem_cons_self) hle
      · exact hpos d (List.mem_cons_of_mem _ hd)
    newest_first := by
      rw [hx]
      exact List.pairwise_cons.mpr (List.pairwise_cons.mp hnum)
    number_lt := by
      rw [hx]
      intro d hd
      rcases List.mem_cons.mp hd with rfl | hd
      · exact hlt c List.mem_cons_self
      · exact hlt d (List.mem_cons_of_mem _ hd)
    marks_newest_first := h.marks_newest_first
    mark_lt := h.mark_lt }

/-- A new chunk goes on top of chunks in use, or on an empty stack. -/
theorem Sound.push {a : Arena} (h : a.Sound) {block capacity : Nat}
    (hpos : 0 < capacity) (hin : a.chunks = [] ∨ 0 < a.total) :
    (a.push block capacity).Sound where
  spare_pos := h.spare_pos
  words := h.words
  used_le_capacity := Nat.zero_le _
  used_le_total := Nat.zero_le _
  total_le_peak := h.total_le_peak
  peak_le_limit := h.peak_le_limit
  peak_of_chunkless := fun hnil => nomatch hnil
  used_of_unretired := by
    intro hnil
    exact (h.total_of_chunkless hnil).symm
  -- what was on top becomes retired, so the total must not be zero
  unretired_of_empty := by
    intro hz
    rcases hin with hnil | ht
    · exact hnil
    · exact absurd hz (Nat.ne_of_gt ht)
  capacity_pos := by
    intro d hd
    rcases List.mem_cons.mp hd with rfl | hd
    · exact hpos
    · exact h.capacity_pos d hd
  newest_first := List.pairwise_cons.mpr ⟨h.number_lt, h.newest_first⟩
  number_lt := by
    intro d hd
    rcases List.mem_cons.mp hd with rfl | hd
    · exact Nat.lt_succ_self _
    · exact Nat.lt_succ_of_lt (h.number_lt d hd)
  marks_newest_first := h.marks_newest_first
  mark_lt := h.mark_lt

/-- Bytes taken from the newest chunk are charged to the total, with
    their padding, and fit both the chunk and the limit. -/
theorem Sound.bump {a : Arena} (h : a.Sound) {c : Chunk} {older : List Chunk}
    (hc : a.chunks = c :: older) {offset padding size : Nat} (hsize : 0 < size)
    (hfit : offset + size ≤ c.capacity) (hle : offset ≤ a.total + padding)
    (hlim : a.total + padding + size ≤ a.settings.maxSize)
    (heq : older = [] → offset = a.total + padding) :
    (a.bump offset padding size).Sound where
  spare_pos := h.spare_pos
  words := h.words
  used_le_capacity := by
    show offset + size ≤ a.currentCapacity
    rw [currentCapacity_of_cons hc]
    exact hfit
  used_le_total := Nat.add_le_add_right hle size
  total_le_peak := Nat.le_max_right ..
  peak_le_limit := Nat.max_le.mpr ⟨h.peak_le_limit, hlim⟩
  peak_of_chunkless := by
    intro hnil
    have hnil : a.chunks = [] := hnil
    rw [hc] at hnil
    exact nomatch hnil
  -- in an only chunk the offset is the total, padding included
  used_of_unretired := by
    intro hnil
    have hnil : a.retired = [] := hnil
    rw [retired_of_cons hc] at hnil
    show offset + size = a.total + padding + size
    rw [heq hnil]
  unretired_of_empty := by
    intro hz
    have hz : a.total + padding + size = 0 := hz
    omega
  capacity_pos := h.capacity_pos
  newest_first := h.newest_first
  number_lt := h.number_lt
  marks_newest_first := h.marks_newest_first
  mark_lt := h.mark_lt

end Arena

end ScratchArena
