import ScratchArena.Proofs.Record

/-! # Coalescing — everything dropped, one chunk kept

    A reset drops every allocation and keeps the newest chunk.  The retired
    chunks go back to the heap, oldest first; if there were any, and the
    chunk that stays is smaller than the highest total seen, it is extended
    to that, wherever the heap puts it.  The heap may refuse, and then the
    chunk stays as it is.  What is left has nothing to coalesce, so a second
    reset asks for nothing.

    A rollback to the empty arena takes the same way.  Neither looks at the
    generation or at the marks, so that both come to the same site but for
    these two. -/

namespace ScratchArena

/-- Dropping everything keeps the chunk that was newest. -/
theorem Arena.current?_newestOnly (a : Arena) : a.newestOnly.current? = a.current? := by
  show (a.chunks.take 1).head? = a.chunks.head?
  cases a.chunks with
  | nil => rfl
  | cons c older => rfl

/-- An empty arena with one chunk at most has nothing to drop. -/
theorem Arena.newestOnly_eq_self {a : Arena} (htotal : a.total = 0) (hused : a.used = 0)
    (hchunks : a.chunks.length ≤ 1) : a.newestOnly = a := by
  obtain ⟨settings, id, chunks, used, total, peak, generation, nextChunk, marks, nextMark⟩ := a
  obtain rfl : total = 0 := htotal
  obtain rfl : used = 0 := hused
  have htake : chunks.take 1 = chunks := List.take_of_length_le hchunks
  simp only [newestOnly, emptied, htake]

/-- The chunk once the heap has answered whether it may have another
    capacity. -/
def Chunk.answered (c : Chunk) (capacity : Nat) : Option Nat → Chunk
  | some block => { c with block, capacity }
  | none => c

namespace Site

/-- Everything is dropped: what there is at `s'` of what was there at `s`. -/
structure Dropped (s s' : Site) : Prop where
  total : s'.arena.total = 0
  used : s'.arena.used = 0
  peak : s'.arena.peak = s.arena.peak
  chunks : s'.arena.chunks.length ≤ 1
  /-- The chunk that is kept is the one that was newest. -/
  number : s'.arena.current?.map Chunk.number = s.arena.current?.map Chunk.number
  /-- With nothing to coalesce, or room for the peak, the heap is asked for
      nothing beyond the return of the retired chunks. -/
  roomy : s.arena.retired = [] ∨ s.arena.peak ≤ s.arena.currentCapacity →
    s'.arena.current? = s.arena.current?
      ∧ s'.heap.calls = s.heap.calls ++ s.arena.retired.reverse.map Chunk.freed
  /-- Otherwise it is asked to extend the newest chunk to the peak, and a
      refusal leaves the chunk as it was. -/
  coalesced : s.arena.retired ≠ [] → s.arena.currentCapacity < s.arena.peak →
    ∃ c answer, s.arena.current? = some c
      ∧ s'.arena.current? = some (c.answered s.arena.peak answer)
      ∧ s'.heap.calls = s.heap.calls ++ s.arena.retired.reverse.map Chunk.freed
        ++ [.grow c.block c.capacity s.arena.peak answer]

/-! ## The newest chunk is kept, or extended -/

/-- Several chunks with too little room: the newest one is to be extended,
    never replaced. -/
theorem clear_extends {s : Site} (h : s.arena.Sound) (hr : s.arena.retired ≠ [])
    (hfull : s.arena.currentCapacity < s.arena.peak) :
    ∃ c answer, s.arena.current? = some c
      ∧ s.clear.arena.chunks = [c.answered s.arena.peak answer]
      ∧ s.clear.heap.calls = s.heap.calls ++ s.arena.retired.reverse.map Chunk.freed
        ++ [.grow c.block c.capacity s.arena.peak answer] := by
  obtain ⟨c, older, hc⟩ : ∃ c older, s.arena.chunks = c :: older := by
    refine List.exists_cons_of_ne_nil fun hnil => hr ?_
    rw [show s.arena.retired = s.arena.chunks.tail from rfl, hnil]
    rfl
  obtain ⟨harena, hcalls, -⟩ := s.kept_eq
  have hkept : s.kept.arena.Sound := harena ▸ h.newestOnly
  have hpeak : s.kept.arena.peak = s.arena.peak := by rw [harena]; rfl
  have hunused : s.kept.arena.used = 0 := by rw [harena]; rfl
  have hone : s.kept.arena.chunks = [c] := by
    rw [harena, show s.arena.newestOnly.chunks = s.arena.chunks.take 1 from rfl, hc]
    rfl
  have hword : s.arena.peak ≤ Word.largest := Nat.le_trans h.peak_le_limit h.words
  have hgrowth : s.kept.arena.growthFor s.kept.arena.used s.kept.arena.peak
      = .extend s.arena.peak := by
    rw [hpeak]
    exact if_pos ⟨by rw [hone]; exact List.cons_ne_nil _ _, hunused⟩
  rcases reserve_grown hkept s.kept.arena.peak with
    ⟨hfits, -⟩ | ⟨-, ⟨answer, room⟩, hgrown, heq⟩
  · rw [hunused, hpeak, Arena.currentCapacity_of_cons hone] at hfits
    rw [Arena.currentCapacity_of_cons hc] at hfull
    have hfits : min (0 + s.arena.peak) Word.largest ≤ c.capacity := hfits
    omega
  · rw [hgrowth] at hgrown
    rw [clear_of_retired hr, heq]
    cases hgrown with
    | refusedGrow chunks unused larger arena refused =>
        obtain rfl := (List.cons.inj (hone.symm.trans chunks)).1
        refine ⟨c, none, Arena.current?_of_cons hc, arena ▸ hone, ?_⟩
        rw [← hcalls]
        exact Heap.calls_of_grow refused
    | @extended _ _ _ block _ chunks unused larger arena granted =>
        obtain rfl := (List.cons.inj (hone.symm.trans chunks)).1
        refine ⟨c, some block, Arena.current?_of_cons hc, ?_, ?_⟩
        · exact (congrArg Arena.chunks arena).trans (Arena.extend_chunks hone block _)
        · rw [← hcalls]
          exact Heap.calls_of_grow granted

/-- Otherwise the newest chunk is kept as it is. -/
theorem clear_keeps {s : Site}
    (hroom : s.arena.retired = [] ∨ s.arena.peak ≤ s.arena.currentCapacity) :
    s.clear.arena = s.arena.newestOnly
      ∧ s.clear.heap.calls = s.heap.calls ++ s.arena.retired.reverse.map Chunk.freed := by
  by_cases hr : s.arena.retired = []
  · rw [clear_of_unretired hr, hr]
    exact ⟨rfl, (List.append_nil _).symm⟩
  · obtain ⟨harena, hcalls, -⟩ := s.kept_eq
    have hpeak := hroom.resolve_left hr
    have hsame : s.arena.newestOnly.currentCapacity = s.arena.currentCapacity := by
      rw [Arena.currentCapacity, s.arena.current?_newestOnly]
      rfl
    have hfits : Word.satAdd s.kept.arena.used s.kept.arena.peak
        ≤ s.kept.arena.currentCapacity := by
      rw [harena, hsame]
      show min (0 + s.arena.peak) Word.largest ≤ s.arena.currentCapacity
      omega
    rw [clear_of_retired hr, show s.kept.reserve s.kept.arena.peak = (.ok (), s.kept) from
      if_pos hfits]
    exact ⟨harena, hcalls⟩

/-- Clearing an arena drops everything. -/
theorem clear_dropped {s : Site} (hs : s.Sound) : Dropped s s.clear := by
  have hbooks := clear_books hs.arena
  have hsound := (clear_sound hs).arena
  have hroomy : s.arena.retired = [] ∨ s.arena.peak ≤ s.arena.currentCapacity →
      s.clear.arena.current? = s.arena.current? := by
    intro hroom
    rw [(clear_keeps hroom).1, s.arena.current?_newestOnly]
  refine {
    total := hbooks.total
    used := hsound.used_of_empty hbooks.total
    peak := hbooks.peak
    chunks := hsound.length_of_empty hbooks.total
    number := ?_
    roomy := fun hroom => ⟨hroomy hroom, (clear_keeps hroom).2⟩
    coalesced := ?_ }
  · by_cases hroom : s.arena.retired = [] ∨ s.arena.peak ≤ s.arena.currentCapacity
    · rw [hroomy hroom]
    · obtain ⟨hr, hfull⟩ := not_or.mp hroom
      obtain ⟨c, answer, hc, hchunks, -⟩ :=
        clear_extends hs.arena hr (Nat.lt_of_not_le hfull)
      rw [hc, Arena.current?_of_cons hchunks]
      cases answer with
      | none => rfl
      | some block => rfl
  · intro hr hfull
    obtain ⟨c, answer, hc, hchunks, hcalls⟩ := clear_extends hs.arena hr hfull
    exact ⟨c, answer, hc, Arena.current?_of_cons hchunks, hcalls⟩

/-! ## The record of checkpoints is of no matter -/

/-- The same site with another generation and other marks on record. -/
def onRecord (s : Site) (generation : UInt64) (marks : List Nat) : Site :=
  { s with arena := { s.arena with generation, marks } }

variable (s : Site) (generation : UInt64) (marks : List Nat)

/-- Generation and marks make no difference to a release. -/
theorem release_onRecord (chunks : List Chunk) :
    (s.onRecord generation marks).release chunks
      = (s.release chunks).onRecord generation marks := by
  induction chunks generalizing s with
  | nil => rfl
  | cons c rest ih =>
      exact ih { s.log (.chunkReleased c.number c.capacity) with
        heap := s.heap.free c.block c.capacity }

theorem extend_onRecord (c : Chunk) (capacity : Nat) :
    (s.onRecord generation marks).extend c capacity
      = ((s.extend c capacity).1, (s.extend c capacity).2.onRecord generation marks) := by
  unfold extend
  rw [show (s.onRecord generation marks).heap = s.heap from rfl]
  cases s.heap.grow c.block c.capacity capacity with
  | mk answer heap =>
      cases answer with
      | none => rfl
      | some block => rfl

theorem acquire_onRecord (capacity : Nat) :
    (s.onRecord generation marks).acquire capacity
      = ((s.acquire capacity).1, (s.acquire capacity).2.onRecord generation marks) := by
  unfold acquire
  rw [show (s.onRecord generation marks).heap = s.heap from rfl]
  cases s.heap.alloc capacity with
  | mk answer heap =>
      cases answer with
      | none => rfl
      | some block => rfl

theorem grow_onRecord (growth : Growth) :
    (s.onRecord generation marks).grow growth
      = ((s.grow growth).1, (s.grow growth).2.onRecord generation marks) := by
  unfold grow
  rw [show (s.onRecord generation marks).arena.chunks = s.arena.chunks from rfl]
  cases growth with
  | replace capacity => exact s.acquire_onRecord generation marks capacity
  | extend capacity =>
      cases s.arena.chunks with
      | nil => exact s.acquire_onRecord generation marks capacity
      | cons c older => exact s.extend_onRecord generation marks c capacity

theorem reserve_onRecord (more : Nat) :
    (s.onRecord generation marks).reserve more
      = ((s.reserve more).1, (s.reserve more).2.onRecord generation marks) := by
  by_cases hfits : Word.satAdd s.arena.used more ≤ s.arena.currentCapacity
  · rw [show s.reserve more = (.ok (), s) from if_pos hfits]
    exact if_pos hfits
  · have hgrow := s.grow_onRecord generation marks (s.arena.growthFor s.arena.used more)
    rw [reserve_of_full hfits]
    refine (reserve_of_full (s := s.onRecord generation marks) hfits).trans ?_
    rw [show (s.onRecord generation marks).arena.growthFor (s.onRecord generation marks).arena.used
      more = s.arena.growthFor s.arena.used more from rfl, hgrow]

/-- Generation and marks make no difference to clearing an arena. -/
theorem clear_onRecord :
    (s.onRecord generation marks).clear = s.clear.onRecord generation marks := by
  by_cases hr : s.arena.retired = []
  · rw [clear_of_unretired hr]
    exact clear_of_unretired (s := s.onRecord generation marks) hr
  · have hkept : (s.onRecord generation marks).kept = s.kept.onRecord generation marks :=
      release_onRecord (({ s with arena := s.arena.newestOnly } : Site).log
        (.coalescing s.arena.retired.length s.arena.peak)) generation marks s.arena.retired.reverse
    rw [clear_of_retired hr, clear_of_retired (s := s.onRecord generation marks) hr, hkept,
      show (s.kept.onRecord generation marks).arena.peak = s.kept.arena.peak from rfl,
      reserve_onRecord]
    cases s.kept.reserve s.kept.arena.peak with
    | mk answer room =>
        cases answer with
        | error e => rfl
        | ok _ => rfl

variable {s}

/-- A reset clears, and starts a new record. -/
theorem reset_eq : s.reset = s.clear.onRecord (s.arena.generation + 1) [] :=
  s.clear_onRecord (s.arena.generation + 1) []

namespace Dropped

variable {s' : Site}

theorem onRecord (h : Dropped s s') (generation : UInt64) (marks : List Nat) :
    Dropped s (s'.onRecord generation marks) :=
  ⟨h.total, h.used, h.peak, h.chunks, h.number, h.roomy, h.coalesced⟩

/-- Where everything is dropped, there is nothing to clear. -/
theorem clear_eq (h : Dropped s s') : s'.clear = s' := by
  have hretired : s'.arena.retired = [] := by
    refine List.eq_nil_of_length_eq_zero ?_
    rw [show s'.arena.retired = s'.arena.chunks.tail from rfl, List.length_tail]
    have := h.chunks
    omega
  rw [clear_of_unretired hretired, Arena.newestOnly_eq_self h.total h.used h.chunks]

end Dropped

/-- A reset drops everything. -/
theorem reset_dropped (hs : s.Sound) : Dropped s s.reset := by
  rw [reset_eq]
  exact (clear_dropped hs).onRecord _ _

/-- A second reset counts, and does nothing else. -/
theorem reset_reset (hs : s.Sound) :
    s.reset.reset = { s.reset with
      arena := { s.reset.arena with generation := s.reset.arena.generation + 1 } } := by
  have hmarks : s.reset.arena.marks = [] := by rw [reset_eq]; rfl
  rw [reset_eq, (reset_dropped hs).clear_eq, onRecord, ← hmarks]

end Site

namespace History

variable {h : History}

/-- A rollback to the empty arena is a reset that leaves the generation and
    the older marks. -/
theorem Sound.rollback_eq_reset (hs : h.Sound) {b : Arena} (hb : b ∈ h.held)
    (hm : b.nextMark ∈ h.site.arena.marks) (hz : b.total = 0) :
    (h.site.rollback b.checkpoint).2
      = { h.site.reset with arena := { h.site.reset.arena with
          generation := h.site.arena.generation
          marks := h.site.arena.marks.filter (· < b.nextMark) } } := by
  rw [hs.rollback_empty hb hm hz, Site.reset_eq]
  exact h.site.clear_onRecord h.site.arena.generation (h.site.arena.marks.filter (· < b.nextMark))

/-- A reset after any run drops everything and coalesces the chunks,
    whatever the heap answers.  A second reset changes nothing but the
    generation, and a checkpoint of the empty arena that is accepted leads
    to the same site with the old generation and the older marks. -/
theorem reset_coalesces {settings : Settings} (words : settings.maxSize ≤ Word.largest)
    {id : Nat} {heap : Heap} (built : (Site.establish settings id heap).1 = .ok ())
    (ops : List Op) {h : History} (reached : h = (start settings id heap).run ops) {s : Site}
    (left : s = h.site.reset) :
    Site.Dropped h.site s
    ∧ s.arena.generation.toNat = (h.site.arena.generation.toNat + 1) % 2 ^ 64
    ∧ s.arena.marks = []
    ∧ s.reset = { s with arena := { s.arena with generation := s.arena.generation + 1 } }
    ∧ ∀ c ∈ h.inHand, (h.site.rollback c).1 = .ok () → c.total = 0 →
      (h.site.rollback c).2 = { s with arena := { s.arena with
        generation := h.site.arena.generation
        marks := h.site.arena.marks.filter (· < c.mark) } } := by
  have hs : h.Sound := reached ▸ (Sound.start words built).run ops
  subst left
  refine ⟨Site.reset_dropped hs.site, ?_, ?_, Site.reset_reset hs.site, ?_⟩
  · rw [Site.reset_eq]
    exact UInt64.toNat_add ..
  · rw [Site.reset_eq]
    rfl
  · intro c inHand accepted hz
    obtain ⟨b, hb, rfl⟩ := List.mem_map.mp inHand
    exact hs.rollback_eq_reset hb ((hs.rollback_ok_iff hb).mp accepted) hz

/-- Three chunks and a checkpoint of the empty arena; the heap refuses to
    coalesce them into 268 bytes. -/
theorem reset_coalesces_when_refused :
    let h := (start (.standard true) 0 (Heap.fresh (Limits.policy ⟨200, 1000, false⟩))).run
      [.checkpoint, .allocate (.bytes 60 1), .checkpoint, .allocate (.bytes 100 8),
        .allocate (.bytes 100 8)]
    let s := h.site.reset
    h.site.arena.chunks.length = 3 ∧ Site.Dropped h.site s
      ∧ s.heap.calls = h.site.heap.calls
        ++ [.free 0 124, .free 1 164] ++ [.grow 2 164 268 none]
      ∧ s.reset = { s with arena := { s.arena with generation := 2 } }
      ∧ ∀ c ∈ h.inHand, c.mark = 0 → (h.site.rollback c).2 = { s with arena := { s.arena with
        generation := 0, marks := [] } } := by
  intro h s
  have built : (Site.establish (.standard true) 0
      (Heap.fresh (Limits.policy ⟨200, 1000, false⟩))).1 = .ok () :=
    rfl
  obtain ⟨hdropped, -, -, hagain, hback⟩ :=
    reset_coalesces (by decide) built _ (rfl : h = _) (rfl : s = _)
  have hgeneration : s.arena.generation + 1 = 2 := by decide +kernel
  have hfirst : ∀ c ∈ h.inHand, c.mark = 0 → (h.site.rollback c).1 = .ok () ∧ c.total = 0
      ∧ h.site.arena.marks.filter (· < c.mark) = [] := by decide +kernel
  have hzero : h.site.arena.generation = 0 := by decide +kernel
  rw [hgeneration] at hagain
  refine ⟨by decide +kernel, hdropped, by decide +kernel, hagain, ?_⟩
  intro c hc hmark
  obtain ⟨accepted, hz, hmarks⟩ := hfirst c hc hmark
  rw [hback c hc accepted hz, hzero, hmarks]

end History

end ScratchArena
