import ScratchArena.Proofs.Coverage

/-! # Bookkeeping — what an arena keeps of itself and its checkpoints

    The counters, the chunks, the marks and the checkpoints in hand agree
    with one another in every state.  Most of this is the invariant of
    histories read off field by field.  Two things are not in it.  A chunk
    number names one chunk for good, wherever that is moved: a chunk is
    either inherited from any earlier moment, on the block that the calls
    since have made of its block, or numbered after all chunks of that
    moment.  And positions are ordered as checkpoints were taken, since the
    arena of the older one underlies that of the newer. -/

namespace ScratchArena

/-- How positions are ordered: an empty arena first, then by chunk, then by
    offset. -/
def Position.UpTo : Option Position → Option Position → Prop
  | none, _ => True
  | some _, none => False
  | some p, some q => p.chunk < q.chunk ∨ p.chunk = q.chunk ∧ p.offset ≤ q.offset

/-! ## Chunk numbers -/

/-- The block that a block is after a call, unless it has come back. -/
def Call.follow (block : Nat) : Call → Option Nat
  | .grow target _ _ (some answer) => some (if block = target then answer else block)
  | .free target _ => if block = target then none else some block
  | _ => some block

/-- The block that a block is after some calls, unless it has come back. -/
def follow (block : Nat) (calls : List Call) : Option Nat := calls.foldlM Call.follow block

theorem follow_append (block : Nat) (calls more : List Call) :
    follow block (calls ++ more) = (follow block calls).bind (follow · more) :=
  List.foldlM_append

/-- Chunks that come back take their blocks away, and no others. -/
theorem follow_freed (block : Nat) (gone : List Chunk) :
    follow block (gone.map Chunk.freed)
      = if block ∈ gone.map Chunk.block then none else some block := by
  induction gone with
  | nil => rfl
  | cons c gone ih =>
      show ((if block = c.block then none else some block).bind
        (follow · (gone.map Chunk.freed))) = _
      by_cases heq : block = c.block
      · simp [heq]
      · simp only [heq, if_false, Option.bind_some, ih, List.map_cons, List.mem_cons, false_or]

/-- A later moment.  The chunks whose blocks have not come back are there
    still, on the blocks that those have become, and all others are numbered
    after the chunks of the earlier moment. -/
structure Site.Later (s s' : Site) (calls : List Call) : Prop where
  journal : s'.heap.calls = s.heap.calls ++ calls
  kept : ∀ c ∈ s.arena.chunks, ∀ block, follow c.block calls = some block →
    ∃ d ∈ s'.arena.chunks, d.number = c.number ∧ d.block = block
  origin : ∀ d ∈ s'.arena.chunks,
    (∃ c ∈ s.arena.chunks, c.number = d.number ∧ follow c.block calls = some d.block)
      ∨ s.arena.nextChunk ≤ d.number
  nextChunk : s.arena.nextChunk ≤ s'.arena.nextChunk

namespace Site

variable {s s' s'' : Site} {calls more : List Call}

theorem Later.trans (h : s.Later s' calls) (h' : s'.Later s'' more) :
    s.Later s'' (calls ++ more) where
  journal := by rw [h'.journal, h.journal, List.append_assoc]
  kept := by
    intro c hc block hblock
    rw [follow_append] at hblock
    obtain ⟨between, hbetween, hblock⟩ := Option.bind_eq_some_iff.mp hblock
    obtain ⟨d, hd, hnumber, rfl⟩ := h.kept c hc between hbetween
    obtain ⟨e, he, hnumber', hblock⟩ := h'.kept d hd block hblock
    exact ⟨e, he, hnumber'.trans hnumber, hblock⟩
  origin := by
    intro e he
    rcases h'.origin e he with ⟨d, hd, hnumber, hfollow⟩ | hlater
    · rcases h.origin d hd with ⟨c, hc, hnumber', hfollow'⟩ | hlater
      · refine Or.inl ⟨c, hc, hnumber'.trans hnumber, ?_⟩
        rw [follow_append, hfollow']
        exact hfollow
      · exact Or.inr (hnumber ▸ hlater)
    · exact Or.inr (Nat.le_trans h.nextChunk hlater)
  nextChunk := Nat.le_trans h.nextChunk h'.nextChunk

/-- Calls that leave every block where it is leave the chunks as well. -/
theorem later_of_same (hcalls : s'.heap.calls = s.heap.calls ++ calls)
    (hstay : ∀ block, follow block calls = some block)
    (hchunks : s'.arena.chunks = s.arena.chunks)
    (hnext : s'.arena.nextChunk = s.arena.nextChunk) : s.Later s' calls where
  journal := hcalls
  kept := by
    intro c hc block hblock
    rw [hchunks]
    exact ⟨c, hc, rfl, Option.some.inj ((hstay _).symm.trans hblock)⟩
  origin := fun d hd => Or.inl ⟨d, hchunks ▸ hd, rfl, hstay _⟩
  nextChunk := Nat.le_of_eq hnext.symm

theorem Later.refl (s : Site) : s.Later s [] :=
  later_of_same (List.append_nil _).symm (fun _ => rfl) rfl rfl

/-- Where the chunks are the same, nothing was asked of the heap. -/
theorem SameChunks.later (h : s.SameChunks s') : s.Later s' [] :=
  later_of_same (h.heap.calls.trans (List.append_nil _).symm) (fun _ => rfl) h.chunks h.nextChunk

/-- Chunks that are freed are asked to be. -/
theorem Freed.later {gone : List Chunk} (h : s.Freed s' gone) (hs : s.Sound) :
    s.Later s' (gone.map Chunk.freed) := by
  have hcalls : s'.heap.calls = s.heap.calls ++ gone.map Chunk.freed := by
    rw [h.heap]
    exact (s.heap.freeAll_eq gone).1
  exact {
    journal := hcalls
    kept := by
      intro c hc block hblock
      rw [follow_freed] at hblock
      split at hblock
      · exact nomatch hblock
      · rename_i hstays
        refine ⟨c, ?_, rfl, Option.some.inj hblock⟩
        refine (List.mem_append.mp (h.perm.mem_iff.mpr hc)).resolve_left ?_
        exact fun hgone => hstays (List.mem_map_of_mem hgone)
    origin := fun d hd =>
      Or.inl ⟨d, h.kept.mem hd, rfl, by rw [follow_freed, if_neg (h.block_notMem hs hd)]⟩
    nextChunk := Nat.le_of_eq h.nextChunk.symm }

/-- At any later moment a number names the chunk it did, if any. -/
theorem Later.number_eq_iff (h : s.Later s' calls) (hs : s.Sound) (hs' : s'.Sound) {c d : Chunk}
    (hc : c ∈ s.arena.chunks) (hd : d ∈ s'.arena.chunks) :
    c.number = d.number ↔ follow c.block calls = some d.block := by
  constructor
  · intro heq
    rcases h.origin d hd with ⟨e, he, hnumber, hfollow⟩ | hlater
    · rw [List.inj_on_of_nodup_map hs.nodup_numbers hc he (heq.trans hnumber.symm)]
      exact hfollow
    · have := hs.arena.number_lt c hc
      omega
  · intro hfollow
    obtain ⟨e, he, hnumber, hblock⟩ := h.kept c hc d.block hfollow
    rw [← hnumber, List.inj_on_of_nodup_map hs'.nodup_blocks he hd hblock]

end Site

/-- Making room asks for one thing at most, and only an extension leads a
    block to another. -/
theorem Resized.later {s s' : Site} (h : Resized s s')
    (hblocks : s.arena.chunks.Pairwise fun c d => d.block < c.block) :
    ∃ calls, s.Later s' calls := by
  cases h with
  | idle arena heap =>
      exact ⟨[], Site.later_of_same (by rw [heap, List.append_nil]) (fun _ => rfl) (by rw [arena])
        (by rw [arena])⟩
  | refusedGrow chunks unused larger arena refused =>
      exact ⟨_, Site.later_of_same (Heap.calls_of_grow refused) (fun _ => rfl) (by rw [arena])
        (by rw [arena])⟩
  | refusedAlloc positive arena refused =>
      exact ⟨_, Site.later_of_same (Heap.calls_of_alloc refused) (fun _ => rfl) (by rw [arena])
        (by rw [arena])⟩
  | @extended c older block capacity chunks unused larger arena granted =>
      have hx : s'.arena.chunks = { c with block, capacity } :: older := by
        rw [arena, Arena.extend_chunks chunks]
      rw [chunks] at hblocks
      have holder : ∀ d ∈ older,
          follow d.block [.grow c.block c.capacity capacity (some block)] = some d.block := by
        intro d hd
        have hlt := (List.pairwise_cons.mp hblocks).1 d hd
        exact congrArg some (if_neg (Nat.ne_of_lt hlt))
      have hnewest : follow c.block [.grow c.block c.capacity capacity (some block)]
          = some block := congrArg some (if_pos rfl)
      refine ⟨_, ⟨Heap.calls_of_grow granted, ?_, ?_, by rw [arena]; exact Nat.le_refl _⟩⟩
      · rw [chunks, hx]
        intro d hd answer hanswer
        rcases List.mem_cons.mp hd with rfl | hd
        · exact ⟨_, List.mem_cons_self, rfl, Option.some.inj (hnewest.symm.trans hanswer)⟩
        · exact ⟨d, List.mem_cons_of_mem _ hd, rfl,
            Option.some.inj ((holder d hd).symm.trans hanswer)⟩
      · rw [chunks, hx]
        intro d hd
        rcases List.mem_cons.mp hd with rfl | hd
        · exact Or.inl ⟨c, List.mem_cons_self, rfl, hnewest⟩
        · exact Or.inl ⟨d, List.mem_cons_of_mem _ hd, rfl, holder d hd⟩
  | pushed positive inUse arena granted =>
      refine ⟨_, ⟨Heap.calls_of_alloc granted, ?_, ?_, by rw [arena]; exact Nat.le_succ _⟩⟩
      · rw [arena]
        intro c hc answer hanswer
        exact ⟨c, List.mem_cons_of_mem _ hc, rfl, Option.some.inj hanswer⟩
      · rw [arena]
        intro d hd
        rcases List.mem_cons.mp hd with rfl | hd
        · exact Or.inr (Nat.le_refl _)
        · exact Or.inl ⟨d, hd, rfl, rfl⟩

namespace History

variable {h : History}

/-- Chunks only go, move, or come on top. -/
theorem Moved.later {s' : Site} (hm : h.Moved s') (hs : h.Sound) :
    ∃ calls, h.site.Later s' calls := by
  obtain ⟨kept, room, gone, hfreed, hroom, hsame⟩ := hm.split
  obtain ⟨calls, hlater⟩ := hroom.later (hs.site.blocks_newest_first.sublist hfreed.kept)
  exact ⟨_, (hfreed.later hs.site).trans (hlater.trans hsame.later)⟩

/-- Whatever is called, the later state follows from the earlier one and
    what was asked in between. -/
theorem Sound.later_run (hs : h.Sound) (ops : List Op) :
    ∃ calls, h.site.Later (h.run ops).site calls := by
  induction ops generalizing h with
  | nil => exact ⟨[], .refl _⟩
  | cons op ops ih =>
      obtain ⟨calls, hstep⟩ := (hs.moved op).later hs
      obtain ⟨more, hrun⟩ := ih (hs.step op)
      exact ⟨calls ++ more, hstep.trans hrun⟩

end History

/-! ## Checkpoints -/

namespace Arena

/-- A position is that of the newest chunk, and something is in use. -/
theorem position?_eq_some {b : Arena} {p : Position} (h : b.position? = some p) :
    0 < b.total ∧ ∃ c older, b.chunks = c :: older ∧ p = ⟨c.number, b.used⟩ := by
  unfold position? at h
  split at h
  · rename_i hpos
    refine ⟨hpos, ?_⟩
    obtain ⟨c, hc, rfl⟩ := Option.map_eq_some_iff.mp h
    cases hchunks : b.chunks with
    | nil =>
        rw [current?, hchunks] at hc
        cases hc
    | cons d older =>
        rw [current?_of_cons hchunks] at hc
        exact ⟨d, older, rfl, by rw [Option.some.inj hc]⟩
  · cases h

/-- What underlies an arena has no more in use. -/
theorem Underlies.total_le {b a : Arena} (h : b.Underlies a) : b.total ≤ a.total := by
  rcases Nat.eq_zero_or_pos b.total with hz | hpos
  · rw [hz]
    exact Nat.zero_le _
  · obtain ⟨newer, c, c', older, hg⟩ := h hpos
    exact hg.total

theorem position?_of_cons {a : Arena} (hpos : 0 < a.total) {c : Chunk} {older : List Chunk}
    (hc : a.chunks = c :: older) : a.position? = some ⟨c.number, a.used⟩ := by
  rw [position?, if_pos hpos, current?_of_cons hc]
  rfl

/-- A position in an arena that underlies another names a chunk of that one,
    in the part in use. -/
theorem Underlies.position_held {b a : Arena} (h : b.Underlies a) (hb : b.Sound) (ha : a.Sound)
    {p : Position} (hp : b.position? = some p) :
    ∃ c ∈ a.chunks, c.number = p.chunk ∧ p.offset ≤ c.capacity ∧ p.offset ≤ b.total
      ∧ (a.current? = some c → p.offset ≤ a.used) := by
  obtain ⟨hpos, d, under, hd, rfl⟩ := position?_eq_some hp
  obtain ⟨newer, c, c', older, hg⟩ := h hpos
  obtain ⟨rfl, rfl⟩ := List.cons.inj (hd.symm.trans hg.below)
  have hcap := hb.used_le_capacity
  rw [currentCapacity_of_cons hd] at hcap
  refine ⟨c', by rw [hg.above]; simp, hg.number, Nat.le_trans hcap hg.capacity,
    hb.used_le_total, ?_⟩
  intro hcur
  cases newer with
  | nil => exact hg.used rfl
  | cons n newer =>
      -- the newest chunk is numbered after the one of the position
      rw [current?_of_cons hg.above] at hcur
      obtain rfl := Option.some.inj hcur
      exact absurd hg.number (Nat.ne_of_gt (hg.newer_number ha n List.mem_cons_self))

/-- What underlies an arena ends no later. -/
theorem Underlies.position_upTo {b a : Arena} (h : b.Underlies a) (ha : a.Sound) :
    Position.UpTo b.position? a.position? := by
  cases hp : b.position? with
  | none => trivial
  | some p =>
      obtain ⟨hpos, d, under, hd, rfl⟩ := position?_eq_some hp
      obtain ⟨newer, c, c', older, hg⟩ := h hpos
      obtain ⟨rfl, rfl⟩ := List.cons.inj (hd.symm.trans hg.below)
      have hposa := Nat.lt_of_lt_of_le hpos hg.total
      cases newer with
      | nil =>
          rw [position?_of_cons hposa hg.above]
          exact Or.inr ⟨hg.number.symm, hg.used rfl⟩
      | cons n newer =>
          rw [position?_of_cons hposa hg.above]
          exact Or.inl (hg.newer_number ha n List.mem_cons_self)

end Arena

namespace History

/-- In every state of every run the counters, the chunks and the marks
    agree; the retired chunks cover what is not used of the newest one; a
    chunk number names one chunk for good, on whatever block; and the checkpoints in hand that
    are on record stand in the order they were taken, with totals and
    positions that the arena still has. -/
theorem books_agree {settings : Settings} (words : settings.maxSize ≤ Word.largest)
    {id : Nat} {heap : Heap} (built : (Site.establish settings id heap).1 = .ok ())
    (ops : List Op) (h : History) (reached : h = (start settings id heap).run ops)
    (a : Arena) (present : a = h.site.arena) :
    (a.used ≤ a.currentCapacity ∧ a.used ≤ a.total)
    ∧ (a.current? = none → a.retired = [] ∧ a.used = 0 ∧ a.total = 0 ∧ a.peak = 0)
    ∧ (a.total = 0 → a.retired = []) ∧ (a.retired = [] → a.used = a.total)
    ∧ a.chunks.Pairwise (fun c d => d.number < c.number)
    ∧ (∀ c ∈ a.chunks, c.number < a.nextChunk ∧ 0 < c.capacity)
    ∧ (∀ earlier later, ops = earlier ++ later →
        ∀ c ∈ ((start settings id heap).run earlier).site.arena.chunks, ∀ d ∈ a.chunks,
          c.number = d.number ↔ follow c.block (h.site.heap.calls.drop
            ((start settings id heap).run earlier).site.heap.calls.length) = some d.block)
    ∧ a.total - a.used ≤ (a.retired.map fun c => roundUpWord c.capacity).sum
    ∧ a.marks.Pairwise (fun m n => n < m) ∧ (∀ m ∈ a.marks, m < a.nextMark)
    ∧ (∀ c ∈ h.inHand, c.mark ∈ a.marks → c.total ≤ a.total
        ∧ ∀ p, c.position = some p →
          ∃ k ∈ a.chunks, k.number = p.chunk ∧ p.offset ≤ k.capacity ∧ p.offset ≤ c.total
            ∧ (a.current? = some k → p.offset ≤ a.used))
    ∧ ∀ c ∈ h.inHand, ∀ d ∈ h.inHand, c.mark ∈ a.marks → d.mark ∈ a.marks → c.mark < d.mark →
        c.total ≤ d.total ∧ Position.UpTo c.position d.position := by
  subst present
  have hstart := Sound.start words built
  have hs : h.Sound := reached ▸ hstart.run ops
  have hcovered : h.Covered := reached ▸ (Covered.start words built).run hstart ops
  have ha := hs.site.arena
  refine ⟨⟨ha.used_le_capacity, ha.used_le_total⟩, ?_, ha.unretired_of_empty,
    ha.used_of_unretired, ha.newest_first, fun c hc => ⟨ha.number_lt c hc, ha.capacity_pos c hc⟩,
    ?_, hcovered.site, ha.marks_newest_first, ha.mark_lt, ?_, ?_⟩
  · intro hnone
    have hnil := List.head?_eq_none_iff.mp hnone
    have hz := ha.total_of_chunkless hnil
    exact ⟨ha.unretired_of_empty hz, ha.used_of_empty hz, hz, ha.peak_of_chunkless hnil⟩
  · rintro earlier later rfl c hc d hd
    have hearlier := hstart.run earlier
    obtain ⟨calls, hlater⟩ := hearlier.later_run later
    rw [← run_append, ← reached] at hlater
    rw [hlater.journal, List.drop_left]
    exact hlater.number_eq_iff hearlier.site hs.site hc hd
  · intro c hc hm
    obtain ⟨b, hb, rfl⟩ := List.mem_map.mp hc
    have hunder := (hs.anchored b hb hm).underlies
    exact ⟨hunder.total_le, fun p hp => hunder.position_held (hs.held_sound b hb) ha hp⟩
  · intro c hc d hd hcm hdm hlt
    obtain ⟨b, hb, rfl⟩ := List.mem_map.mp hc
    obtain ⟨e, he, rfl⟩ := List.mem_map.mp hd
    have hunder := hs.chained b hb e he hcm hdm hlt
    exact ⟨hunder.total_le, hunder.position_upTo (hs.held_sound e he)⟩

/-- Two checkpoints in two chunks, and padding left behind in the first. -/
theorem books_agree_in_two_chunks :
    let ops : List Op := [.allocate (.bytes 61 1), .checkpoint, .allocate (.bytes 200 8), .guarded]
    let h := (start (.standard true) 0 (Heap.fresh .generous)).run ops
    h.site.arena.chunks.length = 2 ∧ h.site.arena.total - h.site.arena.used = 64
      ∧ (h.site.arena.retired.map fun c => roundUpWord c.capacity).sum = 128
      ∧ h.site.arena.total - h.site.arena.used
          ≤ (h.site.arena.retired.map fun c => roundUpWord c.capacity).sum
      ∧ h.inHand.length = 2
      ∧ ∀ c ∈ h.inHand, ∀ d ∈ h.inHand, c.mark ∈ h.site.arena.marks →
          d.mark ∈ h.site.arena.marks → c.mark < d.mark →
            c.total ≤ d.total ∧ Position.UpTo c.position d.position := by
  intro ops h
  obtain ⟨-, -, -, -, -, -, -, hcovered, -, -, -, hordered⟩ :=
    books_agree (by decide) (by rfl) ops h rfl _ rfl
  exact ⟨by decide +kernel, by decide +kernel, by decide +kernel, hcovered, by decide +kernel,
    hordered⟩

end History

end ScratchArena
