import ScratchArena.Proofs.CheckedSteps
import ScratchArena.Proofs.Coverage

/-! # Faultless — no call on an arena ever faults

    What is left to show is that the counters have room.  Three tallies say
    so: an arena has as many bytes on loan as its chunks hold, the next
    chunk number counts the chunks it was granted, and the next mark counts
    the checkpoints it was asked for.  Few bytes on loan make few chunks,
    and retired chunks that hold little account for little padding, so the
    capacity is a word as well. -/

namespace ScratchArena

/-! ## Tallies -/

/-- The call brought a new block. -/
def Call.acquires : Call → Bool
  | .alloc _ (some _) => true
  | _ => false

/-- How many blocks some calls brought. -/
def acquisitions (calls : List Call) : Nat := calls.countP Call.acquires

/-- Capacities, in sum. -/
def capacitySum (chunks : List Chunk) : Nat := (chunks.map Chunk.capacity).sum

theorem capacitySum_cons (c : Chunk) (chunks : List Chunk) :
    capacitySum (c :: chunks) = c.capacity + capacitySum chunks := List.sum_cons

theorem bytesOnLoan_append (calls more : List Call) :
    bytesOnLoan (calls ++ more) = more.foldl Call.onLoanAfter (bytesOnLoan calls) :=
  List.foldl_append

/-- Freed chunks are no longer on loan. -/
theorem onLoan_freed (n : Nat) (chunks : List Chunk) :
    (chunks.map Chunk.freed).foldl Call.onLoanAfter n = n - capacitySum chunks := by
  induction chunks generalizing n with
  | nil => rfl
  | cons c chunks ih =>
      rw [capacitySum_cons, ← Nat.sub_sub]
      exact ih (n - c.capacity)

/-- Freeing chunks acquires none. -/
theorem acquisitions_freed (chunks : List Chunk) :
    acquisitions (chunks.map Chunk.freed) = 0 := by
  refine List.countP_eq_zero.mpr ?_
  intro call hcall
  obtain ⟨c, -, rfl⟩ := List.mem_map.mp hcall
  exact Bool.false_ne_true

/-- The journal since `base` counts what the arena has. -/
structure Site.Tallied (base : Heap) (s : Site) : Prop where
  loaned : bytesOnLoan s.heap.calls = bytesOnLoan base.calls + capacitySum s.arena.chunks
  numbered : ∃ asked, s.heap.calls = base.calls ++ asked ∧ acquisitions asked = s.arena.nextChunk

namespace Site.Tallied

variable {base : Heap} {s s' : Site}

/-- The tallies after some more calls. -/
theorem add (ht : s.Tallied base) {calls : List Call}
    (hcalls : s'.heap.calls = s.heap.calls ++ calls)
    (hloaned : calls.foldl Call.onLoanAfter (bytesOnLoan base.calls + capacitySum s.arena.chunks)
      = bytesOnLoan base.calls + capacitySum s'.arena.chunks)
    (hnumbered : s'.arena.nextChunk = s.arena.nextChunk + acquisitions calls) :
    s'.Tallied base where
  loaned := by rw [hcalls, bytesOnLoan_append, ht.loaned, hloaned]
  numbered := by
    obtain ⟨asked, heq, hasked⟩ := ht.numbered
    refine ⟨asked ++ calls, by rw [hcalls, heq, List.append_assoc], ?_⟩
    rw [hnumbered, ← hasked]
    exact List.countP_append

theorem congr (ht : s.Tallied base) (hchunks : s'.arena.chunks = s.arena.chunks)
    (hnext : s'.arena.nextChunk = s.arena.nextChunk) (hcalls : s'.heap.calls = s.heap.calls) :
    s'.Tallied base where
  loaned := by rw [hcalls, hchunks, ht.loaned]
  numbered := by rw [hcalls, hnext]; exact ht.numbered

/-- Freed chunks keep the tallies right. -/
theorem freed (ht : s.Tallied base) {gone : List Chunk} (hf : s.Freed s' gone) :
    s'.Tallied base := by
  have hcalls : s'.heap.calls = s.heap.calls ++ gone.map Chunk.freed := by
    rw [hf.heap]
    exact (s.heap.freeAll_eq gone).1
  have hsum := (hf.perm.map Chunk.capacity).sum_eq
  rw [List.map_append, List.sum_append] at hsum
  refine ht.add hcalls ?_ ?_
  · rw [onLoan_freed, capacitySum, ← hsum, capacitySum, capacitySum]
    omega
  · rw [acquisitions_freed, hf.nextChunk, Nat.add_zero]

/-- A growth keeps the tallies right. -/
theorem resized (ht : s.Tallied base) (hr : Resized s s') : s'.Tallied base := by
  cases hr with
  | idle arena heap => exact ht.congr (by rw [arena]) (by rw [arena]) (by rw [heap])
  | refusedGrow chunks unused larger arena refused =>
      exact ht.add (Heap.calls_of_grow refused) (by rw [arena]; rfl) (by rw [arena]; rfl)
  | refusedAlloc positive arena refused =>
      exact ht.add (Heap.calls_of_alloc refused) (by rw [arena]; rfl) (by rw [arena]; rfl)
  | @extended c older block capacity chunks unused larger arena granted =>
      refine ht.add (Heap.calls_of_grow granted) ?_ (by rw [arena]; rfl)
      rw [arena, Arena.extend_chunks chunks, chunks, capacitySum_cons, capacitySum_cons]
      show _ - c.capacity + capacity = _ + (capacity + _)
      omega
  | @pushed block capacity positive inUse arena granted =>
      refine ht.add (Heap.calls_of_alloc granted) ?_ (by rw [arena]; rfl)
      rw [arena]
      show _ + capacity = _ + capacitySum (s.arena.newChunk block capacity :: s.arena.chunks)
      rw [capacitySum_cons]
      show _ = _ + (capacity + _)
      omega

end Site.Tallied

namespace History

variable {base : Heap} {h : History}

theorem Moved.tallied {s' : Site} (hm : h.Moved s') (ht : h.site.Tallied base) :
    s'.Tallied base := by
  obtain ⟨kept, room, gone, hfreed, hroom, hsame⟩ := hm.split
  exact ((ht.freed hfreed).resized hroom).congr hsame.chunks hsame.nextChunk hsame.heap.calls

/-- The tallies are right after every run. -/
theorem Sound.tallied_run (hs : h.Sound) (ht : h.site.Tallied base) (ops : List Op) :
    (h.run ops).site.Tallied base :=
  (run_induct (P := fun h => h.Sound ∧ h.site.Tallied base) ⟨hs, ht⟩
    (fun _ op hp => ⟨hp.1.step op, (hp.1.moved op).tallied hp.2⟩) ops).2

/-- They are right for a new arena. -/
theorem tallied_start {settings : Settings} (words : settings.maxSize ≤ Word.largest) {id : Nat}
    {heap : Heap} (built : (Site.establish settings id heap).1 = .ok ()) :
    (start settings id heap).site.Tallied heap := by
  obtain ⟨hvalid, heq⟩ := start_eq built
  have hbare : (Site.bare settings id heap).Tallied heap :=
    ⟨rfl, [], (List.append_nil _).symm, rfl⟩
  rw [heq]
  exact hbare.resized (Site.reserve_resized (Arena.Sound.bare hvalid words id) settings.reserve)

end History

/-! ## Marks -/

/-- The call takes a checkpoint. -/
def Op.takesCheckpoint : Op → Bool
  | .checkpoint => true
  | .guarded => true
  | _ => false

namespace History

variable {h : History}

/-- Only a checkpoint takes a mark. -/
theorem nextMark_edit (h : History) (op : Op) (a : Arena) :
    (h.edit op).nextMark a = a.nextMark + if op.takesCheckpoint then 1 else 0 := by
  cases op with
  | checkpoint | guarded => rfl
  | shrinkToFit =>
      show (if h.site.arena.isEmpty then Edit.wipe else .keep).nextMark a = a.nextMark
      split
      · rfl
      · rfl
  | rollback mark | rollbackGuard mark | dropGuard mark =>
      show (if _ then Edit.cut mark else .keep).nextMark a = a.nextMark
      split
      · rfl
      · rfl
  | forget mark | releaseGuard mark =>
      show (if _ then Edit.strike mark else .keep).nextMark a = a.nextMark
      split
      · rfl
      · rfl
  | _ => rfl

/-- Marks are numbered by the checkpoints taken. -/
theorem Sound.nextMark_run (hs : h.Sound) (ops : List Op) :
    (h.run ops).site.arena.nextMark
      = h.site.arena.nextMark + ops.countP Op.takesCheckpoint := by
  induction ops generalizing h with
  | nil => rfl
  | cons op ops ih =>
      rw [run_cons, ih (hs.step op), (hs.booked op).nextMark, nextMark_edit, List.countP_cons]
      omega

end History

/-! ## Room in the counters -/

/-- There are no more chunks than bytes in them. -/
theorem length_le_capacitySum {chunks : List Chunk} (hpos : ∀ c ∈ chunks, 0 < c.capacity) :
    chunks.length ≤ capacitySum chunks := by
  induction chunks with
  | nil => exact Nat.le_refl 0
  | cons c chunks ih =>
      have hc := hpos c List.mem_cons_self
      have := ih fun d hd => hpos d (List.mem_cons_of_mem _ hd)
      rw [capacitySum_cons, List.length_cons]
      omega

/-- Rounding up makes of one byte a word at most. -/
theorem roundedSum_le {chunks : List Chunk} (hpos : ∀ c ∈ chunks, 0 < c.capacity) :
    roundedSum chunks ≤ wordBytes * capacitySum chunks := by
  induction chunks with
  | nil => exact Nat.le_refl 0
  | cons c chunks ih =>
      have hc := hpos c List.mem_cons_self
      have := ih fun d hd => hpos d (List.mem_cons_of_mem _ hd)
      have := roundUpWord_lt c.capacity
      rw [capacitySum_cons, roundedSum_cons]
      unfold wordBytes at *
      omega

/-- What an arena can hold is at most a word for each byte of its chunks. -/
theorem Arena.Covered.capacity_le {a : Arena} (h : a.Covered) (hs : a.Sound) :
    a.capacity ≤ wordBytes * capacitySum a.chunks := by
  have hrounded := roundedSum_le hs.capacity_pos
  unfold Arena.Covered at h
  unfold Arena.capacity
  cases hc : a.chunks with
  | nil =>
      have hz := hs.total_of_chunkless hc
      rw [hz, Arena.currentCapacity_of_nil hc, Nat.zero_sub]
      exact Nat.zero_le _
  | cons c older =>
      rw [Arena.retired_of_cons hc] at h
      rw [hc, roundedSum_cons] at hrounded
      have := le_roundUpWord c.capacity
      rw [Arena.currentCapacity_of_cons hc]
      omega

namespace History

variable {h : History}

/-- A checkpoint in hand, if it resumes in a chunk, does so inside of it. -/
theorem Sound.resumesInside (hs : h.Sound) {b : Arena} (hb : b ∈ h.held) :
    h.site.arena.ResumesInside b.checkpoint := by
  intro depth offset hto
  by_cases hm : b.nextMark ∈ h.site.arena.marks
  · rcases Nat.eq_zero_or_pos b.total with hz | hpos
    · rw [hs.rollbackTo_empty hb hm hz] at hto
      exact nomatch hto
    · obtain ⟨newer, c, c', older, hg⟩ := (hs.anchored b hb hm).underlies hpos
      rw [hs.rollbackTo_grafted hb hm hpos hg] at hto
      obtain ⟨rfl, rfl⟩ := Rollback.resume.inj hto
      have hbs := hs.held_sound b hb
      have hcap := hbs.used_le_capacity
      rw [Arena.currentCapacity_of_cons hg.below] at hcap
      refine ⟨?_, hbs.used_le_total⟩
      -- the chunk may have grown since, but not become smaller
      rw [Arena.currentCapacity_of_cons hg.drop_chunks]
      exact Nat.le_trans hcap hg.capacity
  · obtain ⟨why, -, hrejected, -⟩ := hs.rollback_stale hb hm
    rw [hrejected] at hto
    exact nomatch hto

/-- A checkpoint of another arena does not resume at all. -/
theorem resumesInside_foreign {a : Arena} {c : Checkpoint} (hne : c.arena ≠ a.id) :
    a.ResumesInside c := by
  intro depth offset hto
  rw [show a.rollbackTo c = .rejected .foreignArena from if_pos hne] at hto
  exact nomatch hto

/-- No call ever faults.  The settings of an arena are found out to be
    flawed, or it is made; and as long as a heap has at most `2 ^ 60` bytes
    on loan, and the blocks it granted and the checkpoints taken can be
    numbered by words, every call on the arena and every look at it comes
    to what it comes to on natural numbers, whatever its arguments. -/
theorem no_call_faults {settings : Settings} (words : settings.maxSize ≤ Word.largest)
    (id : Nat) (heap : Heap) :
    Site.checkedEstablish settings id heap = .ok (Site.establish settings id heap)
    ∧ (∀ assertions, Site.checkedBare (.standard assertions) id heap
      = .ok (start (.standard assertions) id heap).site)
    ∧ ((Site.establish settings id heap).1 = .ok () → ∀ (ops : List Op) (h : History),
      h = (start settings id heap).run ops →
      bytesOnLoan h.site.heap.calls ≤ 2 ^ 60 →
      acquisitions (h.site.heap.calls.drop heap.calls.length) < Word.largest →
      ops.countP Op.takesCheckpoint < Word.largest →
        h.site.arena.checkedCapacity = .ok h.site.arena.capacity
        ∧ h.site.arena.checkedCount = .ok h.site.arena.chunks.length
        ∧ h.site.arena.checkedStats = .ok h.site.arena.stats
        ∧ h.site.arena.checkedDisplay = .ok h.site.arena.display
        ∧ ∀ call : Act, call.reserved ≤ Word.largest →
          (∀ c, call.presented? = some c → c ∈ h.inHand ∨ c.arena ≠ h.site.arena.id) →
            h.site.checkedAct call = .ok (h.site.act call)) := by
  refine ⟨Site.checkedEstablish_eq words id heap, fun _ => rfl, ?_⟩
  rintro built ops h reached lent acquired taken
  have hstart := Sound.start words built
  have hs : h.Sound := reached ▸ hstart.run ops
  have hcovered : h.Covered := reached ▸ (Covered.start words built).run hstart ops
  have htallied : h.site.Tallied heap :=
    reached ▸ hstart.tallied_run (tallied_start words built) ops
  have ha := hs.site.arena
  have hsum : capacitySum h.site.arena.chunks ≤ 2 ^ 60 := by
    have := htallied.loaned
    omega
  have hroom : h.site.arena.capacity ≤ Word.largest := by
    refine Nat.le_trans (hcovered.site.capacity_le ha) ?_
    exact Nat.le_trans (Nat.mul_le_mul_left _ hsum) (by decide)
  have hlen : h.site.arena.chunks.length ≤ Word.largest := by
    refine Nat.le_trans (length_le_capacitySum ha.capacity_pos) (Nat.le_trans hsum (by decide))
  have hnext : h.site.arena.nextChunk < Word.largest := by
    obtain ⟨asked, heq, hasked⟩ := htallied.numbered
    rw [heq, List.drop_left, hasked] at acquired
    exact acquired
  have hmark : h.site.arena.nextMark < Word.largest := by
    rw [reached, hstart.nextMark_run, (start_books words built).nextMark]
    simpa using taken
  refine ⟨Arena.checkedCapacity_eq ha hroom, Arena.checkedCount_eq hlen,
    Arena.checkedStats_eq ha hroom hlen, Arena.checkedDisplay_eq ha hroom hlen, ?_⟩
  intro call hword hpresented
  refine Site.checkedAct_eq ha hnext hmark hlen hword ?_
  intro c hc
  rcases hpresented c hc with hin | hforeign
  · obtain ⟨b, hb, rfl⟩ := List.mem_map.mp hin
    exact hs.resumesInside hb
  · exact resumesInside_foreign hforeign

/-- Two chunks and a checkpoint in the first: a rollback over both, and a
    request that no sum of words holds. -/
theorem no_call_faults_over_two_chunks :
    let ops : List Op := [.allocate (.bytes 61 1), .checkpoint, .allocate (.bytes 200 8)]
    let h := (start (.standard true) 0 (Heap.fresh .generous)).run ops
    h.site.arena.chunks.length = 2 ∧ h.inHand.length = 1
      ∧ (∀ c ∈ h.inHand, h.site.checkedAct (.rollback c) = .ok (h.site.act (.rollback c)))
      ∧ h.site.checkedAct (.allocate (.bytes Word.largest 8))
          = .ok (h.site.act (.allocate (.bytes Word.largest 8))) := by
  intro ops h
  have words : (Settings.standard true).maxSize ≤ Word.largest := by decide
  obtain ⟨-, -, hrun⟩ := no_call_faults words 0 (Heap.fresh .generous)
  obtain ⟨-, -, -, -, hact⟩ := hrun (by rfl) ops h rfl (by decide +kernel) (by decide +kernel)
    (by decide +kernel)
  refine ⟨by decide +kernel, by decide +kernel, ?_, ?_⟩
  · intro c hc
    refine hact _ (Nat.zero_le _) ?_
    intro d hd
    obtain rfl := Option.some.inj hd
    exact Or.inl hc
  · exact hact _ (Nat.zero_le _) fun _ hd => nomatch hd

end History

end ScratchArena
