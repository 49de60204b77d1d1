import ScratchArena.Proofs.Checked

/-! # Checked steps — operations on a sound arena do not fault

    What an arena keeps of itself is what its plain sums and differences
    rely on: no more is used than the total, the total is at most the peak,
    the peak at most the size limit, and that is a word.  A growth is
    planned only where it enlarges, and a rollback resumes only where the
    checkpoint was taken.  So each operation, with room left in the
    counters for chunks and checkpoints, comes to what it comes to on
    natural numbers. -/

namespace ScratchArena

namespace Arena

variable {a : Arena}

/-- A request is admitted when it stays below the limit. -/
theorem admitted?_eq (hw : a.settings.maxSize ≤ Word.largest) (padding size : Nat) :
    a.admitted? padding size
      = if a.settings.maxSize < a.total + padding + size then none
        else some (a.total + padding + size) := by
  unfold admitted? Word.add?
  by_cases hlim : a.settings.maxSize < a.total + padding + size
  · rw [if_pos hlim]
    by_cases hsum : a.total + padding ≤ Word.largest
    · rw [if_pos hsum, Option.bind_some]
      by_cases hsum' : a.total + padding + size ≤ Word.largest
      · rw [if_pos hsum']
        exact Option.filter_some_neg (by simpa using hlim)
      · rw [if_neg hsum']
        rfl
    · rw [if_neg hsum]
      rfl
  · rw [if_neg hlim, if_pos (by omega), Option.bind_some, if_pos (by omega)]
    exact Option.filter_some_pos (by simpa using hlim)

/-- No room for `more` bytes: the growth is the planned one. -/
theorem planned?_eq {offset more : Nat} (hword : a.chunks ≠ [] → more ≤ Word.largest)
    (hfull : ¬ Word.satAdd offset more ≤ a.currentCapacity) :
    a.planned? offset more = some (a.growthFor offset more) := by
  rw [planned?, if_neg hfull, growthFor]
  split
  · rename_i hx
    rw [hx.2, Word.satAdd_eq (by rw [Nat.zero_add]; exact hword hx.1), Nat.zero_add]
  · rfl

/-- A request is placed as it is on natural numbers. -/
theorem Sound.checkedGrowth_eq (h : a.Sound) (align : Nat) {size : Nat} (hsize : 0 < size)
    (hlim : a.total + padding a.used (clampAlign align) + size ≤ a.settings.maxSize) :
    a.checkedGrowth (a.used + padding a.used (clampAlign align)) size
      = .ok (match a.placement (a.used + padding a.used (clampAlign align)) size with
        | .inside _ => none
        | .after growth => some growth) := by
  have hle := h.used_le_total
  have hpeak := h.total_le_peak
  have hword := h.words
  have hlimit := h.peak_le_limit
  generalize ho : a.used + padding a.used (clampAlign align) = offset
  -- the growth never comes to nothing, since `more` is at least the size
  have hplanned : a.currentCapacity < offset + size →
      a.planned? offset (max (a.peak - a.total) size)
        = some (a.growthFor offset (max a.headroom size)) := by
    intro hfull
    refine planned?_eq (fun _ => max_le (by omega) (by omega)) ?_
    have hmore : size ≤ max (a.peak - a.total) size := Nat.le_max_right ..
    show ¬ min (offset + max (a.peak - a.total) size) Word.largest ≤ a.currentCapacity
    omega
  simp only [checkedGrowth, Word.add_ok (show offset + size ≤ Word.largest by omega), ok_bind,
    Word.sub_ok hpeak, pure_eq_ok]
  cases hc : a.chunks with
  | nil =>
      -- nothing is used yet, so there is no padding either
      have hcap := currentCapacity_of_nil hc
      have hused := h.used_of_empty (h.total_of_chunkless hc)
      have hzero : offset = 0 := by rw [← ho, hused, padding_zero_clampAlign]
      rw [if_neg (by omega), if_pos (by omega), hplanned (by omega)]
      simp only [placement, hc]
  | cons c older =>
      rw [currentCapacity_of_cons hc] at hplanned ⊢
      simp only [placement, hc]
      by_cases hfit : offset + size ≤ c.capacity
      · rw [if_pos hfit, if_pos hfit]
      · rw [if_neg hfit, if_neg hfit]
        by_cases hpad : offset ≤ c.capacity
        · rw [if_pos hpad, if_pos hpad, hplanned (Nat.lt_of_not_le hfit)]
        · rw [if_neg hpad, if_neg hpad]
          rfl

end Arena

namespace Site

variable {s : Site}

/-- A growth, without the chunk that it gives. -/
def made (o : Except Failure Chunk × Site) : Except Failure Unit × Site :=
  (o.1.map fun _ => (), o.2)

/-- Growing a chunk to more than it has does not fault. -/
theorem checkedExtend_eq {c : Chunk} {capacity : Nat} (hlt : c.capacity < capacity) :
    s.checkedExtend c capacity = .ok (made (s.extend c capacity)) := by
  rcases s.extend_cases c capacity with ⟨heap, he, hx⟩ | ⟨block, heap, he, hx⟩
  · simp only [checkedExtend, require_ok hlt, ok_bind, he, hx]
    rfl
  · simp only [checkedExtend, require_ok hlt, ok_bind, he, hx]
    rfl

/-- Acquiring a chunk does not fault, as long as chunks can be numbered. -/
theorem checkedAcquire_eq {capacity : Nat} (hpos : 0 < capacity)
    (hnext : s.arena.nextChunk < Word.largest) :
    s.checkedAcquire capacity = .ok (made (s.acquire capacity)) := by
  have hsum : Word.add s.arena.nextChunk 1 = .ok (s.arena.nextChunk + 1) := Word.add_ok hnext
  rcases s.acquire_cases capacity with ⟨heap, he, hx⟩ | ⟨block, heap, he, hx⟩
  · simp only [checkedAcquire, require_ok hpos, ok_bind, he, hx]
    rfl
  · simp only [checkedAcquire, require_ok hpos, ok_bind, he, hx, hsum]
    rfl

/-- A growth that is apt does not fault. -/
theorem checkedGrow_eq {growth : Growth} (hapt : growth.Apt s.arena)
    (hnext : s.arena.nextChunk < Word.largest) :
    s.checkedGrow growth = .ok (made (s.grow growth)) := by
  cases growth with
  | extend capacity =>
      obtain ⟨-, c, older, hc, hlt⟩ := hapt
      rw [grow_extend capacity hc, ← checkedExtend_eq hlt]
      simp only [checkedGrow, hc]
  | replace capacity => exact checkedAcquire_eq hapt.1 hnext

/-- Nor does a reservation. -/
theorem checkedReserve_eq (h : s.arena.Sound) (hnext : s.arena.nextChunk < Word.largest)
    {more : Nat} (hword : s.arena.chunks ≠ [] → more ≤ Word.largest) :
    s.checkedReserve more = .ok (s.reserve more) := by
  by_cases hfit : Word.satAdd s.arena.used more ≤ s.arena.currentCapacity
  · rw [checkedReserve, show s.arena.planned? s.arena.used more = none from if_pos hfit,
      show s.reserve more = (.ok (), s) from if_pos hfit]
  · rw [checkedReserve, Arena.planned?_eq hword hfit]
    show s.checkedGrow _ = _
    rw [checkedGrow_eq (h.reserve_apt hfit) hnext, reserve_of_full hfit, made]

/-- Nor does a request for no bytes. -/
theorem checkedAllocNothing_eq (h : s.arena.Sound) (hnext : s.arena.nextChunk < Word.largest) :
    s.checkedAllocNothing = .ok s.allocNothing := by
  cases hc : s.arena.chunks with
  | cons c older =>
      rw [allocNothing_of_cons hc]
      simp only [checkedAllocNothing, checkedTop, hc]
  | nil =>
      have hapt := allocNothing_growth_apt h hc
      have hcap := Arena.currentCapacity_of_nil hc
      have hplanned : s.arena.planned? s.arena.used s.arena.settings.spare
          = some (s.arena.growthFor s.arena.used s.arena.settings.spare) := by
        refine Arena.planned?_eq (fun hne => absurd hc hne) ?_
        have := h.spare_pos
        have : 0 < Word.largest := by decide
        show ¬ min (s.arena.used + s.arena.settings.spare) Word.largest ≤ _
        omega
      simp only [checkedAllocNothing, hc, checkedReserve, hplanned, checkedGrow_eq hapt hnext,
        ok_bind, allocNothing]
      cases hg : s.grow (s.arena.growthFor s.arena.used s.arena.settings.spare) with
      | mk answer s' =>
          cases answer with
          | error e => rfl
          | ok c =>
              obtain ⟨-, -, older, htop⟩ := grow_ok hapt hg
              show s'.checkedTop = _
              simp only [checkedTop, htop]

/-- Bytes in the newest chunk, which they fit. -/
theorem checkedPlace_eq {c : Chunk} {older : List Chunk} (hc : s.arena.chunks = c :: older)
    (hw : s.arena.settings.maxSize ≤ Word.largest) {offset padding size : Nat}
    (hfit : offset + size ≤ c.capacity) (hle : offset ≤ s.arena.total + padding)
    (hlim : s.arena.total + padding + size ≤ s.arena.settings.maxSize) :
    s.checkedPlace offset padding size (s.arena.total + padding + size)
      = .ok (s.place c offset padding size) := by
  have hpeak : (if s.arena.peak < s.arena.total + padding + size
        then s.arena.total + padding + size else s.arena.peak)
      = max s.arena.peak (s.arena.total + padding + size) := by
    split
    · omega
    · omega
  unfold checkedPlace
  split
  · rename_i hnil
    exact absurd (hc.symm.trans hnil) (List.cons_ne_nil _ _)
  · rename_i d under hd
    obtain ⟨rfl, rfl⟩ := List.cons.inj (hc.symm.trans hd)
    simp only [require_ok (show offset ≤ c.capacity by omega), ok_bind,
      Word.add_ok (show offset + size ≤ Word.largest by omega), hpeak]
    have hcap : offset + size ≤ s.arena.currentCapacity := by
      rw [Arena.currentCapacity_of_cons hc]
      exact hfit
    -- the bump leaves the chunks as they are
    refine (require_bind hcap _).trans ?_
    exact require_bind (Nat.add_le_add_right hle size) _

/-- Bytes from the start of a chunk just made or extended for them. -/
theorem checkedPlace_grown {growth : Growth} (hapt : growth.Apt s.arena) {c : Chunk} {s' : Site}
    (hg : s.grow growth = (.ok c, s')) (hw : s.arena.settings.maxSize ≤ Word.largest)
    {padding size : Nat} (hroom : size ≤ growth.capacity)
    (hlim : s.arena.total + padding + size ≤ s.arena.settings.maxSize) :
    s'.checkedPlace 0 padding size (s.arena.total + padding + size)
      = .ok (s'.place c 0 padding size) := by
  obtain ⟨hcap, -, older, hc⟩ := grow_ok hapt hg
  have hbooks := (grow_resized hapt).books
  rw [hg] at hbooks
  rw [← hbooks.total]
  rw [← hbooks.settings] at hw
  rw [← hbooks.total, ← hbooks.settings] at hlim
  exact checkedPlace_eq hc hw (by rw [Nat.zero_add, hcap]; exact hroom) (Nat.zero_le _) hlim

/-- Nor does a request for bytes. -/
theorem checkedAllocBytes_eq (h : s.arena.Sound) (hnext : s.arena.nextChunk < Word.largest)
    (size align : Nat) : s.checkedAllocBytes size align = .ok (s.allocBytes size align) := by
  rcases Nat.eq_zero_or_pos size with hz | hpos
  · rw [show s.checkedAllocBytes size align = s.checkedAllocNothing from if_pos hz,
      show s.allocBytes size align = s.allocNothing from if_pos hz]
    exact checkedAllocNothing_eq h hnext
  · have hle := h.used_le_total
    have hword := h.words
    have hmask : 1 ≤ clampAlign align := by
      obtain ⟨k, -, heq⟩ := clampAlign_eq_pow align
      rw [heq]
      exact Nat.two_pow_pos k
    rw [allocBytes_eq s hpos, checkedAllocBytes, if_neg (Nat.ne_of_gt hpos)]
    simp only [Word.sub_ok hmask, ok_bind, Arena.admitted?_eq hword]
    generalize hp : padding s.arena.used (clampAlign align) = pad
    by_cases hlim : s.arena.settings.maxSize < s.arena.total + pad + size
    · simp only [if_pos hlim]
      rfl
    · simp only [if_neg hlim]
      have hgrowth := h.checkedGrowth_eq align hpos (by rw [hp]; omega)
      rw [hp] at hgrowth
      rw [Word.add_ok (by omega), ok_bind, hgrowth, ok_bind]
      cases hplace : s.arena.placement (s.arena.used + pad) size with
      | inside c =>
          obtain ⟨⟨older, hc⟩, hfit⟩ := Arena.placement_inside hplace
          exact checkedPlace_eq hc hword hfit (by omega) (by omega)
      | after growth =>
          rw [← hp] at hplace
          obtain ⟨hapt, hroom, hland⟩ := h.placement_after hpos (by omega) hplace
          rw [hp] at hland
          simp only [checkedGrow_eq hapt hnext, ok_bind, made, hland]
          cases hg : s.grow growth with
          | mk answer s' =>
              cases answer with
              | error e => rfl
              | ok c => exact checkedPlace_grown hapt hg hword hroom (by omega)

theorem checkedAllocAligned_eq (h : s.arena.Sound) (hnext : s.arena.nextChunk < Word.largest)
    (count size align : Nat) :
    s.checkedAllocAligned count size align = .ok (s.allocAligned count size align) := by
  unfold checkedAllocAligned allocAligned
  cases Word.mul? count size with
  | none => rfl
  | some bytes => exact checkedAllocBytes_eq h hnext bytes align

theorem checkedAllocCopy_eq (h : s.arena.Sound) (hnext : s.arena.nextChunk < Word.largest)
    (element : Element) (values : List Nat) :
    s.checkedAllocCopy element values = .ok (s.allocCopy element values) := by
  have halloc : s.alloc element values.length
      = s.allocAligned values.length element.size element.align := rfl
  rw [checkedAllocCopy, checkedAllocAligned_eq h hnext, ok_bind, allocCopy, halloc]
  generalize s.allocAligned values.length element.size element.align = outcome
  obtain ⟨answer, s'⟩ := outcome
  cases answer with
  | error e => rfl
  | ok p => rfl

/-- Nor does a request of any kind. -/
theorem checkedServe_eq (h : s.arena.Sound) (hnext : s.arena.nextChunk < Word.largest)
    (demand : Demand) : s.checkedServe demand = .ok (demand.serve s) := by
  cases demand with
  | array element count => exact checkedAllocAligned_eq h hnext count element.size element.align
  | aligned count size align => exact checkedAllocAligned_eq h hnext count size align
  | bytes size align => exact checkedAllocBytes_eq h hnext size align
  | copy element values => exact checkedAllocCopy_eq h hnext element values

/-- Clearing an arena does not fault. -/
theorem checkedClear_eq (h : s.arena.Sound) (hnext : s.arena.nextChunk < Word.largest) :
    s.checkedClear = .ok s.clear := by
  cases hc : s.arena.chunks with
  | nil => simp only [checkedClear, clear, hc]
  | cons chunk rest =>
      cases rest with
      | nil => simp only [checkedClear, clear, hc]
      | cons old older =>
          simp only [checkedClear, clear, hc]
          generalize hs : (Site.log _ _).release _ = kept
          -- the arena of the newest chunk alone, whatever has been released
          have harena : kept.arena = s.arena.newestOnly := by
            rw [← hs, (release_freed ..).1]
            show { s.arena.emptied with chunks := [chunk] }
              = { s.arena.emptied with chunks := s.arena.chunks.take 1 }
            rw [hc]
            rfl
          have hword := Nat.le_trans h.peak_le_limit h.words
          rw [checkedReserve_eq (harena ▸ h.newestOnly) (by rw [harena]; exact hnext)
            (fun _ => by rw [harena]; exact hword), ok_bind]
          generalize kept.reserve kept.arena.peak = outcome
          obtain ⟨answer, s'⟩ := outcome
          cases answer with
          | error e => rfl
          | ok _ => rfl

/-- Nor does a reset. -/
theorem checkedReset_eq (h : s.arena.Sound) (hnext : s.arena.nextChunk < Word.largest) :
    s.checkedReset = .ok s.reset :=
  checkedClear_eq h.nextGeneration hnext

/-- Taking a checkpoint does not fault, as long as marks can be numbered. -/
theorem checkedCheckpoint_eq (hmark : s.arena.nextMark < Word.largest) :
    s.checkedCheckpoint = .ok s.checkpoint := by
  have hsum : Word.add s.arena.nextMark 1 = .ok (s.arena.nextMark + 1) := Word.add_ok hmark
  rw [checkedCheckpoint, hsum]
  rfl

end Site

namespace Arena

variable {a : Arena}

/-- A depth can be counted, as the chunks can. -/
theorem checkedDepth?_eq (hlen : a.chunks.length ≤ Word.largest) (number : Nat) :
    a.checkedDepth? number = .ok (a.chunkDepth? number) := by
  unfold checkedDepth? chunkDepth?
  cases hc : a.chunks with
  | nil => rfl
  | cons chunk older =>
      rw [hc, List.length_cons] at hlen
      rw [List.findIdx?_cons]
      by_cases hnew : chunk.number = number
      · rw [if_pos (beq_iff_eq.mpr hnew)]
        exact if_pos hnew
      · rw [if_neg (fun h => hnew (beq_iff_eq.mp h))]
        refine (if_neg hnew).trans ?_
        cases hf : older.findIdx? (·.number == number) with
        | none => rfl
        | some depth =>
            obtain ⟨hlt, -⟩ := List.findIdx?_eq_some_iff_getElem.mp hf
            have hsum : Word.add depth 1 = .ok (depth + 1) := Word.add_ok (by omega)
            simp only [hsum, ok_bind, pure_eq_ok, Option.map_some]

theorem checkedRollbackTo_eq (hlen : a.chunks.length ≤ Word.largest) (c : Checkpoint) :
    a.checkedRollbackTo c = .ok (a.rollbackTo c) := by
  unfold checkedRollbackTo rollbackTo
  by_cases hid : c.arena ≠ a.id
  · rw [if_pos hid, if_pos hid]
  rw [if_neg hid, if_neg hid]
  by_cases hgeneration : c.generation ≠ a.generation
  · rw [if_pos hgeneration, if_pos hgeneration]
  rw [if_neg hgeneration, if_neg hgeneration]
  by_cases hmark : c.mark ∉ a.marks
  · rw [if_pos hmark, if_pos hmark]
  rw [if_neg hmark, if_neg hmark]
  cases c.position with
  | none => rfl
  | some position =>
      show (if c.total = 0 then _ else _) = Except.ok (if c.total = 0 then _ else _)
      by_cases hz : c.total = 0
      · rw [if_pos hz, if_pos hz]
      rw [if_neg hz, if_neg hz]
      by_cases hpast : a.total < c.total
      · rw [if_pos hpast, if_pos hpast]
      rw [if_neg hpast, if_neg hpast, checkedDepth?_eq hlen, ok_bind]
      cases a.chunkDepth? position.chunk with
      | none => rfl
      | some depth => rfl

/-- A rollback to `c`, if it resumes in a chunk, does so inside of it and at
    no more than the total. -/
def ResumesInside (a : Arena) (c : Checkpoint) : Prop :=
  ∀ depth offset, a.rollbackTo c = .resume depth offset →
    offset ≤ { a with chunks := a.chunks.drop depth }.currentCapacity ∧ offset ≤ c.total

end Arena

namespace Act

/-- Bytes that a call reserves. -/
def reserved : Act → Nat
  | .reserve more => more
  | _ => 0

/-- The checkpoint that a call rolls back to. -/
def presented? : Act → Option Checkpoint
  | .rollback c => some c
  | .rollbackGuard g => g.checkpoint
  | .dropGuard g => g.checkpoint
  | _ => none

end Act

namespace Site

variable {s : Site}

/-- A rollback does not fault if it resumes inside its chunk. -/
theorem checkedRollback_eq (h : s.arena.Sound) (hnext : s.arena.nextChunk < Word.largest)
    (hlen : s.arena.chunks.length ≤ Word.largest) {c : Checkpoint}
    (hinside : s.arena.ResumesInside c) : s.checkedRollback c = .ok (s.rollback c) := by
  rw [checkedRollback, Arena.checkedRollbackTo_eq hlen, ok_bind, rollback]
  cases hto : s.arena.rollbackTo c with
  | rejected why => rfl
  | toEmpty =>
      have hclear : checkedClear { s with arena := s.arena.dropMarks c.mark } = .ok _ :=
        checkedClear_eq (h.dropMarks c.mark) hnext
      simp only [hclear, ok_bind, pure_eq_ok]
  | resume depth offset =>
      obtain ⟨hcap, htotal⟩ := hinside depth offset hto
      exact (require_bind hcap _).trans (require_bind htotal _)

theorem checkedRollbackGuard_eq (h : s.arena.Sound) (hnext : s.arena.nextChunk < Word.largest)
    (hlen : s.arena.chunks.length ≤ Word.largest) {g : Guard}
    (hinside : ∀ c, g.checkpoint = some c → s.arena.ResumesInside c) :
    s.checkedRollbackGuard g = .ok (s.rollbackGuard g) := by
  unfold checkedRollbackGuard rollbackGuard
  cases hg : g.checkpoint with
  | none => rfl
  | some c =>
      simp only [checkedRollback_eq h hnext hlen (hinside c hg), ok_bind, pure_eq_ok]

/-- With room in the counters no call faults that reserves a word at most
    and presents only checkpoints that resume inside. -/
theorem checkedAct_eq (h : s.arena.Sound) (hnext : s.arena.nextChunk < Word.largest)
    (hmark : s.arena.nextMark < Word.largest) (hlen : s.arena.chunks.length ≤ Word.largest)
    {call : Act} (hword : call.reserved ≤ Word.largest)
    (hinside : ∀ c, call.presented? = some c → s.arena.ResumesInside c) :
    s.checkedAct call = .ok (s.act call) := by
  cases call with
  | allocate demand =>
      rw [checkedAct, checkedServe_eq h hnext]
      rfl
  | reserve more =>
      have hmore : more ≤ Word.largest := hword
      rw [checkedAct, checkedReserve_eq h hnext (fun _ => hmore)]
      rfl
  | reset =>
      rw [checkedAct, checkedReset_eq h hnext]
      rfl
  | shrinkToFit => rfl
  | checkpoint =>
      rw [checkedAct, checkedCheckpoint_eq hmark]
      rfl
  | rollback c =>
      rw [checkedAct, checkedRollback_eq h hnext hlen (hinside c rfl)]
      rfl
  | forget c => rfl
  | guarded =>
      rw [checkedAct, checkedCheckpoint_eq hmark]
      rfl
  | rollbackGuard g =>
      rw [checkedAct, checkedRollbackGuard_eq h hnext hlen hinside]
      rfl
  | releaseGuard g => rfl
  | dropGuard g =>
      rw [checkedAct, checkedRollbackGuard_eq h hnext hlen hinside]
      rfl

/-- An empty arena is made without fault. -/
theorem checkedBare_eq {settings : Settings} (hspare : 0 < settings.spare) (id : Nat)
    (heap : Heap) : checkedBare settings id heap = .ok (bare settings id heap) :=
  require_bind hspare _

/-- An arena is made, or its settings are refused, without fault. -/
theorem checkedEstablish_eq {settings : Settings} (hw : settings.maxSize ≤ Word.largest)
    (id : Nat) (heap : Heap) :
    checkedEstablish settings id heap = .ok (establish settings id heap) := by
  unfold checkedEstablish establish
  cases hflaw : settings.flaw? with
  | some flaw => rfl
  | none =>
      have hvalid := Settings.flaw?_eq_none_iff.mp hflaw
      show (checkedBare settings id heap >>= _) = _
      rw [checkedBare_eq hvalid.1, ok_bind]
      exact checkedReserve_eq (.bare hvalid hw id) (show 0 < Word.largest by decide)
        (fun hne => absurd rfl hne)

end Site

namespace Arena

variable {a : Arena}

/-- The capacity is computed without fault, if a word holds it. -/
theorem checkedCapacity_eq (h : a.Sound) (hroom : a.capacity ≤ Word.largest) :
    a.checkedCapacity = .ok a.capacity := by
  rw [checkedCapacity, Word.sub_ok h.used_le_total, ok_bind]
  exact Word.add_ok hroom

/-- Neither the invariant nor the room can be done without. -/
example : checkedCapacity { settings := .standard true, id := 0, used := 1 } = .error .underflow
    ∧ checkedCapacity
        { settings := .standard true, id := 0, total := Word.largest, chunks := [⟨0, 1, 0⟩] }
      = .error .overflow := by
  decide

/-- The chunks are counted without fault, if a word can count them. -/
theorem checkedCount_eq (hlen : a.chunks.length ≤ Word.largest) :
    a.checkedCount = .ok a.chunks.length := by
  have hcount : a.retired.length + (if a.current?.isSome then 1 else 0) = a.chunks.length := by
    unfold retired current?
    cases a.chunks with
    | nil => rfl
    | cons c older => rfl
  rw [checkedCount, Word.add_ok (by rw [hcount]; exact hlen), hcount]

theorem checkedStats_eq (h : a.Sound) (hroom : a.capacity ≤ Word.largest)
    (hlen : a.chunks.length ≤ Word.largest) : a.checkedStats = .ok a.stats := by
  rw [checkedStats, checkedCapacity_eq h hroom, checkedCount_eq hlen]
  rfl

theorem checkedDisplay_eq (h : a.Sound) (hroom : a.capacity ≤ Word.largest)
    (hlen : a.chunks.length ≤ Word.largest) : a.checkedDisplay = .ok a.display := by
  rw [checkedDisplay, checkedCapacity_eq h hroom, checkedCount_eq hlen]
  rfl

end Arena

end ScratchArena
