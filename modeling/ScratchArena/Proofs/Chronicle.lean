import ScratchArena.Proofs.Preservation

/-! # The chronicle — the chunk log read beside the calls on the heap

    An arena has a line logged wherever it takes a chunk from its heap,
    enlarges one, gives one back or is refused.  `Chronicle` reads these
    lines as they are written, by level, target, message and fields, and
    beside them the calls on the heap: every call has its line, in the same
    order, and no other line speaks of chunks.  Chunks are numbered from
    zero as they are acquired, only the newest one is enlarged, and what
    comes back was held, at the capacity it was last logged with.  So the
    chunks an arena holds can be read off its log.

    The route: a call on the heap adds one line; every operation on an
    arena is made of such calls and of lines about something else. -/

namespace ScratchArena

namespace Record

/-- The record says that a chunk was acquired, new or by extension. -/
structure Acquired (r : Record) (chunk capacity : Nat) (extended : Bool) : Prop where
  level : r.level = .debug
  target : r.target = "stored_arena::chunk"
  message : r.message = "chunk acquired"
  chunk : r.fields.lookup "chunk" = some (.count chunk)
  capacity : r.fields.lookup "capacity" = some (.count capacity)
  extended : r.fields.lookup "extended" = some (.flag extended)

/-- The record says that a chunk was given back. -/
structure Released (r : Record) (chunk capacity : Nat) : Prop where
  level : r.level = .debug
  target : r.target = "stored_arena::chunk"
  message : r.message = "chunk released"
  chunk : r.fields.lookup "chunk" = some (.count chunk)
  capacity : r.fields.lookup "capacity" = some (.count capacity)

/-- The record says that an allocation failed because there was no memory
    for a chunk of `size` bytes. -/
structure OutOfMemory (r : Record) (size : Nat) : Prop where
  level : r.level = .error
  target : r.target = "stored_arena::alloc"
  message : r.message = "allocation failed"
  error : r.fields.lookup "error" = some
    (.bare ("Out of memory: cannot allocate a chunk of " ++ toString size ++ " bytes"))

/-- The record is about neither a chunk nor a refusal of the heap. -/
structure Aside (r : Record) : Prop where
  acquired : r.message ≠ "chunk acquired"
  released : r.message ≠ "chunk released"
  refused : ∀ size, ¬ r.OutOfMemory size

/-- The number under a field, if there is one. -/
def count? (r : Record) (name : String) : Option Nat :=
  match r.fields.lookup name with
  | some (.count n) => some n
  | _ => none

/-- The number of a chunk that is logged as new. -/
def newChunk? (r : Record) : Option Nat :=
  if r.message = "chunk acquired" ∧ r.fields.lookup "extended" = some (.flag false) then
    r.count? "chunk"
  else none

/-- The chunks on hand, by number and capacity, after one more line. -/
def onHand (chunks : List (Nat × Nat)) (r : Record) : List (Nat × Nat) :=
  match r.count? "chunk", r.count? "capacity" with
  | some chunk, some capacity =>
      if r.message = "chunk acquired" then
        if r.fields.lookup "extended" = some (.flag true) then
          chunks.map fun p => if p.1 = chunk then (chunk, capacity) else p
        else (chunk, capacity) :: chunks
      else if r.message = "chunk released" then chunks.filter fun p => p.1 ≠ chunk
      else chunks
  | _, _ => chunks

variable {r : Record} {chunk capacity size : Nat} {extended : Bool}

/-- A line on an acquired chunk names a new one unless it was extended. -/
theorem Acquired.newChunk? (h : r.Acquired chunk capacity extended) :
    r.newChunk? = if extended then none else some chunk := by
  cases extended with
  | false => simp [Record.newChunk?, count?, h.message, h.extended, h.chunk]
  | true => simp [Record.newChunk?, h.extended]

/-- A line on an acquired chunk puts it on hand, or gives it its new
    capacity. -/
theorem Acquired.onHand (h : r.Acquired chunk capacity extended) (chunks : List (Nat × Nat)) :
    onHand chunks r = if extended then
        chunks.map fun p => if p.1 = chunk then (chunk, capacity) else p
      else (chunk, capacity) :: chunks := by
  simp only [Record.onHand, count?, h.chunk, h.capacity, h.message, h.extended, if_true]
  cases extended with
  | false => rfl
  | true => rfl

/-- A line on a released chunk names no new one. -/
theorem Released.newChunk? (h : r.Released chunk capacity) : r.newChunk? = none := by
  simp [Record.newChunk?, h.message]

/-- A line on a released chunk takes it off hand. -/
theorem Released.onHand (h : r.Released chunk capacity) (chunks : List (Nat × Nat)) :
    onHand chunks r = chunks.filter fun p => p.1 ≠ chunk := by
  simp [Record.onHand, count?, h.chunk, h.capacity, h.message]

/-- A record with another message says nothing of chunks. -/
theorem newChunk?_of_ne (h : r.message ≠ "chunk acquired") : r.newChunk? = none :=
  if_neg fun hr => h hr.1

/-- A line on anything else changes nothing on hand. -/
theorem onHand_of_ne (hacquired : r.message ≠ "chunk acquired")
    (hreleased : r.message ≠ "chunk released") (chunks : List (Nat × Nat)) :
    onHand chunks r = chunks := by
  unfold Record.onHand
  split
  · rw [if_neg hacquired, if_neg hreleased]
  · rfl

/-- A record of any other message is about something else. -/
theorem aside_of_message (h : r.message ∉ ["chunk acquired", "chunk released",
    "allocation failed"]) : r.Aside := by
  simp only [List.mem_cons, List.not_mem_nil, or_false, not_or] at h
  exact ⟨h.1, h.2.1, fun size hr => h.2.2 hr.message⟩

/-- A line on a refused block is on nothing else. -/
theorem OutOfMemory.aside (h : r.OutOfMemory size) :
    r.message ≠ "chunk acquired" ∧ r.message ≠ "chunk released" := by
  rw [h.message]
  decide

end Record

/-- Records and calls on a heap, each in order, after which the chunks
    `held` are acquired and not yet released, newest first, each with its
    last capacity, and `count` chunks have been acquired in all. -/
inductive Chronicle : List Record → List Call → (held : List Chunk) → (count : Nat) → Prop where
  | blank : Chronicle [] [] [] 0
  | acquired {records : List Record} {calls : List Call} {held : List Chunk} {r : Record}
      {count block size : Nat} (earlier : Chronicle records calls held count)
      (line : r.Acquired count size false) :
      Chronicle (records ++ [r]) (calls ++ [.alloc size (some block)])
        (⟨block, size, count⟩ :: held) (count + 1)
  | extended {records : List Record} {calls : List Call} {current : Chunk} {older : List Chunk}
      {r : Record} {count block size : Nat}
      (earlier : Chronicle records calls (current :: older) count)
      (larger : current.capacity < size) (line : r.Acquired current.number size true) :
      Chronicle (records ++ [r])
        (calls ++ [.grow current.block current.capacity size (some block)])
        ({ current with block, capacity := size } :: older) count
  | released {records : List Record} {calls : List Call} {newer older : List Chunk} {c : Chunk}
      {r : Record} {count : Nat} (earlier : Chronicle records calls (newer ++ c :: older) count)
      (line : r.Released c.number c.capacity) :
      Chronicle (records ++ [r]) (calls ++ [.free c.block c.capacity]) (newer ++ older) count
  | refusedAlloc {records : List Record} {calls : List Call} {held : List Chunk} {r : Record}
      {count size : Nat} (earlier : Chronicle records calls held count)
      (line : r.OutOfMemory size) :
      Chronicle (records ++ [r]) (calls ++ [.alloc size none]) held count
  | refusedGrow {records : List Record} {calls : List Call} {current : Chunk}
      {older : List Chunk} {r : Record} {count size : Nat}
      (earlier : Chronicle records calls (current :: older) count) (line : r.OutOfMemory size) :
      Chronicle (records ++ [r])
        (calls ++ [.grow current.block current.capacity size none]) (current :: older) count
  | aside {records : List Record} {calls : List Call} {held : List Chunk} {r : Record}
      {count : Nat} (earlier : Chronicle records calls held count) (other : r.Aside) :
      Chronicle (records ++ [r]) calls held count

namespace Chronicle

variable {records : List Record} {calls : List Call} {held : List Chunk} {count : Nat}

/-- New chunks are numbered from zero, without a gap or a repeat. -/
theorem numbers (h : Chronicle records calls held count) :
    records.filterMap Record.newChunk? = List.range count := by
  induction h with
  | blank => rfl
  | acquired earlier line ih =>
      rw [List.filterMap_append, ih, List.range_succ]
      simp [line.newChunk?]
  | extended earlier larger line ih =>
      rw [List.filterMap_append, ih]
      simp [line.newChunk?]
  | released earlier line ih =>
      rw [List.filterMap_append, ih]
      simp [line.newChunk?]
  | refusedAlloc earlier line ih =>
      rw [List.filterMap_append, ih]
      simp [Record.newChunk?_of_ne line.aside.1]
  | refusedGrow earlier line ih =>
      rw [List.filterMap_append, ih]
      simp [Record.newChunk?_of_ne line.aside.1]
  | aside earlier other ih =>
      rw [List.filterMap_append, ih]
      simp [Record.newChunk?_of_ne other.acquired]

/-- Every chunk on hand has been named. -/
theorem number_lt (h : Chronicle records calls held count) : ∀ c ∈ held, c.number < count := by
  induction h with
  | blank => exact fun _ hc => nomatch hc
  | acquired earlier line ih =>
      intro c hc
      rcases List.mem_cons.mp hc with rfl | hc
      · exact Nat.lt_succ_self _
      · exact Nat.lt_succ_of_lt (ih c hc)
  | extended earlier larger line ih =>
      obtain ⟨hcurrent, holder⟩ := List.forall_mem_cons.mp ih
      exact List.forall_mem_cons.mpr ⟨hcurrent, holder⟩
  | released earlier line ih =>
      intro c hc
      refine ih c (List.mem_append.mpr ?_)
      exact (List.mem_append.mp hc).imp_right (List.mem_cons_of_mem _)
  | refusedAlloc earlier line ih => exact ih
  | refusedGrow earlier line ih => exact ih
  | aside earlier other ih => exact ih

/-- Chunks on hand are in the order in which they were named. -/
theorem newest_first (h : Chronicle records calls held count) :
    held.Pairwise fun newer older => older.number < newer.number := by
  induction h with
  | blank => exact .nil
  | acquired earlier line ih => exact ih.cons earlier.number_lt
  | extended earlier larger line ih =>
      obtain ⟨hcurrent, holder⟩ := List.pairwise_cons.mp ih
      exact holder.cons hcurrent
  | released earlier line ih =>
      exact ih.sublist ((List.Sublist.refl _).append (List.sublist_cons_self ..))
  | refusedAlloc earlier line ih => exact ih
  | refusedGrow earlier line ih => exact ih
  | aside earlier other ih => exact ih

/-- The chunks on hand, with their capacities, are read off the log. -/
theorem on_hand (h : Chronicle records calls held count) :
    records.foldl Record.onHand [] = held.map fun c => (c.number, c.capacity) := by
  induction h with
  | blank => rfl
  | acquired earlier line ih =>
      rw [List.foldl_append, ih, List.foldl_cons, List.foldl_nil, line.onHand]
      rfl
  | @extended records calls current older r count block size earlier larger line ih =>
      obtain ⟨hcurrent, -⟩ := List.pairwise_cons.mp earlier.newest_first
      rw [List.foldl_append, ih, List.foldl_cons, List.foldl_nil, line.onHand, if_pos rfl]
      -- the older chunks have other numbers
      rw [List.map_map, List.map_cons, List.map_cons]
      refine congrArg₂ List.cons (if_pos rfl) (List.map_congr_left ?_)
      intro c hc
      exact if_neg (Nat.ne_of_lt (hcurrent c hc))
  | @released records calls newer older c r count earlier line ih =>
      obtain ⟨-, hafter, hbefore⟩ := List.pairwise_append.mp earlier.newest_first
      have holder := (List.pairwise_cons.mp hafter).1
      rw [List.foldl_append, ih, List.foldl_cons, List.foldl_nil, line.onHand]
      rw [List.filter_map, List.filter_append, List.filter_cons_of_neg (by simp),
        List.filter_eq_self.mpr, List.filter_eq_self.mpr]
      · intro d hd
        exact decide_eq_true (Nat.ne_of_lt (holder d hd))
      · intro d hd
        exact decide_eq_true (Nat.ne_of_gt (hbefore d hd c List.mem_cons_self))
  | refusedAlloc earlier line ih =>
      rw [List.foldl_append, ih]
      exact Record.onHand_of_ne line.aside.1 line.aside.2 _
  | refusedGrow earlier line ih =>
      rw [List.foldl_append, ih]
      exact Record.onHand_of_ne line.aside.1 line.aside.2 _
  | aside earlier other ih =>
      rw [List.foldl_append, ih]
      exact Record.onHand_of_ne other.acquired other.released _

end Chronicle

/-! ## Events as they are logged -/

namespace Event

/-- How a chunk that is acquired or extended is logged. -/
theorem record_acquired (chunk capacity : Nat) (extended : Bool) :
    (record (.chunkAcquired chunk capacity extended)).Acquired chunk capacity extended :=
  ⟨rfl, rfl, rfl, rfl, rfl, rfl⟩

/-- How a chunk that is released is logged. -/
theorem record_released (chunk capacity : Nat) :
    (record (.chunkReleased chunk capacity)).Released chunk capacity :=
  ⟨rfl, rfl, rfl, rfl, rfl⟩

/-- How a block that is refused is logged. -/
theorem record_outOfMemory (size : Nat) :
    (record (.allocationFailed (.outOfMemory size))).OutOfMemory size :=
  ⟨rfl, rfl, rfl, rfl⟩

/-- The event is about neither a chunk nor a refusal of the heap. -/
def Aside : Event → Prop
  | .chunkAcquired _ _ _ => False
  | .chunkReleased _ _ => False
  | .allocationFailed (.overflow _ _ _) => True
  | .allocationFailed _ => False
  | _ => True

/-- The report of a request beyond the limit does not speak of memory. -/
theorem overflow_message_ne (requested total limit size : Nat) :
    Failure.message (.overflow requested total limit)
      ≠ "Out of memory: cannot allocate a chunk of " ++ toString size ++ " bytes" := by
  intro heq
  -- the two texts differ in their first letter
  have hlist : ("Allocation overflow: " ++ toString requested ++ " bytes requested with "
      ++ toString total ++ " in use exceeds limit " ++ toString limit).toList = _ :=
    congrArg String.toList heq
  simp [String.toList_append] at hlist

/-- An event about something else is logged as something else. -/
theorem Aside.record {e : Event} (other : e.Aside) : e.record.Aside := by
  cases e with
  | chunkAcquired chunk capacity extended => exact other.elim
  | chunkReleased chunk capacity => exact other.elim
  | allocationFailed failure =>
      cases failure with
      | overflow requested total limit =>
          refine ⟨by simp [Event.record], by simp [Event.record], ?_⟩
          intro size h
          refine overflow_message_ne requested total limit size ?_
          simpa [Event.record] using h.error
      | _ => exact other.elim
  | _ => exact Record.aside_of_message (by simp [Event.record])

end Event

namespace Site

/-- The log of a site, and the calls on its heap since that was as in
    `base`, tell of these chunks. -/
def Tells (base : Heap) (s : Site) (held : List Chunk) (count : Nat) : Prop :=
  ∃ calls, s.heap.calls = base.calls ++ calls
    ∧ Chronicle (s.events.map Event.record) calls held count

/-- The log of a site tells of the chunks that its arena holds. -/
def Faithful (base : Heap) (s : Site) : Prop := s.Tells base s.arena.chunks s.arena.nextChunk

variable {base : Heap} {s s' : Site} {held kept : List Chunk} {count : Nat}

/-- A call on the heap, and its line. -/
theorem Tells.call {held' : List Chunk} {count' : Nat} (h : s.Tells base held count) (e : Event)
    (call : Call) (hevents : s'.events = s.events ++ [e])
    (hcalls : s'.heap.calls = s.heap.calls ++ [call])
    (hadd : ∀ {records calls}, Chronicle records calls held count →
      Chronicle (records ++ [e.record]) (calls ++ [call]) held' count') :
    s'.Tells base held' count' := by
  obtain ⟨calls, heq, hchronicle⟩ := h
  refine ⟨calls ++ [call], by rw [hcalls, heq, List.append_assoc], ?_⟩
  rw [hevents, List.map_append]
  exact hadd hchronicle

/-- A line about something else. -/
theorem Tells.aside (h : s.Tells base held count) {e : Event} (other : e.Aside) :
    (s.log e).Tells base held count := by
  obtain ⟨calls, heq, hchronicle⟩ := h
  refine ⟨calls, heq, ?_⟩
  show Chronicle ((s.events ++ [e]).map Event.record) calls held count
  rw [List.map_append]
  exact hchronicle.aside other.record

theorem Tells.congr (h : s.Tells base held count) (hevents : s'.events = s.events)
    (hcalls : s'.heap.calls = s.heap.calls) : s'.Tells base held count := by
  obtain ⟨calls, heq, hchronicle⟩ := h
  exact ⟨calls, hcalls.trans heq, hevents ▸ hchronicle⟩

/-- What is not chunks may change at any time. -/
theorem Faithful.congr (h : s.Faithful base) (hevents : s'.events = s.events)
    (hcalls : s'.heap.calls = s.heap.calls) (hchunks : s'.arena.chunks = s.arena.chunks)
    (hnext : s'.arena.nextChunk = s.arena.nextChunk) : s'.Faithful base := by
  rw [Faithful, hchunks, hnext]
  exact Tells.congr h hevents hcalls

/-! ## Making room -/

/-- Acquiring a chunk keeps the log faithful, also when it is refused. -/
theorem Faithful.acquire (h : s.Faithful base) (capacity : Nat) :
    (s.acquire capacity).2.Faithful base := by
  rcases s.acquire_cases capacity with ⟨heap, he, hx⟩ | ⟨block, heap, he, hx⟩
  · rw [hx]
    exact Tells.call h _ _ rfl (Heap.calls_of_alloc he)
      (·.refusedAlloc (Event.record_outOfMemory _))
  · rw [hx]
    exact Tells.call h _ _ rfl (Heap.calls_of_alloc he)
      (·.acquired (Event.record_acquired ..))

/-- So does growing the newest chunk. -/
theorem Faithful.extend (h : s.Faithful base) {c : Chunk} {older : List Chunk}
    (hc : s.arena.chunks = c :: older) {capacity : Nat} (hlt : c.capacity < capacity) :
    (s.extend c capacity).2.Faithful base := by
  rcases s.extend_cases c capacity with ⟨heap, he, hx⟩ | ⟨block, heap, he, hx⟩
  · rw [hx, Faithful]
    rw [Faithful, hc] at h
    refine Tells.call h _ _ rfl (Heap.calls_of_grow he) ?_
    intro records calls hchronicle
    show Chronicle _ _ s.arena.chunks s.arena.nextChunk
    rw [hc]
    exact hchronicle.refusedGrow (Event.record_outOfMemory capacity)
  · rw [hx, Faithful]
    rw [Faithful, hc] at h
    refine Tells.call h _ _ rfl (Heap.calls_of_grow he) ?_
    intro records calls hchronicle
    show Chronicle _ _ (s.arena.extend block capacity).chunks s.arena.nextChunk
    rw [Arena.extend_chunks hc]
    exact hchronicle.extended hlt (Event.record_acquired ..)

/-- So does a growth that is apt. -/
theorem Faithful.grow (h : s.Faithful base) {growth : Growth} (hapt : growth.Apt s.arena) :
    (s.grow growth).2.Faithful base := by
  cases growth with
  | extend capacity =>
      obtain ⟨-, c, older, hc, hlt⟩ := hapt
      rw [grow_extend capacity hc]
      exact h.extend hc hlt
  | replace capacity => exact h.acquire capacity

theorem Faithful.reserve (h : s.Faithful base) (ha : s.arena.Sound) (more : Nat) :
    (s.reserve more).2.Faithful base := by
  by_cases hfit : Word.satAdd s.arena.used more ≤ s.arena.currentCapacity
  · rw [show s.reserve more = (.ok (), s) from if_pos hfit]
    exact h
  · rw [reserve_of_full hfit]
    exact h.grow (ha.reserve_apt hfit)

/-! ## Requests -/

theorem Faithful.place (h : s.Faithful base) (c : Chunk) (offset padding size : Nat) :
    (s.place c offset padding size).2.Faithful base := by
  obtain ⟨-, -, hheap⟩ := s.place_eq c offset padding size
  refine Tells.aside (s := { s with
    arena := s.arena.bump offset padding size
    heap := (s.place c offset padding size).2.heap }) ?_ trivial
  exact Tells.congr h rfl hheap.calls

theorem Faithful.overflow {α : Type} (h : s.Faithful base) (requested : Nat) :
    (s.overflow requested : Except Failure α × Site).2.Faithful base :=
  Tells.aside h trivial

theorem Faithful.allocNothing (h : s.Faithful base) (ha : s.arena.Sound) :
    s.allocNothing.2.Faithful base := by
  cases hc : s.arena.chunks with
  | nil =>
      rw [allocNothing_of_nil hc]
      exact h.grow (allocNothing_growth_apt ha hc)
  | cons c older =>
      rw [allocNothing_of_cons hc]
      exact h

theorem Faithful.allocBytes (h : s.Faithful base) (ha : s.arena.Sound) (size align : Nat) :
    (s.allocBytes size align).2.Faithful base := by
  rcases Nat.eq_zero_or_pos size with hz | hpos
  · rw [show s.allocBytes size align = s.allocNothing from if_pos hz]
    exact h.allocNothing ha
  · rw [allocBytes_eq s hpos]
    split
    · exact h.overflow size
    · split
      · exact h.place _ _ _ _
      · rename_i growth hp
        obtain ⟨hapt, -, -⟩ := ha.placement_after hpos (by omega) hp
        have hg := h.grow hapt
        split
        · rename_i hx
          rw [hx] at hg
          exact hg.place _ _ _ _
        · rename_i hx
          rw [hx] at hg
          exact hg

theorem Faithful.allocAligned (h : s.Faithful base) (ha : s.arena.Sound)
    (count size align : Nat) : (s.allocAligned count size align).2.Faithful base := by
  rcases s.allocAligned_cases count size align with heq | heq
  · rw [heq]
    exact h.overflow _
  · rw [heq]
    exact h.allocBytes ha _ align

/-- A request of any kind keeps the log faithful. -/
theorem Faithful.serve (h : s.Faithful base) (ha : s.arena.Sound) (demand : Demand) :
    (demand.serve s).2.Faithful base := by
  cases demand with
  | array element count => exact h.allocAligned ha count element.size element.align
  | aligned count size align => exact h.allocAligned ha count size align
  | bytes size align => exact h.allocBytes ha size align
  | copy element values =>
      have hall : (s.alloc element values.length).2.Faithful base :=
        h.allocAligned ha values.length element.size element.align
      show (s.allocCopy element values).2.Faithful base
      rcases s.allocCopy_cases element values with ⟨e, s', he, heq⟩ | ⟨p, s', he, heq⟩
      · rw [he] at hall
        rw [heq]
        exact hall
      · rw [he] at hall
        rw [heq]
        exact hall.congr rfl rfl rfl rfl

/-! ## Giving chunks back -/

/-- Logging a chunk as released and freeing it keeps the log in step. -/
theorem Tells.free (newer older : List Chunk) {c : Chunk}
    (h : s.Tells base (newer ++ c :: older) count) :
    ({ s.log (.chunkReleased c.number c.capacity) with
      heap := s.heap.free c.block c.capacity } : Site).Tells base (newer ++ older) count :=
  h.call _ _ rfl (s.heap.calls_free ..) (·.released (Event.record_released ..))

/-- The newest chunks go, newest first. -/
theorem Tells.release {gone : List Chunk} (h : s.Tells base (gone ++ kept) count) :
    (s.release gone).Tells base kept count := by
  induction gone generalizing s with
  | nil => exact h
  | cons c gone ih => exact ih (Tells.free [] _ h)

theorem release_append (s : Site) (gone more : List Chunk) :
    s.release (gone ++ more) = (s.release gone).release more :=
  List.foldl_append

/-- The oldest chunks go, oldest first. -/
theorem Tells.release_reverse {gone : List Chunk} (h : s.Tells base (kept ++ gone) count) :
    (s.release gone.reverse).Tells base kept count := by
  induction gone using List.reverseRecOn generalizing s with
  | nil => exact (List.append_nil kept) ▸ h
  | append_singleton gone c ih =>
      rw [List.reverse_append]
      rw [← List.append_assoc] at h
      refine ih ?_
      have hfree := Tells.free _ [] h
      rw [List.append_nil] at hfree
      exact hfree

/-- Clearing an arena keeps its log faithful. -/
theorem Faithful.clear (h : s.Faithful base) (ha : s.arena.Sound) : s.clear.Faithful base := by
  by_cases hr : s.arena.retired = []
  · rw [clear_of_unretired hr]
    refine h.congr rfl rfl ?_ rfl
    exact List.take_of_length_le (by
      have hlen := congrArg List.length hr
      rw [show s.arena.retired = s.arena.chunks.tail from rfl, List.length_tail,
        List.length_nil] at hlen
      omega)
  · obtain ⟨harena, -⟩ := s.kept_eq
    have hkept : s.kept.Faithful base := by
      rw [Faithful, harena]
      refine Tells.release_reverse (Tells.aside ?_ trivial)
      show s.Tells base (s.arena.chunks.take 1 ++ s.arena.chunks.tail) _
      rw [← List.drop_one, List.take_append_drop]
      exact h
    have hreserve := hkept.reserve (harena ▸ ha.newestOnly) s.kept.arena.peak
    rw [clear_of_retired hr]
    split
    · rename_i hx
      rw [hx] at hreserve
      exact hreserve
    · rename_i hx
      rw [hx] at hreserve
      exact Tells.aside hreserve trivial

theorem Faithful.reset (h : s.Faithful base) (ha : s.arena.Sound) : s.reset.Faithful base := by
  have hnext : Faithful base { s with arena := s.arena.nextGeneration } :=
    h.congr rfl rfl rfl rfl
  exact hnext.clear ha.nextGeneration

theorem Faithful.shrinkToFit (h : s.Faithful base) : s.shrinkToFit.Faithful base := by
  by_cases he : s.arena.isEmpty
  · rw [show s.shrinkToFit = _ from if_pos he, Faithful, (release_freed _ _).1]
    rw [Faithful] at h
    -- the retired chunks go first, then what is left is the newest one
    have hsplit : s.arena.chunks = s.arena.current?.toList ++ s.arena.retired := by
      show s.arena.chunks = s.arena.chunks.head?.toList ++ s.arena.chunks.tail
      cases s.arena.chunks with
      | nil => rfl
      | cons c older => rfl
    rw [hsplit] at h
    rw [release_append]
    have hretired := Tells.release_reverse (s := { s with arena :=
      { s.arena.nextGeneration with chunks := [], used := 0, peak := 0 } }) (h.congr rfl rfl)
    rw [← List.append_nil s.arena.current?.toList] at hretired
    exact Tells.release hretired
  · rw [show s.shrinkToFit = _ from if_neg he]
    exact h.congr rfl rfl rfl rfl

/-- A rollback keeps the log faithful, also when it is rejected. -/
theorem Faithful.rollback (h : s.Faithful base) (ha : s.arena.Sound) (c : Checkpoint) :
    (s.rollback c).2.Faithful base := by
  unfold Site.rollback
  split
  · exact Tells.aside h trivial
  · have hdrop : Faithful base { s with arena := s.arena.dropMarks c.mark } :=
      h.congr rfl rfl rfl rfl
    exact hdrop.clear (ha.dropMarks c.mark)
  · rename_i depth offset hto
    rw [Faithful, ← List.take_append_drop depth s.arena.chunks] at h
    exact Tells.congr (Tells.release h) rfl rfl

end Site

/-! ## Runs -/

namespace History

variable {h : History} {base : Heap}

/-- A rollback keeps the log faithful, accepted or not. -/
theorem Sound.faithful_rollback (hs : h.Sound) (hf : h.site.Faithful base) (mark : Nat) :
    (h.step (.rollback mark)).site.Faithful base := by
  rcases h.site_step_rollback mark with heq | ⟨c, heq⟩
  · rw [heq]
    exact hf
  · rw [heq]
    exact hf.rollback hs.site.arena c

theorem faithful_forget (hf : h.site.Faithful base) (mark : Nat) :
    (h.step (.forget mark)).site.Faithful base := by
  obtain ⟨marks, -, heq⟩ := step_forget h mark
  rw [heq]
  exact hf.congr rfl rfl rfl rfl

/-- Every call keeps the log faithful. -/
theorem Sound.faithful_step (hs : h.Sound) (hf : h.site.Faithful base) (op : Op) :
    (h.step op).site.Faithful base := by
  cases op with
  | allocate demand =>
      show (h.served demand (demand.serve h.site)).site.Faithful base
      rw [served_site]
      exact hf.serve hs.site.arena demand
  | reserve more => exact hf.reserve hs.site.arena more
  | reset => exact hf.reset hs.site.arena
  | shrinkToFit => exact hf.shrinkToFit
  | checkpoint => exact hf.congr rfl rfl rfl rfl
  | rollback mark => exact hs.faithful_rollback hf mark
  | forget mark => exact faithful_forget hf mark
  | abandon mark => exact hf
  | guarded => exact hf.congr rfl rfl rfl rfl
  | rollbackGuard mark => exact hs.faithful_rollback hf mark
  | releaseGuard mark => exact faithful_forget hf mark
  | dropGuard mark => exact hs.faithful_rollback hf mark
  | rollbackForeign c =>
      rcases h.site_step_rollbackForeign c with heq | heq
      · rw [heq]
        exact hf
      · rw [heq]
        exact hf.rollback hs.site.arena c
  | forgetForeign c =>
      rw [step_forgetForeign]
      exact hf

/-- A log that is faithful stays so. -/
theorem Sound.faithful_run (hs : h.Sound) (hf : h.site.Faithful base) (ops : List Op) :
    (h.run ops).site.Faithful base :=
  (run_induct (P := fun h => h.Sound ∧ h.site.Faithful base) ⟨hs, hf⟩
    (fun _ op hp => ⟨hp.1.step op, hp.1.faithful_step hp.2 op⟩) ops).2

/-- Whether an arena could be made or not, its log tells what it holds. -/
theorem faithful_start {settings : Settings} (words : settings.maxSize ≤ Word.largest) (id : Nat)
    (heap : Heap) : (start settings id heap).site.Faithful heap := by
  have hbare : (Site.bare settings id heap).Faithful heap :=
    ⟨[], (List.append_nil _).symm, .blank⟩
  show (Site.establish settings id heap).2.Faithful heap
  rcases establish_cases settings id heap with ⟨flaw, heq⟩ | ⟨hvalid, heq⟩
  · rw [heq]
    exact hbare
  · rw [heq]
    exact hbare.reserve (Arena.Sound.bare hvalid words id) settings.reserve

/-- The chunk log is a journal.  From the start on, whether the arena could
    be made or not, and after every run, the lines about chunks, as they are
    logged, and the calls on the heap go together one by one and in order;
    new chunks are numbered without a gap; and what the log has acquired and
    not released, at the capacities last logged, is what the arena holds. -/
theorem chunk_log_is_faithful {settings : Settings} (words : settings.maxSize ≤ Word.largest)
    (id : Nat) (heap : Heap) :
    (∃ calls, (start settings id heap).site.heap.calls = heap.calls ++ calls
      ∧ Chronicle ((start settings id heap).site.events.map Event.record) calls
          (start settings id heap).site.arena.chunks
          (start settings id heap).site.arena.nextChunk)
    ∧ ((Site.establish settings id heap).1 = .ok () → ∀ (ops : List Op) (s : Site),
      s = ((start settings id heap).run ops).site →
        (∃ calls, s.heap.calls = heap.calls ++ calls
          ∧ Chronicle (s.events.map Event.record) calls s.arena.chunks s.arena.nextChunk)
        ∧ (s.events.map Event.record).filterMap Record.newChunk? = List.range s.arena.nextChunk
        ∧ (s.events.map Event.record).foldl Record.onHand []
            = s.arena.chunks.map fun c => (c.number, c.capacity)) := by
  have hf := faithful_start words id heap
  refine ⟨hf, ?_⟩
  intro built ops s hs
  obtain ⟨calls, hcalls, hchronicle⟩ : s.Faithful heap :=
    hs ▸ (Sound.start words built).faithful_run hf ops
  exact ⟨⟨calls, hcalls, hchronicle⟩, hchronicle.numbers, hchronicle.on_hand⟩

/-- A heap that grants at most 200 bytes at a time: a chunk is enlarged, a
    second one is given back by a rollback, and a third is kept by a reset
    whose coalescing is refused. -/
theorem chunk_log_is_faithful_when_refused :
    let heap := Heap.fresh (Limits.policy ⟨200, 1000, false⟩)
    let s := ((start (.standard true) 0 heap).run
      [.reserve 20, .reserve 100, .allocate (.bytes 90 1), .checkpoint,
        .allocate (.bytes 130 1), .rollback 0, .allocate (.bytes 130 1), .reset]).site
    s.heap.calls = [.alloc 84 (some 0), .grow 0 84 100 (some 0), .alloc 194 (some 1), .free 1 194,
        .alloc 194 (some 2), .free 0 100, .grow 2 194 220 none]
      ∧ Chronicle (s.events.map Event.record) s.heap.calls [⟨2, 194, 2⟩] 3
      ∧ (s.events.map Event.record).foldl Record.onHand [] = [(2, 194)] := by
  intro heap s
  have built : (Site.establish (.standard true) 0 heap).1 = .ok () := rfl
  have hchunks : s.arena.chunks = [⟨2, 194, 2⟩] := by decide +kernel
  have hnext : s.arena.nextChunk = 3 := by decide +kernel
  obtain ⟨⟨calls, hcalls, hchronicle⟩, -, hhand⟩ :=
    (chunk_log_is_faithful (by decide) 0 heap).2 built _ s rfl
  obtain rfl : s.heap.calls = calls := hcalls
  rw [hchunks, hnext] at hchronicle
  rw [hchunks] at hhand
  exact ⟨by decide +kernel, hchronicle, hhand⟩

end History

end ScratchArena
