import ScratchArena.Proofs.Requests

/-! # Steadiness — an arena depends on its heap by the answers alone

    A heap may decide on a request as it likes, also by calls that were
    made long before.  None of that reaches an arena but the answer: from
    the same arena over the same blocks, an operation whose requests are
    answered alike gives the same result and leaves the same arena over the
    same blocks.

    `Coupled` compares two outcomes in this way.  Either they are the same
    and so are the calls that led to them, or the answers have parted on
    the way.  It is kept by doing one thing after another, so an operation
    is steady as soon as the few things it is made of are: a request for a
    block, a request for a larger one, and what asks for nothing. -/

namespace ScratchArena

/-- The answer of the heap, where the call asks for one. -/
def Call.answer? : Call → Option (Option Nat)
  | .alloc _ block => some block
  | .grow _ _ _ answer => some answer
  | .free _ _ => none

/-- The answers among some calls, in order. -/
def answers (calls : List Call) : List (Option Nat) := calls.filterMap Call.answer?

theorem answers_append (calls more : List Call) :
    answers (calls ++ more) = answers calls ++ answers more := List.filterMap_append

/-- The answers are the same for a while, then one is other than the
    other. -/
def Parted (xs ys : List (Option Nat)) : Prop :=
  ∃ alike answer answer' xs' ys', answer ≠ answer'
    ∧ xs = alike ++ answer :: xs' ∧ ys = alike ++ answer' :: ys'

namespace Parted

variable {xs ys : List (Option Nat)}

/-- Answers that part are not the same. -/
theorem ne (h : Parted xs ys) : xs ≠ ys := by
  obtain ⟨alike, answer, answer', xs', ys', hne, rfl, rfl⟩ := h
  intro heq
  exact hne (List.cons.inj (List.append_cancel_left heq)).1

theorem after (h : Parted xs ys) (earlier : List (Option Nat)) :
    Parted (earlier ++ xs) (earlier ++ ys) := by
  obtain ⟨alike, answer, answer', xs', ys', hne, rfl, rfl⟩ := h
  exact ⟨earlier ++ alike, answer, answer', xs', ys', hne, (List.append_assoc ..).symm,
    (List.append_assoc ..).symm⟩

/-- What comes later cannot bring them together again. -/
theorem before (h : Parted xs ys) (later later' : List (Option Nat)) :
    Parted (xs ++ later) (ys ++ later') := by
  obtain ⟨alike, answer, answer', xs', ys', hne, rfl, rfl⟩ := h
  exact ⟨alike, answer, answer', xs' ++ later, ys' ++ later', hne, by simp, by simp⟩

theorem of_ne {answer answer' : Option Nat} (h : answer ≠ answer') :
    Parted [answer] [answer'] :=
  ⟨[], answer, answer', [], [], h, rfl, rfl⟩

end Parted

/-- Every chunk is on a block that there is. -/
def Site.Placed (s : Site) : Prop := ∀ c ∈ s.arena.chunks, c.block < s.heap.blocks.length

/-- The same arena over the same blocks, on heaps that leave the same bytes
    in what is theirs. -/
structure Site.Same (s t : Site) : Prop where
  arena : t.arena = s.arena
  blocks : t.heap.blocks = s.heap.blocks
  residue : t.heap.residue = s.heap.residue
  placed : s.Placed

theorem Site.Same.refl {s : Site} (hs : s.Placed) : s.Same s := ⟨rfl, rfl, rfl, hs⟩

/-- Chunks that are placed on one of two same sites are placed on both. -/
theorem Site.Same.placed' {s t : Site} (h : s.Same t) : t.Placed := by
  intro c hc
  rw [h.blocks]
  exact h.placed c (h.arena ▸ hc)

/-- Two outcomes, of sites whose heaps had got the calls `before` and
    `before'`, that can differ only if the heaps have answered otherwise. -/
inductive Coupled {α : Type} (before before' : List Call) (o o' : α × Site) : Prop where
  | same (calls : List Call) (here : o.2.heap.calls = before ++ calls)
      (there : o'.2.heap.calls = before' ++ calls) (result : o'.1 = o.1) (same : o.2.Same o'.2)
  | parted (calls calls' : List Call) (here : o.2.heap.calls = before ++ calls)
      (there : o'.2.heap.calls = before' ++ calls')
      (parted : Parted (answers calls) (answers calls'))
      (placed : o.2.Placed) (placed' : o'.2.Placed)

/-- From the same arena over the same blocks, only the answers make a
    difference. -/
def Steady {α : Type} (f : Site → α × Site) : Prop :=
  ∀ s t : Site, s.Same t → Coupled s.heap.calls t.heap.calls (f s) (f t)

namespace Coupled

variable {α β : Type} {before before' : List Call} {o o' : α × Site}

/-- Coupled outcomes only add to the journal. -/
theorem calls (h : Coupled before before' o o') :
    o.2.Placed ∧ ∃ calls, o.2.heap.calls = before ++ calls := by
  cases h with
  | same calls here there result same => exact ⟨same.placed, calls, here⟩
  | parted calls calls' here there parted placed placed' => exact ⟨placed, calls, here⟩

/-- Where nothing is asked, nothing can differ. -/
theorem quiet (here : o.2.heap.calls = before) (there : o'.2.heap.calls = before')
    (result : o'.1 = o.1) (same : o.2.Same o'.2) : Coupled before before' o o' :=
  .same [] (by rw [here, List.append_nil]) (by rw [there, List.append_nil]) result same

/-- One thing after another. -/
theorem bind (h : Coupled before before' o o') {k : α × Site → β × Site}
    (hk : ∀ a, Steady fun s => k (a, s)) : Coupled before before' (k o) (k o') := by
  obtain ⟨a, s⟩ := o
  obtain ⟨a', s'⟩ := o'
  cases h with
  | same calls here there result same =>
      obtain rfl : a' = a := result
      cases hk a' s s' same with
      | same more here' there' result' same' =>
          refine .same (calls ++ more) ?_ ?_ result' same'
          · rw [here', here, List.append_assoc]
          · rw [there', there, List.append_assoc]
      | parted more more' here' there' parted placed placed' =>
          refine .parted (calls ++ more) (calls ++ more') ?_ ?_ ?_ placed placed'
          · rw [here', here, List.append_assoc]
          · rw [there', there, List.append_assoc]
          · rw [answers_append, answers_append]
            exact parted.after _
  | parted calls calls' here there parted placed placed' =>
      -- whatever is asked from here on, the answers have parted already
      obtain ⟨hplaced, more, hmore⟩ := (hk a s s (.refl placed)).calls
      obtain ⟨hplaced', more', hmore'⟩ := (hk a' s' s' (.refl placed')).calls
      refine .parted (calls ++ more) (calls' ++ more') ?_ ?_ ?_ hplaced hplaced'
      · rw [hmore, here, List.append_assoc]
      · rw [hmore', there, List.append_assoc]
      · rw [answers_append, answers_append]
        exact parted.before _ _

/-- Where the first thing can fail, and a failure ends it. -/
theorem onOk {o o' : Except Failure α × Site} (h : Coupled before before' o o')
    {k : Except Failure α × Site → β × Site} (hok : ∀ a, Steady fun s => k (.ok a, s))
    (herror : ∀ e, Steady fun s => k (.error e, s)) : Coupled before before' (k o) (k o') := by
  refine h.bind ?_
  intro r
  cases r with
  | ok a => exact hok a
  | error e => exact herror e

end Coupled

namespace Steady

variable {α β : Type} {f : Site → α × Site}

/-- Two sites that are the same have heaps with a policy and a journal each
    of their own, and nothing else. -/
theorem of_heaps (h : ∀ (s : Site) (policy : Policy) (calls : List Call) (events : List Event),
    s.Same ⟨s.arena, ⟨policy, s.heap.residue, s.heap.blocks, calls⟩, events⟩ →
    Coupled s.heap.calls calls (f s)
      (f ⟨s.arena, ⟨policy, s.heap.residue, s.heap.blocks, calls⟩, events⟩)) :
    Steady f := by
  rintro s ⟨arena, ⟨policy, residue, blocks, calls⟩, events⟩ ⟨harena, hblocks, hresidue, hplaced⟩
  obtain rfl : arena = s.arena := harena
  obtain rfl : blocks = s.heap.blocks := hblocks
  obtain rfl : residue = s.heap.residue := hresidue
  exact h s policy calls events ⟨rfl, rfl, rfl, hplaced⟩

/-- Doing nothing is steady. -/
theorem pure (a : α) : Steady fun s => (a, s) :=
  fun _ _ hst => .quiet rfl rfl rfl hst

/-- So is looking at a steady outcome. -/
theorem map (hf : Steady f) (g : α → β) : Steady fun s => (g (f s).1, (f s).2) :=
  fun s t hst => (hf s t hst).bind (k := fun o => (g o.1, o.2)) fun a => .pure (g a)

/-- So is logging an event. -/
theorem logged (a : α) (e : Event) : Steady fun s => (a, s.log e) :=
  fun _ _ hst => .quiet rfl rfl rfl ⟨hst.arena, hst.blocks, hst.residue, hst.placed⟩

end Steady

namespace Heap

/-- Two heaps with the same on record that give the same answer have the
    same on record then. -/
theorem alloc_congr {h t h' t' : Heap} (hblocks : t.blocks = h.blocks)
    (hresidue : t.residue = h.residue) {size : Nat} {answer : Option Nat}
    (here : h.alloc size = (answer, h')) (there : t.alloc size = (answer, t')) :
    t'.blocks = h'.blocks ∧ t'.residue = h'.residue := by
  cases answer with
  | none =>
      obtain rfl := alloc_refused here
      obtain rfl := alloc_refused there
      exact ⟨hblocks, hresidue⟩
  | some block =>
      obtain ⟨-, rfl⟩ := alloc_granted here
      obtain ⟨-, rfl⟩ := alloc_granted there
      exact ⟨by rw [hblocks, hresidue], hresidue⟩

/-- The answer says whether a block has moved, so it is the same with a
    block that becomes larger. -/
theorem grow_congr {h t h' t' : Heap} (hblocks : t.blocks = h.blocks)
    (hresidue : t.residue = h.residue) {block old new : Nat} (hb : block < h.blocks.length)
    {answer : Option Nat} (here : h.grow block old new = (answer, h'))
    (there : t.grow block old new = (answer, t')) :
    t'.blocks = h'.blocks ∧ t'.residue = h'.residue := by
  have hbytes : t.byteAt block = h.byteAt block := by
    funext i
    rw [byteAt, byteAt, hblocks]
  cases answer with
  | none =>
      obtain rfl := grow_refused here
      obtain rfl := grow_refused there
      exact ⟨hblocks, hresidue⟩
  | some answer =>
      rcases grow_granted here with ⟨heq, rfl⟩ | ⟨heq, rfl⟩ <;>
        rcases grow_granted there with ⟨heq', rfl⟩ | ⟨heq', rfl⟩
      · exact ⟨by rw [hblocks, hresidue], hresidue⟩
      · rw [hblocks] at heq'
        omega
      · omega
      · exact ⟨by rw [hblocks, hresidue, hbytes], hresidue⟩

end Heap

namespace Site

/-! ## Making room -/

/-- Chunks that were there are placed still, where no block goes off
    record. -/
theorem Placed.of_chunks {s s' : Site} (hs : s.Placed)
    (hlen : s.heap.blocks.length ≤ s'.heap.blocks.length)
    (hchunks : ∀ d ∈ s'.arena.chunks, d ∈ s.arena.chunks ∨ d.block < s'.heap.blocks.length) :
    s'.Placed := by
  intro d hd
  rcases hchunks d hd with hold | hnew
  · exact Nat.lt_of_lt_of_le (hs d hold) hlen
  · exact hnew

/-- So are fewer chunks over as many blocks. -/
theorem Placed.of_blocks {s s' : Site} (hs : s.Placed)
    (hlen : s'.heap.blocks.length = s.heap.blocks.length)
    (hchunks : ∀ d, d ∈ s'.arena.chunks → d ∈ s.arena.chunks) : s'.Placed :=
  hs.of_chunks (Nat.le_of_eq hlen.symm) fun d hd => Or.inl (hchunks d hd)

/-- A chunk that is taken on is on the newest block. -/
theorem Placed.acquire {s : Site} (hs : s.Placed) (capacity : Nat) :
    (s.acquire capacity).2.Placed := by
  rcases s.acquire_cases capacity with ⟨heap, hrefused, heq⟩ | ⟨block, heap, hgranted, heq⟩ <;>
    rw [heq]
  · obtain rfl := Heap.alloc_refused hrefused
    exact hs
  · obtain ⟨rfl, rfl⟩ := Heap.alloc_granted hgranted
    have hlen : (s.heap.blocks ++ [(⟨capacity, true,
        s.heap.residue.unwritten s.heap.blocks.length⟩ : Block)]).length
          = s.heap.blocks.length + 1 := List.length_append
    refine hs.of_chunks (Nat.le_trans (Nat.le_succ _) (Nat.le_of_eq hlen.symm)) ?_
    intro d hd
    rcases List.mem_cons.mp hd with rfl | hd
    · exact Or.inr (Nat.lt_of_lt_of_le (Nat.lt_succ_self _) (Nat.le_of_eq hlen.symm))
    · exact Or.inl hd

/-- An extended chunk is on its block or the newest one. -/
theorem Placed.extend {s : Site} (hs : s.Placed) {c : Chunk} {older : List Chunk}
    (hc : s.arena.chunks = c :: older) (capacity : Nat) : (s.extend c capacity).2.Placed := by
  rcases s.extend_cases c capacity with ⟨heap, hrefused, heq⟩ | ⟨block, heap, hgranted, heq⟩ <;>
    rw [heq]
  · obtain rfl := Heap.grow_refused hrefused
    exact hs
  · have hlt : c.block < s.heap.blocks.length := hs c (hc ▸ List.mem_cons_self)
    have hb : block < heap.blocks.length ∧ s.heap.blocks.length ≤ heap.blocks.length := by
      rcases Heap.blocks_of_grow hgranted with ⟨rfl, hlen⟩ | ⟨rfl, hlen⟩ <;> omega
    refine hs.of_chunks hb.2 ?_
    show ∀ d ∈ (s.arena.extend block capacity).chunks, _
    rw [Arena.extend_chunks hc, hc]
    intro d hd
    rcases List.mem_cons.mp hd with rfl | hd
    · exact Or.inr hb.1
    · exact Or.inl (List.mem_cons_of_mem _ hd)

/-- Acquiring a chunk is steady. -/
theorem steady_acquire (capacity : Nat) : Steady (·.acquire capacity) := by
  intro s t hst
  have hplaced := hst.placed.acquire capacity
  have hplaced' := hst.placed'.acquire capacity
  cases hs : s.heap.alloc capacity with
  | mk answer heap =>
  cases ht : t.heap.alloc capacity with
  | mk answer' heap' =>
  have hcalls := Heap.calls_of_alloc hs
  have hcalls' := Heap.calls_of_alloc ht
  by_cases heq : answer = answer'
  · subst heq
    obtain ⟨hblocks, hresidue⟩ := Heap.alloc_congr hst.blocks hst.residue hs ht
    cases answer with
    | none =>
        simp only [acquire, hs, ht] at hplaced ⊢
        exact .same _ hcalls hcalls' rfl ⟨hst.arena, hblocks, hresidue, hplaced⟩
    | some block =>
        simp only [acquire, hs, ht, hst.arena] at hplaced ⊢
        exact .same _ hcalls hcalls' rfl ⟨rfl, hblocks, hresidue, hplaced⟩
  · refine .parted [.alloc capacity answer] [.alloc capacity answer'] ?_ ?_ (.of_ne heq) hplaced
      hplaced'
    · rw [acquire_heap, hs, hcalls]
    · rw [acquire_heap, ht, hcalls']

/-- The newest chunk is the same on either side, and the answer says which
    block it is on then. -/
theorem coupled_extend {s t : Site} (hst : s.Same t) {c : Chunk} {older : List Chunk}
    (hc : s.arena.chunks = c :: older) (capacity : Nat) :
    Coupled s.heap.calls t.heap.calls (s.extend c capacity) (t.extend c capacity) := by
  have hlt : c.block < s.heap.blocks.length := hst.placed c (hc ▸ List.mem_cons_self)
  have hplaced := hst.placed.extend hc capacity
  have hplaced' := hst.placed'.extend (hst.arena ▸ hc) capacity
  cases hs : s.heap.grow c.block c.capacity capacity with
  | mk answer heap =>
  cases ht : t.heap.grow c.block c.capacity capacity with
  | mk answer' heap' =>
  have hcalls := Heap.calls_of_grow hs
  have hcalls' := Heap.calls_of_grow ht
  by_cases heq : answer = answer'
  · subst heq
    obtain ⟨hblocks, hresidue⟩ := Heap.grow_congr hst.blocks hst.residue hlt hs ht
    cases answer with
    | none =>
        simp only [extend, hs, ht] at hplaced ⊢
        exact .same _ hcalls hcalls' rfl ⟨hst.arena, hblocks, hresidue, hplaced⟩
    | some block =>
        simp only [extend, hs, ht, hst.arena] at hplaced ⊢
        exact .same _ hcalls hcalls' rfl ⟨rfl, hblocks, hresidue, hplaced⟩
  · refine .parted [.grow c.block c.capacity capacity answer]
      [.grow c.block c.capacity capacity answer'] ?_ ?_ (.of_ne heq) hplaced hplaced'
    · rw [extend_heap, hs, hcalls]
    · rw [extend_heap, ht, hcalls']

/-- So is a growth. -/
theorem steady_grow (growth : Growth) : Steady (·.grow growth) := by
  refine .of_heaps ?_
  intro s policy calls events hst
  cases growth with
  | replace capacity => exact steady_acquire capacity s _ hst
  | extend capacity =>
      simp only [grow]
      cases hc : s.arena.chunks with
      | nil => exact steady_acquire capacity s _ hst
      | cons c older => exact coupled_extend hst hc capacity

theorem steady_reserve (more : Nat) : Steady (·.reserve more) := by
  refine .of_heaps ?_
  intro s policy calls events hst
  by_cases hfit : Word.satAdd s.arena.used more ≤ s.arena.currentCapacity
  · simp only [reserve, if_pos hfit]
    exact .quiet rfl rfl rfl hst
  · simp only [reserve, if_neg hfit]
    -- from here on all depends on what has come of growing
    have h := steady_grow (s.arena.growthFor s.arena.used more) s _ hst
    dsimp only at h
    generalize s.grow _ = o at h ⊢
    generalize Site.grow _ _ = o' at h ⊢
    apply h.onOk
    · exact fun _ => .pure _
    · exact fun _ => .pure _

/-! ## Requests -/

theorem steady_allocNothing : Steady allocNothing := by
  refine .of_heaps ?_
  intro s policy calls events hst
  cases hc : s.arena.chunks with
  | nil =>
      simp only [allocNothing, hc]
      have h := steady_grow (s.arena.growthFor s.arena.used s.arena.settings.spare) s _ hst
      dsimp only at h
      generalize s.grow _ = o at h ⊢
      generalize Site.grow _ _ = o' at h ⊢
      apply h.onOk
      · exact fun _ => .pure _
      · exact fun _ => .pure _
  | cons c older =>
      simp only [allocNothing, hc]
      exact .quiet rfl rfl rfl hst

/-- So is placing a request. -/
theorem steady_place (c : Chunk) (offset padding size : Nat) :
    Steady (·.place c offset padding size) := by
  refine .of_heaps ?_
  intro s policy calls events hst
  unfold place
  cases s.arena.settings.poison with
  | true =>
      exact .quiet rfl rfl rfl
        ⟨rfl, rfl, rfl, hst.placed.of_blocks (List.length_modify ..) fun _ => id⟩
  | false => exact .quiet rfl rfl rfl ⟨rfl, rfl, rfl, hst.placed⟩

/-- So is a request for bytes. -/
theorem steady_allocBytes (size align : Nat) : Steady (·.allocBytes size align) := by
  refine .of_heaps ?_
  intro s policy calls events hst
  rcases Nat.eq_zero_or_pos size with hz | hpos
  · simp only [allocBytes, if_pos hz]
    exact steady_allocNothing s _ hst
  · simp only [allocBytes_eq _ hpos]
    split
    · exact .quiet rfl rfl rfl ⟨rfl, rfl, rfl, hst.placed⟩
    · split
      · exact steady_place _ _ _ _ s _ hst
      · rename_i growth _
        have h := steady_grow growth s _ hst
        dsimp only at h
        generalize s.grow _ = o at h ⊢
        generalize Site.grow _ _ = o' at h ⊢
        apply h.onOk
        · exact fun c => steady_place c _ _ _
        · exact fun _ => .pure _

theorem steady_allocAligned (count size align : Nat) :
    Steady (·.allocAligned count size align) := by
  refine .of_heaps ?_
  intro s policy calls events hst
  unfold allocAligned
  cases Word.mul? count size with
  | none => exact .quiet rfl rfl rfl ⟨rfl, rfl, rfl, hst.placed⟩
  | some bytes => exact steady_allocBytes bytes align s _ hst

/-- So is writing bytes. -/
theorem steady_write (p : Pointer) (data : List UInt8) :
    Steady fun s => ((.ok p : Except Failure Pointer),
      { s with heap := s.heap.write p.block p.offset data }) := by
  refine .of_heaps ?_
  intro s policy calls events hst
  exact .quiet rfl rfl rfl
    ⟨rfl, rfl, rfl, hst.placed.of_blocks (List.length_modify ..) fun _ => id⟩

theorem steady_allocCopy (element : Element) (values : List Nat) :
    Steady (·.allocCopy element values) := by
  refine .of_heaps ?_
  intro s policy calls events hst
  have h := steady_allocAligned values.length element.size element.align s _ hst
  simp only [allocCopy, alloc]
  dsimp only at h
  generalize s.allocAligned _ _ _ = o at h ⊢
  generalize Site.allocAligned _ _ _ _ = o' at h ⊢
  apply h.onOk
  · exact fun p => steady_write p _
  · exact fun _ => .pure _

/-! ## Giving up -/

/-- Releasing chunks is steady. -/
theorem steady_release (chunks : List Chunk) : Steady fun s => ((), s.release chunks) := by
  induction chunks with
  | nil => exact .pure ()
  | cons c rest ih =>
      refine .of_heaps ?_
      intro s policy calls events hst
      have h : Coupled s.heap.calls calls
          ((), { s.log (.chunkReleased c.number c.capacity) with
            heap := s.heap.free c.block c.capacity })
          ((), { Site.log ⟨s.arena, ⟨policy, s.heap.residue, s.heap.blocks, calls⟩, events⟩
              (.chunkReleased c.number c.capacity) with
            heap :=
              Heap.free ⟨policy, s.heap.residue, s.heap.blocks, calls⟩ c.block c.capacity }) :=
        .same [c.freed] rfl rfl rfl ⟨rfl, rfl, rfl,
          hst.placed.of_blocks (List.length_modify ..) fun _ => id⟩
      exact h.bind (k := fun o => ((), o.2.release rest)) fun _ => ih

/-- What the arena becomes meanwhile, with no chunks but its own, and what
    is logged is of no matter. -/
theorem coupled_release {s t : Site} (hst : s.Same t) {a : Arena}
    (hchunks : ∀ d, d ∈ a.chunks → d ∈ s.arena.chunks) (events events' : List Event)
    (chunks : List Chunk) :
    Coupled s.heap.calls t.heap.calls ((), release ⟨a, s.heap, events⟩ chunks)
      ((), release ⟨a, t.heap, events'⟩ chunks) :=
  steady_release chunks ⟨a, s.heap, events⟩ ⟨a, t.heap, events'⟩
    ⟨rfl, hst.blocks, hst.residue, hst.placed.of_blocks rfl hchunks⟩

/-- Chunks can as well be released once the arena has given them up. -/
theorem release_arena (s : Site) (arena : Arena) (chunks : List Chunk) :
    { s.release chunks with arena } = { s with arena }.release chunks := by
  induction chunks generalizing s with
  | nil => rfl
  | cons c rest ih => exact ih _

/-- So is clearing an arena. -/
theorem steady_clear : Steady fun s => ((), s.clear) := by
  refine .of_heaps ?_
  intro s policy calls events hst
  by_cases hr : s.arena.retired = []
  · rw [clear_of_unretired hr,
      clear_of_unretired
        (s := ⟨s.arena, ⟨policy, s.heap.residue, s.heap.blocks, calls⟩, events⟩) hr]
    exact .quiet rfl rfl rfl
      ⟨rfl, rfl, rfl, hst.placed.of_blocks rfl fun _ => List.mem_of_mem_take⟩
  · rw [clear_of_retired hr,
      clear_of_retired (s := ⟨s.arena, ⟨policy, s.heap.residue, s.heap.blocks, calls⟩, events⟩) hr]
    have hkept : Coupled s.heap.calls calls ((), s.kept)
        ((), kept ⟨s.arena, ⟨policy, s.heap.residue, s.heap.blocks, calls⟩, events⟩) :=
      coupled_release hst (fun _ => List.mem_of_mem_take) _ _ _
    have h := hkept.bind (k := fun o => o.2.reserve s.arena.newestOnly.peak)
      fun _ => steady_reserve _
    rw [(kept_eq _).1,
      (kept_eq ⟨s.arena, ⟨policy, s.heap.residue, s.heap.blocks, calls⟩, events⟩).1]
    dsimp only at h ⊢
    generalize s.kept.reserve _ = o at h ⊢
    generalize Site.reserve _ _ = o' at h ⊢
    apply h.onOk
    · exact fun _ => .pure ()
    · exact fun e => .logged () _

theorem steady_reset : Steady fun s => ((), s.reset) := by
  intro s t hst
  refine steady_clear { s with arena := s.arena.nextGeneration }
    { t with arena := t.arena.nextGeneration } ⟨?_, hst.blocks, hst.residue, hst.placed⟩
  exact congrArg Arena.nextGeneration hst.arena

theorem steady_shrinkToFit : Steady fun s => ((), s.shrinkToFit) := by
  refine .of_heaps ?_
  intro s policy calls events hst
  by_cases he : s.arena.isEmpty
  · simp only [shrinkToFit, if_pos he]
    exact coupled_release hst (fun _ hd => absurd hd List.not_mem_nil) _ _ _
  · simp only [shrinkToFit, if_neg he]
    exact .quiet rfl rfl rfl ⟨rfl, rfl, rfl, hst.placed⟩

/-! ## Checkpoints and guards -/

theorem steady_checkpoint : Steady checkpoint := by
  refine .of_heaps ?_
  intro s policy calls events hst
  exact .quiet rfl rfl rfl ⟨rfl, rfl, rfl, hst.placed⟩

theorem steady_forget (c : Checkpoint) : Steady fun s => ((), s.forget c) := by
  refine .of_heaps ?_
  intro s policy calls events hst
  unfold forget
  split
  · exact .quiet rfl rfl rfl ⟨rfl, rfl, rfl, hst.placed⟩
  · exact .quiet rfl rfl rfl hst

/-- So is a rollback, accepted or not. -/
theorem steady_rollback (c : Checkpoint) : Steady (·.rollback c) := by
  refine .of_heaps ?_
  intro s policy calls events hst
  cases hto : s.arena.rollbackTo c with
  | rejected why =>
      simp only [rollback, hto]
      exact .quiet rfl rfl rfl ⟨rfl, rfl, rfl, hst.placed⟩
  | toEmpty =>
      simp only [rollback, hto]
      have h := steady_clear { s with arena := s.arena.dropMarks c.mark }
        ⟨s.arena.dropMarks c.mark, ⟨policy, s.heap.residue, s.heap.blocks, calls⟩, events⟩
        ⟨rfl, rfl, rfl, hst.placed⟩
      exact h.bind (k := fun o => ((.ok () : Except Failure Unit), o.2)) fun _ => .pure _
  | resume depth offset =>
      simp only [rollback, hto]
      rw [release_arena, release_arena]
      have h := coupled_release hst (a := { s.arena.dropMarks c.mark with
        chunks := s.arena.chunks.drop depth, total := c.total, used := offset })
        (fun _ => List.mem_of_mem_drop) s.events events (s.arena.chunks.take depth)
      exact h.bind (k := fun o => ((.ok () : Except Failure Unit), o.2)) fun _ => .pure _

end Site

end ScratchArena
