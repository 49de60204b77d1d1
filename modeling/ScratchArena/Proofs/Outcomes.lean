import ScratchArena.Proofs.Preservation
import ScratchArena.Proofs.Steadiness

/-! # Outcomes — what becomes of a request for some bytes

    `Resized` says what can come of making room; here the sizes are added.
    `Site.Outcome` lists what can come of a request for some bytes: over
    the limit, inside the newest chunk, or after the growth that
    `Arena.plan` names.  The plan is the growth algorithm in one
    place: extend an unused chunk, or else start one that is large enough
    for what the peak has yet to see. -/

namespace ScratchArena

namespace Arena

/-- The capacity of the chunk that follows the newest one, for `size` bytes
    after `padding`.  Where not even the padding fits, what is spare is
    already part of the request. -/
def successor (a : Arena) (padding size : Nat) : Nat :=
  if a.used + padding ≤ a.currentCapacity then
    Word.satAdd (max a.headroom size) a.settings.spare
  else max a.headroom (Word.satAdd size a.settings.spare)

/-- The growth for `size` bytes after `padding` that do not fit. -/
def plan (a : Arena) (padding size : Nat) : Growth :=
  if a.chunks ≠ [] ∧ a.used = 0 then .extend (max a.headroom size)
  else .replace (a.successor padding size)

/-- Some bytes are within the size limit but not within the newest chunk. -/
structure Cramped (a : Arena) (padding size : Nat) : Prop where
  limit : a.total + padding + size ≤ a.settings.maxSize
  full : a.currentCapacity < a.used + padding + size

/-- An unused newest chunk is grown. -/
theorem plan_extend {a : Arena} {padding size : Nat} (hne : a.chunks ≠ []) (hunused : a.used = 0) :
    a.plan padding size = .extend (max a.headroom size) :=
  if_pos ⟨hne, hunused⟩

/-- A used one gets a successor. -/
theorem plan_replace {a : Arena} {padding size : Nat} (hor : a.chunks = [] ∨ 0 < a.used) :
    a.plan padding size = .replace (a.successor padding size) := by
  refine if_neg ?_
  rintro ⟨hne, hunused⟩
  rcases hor with hnil | hused
  · exact hne hnil
  · omega

/-- A request that fits is placed inside. -/
theorem placement_of_fits {a : Arena} {c : Chunk} {older : List Chunk} {offset size : Nat}
    (hc : a.chunks = c :: older) (hfits : offset + size ≤ c.capacity) :
    a.placement offset size = .inside c := by
  simp only [placement, hc, if_pos hfits]

/-- Where some bytes do not fit, the plan is carried out. -/
theorem placement_of_full {a : Arena} {padding size : Nat}
    (hpadding : a.used = 0 → padding = 0) (hle : a.used ≤ a.currentCapacity)
    (hfull : a.currentCapacity < a.used + padding + size) :
    a.placement (a.used + padding) size = .after (a.plan padding size) := by
  cases hc : a.chunks with
  | nil =>
      rw [currentCapacity_of_nil hc] at hle
      have hused : a.used = 0 := by omega
      have hnone : a.used + padding ≤ a.currentCapacity := by rw [hused, hpadding hused]; omega
      rw [plan_replace (Or.inl hc), successor, if_pos hnone]
      simp only [placement, hc, growthFor]
      rfl
  | cons c older =>
      have hcapacity := currentCapacity_of_cons hc
      have hne : a.chunks ≠ [] := by rw [hc]; exact List.cons_ne_nil _ _
      simp only [placement, hc, if_neg (show ¬ a.used + padding + size ≤ c.capacity by omega)]
      by_cases hused : a.used = 0
      · rw [plan_extend hne hused, hused, hpadding hused, if_pos (Nat.zero_le _)]
        exact congrArg _ (if_pos ⟨hne, rfl⟩)
      · rw [plan_replace (Or.inr (Nat.pos_of_ne_zero hused)), successor, hcapacity]
        split
        · exact congrArg _ (if_neg fun h => hused (by omega))
        · rfl

end Arena

namespace Site

/-- A growth asks the heap once, and succeeds if the heap agrees. -/
theorem Grown.asked {s : Site} {growth : Growth} {outcome : Except Failure Chunk × Site}
    (h : s.Grown growth outcome) :
    ∃ call answer, outcome.2.heap.calls = s.heap.calls ++ [call]
      ∧ call.answer? = some answer ∧ answer.isSome = outcome.1.isOk := by
  cases h with
  | refusedGrow chunks unused larger arena refused =>
      exact ⟨_, _, Heap.calls_of_grow refused, rfl, rfl⟩
  | extended chunks unused larger arena granted =>
      exact ⟨_, _, Heap.calls_of_grow granted, rfl, rfl⟩
  | refusedAlloc positive arena refused => exact ⟨_, _, Heap.calls_of_alloc refused, rfl, rfl⟩
  | pushed positive inUse arena granted => exact ⟨_, _, Heap.calls_of_alloc granted, rfl, rfl⟩

/-- A granted growth leaves a chunk of its capacity with nothing used in it,
    and all counters as they were. -/
theorem Grown.granted {s room : Site} {growth : Growth} {c : Chunk}
    (h : s.Grown growth (.ok c, room)) :
    s.arena.SameBooks room.arena ∧ room.arena.used = 0
      ∧ room.arena.currentCapacity = growth.capacity := by
  obtain ⟨hcapacity, hused, older, hc⟩ := h.on_top
  exact ⟨h.resized.books, hused, (Arena.currentCapacity_of_cons hc).trans hcapacity⟩

/-- Room made is room beside what is in use. -/
theorem Grown.capacity {s room : Site} {growth : Growth} {c : Chunk}
    (h : s.Grown growth (.ok c, room)) :
    room.arena.capacity = s.arena.total + growth.capacity := by
  obtain ⟨hbooks, hused, hcapacity⟩ := h.granted
  rw [Arena.capacity, hbooks.total, hused, hcapacity, Nat.sub_zero]

/-- What can become of a request for some bytes where `padding` is due. -/
inductive Outcome (s : Site) (padding size : Nat) : Except Failure Pointer × Site → Prop where
  | overflow {s' : Site}
      (beyond : s.arena.settings.maxSize < s.arena.total + padding + size)
      (arena : s'.arena = s.arena) (heap : s'.heap = s.heap) :
      Outcome s padding size
        (.error (.overflow size s.arena.total s.arena.settings.maxSize), s')
  | inside {c : Chunk} {older : List Chunk} {s' : Site}
      (limit : s.arena.total + padding + size ≤ s.arena.settings.maxSize)
      (chunks : s.arena.chunks = c :: older)
      (fits : s.arena.used + padding + size ≤ c.capacity)
      (arena : s'.arena = s.arena.bump (s.arena.used + padding) padding size)
      (heap : s.heap.Alike s'.heap) :
      Outcome s padding size (.ok ⟨c.block, s.arena.used + padding⟩, s')
  | refused {e : Failure} {s' : Site} (cramped : s.arena.Cramped padding size)
      (grown : s.Grown (s.arena.plan padding size) (.error e, s')) :
      Outcome s padding size (.error e, s')
  | grown {c : Chunk} {room s' : Site} (cramped : s.arena.Cramped padding size)
      (grown : s.Grown (s.arena.plan padding size) (.ok c, room))
      (arena : s'.arena = room.arena.bump 0 padding size)
      (heap : room.heap.Alike s'.heap) :
      Outcome s padding size (.ok ⟨c.block, 0⟩, s')

/-- The outcome of a request, with all sizes in it. -/
theorem allocBytes_outcome {s : Site} (h : s.arena.Sound) {size : Nat} (hsize : 0 < size)
    (align : Nat) :
    s.Outcome (padding s.arena.used (clampAlign align)) size (s.allocBytes size align) := by
  have hpadding : s.arena.used = 0 → padding s.arena.used (clampAlign align) = 0 := by
    intro hz
    rw [hz]
    exact padding_zero_clampAlign align
  rw [allocBytes_eq s hsize align]
  split
  · rename_i hbeyond
    exact .overflow hbeyond rfl rfl
  · rename_i hlimit
    by_cases hfull : s.arena.currentCapacity
        < s.arena.used + padding s.arena.used (clampAlign align) + size
    · have hplan := Arena.placement_of_full hpadding h.used_le_capacity hfull
      obtain ⟨hapt, -, hland⟩ := h.placement_after hsize (by omega) hplan
      have hgrown := grow_grown hapt
      have hcramped : s.arena.Cramped _ size := ⟨Nat.le_of_not_lt hlimit, hfull⟩
      simp only [hplan]
      split
      · rename_i c room hg
        rw [hg] at hgrown
        obtain ⟨-, harena, hheap⟩ := room.place_eq c 0
          (padding s.arena.used (clampAlign align)) size
        rw [hland]
        exact .grown hcramped hgrown harena hheap
      · rename_i e s' hg
        rw [hg] at hgrown
        exact .refused hcramped hgrown
    · -- some bytes fit only in a chunk
      obtain ⟨c, older, hc⟩ : ∃ c older, s.arena.chunks = c :: older := by
        cases hc : s.arena.chunks with
        | nil =>
            rw [Arena.currentCapacity_of_nil hc] at hfull
            omega
        | cons c older => exact ⟨c, older, rfl⟩
      have hfits := Nat.le_of_not_lt hfull
      rw [Arena.currentCapacity_of_cons hc] at hfits
      simp only [Arena.placement_of_fits hc hfits]
      obtain ⟨-, harena, hheap⟩ := s.place_eq c
        (s.arena.used + padding s.arena.used (clampAlign align))
        (padding s.arena.used (clampAlign align)) size
      exact .inside (Nat.le_of_not_lt hlimit) hc hfits harena hheap

namespace Outcome

variable {s : Site} {padding size : Nat} {outcome : Except Failure Pointer × Site}

/-- Only a request over the limit is answered so. -/
theorem overflow_iff (h : s.Outcome padding size outcome) :
    outcome.1 = .error (.overflow size s.arena.total s.arena.settings.maxSize)
      ↔ s.arena.settings.maxSize < s.arena.total + padding + size := by
  cases h with
  | overflow beyond arena heap => exact ⟨fun _ => beyond, fun _ => rfl⟩
  | inside limit chunks fits arena heap => exact ⟨nofun, fun _ => by omega⟩
  | refused cramped grown =>
      refine ⟨?_, fun hbeyond => absurd cramped.limit (Nat.not_le_of_lt hbeyond)⟩
      intro hanswer
      obtain rfl := Except.error.inj hanswer
      generalize s.arena.plan padding size = growth at grown
      cases grown
  | grown cramped grown arena heap =>
      exact ⟨nofun, fun hbeyond => absurd cramped.limit (Nat.not_le_of_lt hbeyond)⟩

/-- Over the limit nothing is asked and nothing changes. -/
theorem of_beyond (h : s.Outcome padding size outcome)
    (hbeyond : s.arena.settings.maxSize < s.arena.total + padding + size) :
    outcome.2.arena = s.arena ∧ outcome.2.heap = s.heap := by
  cases h with
  | overflow beyond arena heap => exact ⟨arena, heap⟩
  | inside limit chunks fits arena heap => omega
  | refused cramped grown => exact absurd cramped.limit (Nat.not_le_of_lt hbeyond)
  | grown cramped grown arena heap => exact absurd cramped.limit (Nat.not_le_of_lt hbeyond)

/-- Where the bytes fit, they are placed after the padding. -/
theorem of_fits (h : s.Outcome padding size outcome)
    (hlimit : s.arena.total + padding + size ≤ s.arena.settings.maxSize)
    (hfits : s.arena.used + padding + size ≤ s.arena.currentCapacity) :
    outcome.2.heap.calls = s.heap.calls
      ∧ outcome.2.arena = s.arena.bump (s.arena.used + padding) padding size
      ∧ ∃ c, s.arena.current? = some c ∧ outcome.1 = .ok ⟨c.block, s.arena.used + padding⟩ := by
  cases h with
  | overflow beyond arena heap => omega
  | inside limit chunks fits arena heap =>
      exact ⟨heap.calls, arena, _, Arena.current?_of_cons chunks, rfl⟩
  | refused cramped grown => exact absurd cramped.full (Nat.not_lt_of_le hfits)
  | grown cramped grown arena heap => exact absurd cramped.full (Nat.not_lt_of_le hfits)

/-- Where they do not fit, the heap is asked once. -/
theorem of_cramped (h : s.Outcome padding size outcome)
    (hcramped : s.arena.Cramped padding size) :
    ∃ call, outcome.2.heap.calls = s.heap.calls ++ [call] := by
  cases h with
  | overflow beyond arena heap => exact absurd hcramped.limit (Nat.not_le_of_lt beyond)
  | inside limit chunks fits arena heap =>
      rw [← Arena.currentCapacity_of_cons chunks] at fits
      exact absurd hcramped.full (Nat.not_lt_of_le fits)
  | refused cramped grown =>
      obtain ⟨call, -, hcalls, -⟩ := grown.asked
      exact ⟨call, hcalls⟩
  | grown cramped grown arena heap =>
      obtain ⟨call, -, hcalls, -⟩ := grown.asked
      exact ⟨call, heap.calls.trans hcalls⟩

/-- Where they do not fit and nothing points into the newest chunk, it is
    to be extended. -/
theorem of_unused (h : s.Outcome padding size outcome)
    (hcramped : s.arena.Cramped padding size) {c : Chunk}
    (hcurrent : s.arena.current? = some c) (hunused : s.arena.used = 0) :
    ∃ granted, outcome.2.heap.calls
        = s.heap.calls ++ [.grow c.block c.capacity (max s.arena.headroom size) granted]
      ∧ (granted = none → outcome.2.arena = s.arena
        ∧ outcome.1 = .error (.outOfMemory (max s.arena.headroom size)))
      ∧ ∀ block, granted = some block → outcome.1 = .ok ⟨block, 0⟩
        ∧ outcome.2.arena
          = (s.arena.extend block (max s.arena.headroom size)).bump 0 padding size := by
  have hne : s.arena.chunks ≠ [] := by
    intro hnil
    rw [show s.arena.current? = s.arena.chunks.head? from rfl, hnil] at hcurrent
    exact nomatch hcurrent
  cases h with
  | overflow beyond arena heap => exact absurd hcramped.limit (Nat.not_le_of_lt beyond)
  | inside limit chunks fits arena heap =>
      rw [← Arena.currentCapacity_of_cons chunks] at fits
      exact absurd hcramped.full (Nat.not_lt_of_le fits)
  | refused cramped grown =>
      rw [Arena.plan_extend hne hunused] at grown
      cases grown with
      | refusedGrow chunks unused larger arena refused =>
          obtain rfl := Option.some.inj (hcurrent.symm.trans (Arena.current?_of_cons chunks))
          exact ⟨none, Heap.calls_of_grow refused, fun _ => ⟨arena, rfl⟩, nofun⟩
  | grown cramped grown arena heap =>
      rw [Arena.plan_extend hne hunused] at grown
      cases grown with
      | extended chunks unused larger room granted =>
          obtain rfl := Option.some.inj (hcurrent.symm.trans (Arena.current?_of_cons chunks))
          refine ⟨some _, heap.calls.trans (Heap.calls_of_grow granted), nofun, ?_⟩
          intro block hblock
          obtain rfl := Option.some.inj hblock
          exact ⟨rfl, by rw [arena, room]⟩

/-- Where they do not fit otherwise, a new chunk is to take over. -/
theorem of_inUse (h : s.Outcome padding size outcome)
    (hcramped : s.arena.Cramped padding size) (hor : s.arena.current? = none ∨ 0 < s.arena.used) :
    ∃ granted, outcome.2.heap.calls
        = s.heap.calls ++ [.alloc (s.arena.successor padding size) granted]
      ∧ (granted = none → outcome.2.arena = s.arena
        ∧ outcome.1 = .error (.outOfMemory (s.arena.successor padding size)))
      ∧ ∀ block, granted = some block → outcome.1 = .ok ⟨block, 0⟩
        ∧ outcome.2.arena
          = (s.arena.push block (s.arena.successor padding size)).bump 0 padding size := by
  have hplan : s.arena.plan padding size = .replace (s.arena.successor padding size) :=
    Arena.plan_replace (hor.imp_left List.head?_eq_none_iff.mp)
  cases h with
  | overflow beyond arena heap => exact absurd hcramped.limit (Nat.not_le_of_lt beyond)
  | inside limit chunks fits arena heap =>
      rw [← Arena.currentCapacity_of_cons chunks] at fits
      exact absurd hcramped.full (Nat.not_lt_of_le fits)
  | refused cramped grown =>
      rw [hplan] at grown
      cases grown with
      | refusedAlloc positive arena refused =>
          exact ⟨none, Heap.calls_of_alloc refused, fun _ => ⟨arena, rfl⟩, nofun⟩
  | grown cramped grown arena heap =>
      rw [hplan] at grown
      cases grown with
      | @pushed n block s' positive inUse room granted =>
          refine ⟨some block, heap.calls.trans (Heap.calls_of_alloc granted), nofun, ?_⟩
          intro block' hblock
          obtain rfl := Option.some.inj hblock
          exact ⟨rfl, by rw [arena, room]⟩

end Outcome

end Site

namespace History

/-- How a request for some bytes ends after any run, whatever the heap
    answers.  It is over the limit and asks for nothing, or it fits and asks
    for nothing, or it asks once: for more room in an unused chunk, or for a
    new chunk. -/
theorem allocation_outcome {settings : Settings} (words : settings.maxSize ≤ Word.largest)
    {id : Nat} {heap : Heap} (built : (Site.establish settings id heap).1 = .ok ())
    (ops : List Op) {s : Site} (reached : s = ((start settings id heap).run ops).site)
    {size align pad : Nat} (positive : 0 < size)
    (least : IsLeast {p | clampAlign align ∣ s.arena.used + p} pad)
    {answer : Except Failure Pointer} {s' : Site}
    (answered : s.allocBytes size align = (answer, s')) :
    (answer = .error (.overflow size s.arena.total s.arena.settings.maxSize)
      ↔ s.arena.settings.maxSize < s.arena.total + pad + size)
    ∧ (s.arena.settings.maxSize < s.arena.total + pad + size →
      s'.arena = s.arena ∧ s'.heap = s.heap)
    ∧ (s.arena.total + pad + size ≤ s.arena.settings.maxSize →
      (s'.heap.calls = s.heap.calls ↔ s.arena.used + pad + size ≤ s.arena.currentCapacity)
      ∧ (s.arena.used + pad + size ≤ s.arena.currentCapacity →
        s'.arena = s.arena.bump (s.arena.used + pad) pad size
        ∧ ∃ c, s.arena.current? = some c ∧ answer = .ok ⟨c.block, s.arena.used + pad⟩)
      ∧ (s.arena.currentCapacity < s.arena.used + pad + size →
        (∀ c n, s.arena.current? = some c → s.arena.used = 0 →
          n = max (s.arena.peak - s.arena.total) size →
          ∃ granted, s'.heap.calls = s.heap.calls ++ [.grow c.block c.capacity n granted]
            ∧ (granted = none → s'.arena = s.arena ∧ answer = .error (.outOfMemory n))
            ∧ ∀ block, granted = some block → answer = .ok ⟨block, 0⟩
              ∧ s'.arena = (s.arena.extend block n).bump 0 pad size)
        ∧ (∀ n, s.arena.current? = none ∨ 0 < s.arena.used →
          (n = if s.arena.used + pad ≤ s.arena.currentCapacity then
              Word.satAdd (max (s.arena.peak - s.arena.total) size) s.arena.settings.spare
            else max (s.arena.peak - s.arena.total) (Word.satAdd size s.arena.settings.spare)) →
          ∃ granted, s'.heap.calls = s.heap.calls ++ [.alloc n granted]
            ∧ (granted = none → s'.arena = s.arena ∧ answer = .error (.outOfMemory n))
            ∧ ∀ block, granted = some block → answer = .ok ⟨block, 0⟩
              ∧ s'.arena = (s.arena.push block n).bump 0 pad size))) := by
  have hs : (start settings id heap).Sound := Sound.start words built
  have ha : s.arena.Sound := reached ▸ (hs.run ops).site.arena
  obtain rfl := least.unique (isLeast_padding s.arena.used align)
  have h := Site.allocBytes_outcome ha positive align
  rw [answered] at h
  refine ⟨h.overflow_iff, h.of_beyond, fun hlimit => ⟨⟨?_, ?_⟩, ?_, fun hfull => ⟨?_, ?_⟩⟩⟩
  · intro hcalls
    refine Nat.le_of_not_lt fun hfull => ?_
    obtain ⟨call, hcall⟩ := h.of_cramped ⟨hlimit, hfull⟩
    exact List.cons_ne_nil call [] (List.append_right_eq_self.mp (hcall.symm.trans hcalls))
  · exact fun hfits => (h.of_fits hlimit hfits).1
  · exact fun hfits => (h.of_fits hlimit hfits).2
  · rintro c n hcurrent hunused rfl
    exact h.of_unused ⟨hlimit, hfull⟩ hcurrent hunused
  · rintro n hor rfl
    exact h.of_inUse ⟨hlimit, hfull⟩ hor

/-- With 60 of 124 bytes in use, 180 more at a multiple of eight would begin
    at 64 and do not fit: a chunk of 244 bytes is asked for, and refused. -/
theorem allocation_outcome_refused :
    let s := ((start (.standard true) 0 (Heap.fresh (Limits.policy ⟨200, 1000, false⟩))).run
      [.allocate (.bytes 60 1)]).site
    let s' := (s.allocBytes 180 8).2
    (s.arena.used, s.arena.currentCapacity) = (60, 124)
      ∧ IsLeast {p | clampAlign 8 ∣ s.arena.used + p} 4
      ∧ (s.allocBytes 180 8).1 = .error (.outOfMemory 244)
      ∧ s'.arena = s.arena ∧ s'.heap.calls = s.heap.calls ++ [.alloc 244 none] := by
  intro s s'
  have built : (Site.establish (.standard true) 0
      (Heap.fresh (Limits.policy ⟨200, 1000, false⟩))).1 = .ok () :=
    rfl
  have hleast := isLeast_padding s.arena.used 8
  rw [show padding s.arena.used (clampAlign 8) = 4 by decide +kernel] at hleast
  have hcalls : s'.heap.calls = s.heap.calls ++ [.alloc 244 none] := by decide +kernel
  have hanswered : s.allocBytes 180 8 = ((s.allocBytes 180 8).1, s') := rfl
  generalize (s.allocBytes 180 8).1 = answer at hanswered ⊢
  generalize s' = s' at hcalls hanswered ⊢
  obtain ⟨-, -, hwithin⟩ :=
    allocation_outcome (by decide) built _ rfl (by decide) hleast hanswered
  obtain ⟨-, -, hfull⟩ := hwithin (by decide +kernel)
  obtain ⟨granted, hasked, hrefused, -⟩ :=
    (hfull (by decide +kernel)).2 244 (Or.inr (by decide +kernel)) (by decide +kernel)
  obtain rfl : none = granted :=
    (Call.alloc.inj (List.cons.inj (List.append_cancel_left (hcalls.symm.trans hasked))).1).2
  obtain ⟨harena, hanswer⟩ := hrefused rfl
  exact ⟨by decide +kernel, hleast, hanswer, harena, hcalls⟩

end History

end ScratchArena
