import ScratchArena.Proofs.Clearing

/-! # Requests — what comes of asking for memory

    There are four ways to ask for memory and all end in a request for
    bytes.  It fails and leaves the arena as it was, or it asks for nothing
    and at most makes room, or it is allotted a range of the newest chunk.
    `Site.Answered` lists these, so that no later proof looks at a request
    again. -/

namespace ScratchArena

/-- A request for memory. -/
inductive Demand where
  | array (element : Element) (count : Nat)
  | aligned (count size align : Nat)
  | bytes (size align : Nat)
  | copy (element : Element) (values : List Nat)
deriving DecidableEq, Repr

namespace Demand

/-- Bytes asked for. -/
def size : Demand → Nat
  | .array element count => count * element.size
  | .aligned count size _ => count * size
  | .bytes size _ => size
  | .copy element values => values.length * element.size

/-- Alignment asked for. -/
def align : Demand → Nat
  | .array element _ => element.align
  | .aligned _ _ align => align
  | .bytes _ align => align
  | .copy element _ => element.align

/-- The request made of an arena. -/
def serve (s : Site) : Demand → Except Failure Pointer × Site
  | .array element count => s.alloc element count
  | .aligned count size align => s.allocAligned count size align
  | .bytes size align => s.allocBytes size align
  | .copy element values => s.allocCopy element values

end Demand

/-- The same but for what is written in the blocks and what is logged. -/
structure Site.Alike (s s' : Site) : Prop where
  arena : s'.arena = s.arena
  heap : s.heap.Alike s'.heap

/-- Room that is allotted leaves a site sound. -/
theorem Site.Allotted.sound {s room s' : Site} {c : Chunk} {offset size align : Nat}
    (ha : s.Allotted room s' c offset size align) (hs : s.Sound) (hsize : 0 < size) :
    s'.Sound := by
  have hroom := ha.resized.sound hs
  have hb := ha.resized.books
  obtain ⟨older, hc⟩ := ha.on_top
  have hbump : s'.arena.Sound := by
    rw [ha.arena]
    refine hroom.arena.bump hc hsize ha.within ?_ ?_ ?_
    · rw [hb.total]
      exact ha.charged
    · rw [hb.total, hb.settings]
      exact ha.limit
    · intro hnil
      -- a first chunk is padded as it was before there was room
      have hret : room.arena.retired = [] := by rw [Arena.retired_of_cons hc, hnil]
      have hused := ha.resized.used_of_unretired hs.arena hret
      have htotal := hroom.arena.used_of_unretired hret
      rw [ha.padded, ← hused, htotal]
  refine hroom.of_sublist hbump ?_ ha.heap.blocks
  rw [ha.arena]
  exact List.Sublist.refl _

/-- What can come of a request for `size` bytes. -/
inductive Site.Answered (s : Site) (size align : Nat) : Except Failure Pointer × Site → Prop where
  | failed {e : Failure} {s' : Site} (resized : Resized s s') (arena : s'.arena = s.arena) :
      Answered s size align (.error e, s')
  | nothing {p : Pointer} {room s' : Site} (empty : size = 0) (resized : Resized s room)
      (alike : room.Alike s') (on_top : s'.arena.chunks ≠ []) :
      Answered s size align (.ok p, s')
  | allotted {room s' : Site} {c : Chunk} {offset : Nat} (positive : 0 < size)
      (allotted : s.Allotted room s' c offset size align) :
      Answered s size align (.ok ⟨c.block, offset⟩, s')

namespace Site

variable {s : Site}

theorem Alike.refl (s : Site) : s.Alike s := ⟨rfl, Heap.Alike.refl _⟩

theorem Alike.trans {s s' s'' : Site} (h : s.Alike s') (h' : s'.Alike s'') : s.Alike s'' :=
  ⟨h'.arena.trans h.arena, h.heap.trans h'.heap⟩

theorem alike_write (s : Site) (block offset : Nat) (data : List UInt8) :
    s.Alike { s with heap := s.heap.write block offset data } :=
  ⟨rfl, s.heap.alike_write ..⟩

/-- What is written to a site that answered is of no matter. -/
theorem Answered.alike {size align : Nat} {p : Pointer} {s' s'' : Site}
    (h : s.Answered size align (.ok p, s')) (ha : s'.Alike s'') :
    s.Answered size align (.ok p, s'') := by
  cases h with
  | nothing empty resized alike on_top =>
      exact .nothing empty resized (alike.trans ha) (ha.arena ▸ on_top)
  | allotted positive allotted =>
      exact .allotted positive { allotted with
        arena := ha.arena.trans allotted.arena
        heap := allotted.heap.trans ha.heap }

/-- What a request for bytes comes to. -/
theorem allocBytes_answered (h : s.arena.Sound) (size align : Nat) :
    s.Answered size align (s.allocBytes size align) := by
  cases he : s.allocBytes size align with
  | mk outcome s' =>
      cases outcome with
      | error e =>
          obtain ⟨hr, harena⟩ := allocBytes_error h he
          exact .failed hr harena
      | ok p =>
          rcases Nat.eq_zero_or_pos size with hz | hpos
          · have hr := allocNothing_resized h
            have htop := allocNothing_ok h (p := p)
            rw [show s.allocNothing = s.allocBytes size align from (if_pos hz).symm, he]
              at hr htop
            exact .nothing hz hr (Alike.refl s') (htop rfl)
          · obtain ⟨room, c, ha, hblock⟩ := allocBytes_ok h hpos he
            obtain ⟨block, offset⟩ := p
            obtain rfl : block = c.block := hblock
            exact .allotted hpos ha

/-- A product that no word holds is refused before anything is done. -/
theorem allocAligned_cases (s : Site) (count size align : Nat) :
    s.allocAligned count size align = s.overflow (Word.satMul count size)
      ∨ s.allocAligned count size align = s.allocBytes (count * size) align := by
  cases hm : Word.mul? count size with
  | none => exact Or.inl (by simp only [allocAligned, hm])
  | some bytes =>
      rw [(Word.mul?_eq_some_iff.mp hm).1]
      exact Or.inr (by simp only [allocAligned, hm])

theorem allocAligned_answered (h : s.arena.Sound) (count size align : Nat) :
    s.Answered (count * size) align (s.allocAligned count size align) := by
  rcases s.allocAligned_cases count size align with heq | heq
  · rw [heq]
    exact .failed (.idle rfl rfl) rfl
  · rw [heq]
    exact allocBytes_answered h (count * size) align

/-- A copy is an allocation that is written to. -/
theorem allocCopy_cases (s : Site) (element : Element) (values : List Nat) :
    (∃ e s', s.alloc element values.length = (.error e, s')
      ∧ s.allocCopy element values = (.error e, s'))
    ∨ ∃ p s', s.alloc element values.length = (.ok p, s')
      ∧ s.allocCopy element values = (.ok p, { s' with
        heap := s'.heap.write p.block p.offset (values.flatMap (littleEndian element.size)) }) := by
  cases he : s.alloc element values.length with
  | mk outcome s' =>
      cases outcome with
      | error e => exact Or.inl ⟨e, s', rfl, by simp only [allocCopy, he]⟩
      | ok p => exact Or.inr ⟨p, s', rfl, by simp only [allocCopy, he]⟩

theorem allocCopy_answered (h : s.arena.Sound) (element : Element) (values : List Nat) :
    s.Answered (values.length * element.size) element.align (s.allocCopy element values) := by
  have ha : s.Answered _ _ (s.alloc element values.length) :=
    allocAligned_answered h values.length element.size element.align
  rcases s.allocCopy_cases element values with ⟨e, s', he, heq⟩ | ⟨p, s', he, heq⟩
  · rw [he] at ha
    rw [heq]
    exact ha
  · rw [he] at ha
    rw [heq]
    exact ha.alike (s'.alike_write ..)

end Site

/-- What a request of any kind comes to. -/
theorem Demand.answered {s : Site} (h : s.arena.Sound) (demand : Demand) :
    s.Answered demand.size demand.align (demand.serve s) := by
  cases demand with
  | array element count => exact Site.allocAligned_answered h count element.size element.align
  | aligned count size align => exact Site.allocAligned_answered h count size align
  | bytes size align => exact Site.allocBytes_answered h size align
  | copy element values => exact Site.allocCopy_answered h element values

/-- A request for memory is one for bytes, whatever is written there then,
    unless its size is no word. -/
theorem Demand.serve_cases (s : Site) (demand : Demand) :
    ((demand.serve s).2.arena = s.arena ∧ (demand.serve s).2.heap = s.heap)
      ∨ (s.allocBytes demand.size demand.align).2.Alike (demand.serve s).2 := by
  have haligned (count size align : Nat) :
      ((s.allocAligned count size align).2.arena = s.arena
          ∧ (s.allocAligned count size align).2.heap = s.heap)
        ∨ (s.allocBytes (count * size) align).2.Alike (s.allocAligned count size align).2 := by
    rcases s.allocAligned_cases count size align with heq | heq
    · rw [heq]
      exact Or.inl ⟨rfl, rfl⟩
    · rw [heq]
      exact Or.inr (.refl _)
  cases demand with
  | array element count => exact haligned count element.size element.align
  | aligned count size align => exact haligned count size align
  | bytes size align => exact Or.inr (.refl _)
  | copy element values =>
      have hall := haligned values.length element.size element.align
      show ((s.allocCopy element values).2.arena = s.arena
          ∧ (s.allocCopy element values).2.heap = s.heap)
        ∨ (s.allocBytes (values.length * element.size) element.align).2.Alike
          (s.allocCopy element values).2
      rcases s.allocCopy_cases element values with ⟨e, s', he, heq⟩ | ⟨p, s', he, heq⟩
      · rw [show s.allocAligned values.length element.size element.align = (.error e, s')
          from he] at hall
        rw [heq]
        exact hall
      · rcases s.allocAligned_cases values.length element.size element.align with hx | hx
        · exact absurd (he.symm.trans hx) ok_ne_error
        · rw [show s.allocBytes (values.length * element.size) element.align = (.ok p, s')
            from hx.symm.trans he, heq]
          exact Or.inr (s'.alike_write ..)

namespace Site.Answered

variable {s : Site} {size align : Nat} {outcome : Except Failure Pointer × Site}

/-- A request asks the heap for nothing but room. -/
theorem asked (h : s.Answered size align outcome) :
    ∃ room, Resized s room ∧ outcome.2.heap.calls = room.heap.calls := by
  cases h with
  | failed resized arena => exact ⟨_, resized, rfl⟩
  | nothing empty resized alike => exact ⟨_, resized, alike.heap.calls⟩
  | allotted positive allotted => exact ⟨_, allotted.resized, allotted.heap.calls⟩

/-- A request leaves a site sound. -/
theorem sound (h : s.Answered size align outcome) (hs : s.Sound) : outcome.2.Sound := by
  cases h with
  | failed resized arena => exact resized.sound hs
  | nothing empty resized alike =>
      exact (resized.sound hs).of_arena_eq alike.arena alike.heap.blocks
  | allotted positive allotted => exact allotted.sound hs positive

theorem policy (h : s.Answered size align outcome) :
    outcome.2.heap.policy = s.heap.policy := by
  cases h with
  | failed resized arena => exact resized.policy
  | nothing empty resized alike => exact alike.heap.policy.trans resized.policy
  | allotted positive allotted => exact allotted.heap.policy.trans allotted.resized.policy

theorem settings (h : s.Answered size align outcome) :
    outcome.2.arena.settings = s.arena.settings := by
  cases h with
  | failed resized arena => rw [arena]
  | nothing empty resized alike =>
      rw [alike.arena]
      exact resized.books.settings
  | allotted positive allotted =>
      rw [allotted.arena]
      exact allotted.resized.books.settings

/-- A request takes nothing out of use. -/
theorem total_le (h : s.Answered size align outcome) :
    s.arena.total ≤ outcome.2.arena.total := by
  cases h with
  | failed resized arena => rw [arena]
  | nothing empty resized alike => rw [alike.arena, resized.books.total]
  | @allotted room s' c offset positive allotted =>
      rw [allotted.arena, ← allotted.resized.books.total]
      show room.arena.total ≤ room.arena.total + _ + size
      omega

/-- A request raises the peak to the total where that goes beyond it. -/
theorem peak_eq_max (h : s.Answered size align outcome) (hle : s.arena.total ≤ s.arena.peak) :
    outcome.2.arena.peak = max s.arena.peak outcome.2.arena.total := by
  cases h with
  | failed resized arena =>
      rw [arena]
      exact (max_eq_left hle).symm
  | nothing empty resized alike =>
      rw [alike.arena, resized.books.peak, resized.books.total]
      exact (max_eq_left hle).symm
  | allotted positive allotted =>
      rw [allotted.arena, ← allotted.resized.books.peak]
      rfl

/-- A request that is granted leaves a chunk. -/
theorem chunks_ne_nil {p : Pointer} {s' : Site} (h : s.Answered size align (.ok p, s')) :
    s'.arena.chunks ≠ [] := by
  cases h with
  | nothing empty resized alike on_top => exact on_top
  | allotted positive allotted =>
      obtain ⟨older, hc⟩ := allotted.on_top
      rw [allotted.arena, show (Arena.bump _ _ _ _).chunks = _ from hc]
      exact List.cons_ne_nil _ _

/-- A request leaves the checkpoints on record. -/
theorem marks (h : s.Answered size align outcome) : s.arena.SameMarks outcome.2.arena := by
  cases h with
  | failed resized arena => exact resized.books.toSameMarks
  | nothing empty resized alike =>
      rw [alike.arena]
      exact resized.books.toSameMarks
  | allotted positive allotted =>
      rw [allotted.arena]
      obtain ⟨id, generation, marks, nextMark⟩ := allotted.resized.books.toSameMarks
      exact ⟨id, generation, marks, nextMark⟩

end Site.Answered

end ScratchArena
