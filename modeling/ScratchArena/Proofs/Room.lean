import ScratchArena.Proofs.Carrying
import ScratchArena.Proofs.LiveAllocations
import ScratchArena.Proofs.Settling

/-! # Room — what is promised is delivered

    The capacity counts the bytes in use of every chunk and the room in the
    newest one, so what it has beyond the total is room in the newest
    chunk.  Requests that end within it, laid end to end, are served
    without the heap, and no others are.

    A reservation promises such room.  It adds sizes that saturate, and a
    sum held at the largest word would promise too much.  But no heap
    grants a block that large, so a sum that was granted, or that is below
    the capacity of a chunk, is a true one. -/

namespace ScratchArena

/-- The largest block on offer anywhere: half of the addresses, less one
    word. -/
def largestBlock : Nat := 2 ^ 63 - 8

/-- The heap grants no block of more than `most` bytes. -/
def Heap.Limited (most : Nat) (h : Heap) : Prop :=
  ∀ calls request, most < request.new → h.policy calls request = .refused

/-- A heap with limits grants no block beyond them. -/
theorem Limits.limited {limits : Limits} {most : Nat} (h : limits.block ≤ most) :
    (Heap.fresh limits.policy).Limited most := by
  intro calls request hlt
  refine if_neg ?_
  rw [decide_eq_false (show ¬ request.new ≤ limits.block by omega), Bool.and_false,
    Bool.false_and]
  exact Bool.false_ne_true

namespace Heap.Limited

variable {most : Nat} {h h' : Heap}

theorem congr (hl : h.Limited most) (hpolicy : h'.policy = h.policy) : h'.Limited most := by
  rw [Limited, hpolicy]
  exact hl

/-- A limited heap grants no block beyond its limit. -/
theorem of_alloc (hl : h.Limited most) {size block : Nat}
    (granted : h.alloc size = (some block, h')) : size ≤ most := by
  refine Nat.le_of_not_lt fun hlt => ?_
  have hnone := (h.alloc_fst_eq_none_iff size).mpr (hl _ ⟨0, size⟩ hlt)
  rw [granted] at hnone
  exact nomatch hnone

/-- Nor does it grow one beyond it. -/
theorem of_grow (hl : h.Limited most) {block old new answer : Nat}
    (granted : h.grow block old new = (some answer, h')) : new ≤ most := by
  refine Nat.le_of_not_lt fun hlt => ?_
  have hnone := (h.grow_fst_eq_none_iff block old new).mpr (hl _ ⟨old, new⟩ hlt)
  rw [granted] at hnone
  exact nomatch hnone

end Heap.Limited

/-! ## No chunk is larger than the heap allows -/

/-- Neither the heap nor the arena has more than `most` bytes in one
    piece. -/
structure Site.Bounded (most : Nat) (s : Site) : Prop where
  limited : s.heap.Limited most
  chunks : ∀ c ∈ s.arena.chunks, c.capacity ≤ most

namespace Site.Bounded

variable {most : Nat} {s s' : Site}

theorem currentCapacity_le (hb : s.Bounded most) : s.arena.currentCapacity ≤ most := by
  cases hc : s.arena.chunks with
  | nil => rw [Arena.currentCapacity_of_nil hc]; exact Nat.zero_le _
  | cons c older =>
      rw [Arena.currentCapacity_of_cons hc]
      exact hb.chunks c (hc ▸ List.mem_cons_self)

/-- A growth keeps the chunks bounded. -/
theorem resized (hb : s.Bounded most) (hr : Resized s s') : s'.Bounded most := by
  refine ⟨hb.limited.congr hr.policy, ?_⟩
  cases hr with
  | idle arena heap => rw [arena]; exact hb.chunks
  | refusedGrow chunks unused larger arena refused => rw [arena]; exact hb.chunks
  | refusedAlloc positive arena refused => rw [arena]; exact hb.chunks
  | @extended c older answer n chunks unused larger arena granted =>
      have hold := hb.chunks
      rw [chunks] at hold
      rw [arena, Arena.extend_chunks chunks]
      rintro d (_ | ⟨_, hd⟩)
      · exact hb.limited.of_grow granted
      · exact hold d (List.mem_cons_of_mem _ hd)
  | pushed positive inUse arena granted =>
      rw [arena]
      rintro d (_ | ⟨_, hd⟩)
      · exact hb.limited.of_alloc granted
      · exact hb.chunks d hd

/-- So do freed chunks. -/
theorem freed (hb : s.Bounded most) {gone : List Chunk} (hf : s.Freed s' gone) :
    s'.Bounded most := by
  refine ⟨hb.limited.congr ?_, fun c hc => hb.chunks c (hf.kept.subset hc)⟩
  rw [hf.heap]
  exact s.heap.policy_freeAll gone

theorem same (hb : s.Bounded most) (hsame : s.SameChunks s') : s'.Bounded most :=
  ⟨hb.limited.congr hsame.heap.policy, by rw [hsame.chunks]; exact hb.chunks⟩

end Site.Bounded

namespace History

variable {most : Nat} {h : History}

/-- Every call keeps the chunks bounded. -/
theorem Sound.bounded_step (hs : h.Sound) (hb : h.site.Bounded most) (op : Op) :
    (h.step op).site.Bounded most := by
  obtain ⟨kept, room, gone, hf, hr, hsame⟩ := (hs.moved op).split
  exact ((hb.freed hf).resized hr).same hsame

/-- So does a whole run. -/
theorem Sound.bounded_run (hs : h.Sound) (hb : h.site.Bounded most) (ops : List Op) :
    (h.run ops).site.Bounded most :=
  (run_induct (P := fun h => h.Sound ∧ h.site.Bounded most) ⟨hs, hb⟩
    (fun _ op hp => ⟨hp.1.step op, hp.1.bounded_step hp.2 op⟩) ops).2

theorem bounded_start {settings : Settings} (words : settings.maxSize ≤ Word.largest) {id : Nat}
    {heap : Heap} (built : (Site.establish settings id heap).1 = .ok ())
    (limited : heap.Limited most) : (start settings id heap).site.Bounded most := by
  obtain ⟨hvalid, heq⟩ := start_eq built
  have hbare : (Site.bare settings id heap).Bounded most := ⟨limited, fun _ hc => nomatch hc⟩
  rw [heq]
  exact hbare.resized (Site.reserve_resized (Arena.Sound.bare hvalid words id) _)

end History

/-! ## Reservations -/

/-- A planned growth is as large as what it is for, unless it is held at the
    largest word. -/
theorem Arena.le_growthFor_capacity {a : Arena} {offset more : Nat}
    (hword : (a.growthFor offset more).capacity < Word.largest) :
    more ≤ (a.growthFor offset more).capacity := by
  by_cases hx : a.chunks ≠ [] ∧ offset = 0
  · rw [show a.growthFor offset more = .extend more from if_pos hx]
    exact Nat.le_refl _
  · rw [show a.growthFor offset more = .replace (Word.satAdd more a.settings.spare)
      from if_neg hx] at hword ⊢
    have hword : min (more + a.settings.spare) Word.largest < Word.largest := hword
    show more ≤ min (more + a.settings.spare) Word.largest
    omega

/-- A growth that is granted stays within the limit. -/
theorem Site.Grown.capacity_le {most : Nat} {s room : Site} {growth : Growth} {c : Chunk}
    (hgrown : s.Grown growth (.ok c, room)) (hl : s.heap.Limited most) :
    growth.capacity ≤ most := by
  cases hgrown with
  | extended chunks unused larger arena granted => exact hl.of_grow granted
  | pushed positive inUse arena granted => exact hl.of_alloc granted

/-- What a reservation promises is there, for a heap that grants no block of
    the largest word. -/
theorem Site.reserve_room {most : Nat} {s s' : Site} (hs : s.arena.Sound)
    (hb : s.Bounded most) (hmost : most < Word.largest) {more : Nat}
    (reserved : s.reserve more = (.ok (), s')) : s.arena.total + more ≤ s'.arena.capacity := by
  rcases reserve_grown hs more with ⟨hfits, heq⟩ | ⟨-, ⟨answer, room⟩, hgrown, heq⟩
  · obtain rfl := congrArg Prod.snd (heq.symm.trans reserved)
    have hle := hs.used_le_total
    have hcapacity := hb.currentCapacity_le
    have hfits : min (s.arena.used + more) Word.largest ≤ s.arena.currentCapacity := hfits
    show _ ≤ s.arena.total - s.arena.used + s.arena.currentCapacity
    omega
  · obtain rfl := congrArg Prod.snd (heq.symm.trans reserved)
    cases answer with
    | error e => exact nomatch congrArg Prod.fst (heq.symm.trans reserved)
    | ok c =>
        have hsize := hgrown.capacity_le hb.limited
        show _ ≤ room.arena.capacity
        rw [hgrown.capacity]
        exact Nat.add_le_add_left (Arena.le_growthFor_capacity (by omega)) _

/-! ## Requests laid end to end -/

/-- The bytes and the padding of several extents that are laid end to end
    behind an offset. -/
def need (offset : Nat) (extents : List Extent) : Nat := layoutEnd offset extents - offset

/-- Requests that keep within the size limit are served without the heap
    exactly if there is room for them beyond the total. -/
theorem Site.servesInPlace_iff_need {s : Site} (hs : s.Sound) {c : Chunk} {older : List Chunk}
    (hc : s.arena.chunks = c :: older) {extents : List Extent}
    (hlim : s.arena.total + need s.arena.used extents ≤ s.arena.settings.maxSize) :
    s.ServesInPlace extents
      ↔ s.arena.total + need s.arena.used extents ≤ s.arena.capacity := by
  have hused := hs.arena.used_le_total
  have hend := le_layoutEnd s.arena.used extents
  refine (servesInPlace_iff_newest hs hc extents).trans ?_
  rw [Arena.capacity, Arena.currentCapacity_of_cons hc]
  unfold need at hlim ⊢
  omega

/-- Requests that are served in place are answered end to end. -/
theorem Site.answersTo_of_servesInPlace {s : Site} (hs : s.Sound) {c : Chunk}
    {older : List Chunk} (hc : s.arena.chunks = c :: older) {extents : List Extent}
    (served : s.ServesInPlace extents) :
    s.answersTo extents = (layoutIn c.block s.arena.used extents).map .ok := by
  obtain ⟨hcap, hlim⟩ := (servesInPlace_iff_newest hs hc extents).mp served
  exact (after_inside hs hc hcap hlim).2.2.2

namespace History

/-- An arena that was made with a reserve has room for it. -/
theorem start_serves {settings : Settings} (words : settings.maxSize ≤ Word.largest)
    {id : Nat} {heap : Heap} (built : (Site.establish settings id heap).1 = .ok ())
    (positive : 0 < settings.reserve) {extents : List Extent}
    (hneed : need 0 extents ≤ settings.reserve) :
    (start settings id heap).site.ServesInPlace extents := by
  obtain ⟨hvalid, heq⟩ := start_eq built
  have hs := (Sound.start words built).site
  have hbooks := start_books words built
  have hbare := Arena.Sound.bare hvalid words id
  have hword : settings.reserve ≤ Word.largest := Nat.le_trans hvalid.2 words
  have hanswer : ((Site.bare settings id heap).reserve settings.reserve).1 = .ok () := by
    rcases establish_cases settings id heap with ⟨flaw, hflaw⟩ | ⟨-, hmade⟩
    · rw [hflaw] at built
      exact nomatch built
    · rw [← hmade]
      exact built
  rcases Site.reserve_grown (s := Site.bare settings id heap) hbare settings.reserve with
    ⟨hfits, -⟩ | ⟨-, ⟨answer, room⟩, hgrown, hr⟩
  · -- there is no chunk yet
    have hfits : min (0 + settings.reserve) Word.largest ≤ 0 := hfits
    omega
  · cases answer with
    | error e =>
        rw [hr] at hanswer
        exact nomatch hanswer
    | ok c =>
        obtain ⟨-, hused, hcapacity⟩ := hgrown.granted
        have hroom : (start settings id heap).site = room := by rw [heq, hr]
        rw [hroom] at hs hbooks ⊢
        have hle : settings.reserve ≤ room.arena.currentCapacity := by
          rw [hcapacity]
          exact Arena.growthFor_capacity (Nat.le_refl _) hword
        cases hc : room.arena.chunks with
        | nil =>
            rw [Arena.currentCapacity_of_nil hc] at hle
            omega
        | cons d older =>
            have htotal : room.arena.total = 0 := hbooks.total
            have hsettings : room.arena.settings = settings := hbooks.settings
            have hlimit := hvalid.2
            refine (Site.servesInPlace_iff_need hs hc ?_).mpr ?_
            · rw [hused, htotal, hsettings]
              omega
            · rw [Arena.capacity, hused, htotal]
              omega

/-- Room that is promised is delivered.  After any run, requests that keep
    within the size limit are served without the heap exactly if their need
    is no more than the capacity has beyond the total, and then they are
    laid end to end in the newest chunk.  A reservation that succeeds brings
    the capacity as far beyond the total and changes nothing else that a
    caller can see.  And an arena with a reserve has it from the start. -/
theorem room_is_delivered {settings : Settings} (words : settings.maxSize ≤ Word.largest)
    {id : Nat} {heap : Heap} (built : (Site.establish settings id heap).1 = .ok ())
    (limited : heap.Limited largestBlock) (ops : List Op) (h : History)
    (reached : h = (start settings id heap).run ops) :
    (∀ c extents, h.site.arena.current? = some c →
      h.site.arena.total + need h.site.arena.used extents ≤ h.site.arena.settings.maxSize →
      (h.site.ServesInPlace extents
        ↔ h.site.arena.total + need h.site.arena.used extents ≤ h.site.arena.capacity)
      ∧ (h.site.ServesInPlace extents → h.site.answersTo extents
        = (layoutIn c.block h.site.arena.used extents).map .ok))
    ∧ (∀ more s', h.site.reserve more = (.ok (), s') →
      h.site.arena.total + more ≤ s'.arena.capacity
      ∧ h.site.arena.SameBooks s'.arena
      ∧ ∀ l ∈ h.live,
        (∃ c ∈ s'.arena.chunks, c.block = l.pointer.block
          ∧ l.pointer.offset + l.size ≤ c.capacity)
        ∧ (∀ calls, s'.heap.calls = h.site.heap.calls ++ calls →
          ∀ call ∈ calls, ¬ call.Touches l.pointer.block)
        ∧ ∀ i, s'.heap.byteAt l.pointer.block i = h.site.heap.byteAt l.pointer.block i)
    ∧ (0 < settings.reserve → ∀ extents, need 0 extents ≤ settings.reserve →
      (start settings id heap).site.ServesInPlace extents) := by
  have hstart := Sound.start words built
  have hs : h.Sound := reached ▸ hstart.run ops
  have hb : h.site.Bounded largestBlock :=
    reached ▸ hstart.bounded_run (bounded_start words built limited) ops
  refine ⟨?_, ?_, fun positive extents hneed => start_serves words built positive hneed⟩
  · intro c extents hcurrent hlim
    obtain ⟨older, hc⟩ := List.head?_eq_some_iff.mp hcurrent
    exact ⟨Site.servesInPlace_iff_need hs.site hc hlim,
      Site.answersTo_of_servesInPlace hs.site hc⟩
  · intro more s' reserved
    have hr := Site.reserve_resized hs.site.arena more
    have hstep : (h.step (.reserve more)).site = s' := congrArg Prod.snd reserved
    rw [reserved] at hr
    refine ⟨Site.reserve_room hs.site.arena hb (by decide) reserved, hr.books, ?_⟩
    intro l hl
    refine ⟨?_, ?_, hr.byteAt (hs.block_lt hl) ?_⟩
    · obtain ⟨c, hc, hblock, hstop, -⟩ := (hs.step (.reserve more)).within l hl
      rw [hstep] at hc
      exact ⟨c, hc, hblock, hstop⟩
    · intro calls hcalls
      obtain ⟨asked, hasked, htouch⟩ := hs.undisturbed (.reserve more)
      rw [hstep, hcalls] at hasked
      rw [List.append_cancel_left hasked]
      exact htouch l hl hl
    · exact fun c older hc hunused => (hs.block_ne_unused hc hunused hl).symm

/-- 60 of 164 bytes are in use: 34 more are served from there, 120 more are
    promised by a second chunk, and the 100 reserved were there at first. -/
theorem room_is_delivered_beside_sixty :
    let heap := Heap.fresh (Limits.policy ⟨200, 1000, false⟩)
    let h := (start { reserve := 100, poison := true } 0 heap).run [.allocate (.bytes 60 1)]
    let s' := (h.site.reserve 120).2
    (h.site.arena.used, h.site.arena.capacity) = (60, 164)
      ∧ h.site.ServesInPlace [⟨3, 1⟩, ⟨0, 8⟩, ⟨30, 4⟩]
      ∧ h.site.answersTo [⟨3, 1⟩, ⟨0, 8⟩, ⟨30, 4⟩] = [.ok ⟨0, 60⟩, .ok ⟨0, 0⟩, .ok ⟨0, 64⟩]
      ∧ ¬ h.site.ServesInPlace [⟨3, 1⟩, ⟨101, 8⟩]
      ∧ 60 + 120 ≤ s'.arena.capacity ∧ s'.arena.chunks.length = 2
      ∧ (start { reserve := 100, poison := true } 0 heap).site.ServesInPlace
          [⟨60, 1⟩, ⟨36, 8⟩] := by
  intro heap h s'
  have built : (Site.establish { reserve := 100, poison := true } 0 heap).1 = .ok () := rfl
  obtain ⟨hserved, hreserved, hstart⟩ := room_is_delivered (by decide) built
    (Limits.limited (by decide)) [.allocate (.bytes 60 1)] h rfl
  have hcurrent : h.site.arena.current? = some ⟨0, 164, 0⟩ := by decide +kernel
  have hsmall := hserved _ [⟨3, 1⟩, ⟨0, 8⟩, ⟨30, 4⟩] hcurrent (by decide +kernel)
  have hlarge := hserved _ [⟨3, 1⟩, ⟨101, 8⟩] hcurrent (by decide +kernel)
  have hplace := hsmall.1.mpr (by decide +kernel)
  have hpointers : layoutIn 0 h.site.arena.used [⟨3, 1⟩, ⟨0, 8⟩, ⟨30, 4⟩]
      = [⟨0, 60⟩, ⟨0, 0⟩, ⟨0, 64⟩] := by decide +kernel
  have hroom := (hreserved 120 s' (Prod.ext (by decide +kernel) rfl)).1
  rw [show h.site.arena.total = 60 by decide +kernel] at hroom
  exact ⟨by decide +kernel, hplace, (hsmall.2 hplace).trans (congrArg _ hpointers),
    fun hbeyond => absurd (hlarge.1.mp hbeyond) (by decide +kernel),
    hroom, by decide +kernel, hstart (by decide) _ (by decide +kernel)⟩

end History

end ScratchArena
