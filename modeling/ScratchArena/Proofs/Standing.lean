import ScratchArena.Proofs.History

/-! # Standing — what every history keeps

    The invariant of a history relates three things: the arena, the live
    allocations and the checkpoints in hand.  Every live allocation lies
    within a chunk, no two overlap, and together they account for the
    total.  A checkpoint in hand whose mark is on record is *anchored*: the
    arena of its moment still underlies the present one and still holds
    what was live then.  Anchored checkpoints underlie one another in the
    order they were taken, so that a rollback to one of them keeps all
    older ones anchored.

    Every step but an allocation and a checkpoint only takes away: live
    allocations, checkpoints, marks.  `Sound.trim` says once what such a
    step has to show. -/

namespace ScratchArena

namespace Live

/-- One past the last byte. -/
def stop (l : Live) : Nat := l.pointer.offset + l.size

/-- The allocation lies within a chunk of `a`, in the part in use. -/
def Within (l : Live) (a : Arena) : Prop :=
  ∃ c ∈ a.chunks, c.block = l.pointer.block ∧ l.stop ≤ c.capacity
    ∧ (a.current? = some c → l.stop ≤ a.used)

/-- No byte belongs to both. -/
def Apart (l k : Live) : Prop :=
  l.pointer.block ≠ k.pointer.block ∨ l.stop ≤ k.pointer.offset ∨ k.stop ≤ l.pointer.offset

/-- What an allocation must be to be live: some bytes, at an aligned
    offset. -/
structure Proper (l : Live) : Prop where
  size_pos : 0 < l.size
  aligned : clampAlign l.align ∣ l.pointer.offset

/-- What was allocated in an arena is still within one that it underlies. -/
theorem Within.of_underlies {l : Live} {b a : Arena} (hw : l.Within b) (hl : 0 < l.size)
    (hba : b.Underlies a) (hpos : 0 < b.total) (ha : a.Sound) : l.Within a := by
  obtain ⟨newer, c, c', older, hg⟩ := hba hpos
  obtain ⟨d, hd, hblock, hcap, hused⟩ := hw
  have hnum := ha.newest_first
  rw [hg.above] at hnum
  have htop := (List.pairwise_append.mp hnum).2.2
  have hrest := List.pairwise_cons.mp (List.pairwise_append.mp hnum).2.1
  rw [hg.below] at hd
  rcases List.mem_cons.mp hd with rfl | hd
  · -- the newest chunk of `b` is in use, hence unchanged
    have hstop := hused (Arena.current?_of_cons hg.below)
    have hsame : c' = d := hg.same (by unfold stop at hstop; omega)
    rw [hsame] at hg hnum htop
    refine ⟨d, by rw [hg.above]; simp, hblock, hcap, ?_⟩
    intro hcur
    cases newer with
    | nil => exact Nat.le_trans hstop (hg.used rfl)
    | cons n newer =>
        rw [Arena.current?_of_cons hg.above] at hcur
        obtain rfl := Option.some.inj hcur
        exact absurd (htop n List.mem_cons_self n List.mem_cons_self) (Nat.lt_irrefl _)
  · -- an older chunk is not the newest one, whatever lies above
    refine ⟨d, by rw [hg.above]; simp [hd], hblock, hcap, ?_⟩
    intro hcur
    cases newer with
    | nil =>
        rw [Arena.current?_of_cons hg.above] at hcur
        obtain rfl := Option.some.inj hcur
        exact absurd (hrest.1 c' hd) (Nat.lt_irrefl _)
    | cons n newer =>
        rw [Arena.current?_of_cons hg.above] at hcur
        obtain rfl := Option.some.inj hcur
        exact absurd (htop n List.mem_cons_self n (List.mem_cons_of_mem _ hd))
          (Nat.lt_irrefl _)

end Live

/-- What live allocations are charged: their bytes and their padding. -/
def charge (live : List Live) : Nat := (live.map fun l => l.padding + l.size).sum

theorem charge_cons (l : Live) (live : List Live) :
    charge (l :: live) = l.padding + l.size + charge live := List.sum_cons

/-- A live allocation is charged for its size. -/
theorem size_le_charge {l : Live} {live : List Live} (h : l ∈ live) :
    l.size ≤ charge live := by
  induction live with
  | nil => exact nomatch h
  | cons k live ih =>
      rw [charge_cons]
      rcases List.mem_cons.mp h with rfl | hm
      · omega
      · have := ih hm
        omega

namespace History

/-- A checkpoint in hand that can be returned to: `b` is the arena of its
    moment. -/
structure Anchored (h : History) (b : Arena) : Prop where
  generation : b.generation = h.site.arena.generation
  underlies : b.Underlies h.site.arena
  within : ∀ l ∈ h.before b.nextMark, l.Within b
  charge : charge (h.before b.nextMark) = b.total

/-- The invariant of a history. -/
structure Sound (h : History) : Prop where
  site : h.site.Sound
  within : ∀ l ∈ h.live, l.Within h.site.arena
  proper : ∀ l ∈ h.live, l.Proper
  born_le : ∀ l ∈ h.live, l.born ≤ h.site.arena.nextMark
  apart : h.live.Pairwise Live.Apart
  charge : charge h.live = h.site.arena.total
  held_sound : ∀ b ∈ h.held, b.Sound
  held_id : ∀ b ∈ h.held, b.id = h.site.arena.id
  held_lt : ∀ b ∈ h.held, b.nextMark < h.site.arena.nextMark
  held_newest_first : h.held.Pairwise fun b d => d.nextMark < b.nextMark
  anchored : ∀ b ∈ h.held, b.nextMark ∈ h.site.arena.marks → h.Anchored b
  chained : ∀ b ∈ h.held, ∀ d ∈ h.held, b.nextMark ∈ h.site.arena.marks →
    d.nextMark ∈ h.site.arena.marks → b.nextMark < d.nextMark → b.Underlies d

namespace Sound

variable {h : History}

/-- With nothing in use nothing is live. -/
theorem live_eq_nil (hs : h.Sound) (hz : h.site.arena.total = 0) : h.live = [] := by
  refine List.eq_nil_iff_forall_not_mem.mpr ?_
  intro l hl
  have := size_le_charge hl
  have := hs.charge
  have := (hs.proper l hl).size_pos
  omega

/-- A step that takes away.  What is left must stand, and each checkpoint
    still on record must have been on record and still be underlain. -/
theorem trim (hs : h.Sound) {h' : History} (hsite : h'.site.Sound)
    (hid : h'.site.arena.id = h.site.arena.id)
    (hmark : h'.site.arena.nextMark = h.site.arena.nextMark)
    (hlive : h'.live.Sublist h.live) (hheld : h'.held.Sublist h.held)
    (hwithin : ∀ l ∈ h'.live, l.Within h'.site.arena)
    (hcharge : ScratchArena.charge h'.live = h'.site.arena.total)
    (hkept : ∀ b ∈ h'.held, b.nextMark ∈ h'.site.arena.marks →
      b.nextMark ∈ h.site.arena.marks
        ∧ h'.site.arena.generation = h.site.arena.generation
        ∧ b.Underlies h'.site.arena ∧ h'.before b.nextMark = h.before b.nextMark) :
    h'.Sound where
  site := hsite
  within := hwithin
  proper := fun l hl => hs.proper l (hlive.mem hl)
  born_le := fun l hl => hmark ▸ hs.born_le l (hlive.mem hl)
  apart := hs.apart.sublist hlive
  charge := hcharge
  held_sound := fun b hb => hs.held_sound b (hheld.mem hb)
  held_id := fun b hb => (hs.held_id b (hheld.mem hb)).trans hid.symm
  held_lt := fun b hb => hmark ▸ hs.held_lt b (hheld.mem hb)
  held_newest_first := hs.held_newest_first.sublist hheld
  anchored := by
    intro b hb hm
    obtain ⟨hm', hgen, hunder, hbefore⟩ := hkept b hb hm
    obtain ⟨hgen', -, hwithin', hcharge'⟩ := hs.anchored b (hheld.mem hb) hm'
    exact {
      generation := hgen'.trans hgen.symm
      underlies := hunder
      within := hbefore ▸ hwithin'
      charge := hbefore ▸ hcharge' }
  chained := by
    intro b hb d hd hbm hdm hlt
    exact hs.chained b (hheld.mem hb) d (hheld.mem hd) (hkept b hb hbm).1 (hkept d hd hdm).1 hlt

/-- A step that keeps what is live and only adds to the chunks. -/
theorem carry (hs : h.Sound) {s : Site} {held : List Arena} (hsite : s.Sound)
    (hid : s.arena.id = h.site.arena.id) (hmark : s.arena.nextMark = h.site.arena.nextMark)
    (htotal : s.arena.total = h.site.arena.total) (hunder : h.site.arena.Underlies s.arena)
    (hheld : held.Sublist h.held)
    (hmarks : ∀ m ∈ s.arena.marks, m ∈ h.site.arena.marks
      ∧ s.arena.generation = h.site.arena.generation) :
    ({ h with site := s, held } : History).Sound := by
  refine hs.trim hsite hid hmark (List.Sublist.refl _) hheld ?_ (hs.charge.trans htotal.symm) ?_
  · intro l hl
    have hl : l ∈ h.live := hl
    have hsize := (hs.proper l hl).size_pos
    have := size_le_charge hl
    have := hs.charge
    exact (hs.within l hl).of_underlies hsize hunder (by omega) hsite.arena
  · intro b hb hm
    obtain ⟨hm', hgen⟩ := hmarks _ hm
    exact ⟨hm', hgen, (hs.anchored b (hheld.mem hb) hm').underlies.trans hunder, rfl⟩

/-- A growth keeps a history sound. -/
theorem resized (hs : h.Sound) {s : Site} (hr : Resized h.site s) :
    ({ h with site := s } : History).Sound := by
  have hb := hr.books
  refine hs.carry (hr.sound hs.site) hb.id hb.nextMark hb.total
    (hr.underlies hs.site.arena) (List.Sublist.refl _) ?_
  intro m hm
  rw [hb.marks] at hm
  exact ⟨hm, hb.generation⟩

end Sound

end History

end ScratchArena
