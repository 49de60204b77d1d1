import ScratchArena.Proofs.Presentation

/-! # Preservation — every call keeps the standing

    One lemma for each kind of call, over the calls on checkpoints: guards
    make the same ones.  An allocation puts one more live range behind all
    others in the newest chunk; a checkpoint anchors the arena as it is; a
    rollback returns to an arena that is anchored; every other call takes
    away.  A run keeps what each of its calls keeps. -/

namespace ScratchArena

namespace History

namespace Sound

variable {h : History}

/-! ## Allocation -/

/-- What is within an arena is within it when its offset moves on. -/
theorem within_bump {a : Arena} {l : Live} (hw : l.Within a) {offset : Nat}
    (hle : a.used ≤ offset) (padding size : Nat) : l.Within (a.bump offset padding size) := by
  obtain ⟨c, hc, hblock, hcap, hused⟩ := hw
  refine ⟨c, hc, hblock, hcap, ?_⟩
  intro hcur
  have := hused hcur
  show l.stop ≤ offset + size
  omega

/-- A range behind the offset of the newest chunk overlaps nothing. -/
theorem apart_beyond {s : Site} (hs : s.Sound) {c : Chunk} {older : List Chunk}
    (hc : s.arena.chunks = c :: older) {k l : Live} (hk : k.pointer.block = c.block)
    (hbeyond : s.arena.used ≤ k.pointer.offset) (hw : l.Within s.arena) : k.Apart l := by
  obtain ⟨d, hd, hblock, -, hused⟩ := hw
  have hblocks := hs.blocks_newest_first
  rw [hc] at hd hblocks
  rcases List.mem_cons.mp hd with rfl | hd
  · -- the newest chunk: the other range ends before the offset
    have := hused (Arena.current?_of_cons hc)
    exact Or.inr (Or.inr (by omega))
  · -- an older chunk sits on a block of its own
    have := (List.pairwise_cons.mp hblocks).1 d hd
    exact Or.inl (by omega)

/-- A request for some bytes that succeeds. -/
theorem allot (hs : h.Sound) {room s' : Site} {c : Chunk} {offset size align : Nat}
    (ha : h.site.Allotted room s' c offset size align) (hsize : 0 < size) :
    ({ h with site := s', live := h.fresh size align ⟨c.block, offset⟩ :: h.live } :
      History).Sound := by
  have hsite := ha.sound hs.site hsize
  obtain ⟨a', heap', events'⟩ := s'
  obtain ⟨hres, ⟨older, hc⟩, hpadded, hfit, -, -, harena, -⟩ := ha
  obtain rfl : a' = room.arena.bump offset (padding h.site.arena.used (clampAlign align)) size :=
    harena
  have hr := hs.resized hres
  have hb := hres.books
  have hbeyond : room.arena.used ≤ offset := by
    rw [hpadded]
    exact Nat.le_add_right ..
  -- a checkpoint in hand was taken before the new range was
  have hbefore : ∀ b ∈ h.held, ∀ l : Live, l.born = h.site.arena.nextMark →
      (l :: h.live).filter (·.born ≤ b.nextMark) = h.before b.nextMark := by
    intro b hb l hl
    have := hs.held_lt b hb
    refine List.filter_cons_of_neg ?_
    rw [hl]
    simpa using this
  exact {
    site := hsite
    within := by
      refine List.forall_mem_cons.mpr ⟨?_, fun l hl => within_bump (hr.within l hl) hbeyond _ _⟩
      refine ⟨c, ?_, rfl, hfit, fun _ => Nat.le_refl _⟩
      show c ∈ room.arena.chunks
      rw [hc]
      exact List.mem_cons_self
    proper := by
      refine List.forall_mem_cons.mpr ⟨⟨hsize, ?_⟩, hr.proper⟩
      show clampAlign align ∣ offset
      rw [hpadded]
      exact clampAlign_dvd_add_padding ..
    born_le := List.forall_mem_cons.mpr ⟨Nat.le_of_eq hb.nextMark.symm, hr.born_le⟩
    apart := List.pairwise_cons.mpr
      ⟨fun l hl => apart_beyond hr.site hc rfl hbeyond (hr.within l hl), hr.apart⟩
    charge := by
      have hcharge : ScratchArena.charge h.live = room.arena.total := hr.charge
      rw [charge_cons, hcharge]
      show padding _ _ + size + room.arena.total = room.arena.total + padding _ _ + size
      omega
    held_sound := hr.held_sound
    held_id := hr.held_id
    held_lt := hr.held_lt
    held_newest_first := hr.held_newest_first
    anchored := by
      intro b hb hm
      obtain ⟨hgen, hunder, hwithin, hcharge⟩ := hr.anchored b hb hm
      refine ⟨hgen, hunder.trans (hr.site.arena.underlies_bump hbeyond _ _), ?_, ?_⟩
      · rw [before, hbefore b hb _ rfl]
        exact hwithin
      · rw [before, hbefore b hb _ rfl]
        exact hcharge
    chained := hr.chained }

/-- Bytes and events do not change what is where. -/
theorem alike (hs : h.Sound) {s : Site} (ha : h.site.Alike s) :
    ({ h with site := s } : History).Sound := by
  obtain ⟨arena, heap, events⟩ := s
  obtain ⟨harena, hheap⟩ := ha
  obtain rfl : arena = h.site.arena := harena
  exact hs.carry (hs.site.of_arena_eq rfl hheap.blocks) rfl rfl rfl hs.site.arena.underlies_refl
    (List.Sublist.refl _) (fun m hm => ⟨hm, rfl⟩)

/-- A request keeps a history sound. -/
theorem allocate (hs : h.Sound) (demand : Demand) : (h.step (.allocate demand)).Sound := by
  have ha := Demand.answered hs.site.arena demand
  show (h.served demand (demand.serve h.site)).Sound
  generalize demand.serve h.site = outcome at ha ⊢
  cases ha with
  | failed resized arena => exact hs.resized resized
  | nothing empty resized alike =>
      rw [h.served_nothing empty]
      exact (hs.resized resized).alike alike
  | allotted positive allotted =>
      rw [h.served_bytes positive]
      exact hs.allot allotted positive

/-! ## Dropping everything -/

theorem site_nextGeneration (hs : h.Sound) :
    ({ h.site with arena := h.site.arena.nextGeneration } : Site).Sound :=
  hs.site.of_sublist hs.site.arena.nextGeneration (List.Sublist.refl _) rfl

/-- So does a reset. -/
theorem reset (hs : h.Sound) : (h.step .reset).Sound := by
  have hn := hs.site_nextGeneration
  have hb := Site.clear_books hn.arena
  show ({ h with site := h.site.reset, live := [] } : History).Sound
  refine hs.trim (Site.clear_sound hn) hb.id hb.nextMark (List.nil_sublist _)
    (List.Sublist.refl _) (fun l hl => nomatch hl) hb.total.symm ?_
  intro b _ hm
  have hm : b.nextMark ∈ h.site.reset.arena.marks := hm
  rw [show h.site.reset.arena.marks = [] from hb.marks] at hm
  exact nomatch hm

/-- So does a shrink. -/
theorem shrinkToFit (hs : h.Sound) : (h.step .shrinkToFit).Sound := by
  by_cases he : h.site.arena.isEmpty
  · have hz : h.site.arena.total = 0 := beq_iff_eq.mp he
    obtain ⟨⟨arena, heap, events⟩, heq, harena, -, hblocks⟩ := step_shrinkToFit_empty he
    obtain rfl : arena = { h.site.arena.nextGeneration with chunks := [], used := 0, peak := 0 } :=
      harena
    rw [heq]
    have hbare : Arena.Sound
        { h.site.arena.nextGeneration with chunks := [], used := 0, peak := 0 } := {
      spare_pos := hs.site.arena.spare_pos
      words := hs.site.arena.words
      used_le_capacity := Nat.zero_le _
      used_le_total := Nat.zero_le _
      total_le_peak := Nat.le_of_eq hz
      peak_le_limit := Nat.zero_le _
      peak_of_chunkless := fun _ => rfl
      used_of_unretired := fun _ => hz.symm
      unretired_of_empty := fun _ => rfl
      capacity_pos := fun _ hc => nomatch hc
      newest_first := List.Pairwise.nil
      number_lt := fun _ hc => nomatch hc
      marks_newest_first := List.Pairwise.nil
      mark_lt := fun _ hm => nomatch hm }
    -- no mark is left, so there is nothing to show of the checkpoints in hand
    refine hs.trim (hs.site.of_sublist hbare (List.nil_sublist _) hblocks) rfl rfl
      (List.Sublist.refl _) (List.Sublist.refl _) ?_ hs.charge (fun b _ hm => nomatch hm)
    intro l hl
    have hl : l ∈ h.live := hl
    rw [hs.live_eq_nil hz] at hl
    exact nomatch hl
  · rw [step_shrinkToFit_inUse he]
    exact hs.carry (hs.site.of_sublist hs.site.arena.lower (List.Sublist.refl _) rfl) rfl rfl rfl
      (hs.site.arena.underlies_refl.congr rfl rfl rfl) (List.Sublist.refl _)
      (fun m hm => ⟨hm, rfl⟩)

/-! ## Checkpoints -/

/-- What a checkpoint taken now would keep is all that is live. -/
theorem before_now (hs : h.Sound) : h.before h.site.arena.nextMark = h.live :=
  List.filter_eq_self.mpr fun l hl => decide_eq_true (hs.born_le l hl)

/-- The mark of a checkpoint in hand is not the one given out next. -/
theorem mem_marks_of_held (hs : h.Sound) {b : Arena} (hb : b ∈ h.held)
    (hm : b.nextMark ∈ h.site.arena.marked.marks) : b.nextMark ∈ h.site.arena.marks := by
  rcases List.mem_cons.mp hm with heq | hm
  · exact absurd heq (Nat.ne_of_lt (hs.held_lt b hb))
  · exact hm

/-- The present arena is anchored by a checkpoint taken now. -/
theorem checkpoint (hs : h.Sound) : (h.step .checkpoint).Sound where
  site := hs.site.of_sublist hs.site.arena.marked (List.Sublist.refl _) rfl
  within := hs.within
  proper := hs.proper
  born_le := fun l hl => Nat.le_succ_of_le (hs.born_le l hl)
  apart := hs.apart
  charge := hs.charge
  held_sound := List.forall_mem_cons.mpr ⟨hs.site.arena, hs.held_sound⟩
  held_id := List.forall_mem_cons.mpr ⟨rfl, hs.held_id⟩
  held_lt := List.forall_mem_cons.mpr
    ⟨Nat.lt_succ_self _, fun b hb => Nat.lt_succ_of_lt (hs.held_lt b hb)⟩
  held_newest_first := List.pairwise_cons.mpr ⟨hs.held_lt, hs.held_newest_first⟩
  anchored := by
    refine List.forall_mem_cons.mpr ⟨?_, ?_⟩
    · -- the arena underlies itself, and all that is live is older
      intro _
      refine ⟨rfl, hs.site.arena.underlies_refl.congr rfl rfl rfl, ?_, ?_⟩
      · intro l hl
        exact hs.within l (List.mem_of_mem_filter hl)
      · exact (congrArg ScratchArena.charge hs.before_now).trans hs.charge
    · intro b hb hm
      obtain ⟨hgen, hunder, hwithin, hcharge⟩ :=
        hs.anchored b hb (hs.mem_marks_of_held hb hm)
      exact ⟨hgen, hunder.congr rfl rfl rfl, hwithin, hcharge⟩
  chained := by
    intro b hb d hd hbm hdm hlt
    rcases List.mem_cons.mp hb with rfl | hb
    · -- nothing in hand is newer than the checkpoint taken now
      rcases List.mem_cons.mp hd with rfl | hd
      · exact absurd hlt (Nat.lt_irrefl _)
      · have := hs.held_lt d hd
        omega
    · have hbm' := hs.mem_marks_of_held hb hbm
      rcases List.mem_cons.mp hd with rfl | hd
      · exact (hs.anchored b hb hbm').underlies
      · exact hs.chained b hb d hd hbm' (hs.mem_marks_of_held hd hdm) hlt

/-- A checkpoint that leaves the hand, with some of the marks. -/
theorem relinquish (hs : h.Sound) (mark : Nat) {marks : List Nat}
    (hsub : marks.Sublist h.site.arena.marks) :
    ({ h with
        site := { h.site with arena := { h.site.arena with marks } }
        held := h.without mark } : History).Sound := by
  refine hs.carry (hs.site.of_sublist ?_ (List.Sublist.refl _) rfl) rfl rfl rfl
    (hs.site.arena.underlies_refl.congr rfl rfl rfl) List.filter_sublist
    (fun m hm => ⟨hsub.mem hm, rfl⟩)
  exact hs.site.arena.unmark hsub _

/-! ## Rollback -/

/-- What was allocated before an older checkpoint survives a rollback to a
    newer one. -/
theorem before_filter (live : List Live) {m n : Nat} (hlt : m < n) :
    (live.filter (·.born ≤ n)).filter (·.born ≤ m) = live.filter (·.born ≤ m) := by
  rw [List.filter_filter]
  refine List.filter_congr ?_
  intro l _
  by_cases hm : l.born ≤ m
  · simp [hm, show l.born ≤ n by omega]
  · simp [hm]

/-- The marks that a rollback leaves are older than its own. -/
theorem mem_dropMarks {a : Arena} {m mark : Nat} (h : m ∈ (a.dropMarks mark).marks) :
    m ∈ a.marks ∧ m < mark :=
  (List.mem_filter.mp h).imp_right of_decide_eq_true

theorem site_dropMarks (hs : h.Sound) (mark : Nat) :
    ({ h.site with arena := h.site.arena.dropMarks mark } : Site).Sound :=
  hs.site.of_sublist (hs.site.arena.dropMarks mark) (List.Sublist.refl _) rfl

/-- Returning to an empty arena keeps a history sound. -/
theorem return_empty (hs : h.Sound) {b : Arena} (hb : b ∈ h.held)
    (hm : b.nextMark ∈ h.site.arena.marks) (hz : b.total = 0) :
    ({ site := { h.site with arena := h.site.arena.dropMarks b.nextMark }.clear
       live := h.before b.nextMark
       held := h.without b.nextMark } : History).Sound := by
  have hd := hs.site_dropMarks b.nextMark
  have hbooks := Site.clear_books hd.arena
  have hnone : h.before b.nextMark = [] := by
    have hcharge := (hs.anchored b hb hm).charge
    refine List.eq_nil_iff_forall_not_mem.mpr ?_
    intro l hl
    have := size_le_charge hl
    have := (hs.proper l (List.mem_of_mem_filter hl)).size_pos
    omega
  rw [hnone]
  refine hs.trim (Site.clear_sound hd) hbooks.id hbooks.nextMark (List.nil_sublist _)
    List.filter_sublist (fun l hl => nomatch hl) hbooks.total.symm ?_
  intro d hd hdm
  obtain ⟨hdm, hlt⟩ := mem_dropMarks (hbooks.marks ▸ hdm)
  refine ⟨hdm, hbooks.generation, ?_, ?_⟩
  · intro hdpos
    -- an older checkpoint of more than nothing does not underlie this one
    obtain ⟨_, _, _, _, hg⟩ := hs.chained d (List.mem_of_mem_filter hd) b hb hdm hm hlt hdpos
    have := hg.total
    omega
  · refine Eq.trans ?_ (before_filter h.live hlt)
    rw [show h.live.filter (·.born ≤ b.nextMark) = [] from hnone]
    rfl

/-- So does returning into a chunk that is still there. -/
theorem return_grafted (hs : h.Sound) {b : Arena} (hb : b ∈ h.held)
    (hm : b.nextMark ∈ h.site.arena.marks) (hpos : 0 < b.total) {newer older : List Chunk}
    {c c' : Chunk} (hg : b.Grafted h.site.arena newer c c' older) :
    ({ site := { h.site.release newer with
         arena := { h.site.arena.dropMarks b.nextMark with
           chunks := c' :: older, total := b.total, used := b.used } }
       live := h.before b.nextMark
       held := h.without b.nextMark } : History).Sound := by
  obtain ⟨-, -, hwithin, hcharge⟩ := hs.anchored b hb hm
  -- the chunks of the time are there, so the arena of the time can resume
  have hcut := hg.sound_cut hs.site.arena (hs.held_sound b hb) hpos b.nextMark
  refine hs.trim (hs.site.of_sublist hcut ?_ (h.site.release_eq newer).2.2) rfl rfl
    List.filter_sublist List.filter_sublist ?_ hcharge ?_
  · show (c' :: older).Sublist h.site.arena.chunks
    rw [hg.above]
    exact List.sublist_append_right ..
  · intro l hl
    exact (hwithin l hl).of_underlies (hs.proper l (List.mem_of_mem_filter hl)).size_pos
      (hg.underlies_cut _) hpos hcut
  · intro d hd hdm
    obtain ⟨hdm, hlt⟩ := mem_dropMarks hdm
    exact ⟨hdm, rfl, (hs.chained d (List.mem_of_mem_filter hd) b hb hdm hm hlt).trans
      (hg.underlies_cut _), before_filter _ hlt⟩

/-- So does a rollback, accepted or not. -/
theorem rollback (hs : h.Sound) (mark : Nat) : (h.step (.rollback mark)).Sound := by
  have hp := hs.presented mark
  generalize h.step (.rollback mark) = h' at hp ⊢
  cases hp with
  | absent away => exact hs
  | stale inHand offRecord alike => exact (hs.relinquish _ (List.Sublist.refl _)).alike alike
  | empty inHand onRecord nothing => exact hs.return_empty (held?_some inHand).1 onRecord nothing
  | grafted inHand onRecord inUse grafted =>
      exact hs.return_grafted (held?_some inHand).1 onRecord inUse grafted

/-- So does giving up a checkpoint. -/
theorem forget (hs : h.Sound) (mark : Nat) : (h.step (.forget mark)).Sound := by
  obtain ⟨marks, hsub, heq⟩ := step_forget h mark
  rw [heq]
  exact hs.relinquish mark hsub

/-! ## Any call -/

/-- So does every call. -/
theorem step (hs : h.Sound) (op : Op) : (h.step op).Sound := by
  rw [← step_plain]
  cases op with
  | allocate demand => exact hs.allocate demand
  | reserve more => exact hs.resized (Site.reserve_resized hs.site.arena more)
  | reset => exact hs.reset
  | shrinkToFit => exact hs.shrinkToFit
  | checkpoint => exact hs.checkpoint
  | rollback mark => exact hs.rollback mark
  | forget mark => exact hs.forget mark
  | abandon mark => exact hs.relinquish mark (List.Sublist.refl _)
  | guarded => exact hs.checkpoint
  | rollbackGuard mark => exact hs.rollback mark
  | releaseGuard mark => exact hs.forget mark
  | dropGuard mark => exact hs.rollback mark
  | rollbackForeign c =>
      obtain ⟨s, ha, heq⟩ := step_rollbackForeign h c
      exact heq ▸ hs.alike ha
  | forgetForeign c => exact (step_forgetForeign h c).symm ▸ hs

/-- So does every run. -/
theorem run (hs : h.Sound) (ops : List Op) : (h.run ops).Sound :=
  run_induct hs (fun _ op h => h.step op) ops

end Sound

/-! ## An arena just made -/

section Start

variable {settings : Settings} {id : Nat} {heap : Heap}

/-- The settings are turned down, or something is reserved. -/
theorem establish_cases (settings : Settings) (id : Nat) (heap : Heap) :
    (∃ flaw : Settings.Flaw, Site.establish settings id heap
      = (.error (.invalidSettings flaw.reason), Site.bare settings id heap))
    ∨ settings.Valid ∧ Site.establish settings id heap
      = (Site.bare settings id heap).reserve settings.reserve := by
  cases hf : settings.flaw? with
  | some flaw => exact Or.inl ⟨flaw, by simp only [Site.establish, hf]⟩
  | none =>
      exact Or.inr ⟨Settings.flaw?_eq_none_iff.mp hf, by simp only [Site.establish, hf]⟩

/-- An arena that could be made has settings that work and has tried to
    reserve what they say. -/
theorem start_eq (built : (Site.establish settings id heap).1 = .ok ()) :
    settings.Valid
      ∧ start settings id heap
        = { site := ((Site.bare settings id heap).reserve settings.reserve).2 } := by
  rcases establish_cases settings id heap with ⟨flaw, heq⟩ | ⟨hvalid, heq⟩
  · rw [heq] at built
    exact nomatch built
  · exact ⟨hvalid, by rw [start, heq]⟩

/-- An arena just made stands: nothing is live and nothing in hand. -/
theorem Sound.start (words : settings.maxSize ≤ Word.largest)
    (built : (Site.establish settings id heap).1 = .ok ()) :
    (start settings id heap).Sound := by
  obtain ⟨hvalid, heq⟩ := start_eq built
  have hbare := Arena.Sound.bare hvalid words id
  have hstart : ({ site := Site.bare settings id heap } : History).Sound := {
    site := ⟨hbare, List.Pairwise.nil, fun c hc => nomatch hc⟩
    within := fun _ hl => nomatch hl
    proper := fun _ hl => nomatch hl
    born_le := fun _ hl => nomatch hl
    apart := List.Pairwise.nil
    charge := rfl
    held_sound := fun _ hb => nomatch hb
    held_id := fun _ hb => nomatch hb
    held_lt := fun _ hb => nomatch hb
    held_newest_first := List.Pairwise.nil
    anchored := fun _ hb => nomatch hb
    chained := fun _ hb => nomatch hb }
  rw [heq]
  exact hstart.resized (Site.reserve_resized hbare settings.reserve)

/-- What is reserved to begin with is nowhere in the books. -/
theorem start_books (words : settings.maxSize ≤ Word.largest)
    (built : (Site.establish settings id heap).1 = .ok ()) :
    Arena.SameBooks { settings, id } (start settings id heap).site.arena := by
  obtain ⟨hvalid, heq⟩ := start_eq built
  rw [heq]
  exact (Site.reserve_resized (s := Site.bare settings id heap)
    (Arena.Sound.bare hvalid words id) settings.reserve).books

end Start

end History

end ScratchArena
