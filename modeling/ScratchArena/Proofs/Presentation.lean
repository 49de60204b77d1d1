import ScratchArena.Proofs.Standing

/-! # Presentation — what becomes of a checkpoint that is presented

    A checkpoint in hand is accepted if its mark is on record, and then the
    later checks on its total and its chunk cannot fail: the arena it was
    taken from still underlies the present one.  `Presented` lists all that
    a call for a rollback can come to. -/

namespace ScratchArena

namespace History

namespace Sound

variable {h : History}

/-- A checkpoint in hand that is off the record is stale, and for no other
    reason. -/
theorem rollback_stale (hs : h.Sound) {b : Arena} (hb : b ∈ h.held)
    (hm : b.nextMark ∉ h.site.arena.marks) :
    ∃ why, (why = .arenaReset ∨ why = .outOfOrder)
      ∧ h.site.arena.rollbackTo b.checkpoint = .rejected why
      ∧ h.site.rollback b.checkpoint = (.error .staleCheckpoint,
          h.site.log (.rollbackRejected why b.total h.site.arena.total)) := by
  have hid : ¬ b.checkpoint.arena ≠ h.site.arena.id := not_not_intro (hs.held_id b hb)
  by_cases hg : b.generation = h.site.arena.generation
  · have hto : h.site.arena.rollbackTo b.checkpoint = .rejected .outOfOrder :=
      (if_neg hid).trans ((if_neg (not_not_intro hg)).trans (if_pos hm))
    exact ⟨.outOfOrder, Or.inr rfl, hto, by rw [Site.rollback, hto]; rfl⟩
  · have hto : h.site.arena.rollbackTo b.checkpoint = .rejected .arenaReset :=
      (if_neg hid).trans (if_pos hg)
    exact ⟨.arenaReset, Or.inl rfl, hto, by rw [Site.rollback, hto]; rfl⟩

/-- A checkpoint on record passes the first three checks. -/
theorem rollbackTo_of_mem (hs : h.Sound) {b : Arena} (hb : b ∈ h.held)
    (hm : b.nextMark ∈ h.site.arena.marks) :
    h.site.arena.rollbackTo b.checkpoint =
      match b.position? with
      | none => .toEmpty
      | some position =>
          if b.total = 0 then .toEmpty
          else if h.site.arena.total < b.total then .rejected .rolledBackPast
          else
            match h.site.arena.chunkDepth? position.chunk with
            | none => .rejected .chunkReleased
            | some depth => .resume depth position.offset :=
  (if_neg (not_not_intro (hs.held_id b hb))).trans
    ((if_neg (not_not_intro (hs.anchored b hb hm).generation)).trans (if_neg (not_not_intro hm)))

/-- A checkpoint of an empty arena leads back to one. -/
theorem rollbackTo_empty (hs : h.Sound) {b : Arena} (hb : b ∈ h.held)
    (hm : b.nextMark ∈ h.site.arena.marks) (hz : b.total = 0) :
    h.site.arena.rollbackTo b.checkpoint = .toEmpty := by
  rw [hs.rollbackTo_of_mem hb hm, show b.position? = none from
    if_neg (by rw [hz]; exact Nat.lt_irrefl 0)]

/-- Rolling such a checkpoint back clears the arena. -/
theorem rollback_empty (hs : h.Sound) {b : Arena} (hb : b ∈ h.held)
    (hm : b.nextMark ∈ h.site.arena.marks) (hz : b.total = 0) :
    h.site.rollback b.checkpoint
      = (.ok (), { h.site with arena := h.site.arena.dropMarks b.nextMark }.clear) := by
  rw [Site.rollback, hs.rollbackTo_empty hb hm hz]
  rfl

/-- A checkpoint of an arena in use: no check after that of the mark can
    fail. -/
theorem rollbackTo_grafted (hs : h.Sound) {b : Arena} (hb : b ∈ h.held)
    (hm : b.nextMark ∈ h.site.arena.marks) (hpos : 0 < b.total) {newer older : List Chunk}
    {c c' : Chunk} (hg : b.Grafted h.site.arena newer c c' older) :
    h.site.arena.rollbackTo b.checkpoint = .resume newer.length b.used := by
  rw [hs.rollbackTo_of_mem hb hm, show b.position? = some ⟨c.number, b.used⟩ by
    rw [Arena.position?, if_pos hpos, Arena.current?_of_cons hg.below]
    rfl]
  simp only [if_neg (Nat.ne_of_gt hpos), if_neg (Nat.not_lt.mpr hg.total),
    hg.chunkDepth? hs.site.arena]

/-- The chunks newer than that of the checkpoint go. -/
theorem rollback_grafted (hs : h.Sound) {b : Arena} (hb : b ∈ h.held)
    (hm : b.nextMark ∈ h.site.arena.marks) (hpos : 0 < b.total) {newer older : List Chunk}
    {c c' : Chunk} (hg : b.Grafted h.site.arena newer c c' older) :
    h.site.rollback b.checkpoint
      = (.ok (), { h.site.release newer with
          arena := { h.site.arena.dropMarks b.nextMark with
            chunks := c' :: older, total := b.total, used := b.used } }) := by
  rw [Site.rollback, hs.rollbackTo_grafted hb hm hpos hg]
  simp only [hg.take_chunks, hg.drop_chunks]
  rfl

end Sound

/-- What can come of presenting the checkpoint under a mark. -/
inductive Presented (h : History) : Nat → History → Prop where
  | absent {mark : Nat} (away : h.held? mark = none) : Presented h mark h
  | stale {b : Arena} {s : Site} (inHand : h.held? b.nextMark = some b)
      (offRecord : b.nextMark ∉ h.site.arena.marks) (alike : h.site.Alike s) :
      Presented h b.nextMark { h with site := s, held := h.without b.nextMark }
  | empty {b : Arena} (inHand : h.held? b.nextMark = some b)
      (onRecord : b.nextMark ∈ h.site.arena.marks) (nothing : b.total = 0) :
      Presented h b.nextMark
        { site := { h.site with arena := h.site.arena.dropMarks b.nextMark }.clear
          live := h.before b.nextMark
          held := h.without b.nextMark }
  | grafted {b : Arena} {newer older : List Chunk} {c c' : Chunk}
      (inHand : h.held? b.nextMark = some b) (onRecord : b.nextMark ∈ h.site.arena.marks)
      (inUse : 0 < b.total) (grafted : b.Grafted h.site.arena newer c c' older) :
      Presented h b.nextMark
        { site := { h.site.release newer with
            arena := { h.site.arena.dropMarks b.nextMark with
              chunks := c' :: older, total := b.total, used := b.used } }
          live := h.before b.nextMark
          held := h.without b.nextMark }

/-- Presenting a checkpoint ends in one of these ways. -/
theorem Sound.presented {h : History} (hs : h.Sound) (mark : Nat) :
    h.Presented mark (h.step (.rollback mark)) := by
  cases he : h.held? mark with
  | none =>
      rw [step_rollback_none he]
      exact .absent he
  | some b =>
      obtain ⟨hb, rfl⟩ := held?_some he
      rw [step_rollback_some he]
      by_cases hm : b.nextMark ∈ h.site.arena.marks
      · rcases Nat.eq_zero_or_pos b.total with hz | hpos
        · rw [hs.rollback_empty hb hm hz]
          exact .empty he hm hz
        · obtain ⟨newer, c, c', older, hg⟩ := (hs.anchored b hb hm).underlies hpos
          rw [hs.rollback_grafted hb hm hpos hg]
          exact .grafted he hm hpos hg
      · obtain ⟨why, -, -, hr⟩ := hs.rollback_stale hb hm
        rw [hr]
        exact .stale he hm ⟨rfl, Heap.Alike.refl _⟩

end History

end ScratchArena
