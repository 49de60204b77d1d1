import ScratchArena.Proofs.Preservation

/-! # Moves — all that a call does to the stack of chunks

    Whatever the call, one of five things happens to the stack: room is
    made at its top, if anything; some bytes are allotted in room so made;
    everything is dropped and the newest chunk kept; an empty arena gives
    all chunks back; or the chunks above the one of a checkpoint go.
    `Moved` lists them, with the calls on the heap that each one takes, so
    that what is shown of chunks and counters is shown once for each move
    and not for each call.

    Where only the chunks matter there is even less to tell apart: every
    move gives some chunks back, if any, and then makes room, if any. -/

namespace ScratchArena

/-- The same stack over the same blocks; the marks, the generation, the
    peak and the bytes are other matters. -/
structure Site.SameStack (s s' : Site) : Prop where
  chunks : s'.arena.chunks = s.arena.chunks
  used : s'.arena.used = s.arena.used
  total : s'.arena.total = s.arena.total
  nextChunk : s'.arena.nextChunk = s.arena.nextChunk
  heap : s.heap.Alike s'.heap

theorem Site.SameStack.refl (s : Site) : s.SameStack s := ⟨rfl, rfl, rfl, rfl, .refl _⟩

/-- Sites that are alike have the same stack. -/
theorem Site.Alike.sameStack {s s' : Site} (h : s.Alike s') : s.SameStack s' :=
  ⟨congrArg Arena.chunks h.arena, congrArg Arena.used h.arena, congrArg Arena.total h.arena,
    congrArg Arena.nextChunk h.arena, h.heap⟩

/-- The same chunks over the same blocks. -/
structure Site.SameChunks (s s' : Site) : Prop where
  chunks : s'.arena.chunks = s.arena.chunks
  nextChunk : s'.arena.nextChunk = s.arena.nextChunk
  heap : s.heap.Alike s'.heap

/-- Sites with the same stack have the same chunks. -/
theorem Site.SameStack.sameChunks {s s' : Site} (h : s.SameStack s') : s.SameChunks s' :=
  ⟨h.chunks, h.nextChunk, h.heap⟩

theorem Site.SameChunks.refl (s : Site) : s.SameChunks s := ⟨rfl, rfl, .refl _⟩

/-- Some chunks are given back and the others kept in their order. -/
structure Site.Freed (s s' : Site) (gone : List Chunk) : Prop where
  perm : (gone ++ s'.arena.chunks).Perm s.arena.chunks
  kept : s'.arena.chunks.Sublist s.arena.chunks
  nextChunk : s'.arena.nextChunk = s.arena.nextChunk
  heap : s'.heap = s.heap.freeAll gone

namespace Site

variable {s s' : Site}

/-- No block of a chunk is that of another. -/
theorem Sound.nodup_blocks (hs : s.Sound) : (s.arena.chunks.map Chunk.block).Nodup :=
  List.pairwise_map.mpr (hs.blocks_newest_first.imp fun hlt => Nat.ne_of_gt hlt)

/-- No number of a chunk is that of another. -/
theorem Sound.nodup_numbers (hs : s.Sound) : (s.arena.chunks.map Chunk.number).Nodup :=
  List.pairwise_map.mpr (hs.arena.newest_first.imp fun hlt => Nat.ne_of_gt hlt)

namespace Freed

variable {gone : List Chunk}

theorem nothing (s : Site) : s.Freed s [] := ⟨.refl _, .refl _, rfl, rfl⟩

/-- All but the newest chunk, oldest first. -/
theorem retired (chunks : s'.arena.chunks = s.arena.chunks.take 1)
    (nextChunk : s'.arena.nextChunk = s.arena.nextChunk)
    (heap : s'.heap = s.heap.freeAll s.arena.retired.reverse) :
    s.Freed s' s.arena.retired.reverse where
  perm := by
    rw [chunks]
    refine (List.perm_append_comm.trans ((List.reverse_perm _).append_left _)).trans ?_
    rw [show s.arena.retired = s.arena.chunks.drop 1 from List.drop_one.symm,
      List.take_append_drop]
  kept := by
    rw [chunks]
    exact List.take_sublist ..
  nextChunk := nextChunk
  heap := heap

/-- All chunks, the newest one last. -/
theorem all (chunks : s'.arena.chunks = []) (nextChunk : s'.arena.nextChunk = s.arena.nextChunk)
    (heap : s'.heap = s.heap.freeAll (s.arena.retired.reverse ++ s.arena.current?.toList)) :
    s.Freed s' (s.arena.retired.reverse ++ s.arena.current?.toList) where
  perm := by
    rw [chunks, List.append_nil]
    exact List.perm_append_comm.trans (disposal_perm s.arena)
  kept := by
    rw [chunks]
    exact List.nil_sublist _
  nextChunk := nextChunk
  heap := heap

/-- The newest chunks, newest first. -/
theorem newest (chunks : gone ++ s'.arena.chunks = s.arena.chunks)
    (nextChunk : s'.arena.nextChunk = s.arena.nextChunk) (heap : s'.heap = s.heap.freeAll gone) :
    s.Freed s' gone where
  perm := .of_eq chunks
  kept := chunks ▸ List.sublist_append_right ..
  nextChunk := nextChunk
  heap := heap

/-- The blocks that have come back are on no chunk that is left. -/
theorem block_notMem (h : s.Freed s' gone) (hs : s.Sound) {c : Chunk}
    (hc : c ∈ s'.arena.chunks) : c.block ∉ gone.map Chunk.block := by
  intro hgone
  have hnodup := ((h.perm.map Chunk.block).nodup_iff).mpr hs.nodup_blocks
  rw [List.map_append] at hnodup
  exact (List.disjoint_of_nodup_append hnodup) hgone (List.mem_map_of_mem hc)

/-- Freeing chunks makes no new blocks. -/
theorem blocks_length (h : s.Freed s' gone) : s'.heap.blocks.length = s.heap.blocks.length := by
  rw [h.heap]
  exact (s.heap.freeAll_eq gone).2

end Freed

/-- Clearing gives the retired chunks back, then makes room. -/
theorem clear_split (hs : s.Sound) :
    ∃ kept gone, s.Freed kept gone ∧ kept.Sound ∧ Resized kept s.clear := by
  obtain ⟨kept, harena, hheap, hr⟩ := clear_freed hs.arena
  have hfreed : s.Freed kept _ := .retired (by rw [harena]; rfl) (by rw [harena]; rfl) hheap
  refine ⟨kept, _, hfreed, hs.of_sublist ?_ hfreed.kept hfreed.blocks_length, hr⟩
  rw [harena]
  exact hs.arena.newestOnly

end Site

namespace History

/-- What a call comes to, as far as the stack goes. -/
inductive Moved (h : History) : Site → Prop where
  | room {room s' : Site} (resized : Resized h.site room) (same : room.SameStack s') : Moved h s'
  | allotted {room s' : Site} {c : Chunk} {offset size align : Nat} (positive : 0 < size)
      (allotted : h.site.Allotted room s' c offset size align) : Moved h s'
  | cleared {kept s' : Site} (chunks : kept.arena.chunks = h.site.arena.chunks.take 1)
      (used : kept.arena.used = 0) (total : kept.arena.total = 0)
      (nextChunk : kept.arena.nextChunk = h.site.arena.nextChunk)
      (heap : kept.heap = h.site.heap.freeAll h.site.arena.retired.reverse)
      (resized : Resized kept s') : Moved h s'
  | released {s' : Site} (empty : h.site.arena.total = 0) (chunks : s'.arena.chunks = [])
      (used : s'.arena.used = 0) (total : s'.arena.total = 0)
      (nextChunk : s'.arena.nextChunk = h.site.arena.nextChunk)
      (heap : s'.heap = h.site.heap.freeAll
        (h.site.arena.retired.reverse ++ h.site.arena.current?.toList)) : Moved h s'
  | returned {s' : Site} {b : Arena} {newer older : List Chunk} {c c' : Chunk}
      (inHand : b ∈ h.held) (inUse : 0 < b.total)
      (grafted : b.Grafted h.site.arena newer c c' older)
      (chunks : s'.arena.chunks = c' :: older) (used : s'.arena.used = b.used)
      (total : s'.arena.total = b.total)
      (nextChunk : s'.arena.nextChunk = h.site.arena.nextChunk)
      (heap : s'.heap = h.site.heap.freeAll newer) : Moved h s'

variable {h : History}

/-- A call that leaves the stack alone. -/
theorem Moved.same {s' : Site} (same : h.site.SameStack s') : h.Moved s' :=
  .room (.idle rfl rfl) same

/-- A call gives chunks back, then makes room. -/
theorem Moved.split {s' : Site} (hm : h.Moved s') :
    ∃ kept room gone, h.site.Freed kept gone ∧ Resized kept room ∧ room.SameChunks s' := by
  cases hm with
  | room resized same => exact ⟨_, _, [], .nothing _, resized, same.sameChunks⟩
  | @allotted room s' c offset size align positive allotted =>
      refine ⟨_, room, [], .nothing _, allotted.resized, ?_, ?_, allotted.heap⟩
      · rw [allotted.arena]
        rfl
      · rw [allotted.arena]
        rfl
  | @cleared kept s' chunks used total nextChunk heap resized =>
      exact ⟨kept, s', _, .retired chunks nextChunk heap, resized, .refl _⟩
  | released empty chunks used total nextChunk heap =>
      exact ⟨s', s', _, .all chunks nextChunk heap, .idle rfl rfl, .refl _⟩
  | @returned _ b newer older c c' inHand inUse grafted chunks used total nextChunk heap =>
      exact ⟨s', s', newer, .newest (by rw [chunks, grafted.above]) nextChunk heap,
        .idle rfl rfl, .refl _⟩

namespace Sound

/-- Clearing an arena is a move. -/
theorem moved_clear {s : Site} (ha : s.arena.Sound) (same : h.site.SameStack s)
    (hheap : s.heap = h.site.heap) : h.Moved s.clear := by
  obtain ⟨kept, harena, hkept, hr⟩ := Site.clear_freed ha
  refine .cleared ?_ ?_ ?_ ?_ ?_ hr
  · rw [harena, ← same.chunks]
    rfl
  · rw [harena]
    rfl
  · rw [harena]
    rfl
  · rw [harena]
    exact same.nextChunk
  · rw [hkept, hheap, show s.arena.retired = h.site.arena.retired from
      congrArg List.tail same.chunks]

/-- A request is a move. -/
theorem moved_allocate (hs : h.Sound) (demand : Demand) :
    h.Moved (h.step (.allocate demand)).site := by
  have ha := Demand.answered hs.site.arena demand
  show h.Moved (h.served demand (demand.serve h.site)).site
  rw [served_site]
  generalize demand.serve h.site = outcome at ha ⊢
  cases ha with
  | failed resized arena => exact .room resized (.refl _)
  | nothing empty resized alike => exact .room resized alike.sameStack
  | allotted positive allotted => exact .allotted positive allotted

/-- A rollback is a move, accepted or not. -/
theorem moved_rollback (hs : h.Sound) (mark : Nat) : h.Moved (h.step (.rollback mark)).site := by
  have hp := hs.presented mark
  generalize h.step (.rollback mark) = h' at hp ⊢
  cases hp with
  | absent away => exact .same (.refl _)
  | stale inHand offRecord alike => exact .same alike.sameStack
  | @empty b inHand onRecord nothing =>
      exact moved_clear (hs.site_dropMarks b.nextMark).arena ⟨rfl, rfl, rfl, rfl, .refl _⟩ rfl
  | @grafted b newer older c c' inHand onRecord inUse grafted =>
      exact .returned (held?_some inHand).1 inUse grafted rfl rfl rfl rfl
        (h.site.release_freed newer).2

theorem moved_forget (h : History) (mark : Nat) : h.Moved (h.step (.forget mark)).site := by
  obtain ⟨marks, -, heq⟩ := step_forget h mark
  rw [heq]
  exact .same ⟨rfl, rfl, rfl, rfl, .refl _⟩

/-- A shrink is a move. -/
theorem moved_shrinkToFit (h : History) : h.Moved (h.step .shrinkToFit).site := by
  by_cases he : h.site.arena.isEmpty
  · have hz : h.site.arena.total = 0 := beq_iff_eq.mp he
    obtain ⟨harena, hheap⟩ := Site.release_freed
      { h.site with
          arena := { h.site.arena.nextGeneration with chunks := [], used := 0, peak := 0 } }
      (h.site.arena.retired.reverse ++ h.site.arena.current?.toList)
    rw [show (h.step .shrinkToFit).site = _ from if_pos he]
    refine .released hz ?_ ?_ ?_ ?_ hheap
    · rw [harena]
    · rw [harena]
    · rw [harena]
      exact hz
    · rw [harena]
      rfl
  · rw [step_shrinkToFit_inUse he]
    exact .same ⟨rfl, rfl, rfl, rfl, .refl _⟩

/-- Every call comes to one of the moves. -/
theorem moved (hs : h.Sound) (op : Op) : h.Moved (h.step op).site := by
  rw [← step_plain]
  cases op with
  | allocate demand => exact hs.moved_allocate demand
  | reserve more => exact .room (Site.reserve_resized hs.site.arena more) (.refl _)
  | reset =>
      exact moved_clear hs.site_nextGeneration.arena ⟨rfl, rfl, rfl, rfl, .refl _⟩ rfl
  | shrinkToFit => exact moved_shrinkToFit h
  | checkpoint => exact .same ⟨rfl, rfl, rfl, rfl, .refl _⟩
  | rollback mark => exact hs.moved_rollback mark
  | forget mark => exact moved_forget h mark
  | abandon mark => exact .same (.refl _)
  | guarded => exact .same ⟨rfl, rfl, rfl, rfl, .refl _⟩
  | rollbackGuard mark => exact hs.moved_rollback mark
  | releaseGuard mark => exact moved_forget h mark
  | dropGuard mark => exact hs.moved_rollback mark
  | rollbackForeign c =>
      obtain ⟨s, ha, heq⟩ := step_rollbackForeign h c
      rw [show h.step (plain (.rollbackForeign c)) = { h with site := s } from heq]
      exact .same ha.sameStack
  | forgetForeign c =>
      rw [show h.step (plain (.forgetForeign c)) = h from step_forgetForeign h c]
      exact .same (.refl _)

end Sound

end History

end ScratchArena
