import ScratchArena.Proofs.Moves
import ScratchArena.Proofs.Record

/-! # Coverage — what retired chunks account for

    The total counts what lies in retired chunks without saying in which:
    it is the total less what is used of the newest chunk.  Padding that
    did not fit a chunk is charged as well, so the retired chunks may hold
    less than is counted for them; but padding never leads beyond the next
    multiple of the word size, so it is no more than their capacities
    rounded up. -/

namespace ScratchArena

/-- The least multiple of the word size that is no smaller. -/
def roundUpWord (n : Nat) : Nat := (n + (wordBytes - 1)) / wordBytes * wordBytes

/-- Rounding up takes nothing away. -/
theorem le_roundUpWord (n : Nat) : n ≤ roundUpWord n := by
  unfold roundUpWord wordBytes
  omega

/-- What is rounded up is a number of words. -/
theorem dvd_roundUpWord (n : Nat) : wordBytes ∣ roundUpWord n := Nat.dvd_mul_left ..

/-- Rounding up adds less than a word. -/
theorem roundUpWord_lt (n : Nat) : roundUpWord n < n + wordBytes := by
  unfold roundUpWord wordBytes
  omega

/-- Capacities, each rounded up to the word size, in sum. -/
def roundedSum (chunks : List Chunk) : Nat := (chunks.map fun c => roundUpWord c.capacity).sum

theorem roundedSum_cons (c : Chunk) (chunks : List Chunk) :
    roundedSum (c :: chunks) = roundUpWord c.capacity + roundedSum chunks := List.sum_cons

namespace Arena

/-- The retired chunks account for what is not used of the newest one. -/
def Covered (a : Arena) : Prop := a.total - a.used ≤ roundedSum a.retired

/-- Nothing in use is covered by anything. -/
theorem covered_of_empty {a : Arena} (hz : a.total = 0) : a.Covered := by
  rw [Covered, hz, Nat.zero_sub]
  exact Nat.zero_le _

theorem Covered.congr {a a' : Arena} (h : a.Covered) (hchunks : a'.chunks = a.chunks)
    (hused : a'.used = a.used) (htotal : a'.total = a.total) : a'.Covered := by
  rw [Covered, hused, htotal, show a'.retired = a.retired from congrArg List.tail hchunks]
  exact h

/-- The chunks account for the total, padding for one more request
    included. -/
theorem Covered.total_le {a : Arena} (h : a.Covered) (hs : a.Sound) (align : Nat) :
    a.total + padding a.used (clampAlign align) ≤ roundedSum a.chunks := by
  have hle := hs.used_le_total
  unfold Covered at h
  cases hc : a.chunks with
  | nil =>
      have hz := hs.total_of_chunkless hc
      rw [hz, hs.used_of_empty hz, padding_zero_clampAlign]
      exact Nat.zero_le _
  | cons c older =>
      have hcap := hs.used_le_capacity
      rw [currentCapacity_of_cons hc] at hcap
      have hpad := add_padding_le (Nat.le_trans hcap (le_roundUpWord _))
        (dvd_roundUpWord c.capacity) align
      rw [retired_of_cons hc] at h
      rw [roundedSum_cons]
      omega

end Arena

/-- Room is made on top of the retired chunks, or of all. -/
theorem Resized.retired {s s' : Site} (h : Resized s s') :
    (s'.arena.used = s.arena.used ∧ s'.arena.retired = s.arena.retired)
      ∨ s'.arena.used = 0 ∧ s'.arena.retired = s.arena.chunks := by
  cases h with
  | idle arena heap => rw [arena]; exact Or.inl ⟨rfl, rfl⟩
  | refusedGrow chunks unused larger arena refused => rw [arena]; exact Or.inl ⟨rfl, rfl⟩
  | refusedAlloc positive arena refused => rw [arena]; exact Or.inl ⟨rfl, rfl⟩
  | extended chunks unused larger arena granted =>
      rw [arena, Arena.retired_of_cons (Arena.extend_chunks chunks _ _),
        Arena.retired_of_cons chunks]
      exact Or.inl ⟨rfl, rfl⟩
  | pushed positive inUse arena granted => rw [arena]; exact Or.inr ⟨rfl, rfl⟩

/-- A growth keeps the total covered. -/
theorem Resized.covered {s s' : Site} (h : Resized s s') (hs : s.arena.Sound)
    (hc : s.arena.Covered) : s'.arena.Covered := by
  have htotal := hc.total_le hs 1
  rcases h.retired with ⟨hused, hretired⟩ | ⟨hused, hretired⟩
  · rw [Arena.Covered, hused, hretired, h.books.total]
    exact hc
  · rw [Arena.Covered, hused, hretired, h.books.total]
    omega

/-- Bytes in a chunk just pushed leave the padding to the chunks below. -/
theorem Site.Allotted.covered {s room s' : Site} {c : Chunk} {offset size align : Nat}
    (ha : s.Allotted room s' c offset size align) (hs : s.arena.Sound) (hc : s.arena.Covered) :
    s'.arena.Covered := by
  have htotal := hc.total_le hs align
  have hpadded := ha.padded
  have hbump : s'.arena.total - s'.arena.used
      = room.arena.total + padding s.arena.used (clampAlign align) + size - (offset + size) := by
    rw [ha.arena]
    rfl
  rw [Arena.Covered, hbump, ha.resized.books.total, ha.arena]
  show _ ≤ roundedSum room.arena.retired
  rcases ha.resized.retired with ⟨hused, hretired⟩ | ⟨hused, hretired⟩
  · rw [hused] at hpadded
    rw [hretired]
    unfold Arena.Covered at hc
    omega
  · rw [hretired]
    omega

namespace History

/-- The arena is covered, and so are those of the checkpoints in hand. -/
structure Covered (h : History) : Prop where
  site : h.site.arena.Covered
  held : ∀ b ∈ h.held, b.Covered

variable {h : History}

/-- So does every move. -/
theorem Moved.covered {s' : Site} (hm : h.Moved s') (hs : h.Sound) (hc : h.Covered) :
    s'.arena.Covered := by
  cases hm with
  | room resized same =>
      exact (resized.covered hs.site.arena hc.site).congr same.chunks same.used same.total
  | allotted positive allotted => exact allotted.covered hs.site.arena hc.site
  | cleared chunks used total nextChunk heap resized =>
      exact Arena.covered_of_empty (resized.books.total.trans total)
  | released empty chunks used total nextChunk heap => exact Arena.covered_of_empty total
  | @returned _ b newer older c c' inHand inUse grafted chunks used total nextChunk heap =>
      -- the chunks below the newest are those of the time
      have hb := hc.held b inHand
      rw [Arena.Covered, Arena.retired_of_cons grafted.below] at hb
      rw [Arena.Covered, used, total, Arena.retired_of_cons chunks]
      exact hb

/-- What is in hand after a call was so before, but for a checkpoint of the
    present arena. -/
theorem mem_holding {op : Op} {b : Arena} (hb : b ∈ h.holding op) :
    b = h.site.arena ∨ b ∈ h.held := by
  unfold holding at hb
  split at hb
  · exact List.mem_cons.mp hb
  · exact Or.inr (List.mem_of_mem_filter hb)
  · exact Or.inr (List.mem_of_mem_filter hb)
  · exact Or.inr (List.mem_of_mem_filter hb)
  · exact Or.inr hb

/-- Every step keeps the total covered, here and in every checkpoint in
    hand. -/
theorem Covered.step (hc : h.Covered) (hs : h.Sound) (op : Op) : (h.step op).Covered where
  site := (hs.moved op).covered hs hc
  held := by
    intro b hb
    rw [(hs.booked op).held] at hb
    rcases mem_holding hb with rfl | hb
    · exact hc.site
    · exact hc.held b hb

/-- So does a whole run. -/
theorem Covered.run (hc : h.Covered) (hs : h.Sound) (ops : List Op) : (h.run ops).Covered :=
  (run_induct (P := fun h => h.Sound ∧ h.Covered) ⟨hs, hc⟩
    (fun _ op hp => ⟨hp.1.step op, hp.2.step hp.1 op⟩) ops).2

theorem Covered.start {settings : Settings} (words : settings.maxSize ≤ Word.largest) {id : Nat}
    {heap : Heap} (built : (Site.establish settings id heap).1 = .ok ()) :
    (start settings id heap).Covered where
  site := Arena.covered_of_empty (start_books words built).total
  held := fun _ hb => nomatch hb

end History

end ScratchArena
