import ScratchArena.Proofs.Replay

/-! # Settling — repeated traffic ends up in one chunk that is large enough

    Rounds of the same requests, each with a reset behind it, on a heap
    that refuses nothing.  Every round after the first begins with one
    chunk that fits the peak.  Either the layout of the requests ends
    within it, then the round asks the heap for nothing and leaves the
    chunk as it is; or some request does not fit, and then the total has
    passed the capacity, hence the peak.

    So a round that does not settle raises the peak.  No peak is above
    the sizes with seven bytes of padding each, and that of the first
    round is not below the sizes: this bounds how often it can happen. -/

namespace ScratchArena

/-- Where extents go that are laid end to end in a block. -/
def layoutIn (block offset : Nat) : List Extent → List Pointer
  | [] => []
  | e :: extents =>
      ⟨block, if e.size = 0 then 0 else offset + padding offset (clampAlign e.align)⟩
        :: layoutIn block (e.stop offset) extents

theorem Extent.size_le_stop (e : Extent) (offset : Nat) : offset + e.size ≤ e.stop offset := by
  rw [stop]
  split
  · omega
  · omega

/-- An extent takes its size and seven bytes of padding at most. -/
theorem Extent.stop_le (e : Extent) (offset : Nat) : e.stop offset ≤ offset + (e.size + 7) := by
  have hpad : padding offset (clampAlign e.align) < 8 := padding_lt_wordBytes ..
  rw [stop]
  split
  · omega
  · omega

/-- The bytes of several extents. -/
def bytesIn (extents : List Extent) : Nat := (extents.map Extent.size).sum

/-- Their bytes, and the most padding that each of them can need. -/
def paddedIn (extents : List Extent) : Nat := (extents.map fun e => e.size + 7).sum

theorem bytesIn_cons (e : Extent) (extents : List Extent) :
    bytesIn (e :: extents) = e.size + bytesIn extents := List.sum_cons

theorem paddedIn_cons (e : Extent) (extents : List Extent) :
    paddedIn (e :: extents) = e.size + 7 + paddedIn extents := List.sum_cons

/-- Seven bytes of padding for every extent. -/
theorem paddedIn_eq (extents : List Extent) :
    paddedIn extents = bytesIn extents + 7 * extents.length := by
  induction extents with
  | nil => rfl
  | cons e extents ih =>
      rw [paddedIn_cons, bytesIn_cons, ih, List.length_cons]
      omega

/-- A layout takes no more than its padded size. -/
theorem layoutEnd_le (offset : Nat) (extents : List Extent) :
    layoutEnd offset extents ≤ offset + paddedIn extents := by
  induction extents generalizing offset with
  | nil => exact Nat.le_refl _
  | cons e extents ih =>
      refine Nat.le_trans (ih (e.stop offset)) ?_
      have := e.stop_le offset
      rw [paddedIn_cons]
      omega

namespace Arena

/-- An arena of one chunk holds what that chunk does. -/
theorem Sound.capacity_of_unretired {a : Arena} (h : a.Sound) (hnil : a.retired = []) :
    a.capacity = a.currentCapacity := by
  rw [capacity, h.used_of_unretired hnil, Nat.sub_self, Nat.zero_add]

theorem currentCapacity_congr {a a' : Arena} (h : a'.chunks = a.chunks) :
    a'.currentCapacity = a.currentCapacity := by
  rw [currentCapacity, currentCapacity, current?, current?, h]

end Arena

/-- Making room keeps a chunk that is alone large enough for the peak. -/
theorem Resized.fits {s s' : Site} (h : Resized s s') (hs : s.arena.Sound)
    (hfits : s.arena.Fits) : s'.arena.Fits := by
  cases h with
  | idle arena heap => rw [arena]; exact hfits
  | refusedGrow chunks unused larger arena refused => rw [arena]; exact hfits
  | refusedAlloc positive arena refused => rw [arena]; exact hfits
  | @extended c older block capacity chunks unused larger arena granted =>
      have hx := Arena.extend_chunks chunks block capacity
      intro hnil
      rw [arena] at hnil ⊢
      rw [Arena.retired_of_cons hx, ← Arena.retired_of_cons chunks] at hnil
      have hold := hfits hnil
      rw [Arena.currentCapacity_of_cons chunks] at hold
      rw [Arena.currentCapacity_of_cons hx]
      exact Nat.le_trans hold (Nat.le_of_lt larger)
  | pushed positive inUse arena granted =>
      -- a first chunk: nothing has been seen yet
      intro hnil
      rw [arena] at hnil ⊢
      show s.arena.peak ≤ _
      rw [hs.peak_of_chunkless hnil]
      exact Nat.zero_le _

namespace Site

/-- The answers to several requests, in order. -/
def answersTo (s : Site) : List Extent → List (Except Failure Pointer)
  | [] => []
  | e :: extents => (s.request e).1 :: (s.request e).2.answersTo extents

/-- All requests, then a reset. -/
def round (s : Site) (extents : List Extent) : Site := (s.after extents).reset

/-- Any number of rounds. -/
def rounds (s : Site) (extents : List Extent) : Nat → Site
  | 0 => s
  | n + 1 => (s.rounds extents n).round extents

/-! ## A request on a heap that refuses nothing -/

section Generous

variable {s : Site} {e : Extent}

/-- Only the size limit can stand in the way of a request. -/
theorem request_generous (hs : s.Sound)
    (generous : s.heap.policy.RefusesNothing)
    (hlim : s.arena.total + (e.size + 7) ≤ s.arena.settings.maxSize) :
    (s.request e).1.isOk := by
  have hpad : padding s.arena.used (clampAlign e.align) < 8 := padding_lt_wordBytes ..
  rcases Nat.eq_zero_or_pos e.size with hz | hpos
  · rw [show s.request e = s.allocNothing from if_pos hz]
    cases hc : s.arena.chunks with
    | nil =>
        obtain ⟨c, hok⟩ := grow_generous generous (allocNothing_growth_apt hs.arena hc)
        rw [allocNothing_of_nil hc, hok]
        rfl
    | cons c older =>
        rw [allocNothing_of_cons hc]
        rfl
  · rw [request, allocBytes_eq s hpos, if_neg (by omega)]
    split
    · rfl
    · rename_i growth hp
      obtain ⟨hapt, -, -⟩ := hs.arena.placement_after hpos (by omega) hp
      obtain ⟨c, hok⟩ := grow_generous generous hapt
      split
      · rfl
      · rename_i hg
        rw [hg] at hok
        cases hok

/-- A request keeps a chunk that is alone large enough for the peak. -/
theorem request_fits (hs : s.Sound) (hfits : s.arena.Fits) (e : Extent) :
    (s.request e).2.arena.Fits := by
  have ha := request_answered hs e
  have hs' := ha.sound hs
  have hpeak := ha.peak_eq_max hs.arena.total_le_peak
  generalize s.request e = outcome at ha hs' hpeak ⊢
  cases ha with
  | failed resized arena => exact resized.fits hs.arena hfits
  | nothing empty resized alike on_top =>
      show Arena.Fits _
      rw [alike.arena]
      exact resized.fits hs.arena hfits
  | @allotted room s' c offset positive allotted =>
      -- what is alone in use holds its own total, and has room for the old peak
      intro hnil
      have hroom := allotted.resized.fits hs.arena hfits
      have hcap : s'.arena.currentCapacity = room.arena.currentCapacity := by
        rw [allotted.arena]
        rfl
      have hretired : s'.arena.retired = room.arena.retired := by
        rw [allotted.arena]
        rfl
      have hold := hroom (hretired ▸ hnil)
      rw [allotted.resized.books.peak, ← hcap] at hold
      have hs' : s'.arena.Sound := hs'.arena
      have hpeak : s'.arena.peak = max s.arena.peak s'.arena.total := hpeak
      show s'.arena.peak ≤ s'.arena.currentCapacity
      rw [hpeak, ← hs'.used_of_unretired hnil]
      exact max_le hold hs'.used_le_capacity

/-- A round that the size limit has room for: every request succeeds. -/
theorem after_generous {extents : List Extent} (hs : s.Sound)
    (generous : s.heap.policy.RefusesNothing) (hfits : s.arena.Fits)
    (hlim : s.arena.total + paddedIn extents ≤ s.arena.settings.maxSize) :
    s.serves extents ∧ (s.after extents).arena.Fits
      ∧ s.arena.total + bytesIn extents ≤ (s.after extents).arena.total
      ∧ (s.after extents).arena.total ≤ s.arena.total + paddedIn extents := by
  induction extents generalizing s with
  | nil => exact ⟨rfl, hfits, Nat.le_refl _, Nat.le_refl _⟩
  | cons e extents ih =>
      rw [paddedIn_cons] at hlim ⊢
      rw [bytesIn_cons]
      have ha := request_answered hs e
      have hok := request_generous hs generous (e := e) (by omega)
      have htotal := total_request hs hok
      have hge := e.size_le_stop s.arena.used
      have hle := e.stop_le s.arena.used
      obtain ⟨hall, hfits', hge', hle'⟩ := ih (ha.sound hs) (by rw [ha.policy]; exact generous)
        (request_fits hs hfits e) (by rw [ha.settings]; omega)
      refine ⟨Bool.and_eq_true_iff.mpr ⟨hok, hall⟩, hfits', ?_, ?_⟩
      · exact Nat.le_trans (by omega) hge'
      · exact Nat.le_trans hle' (by omega)

end Generous

/-! ## A round in one chunk -/

section OneChunk

variable {s : Site} {c : Chunk} {older : List Chunk} {extents : List Extent}

/-- Requests whose layout ends within the newest chunk are laid out in it. -/
theorem after_inside (hs : s.Sound) (hc : s.arena.chunks = c :: older)
    (hcap : layoutEnd s.arena.used extents ≤ c.capacity)
    (hlim : s.arena.total + layoutEnd s.arena.used extents
      ≤ s.arena.settings.maxSize + s.arena.used) :
    (s.after extents).heap.calls = s.heap.calls
      ∧ (s.after extents).arena.chunks = c :: older
      ∧ (s.after extents).arena.total + s.arena.used
        = s.arena.total + layoutEnd s.arena.used extents
      ∧ s.answersTo extents = (layoutIn c.block s.arena.used extents).map .ok := by
  induction extents generalizing s with
  | nil => exact ⟨rfl, hc, rfl, rfl⟩
  | cons e extents ih =>
      show ((s.request e).2.after extents).heap.calls = s.heap.calls
        ∧ ((s.request e).2.after extents).arena.chunks = c :: older
        ∧ ((s.request e).2.after extents).arena.total + s.arena.used
          = s.arena.total + layoutEnd (e.stop s.arena.used) extents
        ∧ (s.request e).1 :: (s.request e).2.answersTo extents = _
      have hcap : layoutEnd (e.stop s.arena.used) extents ≤ c.capacity := hcap
      have hlim : s.arena.total + layoutEnd (e.stop s.arena.used) extents
        ≤ s.arena.settings.maxSize + s.arena.used := hlim
      have hstop := le_layoutEnd (e.stop s.arena.used) extents
      rcases Nat.eq_zero_or_pos e.size with hz | hpos
      · have hsame : e.stop s.arena.used = s.arena.used := if_pos hz
        rw [hsame] at hcap hlim ⊢
        rw [request_nothing hc hz, layoutIn, if_pos hz, hsame]
        obtain ⟨hcalls, hchunks, hend, hanswers⟩ := ih hs hc hcap hlim
        exact ⟨hcalls, hchunks, hend, congrArg _ hanswers⟩
      · have ha := request_answered hs e
        obtain ⟨hok, hchunks, hused, hcalls⟩ :=
          request_inside hs hc hpos (Nat.le_trans hstop hcap) (by omega)
        have htotal := total_request hs (show (s.request e).1.isOk by rw [hok]; rfl)
        obtain ⟨hcalls', hchunks', hend, hanswers⟩ :=
          ih (ha.sound hs) hchunks (by rw [hused]; exact hcap)
            (by rw [ha.settings, hused]; omega)
        rw [hused] at hend hanswers
        rw [layoutIn, if_neg (Nat.ne_of_gt hpos)]
        exact ⟨hcalls'.trans hcalls, hchunks', by omega, by rw [hok, hanswers]; rfl⟩

/-- Requests whose layout ends beyond the chunk bring the total beyond its
    capacity. -/
theorem after_outside (hs : s.Sound) (hc : s.arena.chunks = [c])
    (generous : s.heap.policy.RefusesNothing)
    (hcap : c.capacity < layoutEnd s.arena.used extents)
    (hlim : s.arena.total + paddedIn extents ≤ s.arena.settings.maxSize) :
    c.capacity < (s.after extents).arena.total := by
  have htotal := hs.arena.used_of_unretired (Arena.retired_of_cons hc)
  induction extents generalizing s with
  | nil =>
      have hused := hs.arena.used_le_capacity
      rw [Arena.currentCapacity_of_cons hc] at hused
      exact absurd hcap (Nat.not_lt.mpr hused)
  | cons e extents ih =>
      rw [paddedIn_cons] at hlim
      have hcap : c.capacity < layoutEnd (e.stop s.arena.used) extents := hcap
      show c.capacity < ((s.request e).2.after extents).arena.total
      have ha := request_answered hs e
      have hs' := ha.sound hs
      rcases Nat.eq_zero_or_pos e.size with hz | hpos
      · rw [show e.stop s.arena.used = s.arena.used from if_pos hz] at hcap
        rw [request_nothing hc hz]
        show c.capacity < (s.after extents).arena.total
        exact ih hs hc generous hcap (by omega) htotal
      · have hstop := e.stop_le s.arena.used
        by_cases hfit : e.stop s.arena.used ≤ c.capacity
        · obtain ⟨-, hone, hused, -⟩ := request_inside hs hc hpos hfit (by omega)
          have htotal' := hs'.arena.used_of_unretired (Arena.retired_of_cons hone)
          exact ih hs' hone (by rw [ha.policy]; exact generous) (by rw [hused]; exact hcap)
            (by rw [ha.settings]; omega) htotal'
        · -- the first that does not fit is charged as if it were in this chunk
          obtain ⟨-, hmore, -, -⟩ := after_kept hs' extents
          have htotal' := total_request hs (request_generous hs generous (e := e) (by omega))
          exact Nat.lt_of_lt_of_le (by omega) hmore

end OneChunk

/-! ## A round -/

theorem policy_reset {s : Site} (hs : s.Sound) : s.reset.heap.policy = s.heap.policy := by
  obtain ⟨kept, -, hheap, hr⟩ :=
    clear_freed (s := { s with arena := s.arena.nextGeneration }) hs.arena.nextGeneration
  show (clear { s with arena := s.arena.nextGeneration }).heap.policy = _
  rw [hr.policy, hheap, ← (release_freed _ _).2]
  exact release_policy _ _

/-- A reset has nothing to do but forget, where one chunk is in use. -/
theorem reset_of_unretired {s : Site} (hnil : s.arena.retired = []) :
    s.reset.heap = s.heap ∧ s.reset.arena.chunks = s.arena.chunks
      ∧ s.reset.arena.peak = s.arena.peak := by
  have hclear := clear_of_unretired (s := { s with arena := s.arena.nextGeneration }) hnil
  have htake : s.arena.chunks.take 1 = s.arena.chunks := by
    cases hc : s.arena.chunks with
    | nil => rfl
    | cons c older =>
        rw [Arena.retired_of_cons hc] at hnil
        rw [hnil]
        rfl
  rw [show s.reset = _ from hclear]
  exact ⟨rfl, htake, rfl⟩

/-- The heap was not asked for anything, and who asks the arena finds
    nothing changed. -/
structure Unchanged (s s' : Site) : Prop where
  calls : s'.heap.calls = s.heap.calls
  peak : s'.arena.peak = s.arena.peak
  capacity : s'.arena.capacity = s.arena.capacity
  chunks : s'.arena.chunks = s.arena.chunks

/-- The arena has settled: another round changes nothing, neither by its
    requests nor by its reset. -/
structure Settled (s : Site) (extents : List Extent) : Prop where
  served : s.Unchanged (s.after extents)
  reset : s.Unchanged (s.round extents)

/-- A site that is ready for a round: nothing is in use, and the size limit
    has room for the requests. -/
structure Ready (s : Site) (extents : List Extent) : Prop where
  sound : s.Sound
  generous : s.heap.policy.RefusesNothing
  limit : paddedIn extents ≤ s.arena.settings.maxSize
  empty : s.arena.total = 0
  fits : s.arena.Fits

namespace Ready

variable {s : Site} {extents : List Extent}

theorem unretired (hr : s.Ready extents) : s.arena.retired = [] :=
  hr.sound.arena.unretired_of_empty hr.empty

theorem unused (hr : s.Ready extents) : s.arena.used = 0 :=
  hr.sound.arena.used_of_empty hr.empty

theorem room (hr : s.Ready extents) :
    s.arena.total + paddedIn extents ≤ s.arena.settings.maxSize := by
  rw [hr.empty, Nat.zero_add]
  exact hr.limit

/-- An arena that is ready serves a round. -/
theorem serves (hr : s.Ready extents) : s.serves extents :=
  (after_generous hr.sound hr.generous hr.fits hr.room).1

/-- The total after the requests of a round. -/
theorem total_after (hr : s.Ready extents) :
    bytesIn extents ≤ (s.after extents).arena.total
      ∧ (s.after extents).arena.total ≤ paddedIn extents := by
  obtain ⟨-, -, hge, hle⟩ := after_generous hr.sound hr.generous hr.fits hr.room
  rw [hr.empty, Nat.zero_add] at hge hle
  exact ⟨hge, hle⟩

theorem sound_nextGeneration (hr : s.Ready extents) :
    ({ s.after extents with arena := (s.after extents).arena.nextGeneration } : Site).Sound := by
  obtain ⟨hsound, -, -, -⟩ := after_kept hr.sound extents
  exact hsound.of_sublist hsound.arena.nextGeneration (List.Sublist.refl _) rfl

/-- The reset after the requests keeps the peak. -/
theorem peak_round (hr : s.Ready extents) :
    (s.round extents).arena.peak = (s.after extents).arena.peak :=
  (clear_books hr.sound_nextGeneration.arena).peak

/-- Once something was requested there is one chunk, and it fits the peak. -/
theorem chunks_round (hr : s.Ready extents) (hne : extents ≠ []) :
    ∃ c, (s.round extents).arena.chunks = [c] ∧ (s.round extents).arena.peak ≤ c.capacity := by
  obtain ⟨hsound, -, -, hpolicy⟩ := after_kept hr.sound extents
  obtain ⟨hall, hfits, -, -⟩ := after_generous hr.sound hr.generous hr.fits hr.room
  obtain ⟨e, rest, rfl⟩ := List.exists_cons_of_ne_nil hne
  obtain ⟨c, older, hc⟩ := List.exists_cons_of_ne_nil (chunks_of_serves hr.sound hall)
  obtain ⟨-, -, -, block, hone⟩ :=
    reset_generous hsound (by rw [hpolicy]; exact hr.generous) hfits hc
  refine ⟨_, hone, ?_⟩
  rw [hr.peak_round]
  exact Nat.le_max_right ..

/-- The next round begins where this one did. -/
theorem round (hr : s.Ready extents) : (s.round extents).Ready extents := by
  obtain ⟨hsound, -, hsettings, hpolicy⟩ := after_kept hr.sound extents
  have hbooks := clear_books hr.sound_nextGeneration.arena
  refine ⟨clear_sound hr.sound_nextGeneration, ?_, ?_, hbooks.total, ?_⟩
  · rw [show (s.round extents).heap.policy = s.heap.policy from
      (policy_reset hsound).trans hpolicy]
    exact hr.generous
  · rw [show (s.round extents).arena.settings = s.arena.settings from
      hbooks.settings.trans hsettings]
    exact hr.limit
  · intro hnil
    by_cases hne : extents = []
    · subst hne
      obtain ⟨-, hchunks, hpeak⟩ := reset_of_unretired hr.unretired
      show s.reset.arena.peak ≤ ((s.reset.arena.chunks.head?).map Chunk.capacity).getD 0
      rw [hchunks, hpeak]
      exact hr.fits hr.unretired
    · obtain ⟨c, hone, hle⟩ := hr.chunks_round hne
      rw [Arena.currentCapacity_of_cons hone]
      exact hle

end Ready

/-! ## Rounds from the second one on -/

/-- A site that a round has warmed up: the peak is at least the bytes of
    the requests, and one chunk is left. -/
structure WarmedUp (s : Site) (extents : List Extent) : Prop extends Ready s extents where
  one : extents ≠ [] → ∃ c, s.arena.chunks = [c]
  low : bytesIn extents ≤ s.arena.peak

namespace WarmedUp

variable {s : Site} {extents : List Extent}

/-- After one round an arena is warmed up. -/
theorem of_ready (hr : s.Ready extents) : (s.round extents).WarmedUp extents where
  toReady := hr.round
  one := by
    intro hne
    obtain ⟨c, hone, -⟩ := hr.chunks_round hne
    exact ⟨c, hone⟩
  low := by
    rw [hr.peak_round, peak_after hr.sound]
    exact Nat.le_trans hr.total_after.1 (Nat.le_max_right ..)

/-- Where the chunk holds the layout, a round leaves it as it is, and
    raises the peak to the end of the layout. -/
theorem inside (hr : s.WarmedUp extents)
    (hcap : layoutEnd 0 extents ≤ s.arena.currentCapacity) :
    (s.after extents).heap.calls = s.heap.calls
      ∧ (s.after extents).arena.chunks = s.arena.chunks
      ∧ (s.after extents).arena.peak = max s.arena.peak (layoutEnd 0 extents)
      ∧ s.answersTo extents
        = (layoutIn ((s.arena.current?.map Chunk.block).getD 0) 0 extents).map .ok := by
  by_cases hne : extents = []
  · subst hne
    exact ⟨rfl, rfl, (max_eq_left (Nat.zero_le _)).symm, rfl⟩
  · obtain ⟨c, hc⟩ := hr.one hne
    rw [Arena.currentCapacity_of_cons hc, ← hr.unused] at hcap
    have hroom := hr.room
    have hle := layoutEnd_le s.arena.used extents
    obtain ⟨hcalls, hone, hend, hanswers⟩ := after_inside hr.sound hc hcap (by omega)
    rw [hr.unused, hr.empty, Nat.zero_add, Nat.add_zero] at hend
    rw [hr.unused] at hanswers
    rw [Arena.current?_of_cons hc]
    exact ⟨hcalls, hone.trans hc.symm, by rw [peak_after hr.sound, hend], hanswers⟩

/-- The reset that follows finds one chunk and has nothing to do. -/
theorem inside_round (hr : s.WarmedUp extents)
    (hcap : layoutEnd 0 extents ≤ s.arena.currentCapacity) :
    (s.round extents).heap.calls = s.heap.calls
      ∧ (s.round extents).arena.chunks = s.arena.chunks := by
  obtain ⟨hcalls, hchunks, -, -⟩ := hr.inside hcap
  have hnil : (s.after extents).arena.retired = [] :=
    (congrArg List.tail hchunks).trans hr.unretired
  obtain ⟨hheap, hchunks', -⟩ := reset_of_unretired hnil
  exact ⟨(congrArg Heap.calls hheap).trans hcalls, hchunks'.trans hchunks⟩

/-- A round in one chunk brings the peak to the end of its layout. -/
theorem layoutEnd_le_peak_round (hr : s.WarmedUp extents)
    (hcap : layoutEnd 0 extents ≤ s.arena.currentCapacity) :
    layoutEnd 0 extents ≤ (s.round extents).arena.peak := by
  obtain ⟨-, -, hpeak, -⟩ := hr.inside hcap
  rw [hr.peak_round, hpeak]
  exact Nat.le_max_right ..

/-- Requests that made no call were laid out within the chunk. -/
theorem inside_of_calls (hr : s.WarmedUp extents)
    (hcalls : (s.after extents).heap.calls = s.heap.calls) :
    layoutEnd 0 extents ≤ s.arena.currentCapacity := by
  by_cases hne : extents = []
  · subst hne
    exact Nat.zero_le _
  · obtain ⟨c, hc⟩ := hr.one hne
    have hend := ((servesInPlace_iff hr.sound hc extents).mp ⟨hr.serves, hcalls⟩).1
    rw [hr.unused] at hend
    rw [Arena.currentCapacity_of_cons hc]
    exact hend

/-- Where it does not, the peak goes beyond the chunk, which fitted the old
    one. -/
theorem outside (hr : s.WarmedUp extents)
    (hcap : s.arena.currentCapacity < layoutEnd 0 extents) :
    s.arena.peak < (s.after extents).arena.peak := by
  by_cases hne : extents = []
  · subst hne
    exact absurd hcap (Nat.not_lt_zero _)
  · obtain ⟨c, hc⟩ := hr.one hne
    have hold := hr.fits hr.unretired
    rw [Arena.currentCapacity_of_cons hc] at hcap hold
    have hbeyond := after_outside hr.sound hc hr.generous (by rw [hr.unused]; exact hcap) hr.room
    rw [peak_after hr.sound]
    exact Nat.lt_of_le_of_lt hold (Nat.lt_of_lt_of_le hbeyond (Nat.le_max_right ..))

/-- A peak that the layout stays below makes the round change nothing. -/
theorem settled (hr : s.WarmedUp extents) (hle : layoutEnd 0 extents ≤ s.arena.peak) :
    s.Settled extents := by
  have hcap := Nat.le_trans hle (hr.fits hr.unretired)
  obtain ⟨hcalls, hchunks, hpeak, -⟩ := hr.inside hcap
  obtain ⟨hcalls', hchunks'⟩ := hr.inside_round hcap
  rw [max_eq_left hle] at hpeak
  obtain ⟨hsound, -, -, -⟩ := after_kept hr.sound extents
  have hnil : (s.after extents).arena.retired = [] :=
    (congrArg List.tail hchunks).trans hr.unretired
  have hcapacity := hr.sound.arena.capacity_of_unretired hr.unretired
  refine ⟨⟨hcalls, hpeak, ?_, hchunks⟩, ⟨hcalls', hr.peak_round.trans hpeak, ?_, hchunks'⟩⟩
  · rw [hsound.arena.capacity_of_unretired hnil, hcapacity]
    exact Arena.currentCapacity_congr hchunks
  · rw [hr.round.sound.arena.capacity_of_unretired hr.round.unretired, hcapacity]
    exact Arena.currentCapacity_congr hchunks'

/-- A peak that the layout goes beyond is raised. -/
theorem rises (hr : s.WarmedUp extents) (hlt : s.arena.peak < layoutEnd 0 extents) :
    s.arena.peak < (s.after extents).arena.peak := by
  by_cases hcap : layoutEnd 0 extents ≤ s.arena.currentCapacity
  · obtain ⟨-, -, hpeak, -⟩ := hr.inside hcap
    rw [hpeak]
    exact Nat.lt_of_lt_of_le hlt (Nat.le_max_right ..)
  · exact hr.outside (Nat.lt_of_not_le hcap)

end WarmedUp

/-! ## All rounds -/

/-- A new arena is ready for a first round. -/
theorem ready_establish {settings : Settings} (valid : settings.Valid)
    (words : settings.maxSize ≤ Word.largest) (id : Nat) {heap : Heap}
    (generous : heap.policy.RefusesNothing) {extents : List Extent}
    (limit : paddedIn extents ≤ settings.maxSize) :
    (establish settings id heap).2.Ready extents := by
  have hres := establish_resized valid words id heap
  have hsound := (History.Sound.start words (establish_generous valid words id generous)).site
  exact {
    sound := hsound
    generous := by rw [hres.policy]; exact generous
    limit := by rw [hres.books.settings]; exact limit
    empty := hres.books.total
    fits := hsound.arena.fits (hres.books.peak.trans hres.books.total.symm) }

section Rounds

variable {s : Site} {extents : List Extent}

/-- Rounds leave an arena ready. -/
theorem ready_rounds (hr : s.Ready extents) (j : Nat) : (s.rounds extents j).Ready extents := by
  induction j with
  | zero => exact hr
  | succ j ih => exact ih.round

/-- And warmed up. -/
theorem warmedUp_rounds (hr : s.Ready extents) (j : Nat) :
    (s.rounds extents (j + 1)).WarmedUp extents := .of_ready (ready_rounds hr j)

/-- No peak is above the sizes with the most padding there can be. -/
theorem peak_rounds_le (hr : s.Ready extents) (hnew : s.arena.peak = 0) (j : Nat) :
    (s.rounds extents j).arena.peak ≤ paddedIn extents := by
  induction j with
  | zero =>
      show s.arena.peak ≤ _
      rw [hnew]
      exact Nat.zero_le _
  | succ j ih =>
      have hready := ready_rounds hr j
      show ((s.rounds extents j).round extents).arena.peak ≤ _
      rw [hready.peak_round, peak_after hready.sound]
      exact max_le ih hready.total_after.2

/-- The peak never falls from round to round. -/
theorem peak_rounds_succ (hr : s.Ready extents) (j : Nat) :
    (s.rounds extents j).arena.peak ≤ (s.rounds extents (j + 1)).arena.peak := by
  have hready := ready_rounds hr j
  show _ ≤ ((s.rounds extents j).round extents).arena.peak
  rw [hready.peak_round, peak_after hready.sound]
  exact Nat.le_max_left ..

/-- Each further round has the layout below its peak, or a higher peak than
    the one before. -/
theorem settled_or_risen (hr : s.Ready extents) (k : Nat) :
    layoutEnd 0 extents ≤ (s.rounds extents (k + 1)).arena.peak
      ∨ bytesIn extents + k < (s.rounds extents (k + 2)).arena.peak := by
  induction k with
  | zero =>
      have hs := warmedUp_rounds hr 0
      refine (Nat.lt_or_ge _ _).symm.imp_right ?_
      intro hlt
      have hrise := hs.rises hlt
      rw [← hs.peak_round] at hrise
      exact Nat.lt_of_le_of_lt hs.low hrise
  | succ k ih =>
      have hs := warmedUp_rounds hr (k + 1)
      refine (Nat.lt_or_ge _ _).symm.imp_right ?_
      intro hlt
      have hrise := hs.rises hlt
      rw [← hs.peak_round] at hrise
      rcases ih with hle | hrisen
      · have := peak_rounds_succ hr (k + 1)
        omega
      · exact Nat.lt_of_le_of_lt hrisen hrise

/-- After seven rounds for each request the layout is below the peak. -/
theorem layoutEnd_le_peak (hr : s.Ready extents) (hnew : s.arena.peak = 0) :
    layoutEnd 0 extents ≤ (s.rounds extents (7 * extents.length + 1)).arena.peak := by
  rcases settled_or_risen hr (7 * extents.length) with hle | hrisen
  · exact hle
  · have := peak_rounds_le hr hnew (7 * extents.length + 2)
    rw [paddedIn_eq] at this
    omega

/-- From a peak that the layout is below on, no round changes anything. -/
theorem settled_rounds (hr : s.Ready extents) {i : Nat}
    (hle : layoutEnd 0 extents ≤ (s.rounds extents (i + 1)).arena.peak) {j : Nat}
    (hij : i + 1 ≤ j) :
    (s.rounds extents j).Settled extents
      ∧ (s.rounds extents j).arena.chunks = (s.rounds extents (i + 1)).arena.chunks
      ∧ (s.rounds extents j).arena.peak = (s.rounds extents (i + 1)).arena.peak := by
  induction j, hij using Nat.le_induction with
  | base => exact ⟨(warmedUp_rounds hr i).settled hle, rfl, rfl⟩
  | succ j hij ih =>
      obtain ⟨⟨-, hsettled⟩, hchunks, hpeak⟩ := ih
      have hpeak' := hsettled.peak.trans hpeak
      refine ⟨?_, hsettled.chunks.trans hchunks, hpeak'⟩
      exact (warmedUp_rounds hr j).settled (hpeak' ▸ hle)

/-- From then on every round answers as one did in the same chunk. -/
theorem settled_and_alike (hr : s.Ready extents) {i k : Nat}
    (hcap : layoutEnd 0 extents ≤ (s.rounds extents (i + 1)).arena.currentCapacity)
    (hchunks : (s.rounds extents (k + 1)).arena.chunks = (s.rounds extents (i + 1)).arena.chunks)
    (hle : layoutEnd 0 extents ≤ (s.rounds extents (k + 1)).arena.peak) {j : Nat}
    (hkj : k + 1 ≤ j) :
    (s.rounds extents j).Settled extents
      ∧ (s.rounds extents j).answersTo extents = (s.rounds extents (i + 1)).answersTo extents := by
  obtain ⟨hsettled, hsame, -⟩ := settled_rounds hr hle hkj
  refine ⟨hsettled, ?_⟩
  obtain ⟨j, rfl⟩ := Nat.exists_eq_succ_of_ne_zero (n := j) (by omega)
  have hsame := hsame.trans hchunks
  have hcap' := hcap
  rw [← Arena.currentCapacity_congr hsame] at hcap'
  obtain ⟨-, -, -, hanswers⟩ := (warmedUp_rounds hr i).inside hcap
  obtain ⟨-, -, -, hanswers'⟩ := (warmedUp_rounds hr j).inside hcap'
  rw [hanswers, hanswers', Arena.current?, Arena.current?, hsame]

end Rounds

end Site

/-- Rounds of the same requests on a new arena whose size limit has room
    for seven bytes more with each of them, on a heap that refuses nothing.
    Every request succeeds.  From the second round on, a round asks the
    heap for nothing or raises the peak.  Only the first seven rounds for
    each request, and one more, make any call at all; all rounds after them
    change nothing, and answer alike.  The same holds already of all rounds
    after the first, from the second one on, whose requests made no call:
    that one may be the last to raise the peak. -/
theorem traffic_settles {settings : Settings} (valid : settings.Valid)
    (words : settings.maxSize ≤ Word.largest) {id : Nat} {heap : Heap}
    (generous : heap.policy.RefusesNothing) (extents : List Extent)
    (limit : (extents.map fun e => e.size + 7).sum ≤ settings.maxSize) (state : Nat → Site)
    (made : ∀ j, state j = (Site.establish settings id heap).2.rounds extents j) :
    (∀ j, (state j).serves extents)
    ∧ (∀ j, 0 < j → ((state j).after extents).heap.calls = (state j).heap.calls
        ∨ (state j).arena.peak < ((state j).after extents).arena.peak)
    ∧ (∀ j, (state (j + 1)).heap.calls ≠ (state j).heap.calls → j < 7 * extents.length + 1)
    ∧ (∀ j, 7 * extents.length + 1 ≤ j → (state j).Settled extents
        ∧ (state j).answersTo extents = (state (7 * extents.length + 1)).answersTo extents)
    ∧ ∀ i, 0 < i → ((state i).after extents).heap.calls = (state i).heap.calls →
        ∀ j, i < j → (state j).Settled extents
          ∧ (state j).answersTo extents = (state i).answersTo extents := by
  obtain rfl : state = fun j => (Site.establish settings id heap).2.rounds extents j := funext made
  have hr := Site.ready_establish valid words id generous limit
  have hnew : (Site.establish settings id heap).2.arena.peak = 0 :=
    (Site.establish_resized valid words id heap).books.peak
  have hlate := Site.layoutEnd_le_peak hr hnew
  refine ⟨fun j => (Site.ready_rounds hr j).serves, ?_, ?_, ?_, ?_⟩
  · intro j hj
    obtain ⟨j, rfl⟩ := Nat.exists_eq_succ_of_ne_zero (Nat.ne_of_gt hj)
    have hs := Site.warmedUp_rounds hr j
    rcases Nat.lt_or_ge (Arena.currentCapacity _) (layoutEnd 0 extents) with hlt | hge
    · exact Or.inr (hs.outside hlt)
    · exact Or.inl (hs.inside hge).1
  · intro j hcalls
    refine Nat.lt_of_not_le fun hle => hcalls ?_
    exact (Site.settled_rounds hr hlate hle).1.reset.calls
  · intro j hj
    have hs := Site.warmedUp_rounds hr (7 * extents.length)
    exact Site.settled_and_alike hr (Nat.le_trans hlate (hs.fits hs.unretired)) rfl hlate hj
  · intro i hi hcalls j hij
    obtain ⟨i, rfl⟩ := Nat.exists_eq_succ_of_ne_zero (Nat.ne_of_gt hi)
    have hs := Site.warmedUp_rounds hr i
    have hcap := hs.inside_of_calls hcalls
    -- this round may still raise the peak, to the end of the layout
    exact Site.settled_and_alike hr hcap (hs.inside_round hcap).2 (hs.layoutEnd_le_peak_round hcap)
      hij

/-- With a spare of one byte the first round takes three chunks, and makes
    six calls with its reset; the second, which has more padding to place,
    makes three; no other makes any. -/
theorem traffic_settles_after_two_rounds :
    let extents : List Extent := [⟨1, 1⟩, ⟨8, 1⟩, ⟨8, 8⟩]
    let state := (Site.establish { spare := 1, poison := true } 0
      (Heap.fresh .generous)).2.rounds extents
    (extents.map fun e => e.size + 7).sum = 38
      ∧ (state 1).heap.calls.length = 6 ∧ (state 2).heap.calls.length = 9
      ∧ ((state 2).after extents).heap.calls = (state 2).heap.calls
      ∧ ∀ j, 2 < j → (state j).Settled extents
          ∧ (state j).answersTo extents = (state 2).answersTo extents := by
  intro extents state
  have hquiet : ((state 2).after extents).heap.calls = (state 2).heap.calls := by decide +kernel
  obtain ⟨-, -, -, -, hsettled⟩ := traffic_settles (by decide) (by decide)
    Policy.generous_refusesNothing extents (by decide) state fun _ => rfl
  exact ⟨rfl, by decide +kernel, by decide +kernel, hquiet,
    hsettled 2 (by decide) hquiet⟩

end ScratchArena
