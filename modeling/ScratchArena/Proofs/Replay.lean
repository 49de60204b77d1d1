import ScratchArena.Proofs.Outcomes

/-! # Replay — when a peak is enough for the traffic it was learned from

    A reset leaves one chunk, extended to the highest total seen, and the
    same requests are then laid out in it end to end.  Whether they fit is
    a matter of where that layout ends: the arena serves them from the
    chunk at hand exactly if the end is within the chunk and within the
    size limit.

    The end of the layout is not the total of the first round.  There,
    padding was charged for offsets in several chunks; in one chunk it is
    due at other offsets, and there may be more of it. -/

namespace ScratchArena

/-- A number of bytes, to be aligned. -/
structure Extent where
  size : Nat
  align : Nat
deriving DecidableEq, Repr

/-- One past an extent that is laid behind an offset; nothing takes no
    room. -/
def Extent.stop (e : Extent) (offset : Nat) : Nat :=
  if e.size = 0 then offset else offset + padding offset (clampAlign e.align) + e.size

/-- One past the last of several extents. -/
def layoutEnd (offset : Nat) : List Extent → Nat
  | [] => offset
  | e :: extents => layoutEnd (e.stop offset) extents

theorem Extent.le_stop (e : Extent) (offset : Nat) : offset ≤ e.stop offset := by
  rw [Extent.stop]
  split
  · exact Nat.le_refl _
  · omega

/-- A layout ends where it starts or later. -/
theorem le_layoutEnd (offset : Nat) (extents : List Extent) :
    offset ≤ layoutEnd offset extents := by
  induction extents generalizing offset with
  | nil => exact Nat.le_refl _
  | cons e extents ih => exact Nat.le_trans (e.le_stop offset) (ih _)

namespace Site

/-- The answer to a request for bytes, and the site it leaves. -/
def request (s : Site) (e : Extent) : Except Failure Pointer × Site :=
  s.allocBytes e.size e.align

/-- The site after several requests, however they were answered. -/
def after (s : Site) (extents : List Extent) : Site :=
  extents.foldl (fun s e => (s.request e).2) s

/-- Every one of several requests succeeds. -/
def serves (s : Site) : List Extent → Bool
  | [] => true
  | e :: extents => (s.request e).1.isOk && (s.request e).2.serves extents

/-- Every one of them succeeds, and the heap is not asked for anything. -/
def ServesInPlace (s : Site) (extents : List Extent) : Prop :=
  s.serves extents ∧ (s.after extents).heap.calls = s.heap.calls

/-- What a request comes to. -/
theorem request_answered {s : Site} (hs : s.Sound) (e : Extent) :
    s.Answered e.size e.align (s.request e) := allocBytes_answered hs.arena e.size e.align

theorem calls_length_le {s : Site} (hs : s.Sound) (extents : List Extent) :
    s.heap.calls.length ≤ (s.after extents).heap.calls.length := by
  induction extents generalizing s with
  | nil => exact Nat.le_refl _
  | cons e extents ih =>
      have ha := request_answered hs e
      obtain ⟨room, hr, hcalls⟩ := ha.asked
      refine Nat.le_trans ?_ (ih (ha.sound hs))
      rw [hcalls]
      exact hr.calls_length_le

/-- A request that succeeds is charged what it takes behind the bytes in
    use. -/
theorem total_request {s : Site} {e : Extent} (hs : s.Sound) (hok : (s.request e).1.isOk) :
    (s.request e).2.arena.total + s.arena.used = s.arena.total + e.stop s.arena.used := by
  have ha := request_answered hs e
  generalize s.request e = outcome at ha hok ⊢
  cases ha with
  | failed resized arena => exact nomatch hok
  | @nothing p room s' empty resized alike on_top =>
      rw [show e.stop s.arena.used = s.arena.used from if_pos empty]
      show s'.arena.total + _ = _
      rw [alike.arena, resized.books.total]
  | @allotted room s' c offset positive allotted =>
      have htotal : s'.arena.total
          = room.arena.total + padding s.arena.used (clampAlign e.align) + e.size := by
        rw [allotted.arena]
        rfl
      rw [Extent.stop, if_neg (Nat.ne_of_gt positive)]
      show s'.arena.total + _ = _
      rw [htotal, allotted.resized.books.total]
      omega

/-! ## The newest chunk -/

section Newest

variable {s : Site} {c : Chunk} {older : List Chunk} {e : Extent}

/-- A request for no bytes moves nothing. -/
theorem request_nothing (hc : s.arena.chunks = c :: older) (hz : e.size = 0) :
    s.request e = (.ok ⟨c.block, 0⟩, s) :=
  (if_pos hz).trans (allocNothing_of_cons hc)

/-- What ends within the newest chunk and the size limit is put there. -/
theorem request_inside (hs : s.Sound) (hc : s.arena.chunks = c :: older) (hpos : 0 < e.size)
    (hcap : e.stop s.arena.used ≤ c.capacity)
    (hlim : s.arena.total + e.stop s.arena.used ≤ s.arena.settings.maxSize + s.arena.used) :
    (s.request e).1
        = .ok ⟨c.block, s.arena.used + padding s.arena.used (clampAlign e.align)⟩
      ∧ (s.request e).2.arena.chunks = c :: older
      ∧ (s.request e).2.arena.used = e.stop s.arena.used
      ∧ (s.request e).2.heap.calls = s.heap.calls := by
  have ho := allocBytes_outcome hs.arena hpos e.align
  rw [Extent.stop, if_neg (Nat.ne_of_gt hpos)] at hcap hlim ⊢
  rw [← Arena.currentCapacity_of_cons hc] at hcap
  obtain ⟨hcalls, harena, d, hd, hok⟩ := ho.of_fits (by omega) hcap
  obtain rfl := Option.some.inj (hd.symm.trans (Arena.current?_of_cons hc))
  rw [request]
  exact ⟨hok, by rw [harena]; exact hc, by rw [harena]; rfl, hcalls⟩

/-- What does not fit the chunk and the limit fails or needs the heap. -/
theorem request_outside (hs : s.Sound) (hc : s.arena.chunks = c :: older) (hpos : 0 < e.size)
    (hnot : ¬ (e.stop s.arena.used ≤ c.capacity
      ∧ s.arena.total + e.stop s.arena.used ≤ s.arena.settings.maxSize + s.arena.used)) :
    (s.request e).1.isOk = false
      ∨ s.heap.calls.length < (s.request e).2.heap.calls.length := by
  have ho := allocBytes_outcome hs.arena hpos e.align
  rw [Extent.stop, if_neg (Nat.ne_of_gt hpos), ← Arena.currentCapacity_of_cons hc] at hnot
  rw [request]
  by_cases hbeyond : s.arena.settings.maxSize
      < s.arena.total + padding s.arena.used (clampAlign e.align) + e.size
  · rw [ho.overflow_iff.mpr hbeyond]
    exact Or.inl rfl
  · obtain ⟨call, hcalls⟩ := ho.of_cramped ⟨Nat.le_of_not_lt hbeyond, by omega⟩
    rw [hcalls, List.length_append]
    exact Or.inr (Nat.lt_succ_self _)

/-- The newest chunk serves exactly the requests whose layout ends within it
    and brings the total within the size limit. -/
theorem servesInPlace_iff_newest (hs : s.Sound) (hc : s.arena.chunks = c :: older)
    (extents : List Extent) :
    s.ServesInPlace extents ↔ layoutEnd s.arena.used extents ≤ c.capacity
      ∧ s.arena.total + layoutEnd s.arena.used extents
        ≤ s.arena.settings.maxSize + s.arena.used := by
  -- each request that fits leaves the same chunk, with more of it in use
  induction extents generalizing s with
  | nil =>
      have hcap := hs.arena.used_le_capacity
      rw [Arena.currentCapacity_of_cons hc] at hcap
      exact iff_of_true ⟨rfl, rfl⟩ ⟨hcap, Nat.add_le_add_right hs.arena.total_le_limit _⟩
  | cons e extents ih =>
      show ((s.request e).1.isOk && (s.request e).2.serves extents) = true
        ∧ ((s.request e).2.after extents).heap.calls = s.heap.calls ↔ _
      rw [show layoutEnd s.arena.used (e :: extents)
        = layoutEnd (e.stop s.arena.used) extents from rfl]
      rcases Nat.eq_zero_or_pos e.size with hz | hpos
      · rw [request_nothing hc hz, show e.stop s.arena.used = s.arena.used from if_pos hz]
        exact ih hs hc
      · have hs' := (request_answered hs e).sound hs
        have hsettings := (request_answered hs e).settings
        have hle := le_layoutEnd (e.stop s.arena.used) extents
        by_cases hfit : e.stop s.arena.used ≤ c.capacity
            ∧ s.arena.total + e.stop s.arena.used ≤ s.arena.settings.maxSize + s.arena.used
        · obtain ⟨hok, hc', hused, hcalls⟩ := request_inside hs hc hpos hfit.1 hfit.2
          have hserved : (s.request e).1.isOk = true := by rw [hok]; rfl
          have htotal := total_request hs hserved
          have hiff := ih hs' hc'
          rw [hused, hsettings] at hiff
          rw [hserved, Bool.true_and, ← hcalls]
          refine hiff.trans (and_congr_right fun _ => ?_)
          omega
        · -- what follows cannot end any earlier, nor take the call back
          refine iff_of_false ?_ (by omega)
          rintro ⟨hall, hcalls⟩
          rcases request_outside hs hc hpos hfit with hfail | hasked
          · rw [hfail] at hall
            exact nomatch hall
          · have hmore := calls_length_le hs' extents
            rw [hcalls] at hmore
            omega

/-- In a single chunk the total is what is used of it, so both bounds are
    about the end of the layout. -/
theorem servesInPlace_iff (hs : s.Sound) (hc : s.arena.chunks = [c]) (extents : List Extent) :
    s.ServesInPlace extents ↔ layoutEnd s.arena.used extents ≤ c.capacity
      ∧ layoutEnd s.arena.used extents ≤ s.arena.settings.maxSize := by
  have htotal := hs.arena.used_of_unretired (Arena.retired_of_cons hc)
  refine (servesInPlace_iff_newest hs hc extents).trans (and_congr_right fun _ => ?_)
  omega

end Newest

/-! ## A round of requests -/

/-- What a round of requests keeps. -/
theorem after_kept {s : Site} (hs : s.Sound) (extents : List Extent) :
    (s.after extents).Sound
      ∧ s.arena.total ≤ (s.after extents).arena.total
      ∧ (s.after extents).arena.settings = s.arena.settings
      ∧ (s.after extents).heap.policy = s.heap.policy := by
  induction extents generalizing s with
  | nil => exact ⟨hs, Nat.le_refl _, rfl, rfl⟩
  | cons e extents ih =>
      have ha := request_answered hs e
      obtain ⟨hsound, htotal, hsettings, hpolicy⟩ := ih (ha.sound hs)
      exact ⟨hsound, Nat.le_trans ha.total_le htotal, hsettings.trans ha.settings,
        hpolicy.trans ha.policy⟩

/-- A round raises the peak to its last total where that goes beyond it. -/
theorem peak_after {s : Site} (hs : s.Sound) (extents : List Extent) :
    (s.after extents).arena.peak = max s.arena.peak (s.after extents).arena.total := by
  induction extents generalizing s with
  | nil => exact (max_eq_left hs.arena.total_le_peak).symm
  | cons e extents ih =>
      have ha := request_answered hs e
      obtain ⟨-, htotal, -, -⟩ := after_kept (ha.sound hs) extents
      show ((s.request e).2.after extents).arena.peak
        = max s.arena.peak ((s.request e).2.after extents).arena.total
      rw [ih (ha.sound hs), ha.peak_eq_max hs.arena.total_le_peak, max_assoc,
        max_eq_right htotal]

/-- As long as nothing is given up, the total is its own peak. -/
theorem after_round {s : Site} (hs : s.Sound) (hpeak : s.arena.peak = s.arena.total)
    (extents : List Extent) :
    (s.after extents).Sound
      ∧ (s.after extents).arena.peak = (s.after extents).arena.total
      ∧ (s.after extents).arena.settings = s.arena.settings
      ∧ (s.after extents).heap.policy = s.heap.policy := by
  obtain ⟨hsound, htotal, hsettings, hpolicy⟩ := after_kept hs extents
  exact ⟨hsound, by rw [peak_after hs, hpeak, max_eq_right htotal], hsettings, hpolicy⟩

/-- Requests that succeed leave a chunk, be it only for nothing. -/
theorem chunks_of_serves {s : Site} (hs : s.Sound) {e : Extent} {extents : List Extent}
    (hall : s.serves (e :: extents)) : (s.after (e :: extents)).arena.chunks ≠ [] := by
  induction extents generalizing s e with
  | nil =>
      have ha := request_answered hs e
      have hok := (Bool.and_eq_true_iff.mp hall).1
      show (s.request e).2.arena.chunks ≠ []
      cases hr : s.request e with
      | mk outcome s' =>
          rw [hr] at ha hok
          cases outcome with
          | error f => exact nomatch hok
          | ok p => exact ha.chunks_ne_nil
  | cons e' extents ih =>
      exact ih ((request_answered hs e).sound hs) (Bool.and_eq_true_iff.mp hall).2

/-! ## A reset on a heap that refuses nothing -/

/-- A heap that refuses nothing grants every growth. -/
theorem grow_generous {s : Site} (generous : s.heap.policy.RefusesNothing)
    {growth : Growth} (hapt : growth.Apt s.arena) : ∃ c, (s.grow growth).1 = .ok c := by
  have hgrown := grow_grown hapt
  generalize s.grow growth = outcome at hgrown ⊢
  cases hgrown with
  | @refusedGrow c older n s' chunks unused larger arena refused =>
      have hnone := (Heap.grow_fst_eq_none_iff ..).mp (congrArg Prod.fst refused)
      exact absurd hnone (generous _ _)
  | extended chunks unused larger arena granted => exact ⟨_, rfl⟩
  | @refusedAlloc n s' positive arena refused =>
      have hnone := (Heap.alloc_fst_eq_none_iff ..).mp (congrArg Prod.fst refused)
      exact absurd hnone (generous _ _)
  | pushed positive inUse arena granted => exact ⟨_, rfl⟩

/-- And every reservation. -/
theorem reserve_generous {s : Site} (hs : s.arena.Sound)
    (generous : s.heap.policy.RefusesNothing) (more : Nat) :
    (s.reserve more).1 = .ok () := by
  by_cases hfit : Word.satAdd s.arena.used more ≤ s.arena.currentCapacity
  · rw [show s.reserve more = (.ok (), s) from if_pos hfit]
  · obtain ⟨c, hok⟩ := grow_generous generous (hs.reserve_apt hfit)
    rw [reserve_of_full hfit, hok]
    rfl

/-- Room in an unused single chunk is made by extending it. -/
theorem reserve_unused {s : Site} {c : Chunk} (hs : s.arena.Sound)
    (generous : s.heap.policy.RefusesNothing)
    (hc : s.arena.chunks = [c]) (hunused : s.arena.used = 0) {more : Nat}
    (hword : more ≤ Word.largest) :
    ∃ block, (s.reserve more).2.arena.chunks
      = [{ c with block, capacity := max c.capacity more }] := by
  have hok := reserve_generous hs generous more
  have hsum : Word.satAdd s.arena.used more = more := by
    rw [hunused, Word.satAdd_eq (by omega), Nat.zero_add]
  have hextend : s.arena.growthFor s.arena.used more = .extend more :=
    if_pos ⟨by rw [hc]; exact List.cons_ne_nil _ _, hunused⟩
  rcases reserve_grown hs more with ⟨hfits, heq⟩ | ⟨hfull, ⟨answer, room⟩, hgrown, heq⟩
  · rw [hsum, Arena.currentCapacity_of_cons hc] at hfits
    rw [heq, hc, Nat.max_eq_left hfits]
    exact ⟨c.block, rfl⟩
  · rw [hextend] at hgrown
    rw [heq] at hok ⊢
    cases hgrown with
    | refusedGrow chunks unused larger arena refused => exact nomatch hok
    | @extended c' older n block s' chunks unused larger arena granted =>
        obtain ⟨rfl, rfl⟩ := List.cons.inj (hc.symm.trans chunks)
        refine ⟨block, ?_⟩
        rw [arena, Arena.extend_chunks chunks, Nat.max_eq_right (Nat.le_of_lt larger)]

theorem release_policy (s : Site) (chunks : List Chunk) :
    (s.release chunks).heap.policy = s.heap.policy := by
  rw [(s.release_freed chunks).2]
  exact s.heap.policy_freeAll chunks

end Site

/-- A chunk that is alone is large enough for the peak. -/
def Arena.Fits (a : Arena) : Prop := a.retired = [] → a.peak ≤ a.currentCapacity

/-- Where the total is its own peak, a chunk that is alone has held it. -/
theorem Arena.Sound.fits {a : Arena} (h : a.Sound) (hpeak : a.peak = a.total) : a.Fits := by
  intro hnil
  rw [hpeak, ← h.used_of_unretired hnil]
  exact h.used_le_capacity

namespace Site

/-- Where a chunk that is alone fits the peak, clearing leaves one that
    does. -/
theorem clear_generous {s : Site} (hs : s.Sound)
    (generous : s.heap.policy.RefusesNothing)
    (hfits : s.arena.Fits) {c : Chunk} {older : List Chunk}
    (hc : s.arena.chunks = c :: older) :
    ∃ block, s.clear.arena.chunks
      = [{ c with block, capacity := max c.capacity s.arena.peak }] := by
  have hretired := Arena.retired_of_cons hc
  have htake : s.arena.chunks.take 1 = [c] := by
    rw [hc]
    rfl
  cases older with
  | nil =>
      have hcap := hfits hretired
      rw [Arena.currentCapacity_of_cons hc] at hcap
      rw [Nat.max_eq_left hcap, clear_of_unretired hretired]
      exact ⟨c.block, htake⟩
  | cons old older =>
      obtain ⟨harena, -, -⟩ := s.kept_eq
      have hword : s.kept.arena.peak ≤ Word.largest := by
        rw [harena]
        exact Nat.le_trans hs.arena.peak_le_limit hs.arena.words
      have hpolicy : s.kept.heap.policy = s.heap.policy := release_policy _ _
      have hkept : s.kept.arena.Sound := harena ▸ hs.arena.newestOnly
      have hok := reserve_generous hkept (by rw [hpolicy]; exact generous) s.kept.arena.peak
      obtain ⟨block, hchunks⟩ := reserve_unused hkept (by rw [hpolicy]; exact generous)
        (by rw [harena]; exact htake) (by rw [harena]; rfl) hword
      rw [clear_of_retired (by rw [hretired]; exact List.cons_ne_nil _ _)]
      split
      · rename_i hr
        rw [hr, harena] at hchunks
        exact ⟨block, hchunks⟩
      · rename_i hr
        rw [hr] at hok
        exact nomatch hok

/-- A reset then leaves one chunk that holds the peak. -/
theorem reset_generous {s : Site} (hs : s.Sound)
    (generous : s.heap.policy.RefusesNothing)
    (hfits : s.arena.Fits) {c : Chunk} {older : List Chunk}
    (hc : s.arena.chunks = c :: older) :
    s.reset.Sound ∧ s.reset.arena.used = 0 ∧ s.reset.arena.settings = s.arena.settings
      ∧ ∃ block, s.reset.arena.chunks
        = [{ c with block, capacity := max c.capacity s.arena.peak }] := by
  have hn : ({ s with arena := s.arena.nextGeneration } : Site).Sound :=
    hs.of_sublist hs.arena.nextGeneration (List.Sublist.refl _) rfl
  have hbooks := clear_books hn.arena
  have hsound := clear_sound hn
  exact ⟨hsound, hsound.arena.used_of_empty hbooks.total, hbooks.settings,
    clear_generous hn generous hfits hc⟩

/-- A heap that refuses nothing grants what valid settings reserve. -/
theorem establish_generous {settings : Settings} (valid : settings.Valid)
    (words : settings.maxSize ≤ Word.largest) (id : Nat) {heap : Heap}
    (generous : heap.policy.RefusesNothing) :
    (establish settings id heap).1 = .ok () := by
  rw [establish, Settings.flaw?_eq_none_iff.mpr valid]
  exact reserve_generous (Arena.Sound.bare valid words id) generous settings.reserve

/-- What valid settings reserve is room made on a bare site. -/
theorem establish_resized {settings : Settings} (valid : settings.Valid)
    (words : settings.maxSize ≤ Word.largest) (id : Nat) (heap : Heap) :
    Resized (bare settings id heap) (establish settings id heap).2 := by
  rw [establish, Settings.flaw?_eq_none_iff.mpr valid]
  exact reserve_resized (Arena.Sound.bare valid words id) settings.reserve

end Site

/-- Requests that a new arena has served are served again after a reset,
    and without the heap, exactly if laid end to end they end within the
    larger of the newest chunk and the peak, and within the size limit. -/
theorem replay_in_place_iff {settings : Settings} (valid : settings.Valid)
    (words : settings.maxSize ≤ Word.largest) {id : Nat} {heap : Heap}
    (generous : heap.policy.RefusesNothing) (extents : List Extent)
    (s : Site) (made : s = (Site.establish settings id heap).2) (served : s.serves extents) :
    (s.after extents).reset.ServesInPlace extents
      ↔ layoutEnd 0 extents
          ≤ max (s.after extents).arena.currentCapacity (s.after extents).arena.peak
        ∧ layoutEnd 0 extents ≤ settings.maxSize := by
  have built := Site.establish_generous valid words id generous
  have hs : s.Sound := made ▸ (History.Sound.start words built).site
  have hr : Resized (Site.bare settings id heap) s :=
    made ▸ Site.establish_resized valid words id heap
  -- a new arena has charged nothing, so the first round never falls below its peak
  have hpeak : s.arena.peak = s.arena.total := hr.books.peak.trans hr.books.total.symm
  obtain ⟨hround, hpeak', hsettings, hpolicy⟩ := Site.after_round hs hpeak extents
  rw [hr.books.settings] at hsettings
  rw [hr.policy] at hpolicy
  cases extents with
  | nil => exact iff_of_true ⟨rfl, rfl⟩ ⟨Nat.zero_le _, Nat.zero_le _⟩
  | cons e extents =>
      obtain ⟨c, older, hc⟩ := List.exists_cons_of_ne_nil (Site.chunks_of_serves hs served)
      obtain ⟨hreset, hunused, hsame, block, hone⟩ :=
        Site.reset_generous hround (by rw [hpolicy]; exact generous)
          (hround.arena.fits hpeak') hc
      have hiff := Site.servesInPlace_iff hreset hone (e :: extents)
      rw [hunused, hsame, hsettings] at hiff
      rw [Arena.currentCapacity_of_cons hc]
      exact hiff

/-- Two extents in two chunks of a first round fit the one chunk of the
    second. -/
theorem replay_in_place_of_two :
    let s := (Site.establish (.standard true) 0 (Heap.fresh .generous)).2
    (s.after [⟨100, 8⟩, ⟨100, 8⟩]).arena.chunks.length = 2
      ∧ (s.after [⟨100, 8⟩, ⟨100, 8⟩]).reset.ServesInPlace [⟨100, 8⟩, ⟨100, 8⟩] :=
  ⟨by decide +kernel,
    (replay_in_place_iff (by decide) (by decide) Policy.generous_refusesNothing
      [⟨100, 8⟩, ⟨100, 8⟩] _ rfl
      (by decide +kernel)).mpr (by decide +kernel)⟩

/-- A peak that is too small for its own traffic.  Three chunks need no
    padding for the last extent, one chunk needs seven bytes of it: the
    extents end at 24 where the peak was 17. -/
theorem replay_beyond_peak :
    ¬ ∀ (settings : Settings) (id : Nat) (heap : Heap) (extents : List Extent),
      settings.Valid → settings.maxSize ≤ Word.largest →
      heap.policy.RefusesNothing →
      (Site.establish settings id heap).2.serves extents →
      ((Site.establish settings id heap).2.after extents).reset.ServesInPlace extents := by
  intro hall
  have hplace := hall { spare := 1, poison := true } 0 (Heap.fresh .generous)
    [⟨1, 1⟩, ⟨8, 1⟩, ⟨8, 8⟩]
    (by decide) (by decide) Policy.generous_refusesNothing (by decide +kernel)
  exact absurd (congrArg List.length hplace.2) (by decide +kernel)

end ScratchArena
