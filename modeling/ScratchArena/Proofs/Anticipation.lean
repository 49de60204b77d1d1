import ScratchArena.Proofs.Accounting
import ScratchArena.Proofs.Atomicity
import ScratchArena.Proofs.Bookkeeping
import ScratchArena.Proofs.Outcomes

/-! # Anticipation — the capacity keeps up with the peak

    Every growth is sized by the highest total seen, so that an arena that
    has grown can hold its peak without another chunk.  Three formulas size
    a growth, and each of them brings the capacity to the peak, whatever it
    was before; room that is reserved adds to a capacity that was enough.

    Only two calls can leave the peak out of reach: a rollback that frees
    chunks, and a reset that is refused the room for coalescing.  A
    rollback that frees none needs an invariant of its own.  It puts the
    counters back to those of the checkpoint, and the capacity stays only
    if the retired chunks are still counted with the same bytes.  They are,
    since what is counted for them is settled when the newest chunk comes:
    arenas of one history with the same chunk numbers are *level*. -/

namespace ScratchArena

/-- The call gives a block back. -/
def Call.frees : Call → Bool
  | .free _ _ => true
  | _ => false

namespace Arena

/-- The arena can hold its peak without another chunk. -/
def Prepared (a : Arena) : Prop := a.peak ≤ a.capacity

/-- The numbers of the chunks, newest first. -/
def numbers (a : Arena) : List Nat := a.chunks.map Chunk.number

/-- The bytes counted for the retired chunks. -/
def behind (a : Arena) : Nat := a.total - a.used

/-- With the same chunks, the same is counted for the retired ones. -/
def Level (b a : Arena) : Prop := b.numbers = a.numbers → b.behind = a.behind

/-- What is in use fits what the arena holds. -/
theorem Sound.total_le_capacity {a : Arena} (h : a.Sound) : a.total ≤ a.capacity := by
  have := h.used_le_capacity
  have := h.used_le_total
  unfold capacity
  omega

/-- A chunk that is alone has all of the capacity. -/
theorem capacity_newestOnly (a : Arena) : a.newestOnly.capacity = a.currentCapacity := by
  show 0 - 0 + (((a.chunks.take 1).head?).map Chunk.capacity).getD 0
    = (a.chunks.head?.map Chunk.capacity).getD 0
  rw [Nat.zero_add]
  cases a.chunks with
  | nil => rfl
  | cons c older => rfl

/-- The planned growth is large enough for the bytes and for what the peak
    has beyond the total. -/
theorem Sound.le_plan_capacity {a : Arena} (h : a.Sound) {padding size : Nat}
    (hlimit : a.total + padding + size ≤ a.settings.maxSize) :
    a.headroom ≤ (a.plan padding size).capacity ∧ size ≤ (a.plan padding size).capacity := by
  have hwords := h.words
  have hpeak := h.peak_le_limit
  have hheadroom : a.headroom ≤ Word.largest := by
    unfold headroom
    omega
  have hsize : size ≤ Word.largest := by omega
  by_cases hx : a.chunks ≠ [] ∧ a.used = 0
  · rw [plan_extend hx.1 hx.2]
    exact ⟨Nat.le_max_left .., Nat.le_max_right ..⟩
  · rw [show a.plan padding size = .replace (a.successor padding size) from if_neg hx]
    show a.headroom ≤ a.successor padding size ∧ size ≤ a.successor padding size
    unfold successor
    split
    · exact ⟨le_satAdd (Nat.le_max_left ..) hheadroom, le_satAdd (Nat.le_max_right ..) hsize⟩
    · exact ⟨Nat.le_max_left .., Nat.le_trans (le_satAdd (Nat.le_refl _) hsize)
        (Nat.le_max_right ..)⟩

end Arena

/-! ## Growing and clearing -/

namespace Site

variable {s s' : Site}

/-- Where no call was made, nothing was asked. -/
theorem asked_of_calls_eq (h : s'.heap.calls = s.heap.calls) : s.asked s' = [] :=
  asked_of_append (h.trans (List.append_nil _).symm)

/-- The answer to a single call. -/
theorem answers_asked {call : Call} {answer : Option Nat}
    (hcalls : s'.heap.calls = s.heap.calls ++ [call]) (hanswer : call.answer? = some answer) :
    answers (s.asked s') = [answer] := by
  rw [asked_of_append hcalls, answers, List.filterMap_cons, hanswer]
  rfl

/-- Some bytes that a growth made room for: the new capacity covers the old
    peak and the new total. -/
theorem Grown.prepared {room : Site} {growth : Growth} {c : Chunk} {padding size : Nat}
    (grown : s.Grown growth (.ok c, room)) (hheadroom : s.arena.headroom ≤ growth.capacity)
    (hsize : size ≤ growth.capacity) (harena : s'.arena = room.arena.bump 0 padding size) :
    s'.arena.Prepared := by
  obtain ⟨hbooks, -, hcapacity⟩ := grown.granted
  rw [harena]
  show max room.arena.peak (room.arena.total + padding + size)
    ≤ room.arena.total + padding + size - (0 + size) + room.arena.currentCapacity
  rw [hbooks.peak, hbooks.total, hcapacity]
  unfold Arena.headroom at hheadroom
  omega

namespace Outcome

variable {padding size : Nat} {outcome : Except Failure Pointer × Site}

/-- A request for some bytes never leaves the peak behind. -/
theorem prepared (h : s.Outcome padding size outcome) (hs : s.arena.Sound)
    (hp : s.arena.Prepared) : outcome.2.arena.Prepared := by
  cases h with
  | overflow beyond arena heap => rw [arena]; exact hp
  | inside limit chunks fits arena heap =>
      -- the capacity is the same, and the total within it
      have hle := hs.used_le_total
      rw [← Arena.currentCapacity_of_cons chunks] at fits
      rw [arena]
      show max s.arena.peak (s.arena.total + padding + size)
        ≤ s.arena.total + padding + size - (s.arena.used + padding + size)
          + s.arena.currentCapacity
      unfold Arena.Prepared Arena.capacity at hp
      omega
  | refused cramped grown => rw [grown.arena_of_error]; exact hp
  | grown cramped grown arena heap =>
      obtain ⟨hheadroom, hsize⟩ := hs.le_plan_capacity cramped.limit
      exact grown.prepared hheadroom hsize arena

/-- One that was granted room brings the capacity to the peak. -/
theorem prepared_of_granted (h : s.Outcome padding size outcome) (hs : s.arena.Sound)
    (granted : ∃ answer ∈ answers (s.asked outcome.2), answer ≠ none) :
    outcome.2.arena.Prepared := by
  obtain ⟨answer, hmem, hne⟩ := granted
  cases h with
  | overflow beyond arena heap =>
      rw [asked_of_calls_eq (congrArg Heap.calls heap)] at hmem
      exact nomatch hmem
  | inside limit chunks fits arena heap =>
      rw [asked_of_calls_eq heap.calls] at hmem
      exact nomatch hmem
  | refused cramped grown =>
      obtain ⟨call, given, hcalls, hanswer, hrefused⟩ := grown.asked
      rw [answers_asked hcalls hanswer] at hmem
      rw [List.mem_singleton.mp hmem] at hne
      exact absurd (Option.isSome_eq_false_iff.mp hrefused) (by simpa using hne)
  | grown cramped grown arena heap =>
      obtain ⟨hheadroom, hsize⟩ := hs.le_plan_capacity cramped.limit
      exact grown.prepared hheadroom hsize arena

end Outcome

/-- A reservation never leaves the peak behind: what is reserved beyond the
    newest chunk is more than was left in it. -/
theorem reserve_prepared (hs : s.arena.Sound) (hp : s.arena.Prepared) (more : Nat) :
    (s.reserve more).2.arena.Prepared := by
  rcases reserve_grown hs more with ⟨-, heq⟩ | ⟨hfull, ⟨answer, s'⟩, hgrown, heq⟩
  · rw [heq]
    exact hp
  · rw [heq]
    cases answer with
    | error e =>
        rw [show s'.arena = s.arena from hgrown.arena_of_error]
        exact hp
    | ok c =>
        obtain ⟨hbooks, -, -⟩ := hgrown.granted
        have hwords := hs.words
        have hlimit := hs.peak_le_limit
        have hle := hs.used_le_total
        show s'.arena.peak ≤ s'.arena.capacity
        rw [hbooks.peak, hgrown.capacity]
        have hfull : s.arena.currentCapacity < min (s.arena.used + more) Word.largest := hfull
        unfold Arena.Prepared Arena.capacity at hp
        by_cases hx : s.arena.chunks ≠ [] ∧ s.arena.used = 0
        · rw [show s.arena.growthFor s.arena.used more = .extend more from if_pos hx]
          show s.arena.peak ≤ s.arena.total + more
          omega
        · rw [show s.arena.growthFor s.arena.used more
            = .replace (Word.satAdd more s.arena.settings.spare) from if_neg hx]
          show s.arena.peak ≤ s.arena.total + min (more + s.arena.settings.spare) Word.largest
          omega

/-- Clearing an arena of one chunk leaves it prepared. -/
theorem clear_prepared_of_unretired (hs : s.arena.Sound) (hp : s.arena.Prepared)
    (hnil : s.arena.retired = []) : s.clear.arena.Prepared := by
  rw [clear_of_unretired hnil]
  show s.arena.peak ≤ s.arena.newestOnly.capacity
  unfold Arena.Prepared Arena.capacity at hp
  rw [hs.used_of_unretired hnil] at hp
  rw [s.arena.capacity_newestOnly]
  omega

/-- Coalescing that is not refused brings the capacity to the peak. -/
theorem clear_prepared_of_retired (hs : s.arena.Sound) (hr : s.arena.retired ≠ [])
    (granted : none ∉ answers (s.asked s.clear)) : s.clear.arena.Prepared := by
  obtain ⟨harena, hcalls, -⟩ := s.kept_eq
  have hkept : s.kept.arena.Sound := harena ▸ hs.newestOnly
  have hword : s.kept.arena.peak ≤ Word.largest := Nat.le_trans hkept.peak_le_limit hkept.words
  have hunused : s.kept.arena.used = 0 := by rw [harena]; rfl
  rcases reserve_grown hkept s.kept.arena.peak with
    ⟨hfits, heq⟩ | ⟨-, ⟨answer, room⟩, hgrown, heq⟩
  · rw [show s.clear = s.kept by rw [clear_of_retired hr, heq]]
    have hfits : min (s.kept.arena.used + s.kept.arena.peak) Word.largest
      ≤ s.kept.arena.currentCapacity := hfits
    show _ ≤ _ - _ + _
    omega
  · cases answer with
    | error e =>
        -- the refusal would have been among the answers
        obtain ⟨call, given, hcall, hanswer, hrefused⟩ := hgrown.asked
        have hgiven : given = none :=
          Option.not_isSome_iff_eq_none.mp (by rw [hrefused]; exact nofun)
        have hclear : s.clear = room.log (.coalescingFailed e) := by
          rw [clear_of_retired hr, heq]
          rfl
        have hall : s.clear.heap.calls
            = s.heap.calls ++ (s.arena.retired.reverse.map Chunk.freed ++ [call]) := by
          rw [hclear, ← List.append_assoc, ← hcalls]
          exact hcall
        rw [asked_of_append hall, answers_append] at granted
        refine absurd (List.mem_append_right _ ?_) granted
        rw [answers, List.filterMap_cons, hanswer, hgiven]
        exact List.mem_cons_self
    | ok c =>
        obtain ⟨hbooks, -, -⟩ := hgrown.granted
        rw [show s.clear = room by rw [clear_of_retired hr, heq]; rfl]
        show room.arena.peak ≤ room.arena.capacity
        rw [hbooks.peak, hgrown.capacity]
        exact Nat.le_trans (Arena.growthFor_capacity (Nat.le_refl _) hword)
          (Nat.le_add_left ..)

/-- Coalescing gives the retired chunks back. -/
theorem frees_mem_asked_clear (hs : s.arena.Sound) (hr : s.arena.retired ≠ []) :
    ∃ call ∈ s.asked s.clear, call.frees = true := by
  obtain ⟨kept, -, hkept, -, hroom⟩ := clear_resized hs
  obtain ⟨calls, hcalls, -⟩ := hroom.asked
  rw [hkept, List.append_assoc] at hcalls
  obtain ⟨c, older, hc⟩ := List.exists_cons_of_ne_nil hr
  refine ⟨c.freed, ?_, rfl⟩
  rw [asked_of_append hcalls, hc]
  exact List.mem_append_left _ (List.mem_map.mpr ⟨c, by simp, rfl⟩)

end Site

/-! ## Requests of every kind -/

namespace Site

variable {s : Site}

/-- A request for nothing is answered by the newest chunk, or by the first
    one of an arena that has no peak yet. -/
theorem allocNothing_prepared (hs : s.arena.Sound) (hp : s.arena.Prepared) :
    s.allocNothing.2.arena.Prepared := by
  cases hc : s.arena.chunks with
  | nil =>
      rw [Arena.Prepared, (allocNothing_resized hs).books.peak, hs.peak_of_chunkless hc]
      exact Nat.zero_le _
  | cons c older =>
      rw [allocNothing_of_cons hc]
      exact hp

/-- A request leaves an arena prepared that was. -/
theorem allocBytes_prepared (hs : s.arena.Sound) (hp : s.arena.Prepared) (size align : Nat) :
    (s.allocBytes size align).2.arena.Prepared := by
  rcases Nat.eq_zero_or_pos size with hz | hpos
  · rw [show s.allocBytes size align = s.allocNothing from if_pos hz]
    exact allocNothing_prepared hs hp
  · exact (allocBytes_outcome hs hpos align).prepared hs hp

end Site

/-- The same for a request of any kind. -/
theorem Demand.prepared {s : Site} (hs : s.arena.Sound) (hp : s.arena.Prepared)
    (demand : Demand) : (demand.serve s).2.arena.Prepared := by
  rcases demand.serve_cases s with ⟨harena, -⟩ | halike
  · rw [harena]
    exact hp
  · rw [halike.arena]
    exact Site.allocBytes_prepared hs hp demand.size demand.align

/-- A request that the heap granted a block for leaves the arena prepared,
    whether it was or not. -/
theorem Demand.prepared_of_granted {s : Site} (hs : s.arena.Sound) {demand : Demand}
    (hpos : 0 < demand.size)
    (granted : ∃ answer ∈ answers (s.asked (demand.serve s).2), answer ≠ none) :
    (demand.serve s).2.arena.Prepared := by
  rcases demand.serve_cases s with ⟨-, hheap⟩ | halike
  · rw [Site.asked_of_calls_eq (congrArg Heap.calls hheap)] at granted
    exact nomatch granted
  · rw [show s.asked (demand.serve s).2 = s.asked (s.allocBytes demand.size demand.align).2 from
      congrArg (List.drop _) halike.heap.calls] at granted
    rw [halike.arena]
    exact (Site.allocBytes_outcome hs hpos demand.align).prepared_of_granted hs granted

/-! ## Arenas of one history are level -/

namespace Arena

variable {b a a' : Arena}

theorem Level.symm (h : b.Level a) : a.Level b := fun heq => (h heq.symm).symm

theorem Level.congr (h : b.Level a) (hnumbers : a'.numbers = a.numbers)
    (hbehind : a'.behind = a.behind) : b.Level a' := by
  intro heq
  rw [hbehind]
  exact h (heq.trans hnumbers)

/-- Next to an empty arena: both have but one chunk. -/
theorem level_of_empty (hb : b.Sound) (ha : a.Sound) (hz : a.total = 0) : b.Level a := by
  intro heq
  have hlength : b.chunks.length = a.chunks.length := by
    have := congrArg List.length heq
    rwa [numbers, numbers, List.length_map, List.length_map] at this
  have hnil : b.retired = [] := by
    have hretired := congrArg List.length (ha.unretired_of_empty hz)
    rw [retired, List.length_tail, ← hlength, List.length_nil] at hretired
    exact List.eq_nil_of_length_eq_zero ((List.length_tail).trans hretired)
  rw [behind, behind, hb.used_of_unretired hnil, hz, Nat.zero_sub, Nat.sub_self]

/-- Next to an arena with a chunk that came later. -/
theorem level_of_newer (hb : b.Sound) {n : Nat} (hn : b.nextChunk ≤ n) {numbers : List Nat}
    (hnumbers : a.numbers = n :: numbers) : b.Level a := by
  intro heq
  have hmem : n ∈ b.numbers := by
    rw [heq, hnumbers]
    exact List.mem_cons_self
  obtain ⟨c, hc, hnumber⟩ := List.mem_map.mp hmem
  have := hb.number_lt c hc
  omega

end Arena

/-- Making room brings a chunk with a number of its own, or none. -/
theorem Resized.numbers {s s' : Site} (h : Resized s s') :
    (s'.arena.used = s.arena.used ∧ s'.arena.numbers = s.arena.numbers)
      ∨ s'.arena.numbers = s.arena.nextChunk :: s.arena.numbers := by
  cases h with
  | idle arena heap => rw [arena]; exact Or.inl ⟨rfl, rfl⟩
  | refusedGrow chunks unused larger arena refused => rw [arena]; exact Or.inl ⟨rfl, rfl⟩
  | refusedAlloc positive arena refused => rw [arena]; exact Or.inl ⟨rfl, rfl⟩
  | extended chunks unused larger arena granted =>
      rw [arena, Arena.numbers, Arena.extend_chunks chunks, Arena.numbers, chunks]
      exact Or.inl ⟨rfl, rfl⟩
  | pushed positive inUse arena granted => rw [arena]; exact Or.inr rfl

namespace History

variable {h : History}

/-- The arena is level with those of the checkpoints in hand, and so are
    these with one another. -/
structure Levelled (h : History) : Prop where
  count_le : ∀ b ∈ h.held, b.nextChunk ≤ h.site.arena.nextChunk
  level : ∀ b ∈ h.site.arena :: h.held, ∀ d ∈ h.site.arena :: h.held, b.Level d

/-- A move keeps every checkpoint level that was taken before it. -/
theorem Moved.level {s' : Site} (hm : h.Moved s') (hs' : s'.arena.Sound) (hl : h.Levelled)
    {b : Arena} (hb : b.Sound) (hmem : b ∈ h.site.arena :: h.held) : b.Level s'.arena := by
  have hcount : b.nextChunk ≤ h.site.arena.nextChunk := by
    rcases List.mem_cons.mp hmem with rfl | hmem
    · exact Nat.le_refl _
    · exact hl.count_le b hmem
  have hsite := hl.level b hmem _ List.mem_cons_self
  cases hm with
  | @room room s' resized same =>
      have hnumbers : s'.arena.numbers = room.arena.numbers :=
        congrArg (List.map Chunk.number) same.chunks
      rcases resized.numbers with ⟨hused, hsame⟩ | hnew
      · refine hsite.congr (hnumbers.trans hsame) ?_
        rw [Arena.behind, same.total, same.used, hused, resized.books.total]
        rfl
      · exact Arena.level_of_newer hb hcount (hnumbers.trans hnew)
  | @allotted room s' c offset size align positive allotted =>
      have hnumbers : s'.arena.numbers = room.arena.numbers := by rw [allotted.arena]; rfl
      rcases allotted.resized.numbers with ⟨hused, hsame⟩ | hnew
      · -- the padding is charged and used alike
        have hpadded := allotted.padded
        refine hsite.congr (hnumbers.trans hsame) ?_
        rw [allotted.arena]
        show room.arena.total + _ + size - (offset + size) = h.site.arena.total - _
        rw [hpadded, hused, allotted.resized.books.total]
        omega
      · exact Arena.level_of_newer hb hcount (hnumbers.trans hnew)
  | cleared chunks used total nextChunk heap resized =>
      exact Arena.level_of_empty hb hs' (resized.books.total.trans total)
  | released empty chunks used total nextChunk heap => exact Arena.level_of_empty hb hs' total
  | @returned _ d newer older c c' inHand inUse grafted chunks used total nextChunk heap =>
      refine (hl.level b hmem d (List.mem_cons_of_mem _ inHand)).congr ?_ ?_
      · rw [Arena.numbers, Arena.numbers, chunks, grafted.below, List.map_cons, List.map_cons,
          grafted.number]
      · rw [Arena.behind, Arena.behind, total, used]

/-- One step keeps the checkpoints in hand level. -/
theorem Levelled.step (hl : h.Levelled) (hs : h.Sound) (op : Op) : (h.step op).Levelled := by
  have hmoved := hs.moved op
  have hheld : ∀ b ∈ (h.step op).held, b ∈ h.site.arena :: h.held := by
    intro b hb
    rw [(hs.booked op).held] at hb
    exact List.mem_cons.mpr (mem_holding hb)
  have hsite : ∀ b ∈ h.site.arena :: h.held, b.Level (h.step op).site.arena := by
    intro b hb
    refine hmoved.level (hs.step op).site.arena hl ?_ hb
    rcases List.mem_cons.mp hb with rfl | hb
    · exact hs.site.arena
    · exact hs.held_sound b hb
  refine ⟨?_, ?_⟩
  · intro b hb
    obtain ⟨calls, hlater⟩ := hmoved.later hs
    refine Nat.le_trans ?_ hlater.nextChunk
    rcases List.mem_cons.mp (hheld b hb) with rfl | hb
    · exact Nat.le_refl _
    · exact hl.count_le b hb
  · intro b hb d hd
    rcases List.mem_cons.mp hb with rfl | hb
    · rcases List.mem_cons.mp hd with rfl | hd
      · exact fun _ => rfl
      · exact (hsite d (hheld d hd)).symm
    · rcases List.mem_cons.mp hd with rfl | hd
      · exact hsite b (hheld b hb)
      · exact hl.level b (hheld b hb) d (hheld d hd)

/-- So does a whole run. -/
theorem Levelled.run (hl : h.Levelled) (hs : h.Sound) (ops : List Op) : (h.run ops).Levelled :=
  (run_induct (P := fun h => h.Sound ∧ h.Levelled) ⟨hs, hl⟩
    (fun _ op hp => ⟨hp.1.step op, hp.2.step hp.1 op⟩) ops).2

theorem levelled_start (settings : Settings) (id : Nat) (heap : Heap) :
    (start settings id heap).Levelled where
  count_le := fun _ hb => nomatch hb
  level := by
    intro b hb d hd
    obtain rfl := List.mem_singleton.mp hb
    obtain rfl := List.mem_singleton.mp hd
    exact fun _ => rfl

/-! ## Steps and runs -/

/-- A call after which the peak may be out of reach: a rollback that frees
    chunks, or a reset that is refused the room for coalescing. -/
def setsBack (h : History) (op : Op) : Bool :=
  match plain op with
  | .rollback _ => (h.site.asked (h.step op).site).any Call.frees
  | .reset => decide (none ∈ answers (h.site.asked (h.step op).site))
  | _ => false

/-- No call of a run is such a one. -/
def smooth (h : History) : List Op → Bool
  | [] => true
  | op :: ops => !h.setsBack op && (h.step op).smooth ops

namespace Sound

/-- A rollback that frees no chunk leaves the capacity as it is. -/
theorem prepared_rollback (hs : h.Sound) (hl : h.Levelled) (hp : h.site.arena.Prepared)
    {mark : Nat} (kept : ∀ call ∈ h.site.asked (h.step (.rollback mark)).site,
      call.frees = false) :
    (h.step (.rollback mark)).site.arena.Prepared := by
  have hpresented := hs.presented mark
  generalize h.step (.rollback mark) = h' at hpresented kept ⊢
  cases hpresented with
  | absent away => exact hp
  | @stale b s inHand offRecord alike =>
      show s.arena.Prepared
      rw [alike.arena]
      exact hp
  | @empty b inHand onRecord nothing =>
      have hd := (hs.site_dropMarks b.nextMark).arena
      by_cases hnil : h.site.arena.retired = []
      · exact Site.clear_prepared_of_unretired hd hp hnil
      · obtain ⟨call, hcall, hfrees⟩ := Site.frees_mem_asked_clear hd hnil
        exact absurd (hfrees.symm.trans (kept call hcall)) nofun
  | @grafted b newer older c c' inHand onRecord inUse grafted =>
      cases newer with
      | cons n newer =>
          have hcall : n.freed ∈ h.site.asked (h.site.release (n :: newer)) := by
            rw [Site.asked_of_append (h.site.release_eq (n :: newer)).2.1]
            exact List.mem_cons_self
          have hkept : true = false := kept n.freed hcall
          exact absurd hkept nofun
      | nil =>
          have hmem : b ∈ h.site.arena :: h.held :=
            List.mem_cons_of_mem _ (held?_some inHand).1
          have hbehind : b.behind = h.site.arena.behind := by
            refine hl.level b hmem _ List.mem_cons_self ?_
            rw [Arena.numbers, Arena.numbers, grafted.below, grafted.above, List.nil_append,
              List.map_cons, List.map_cons, grafted.number]
          have hcapacity : h.site.arena.currentCapacity = c'.capacity :=
            Arena.currentCapacity_of_cons grafted.above
          show h.site.arena.peak ≤ b.behind + c'.capacity
          rw [hbehind, ← hcapacity]
          exact hp

/-- Calls other than the two keep the capacity up with the peak. -/
theorem prepared_step (hs : h.Sound) (hl : h.Levelled) (hp : h.site.arena.Prepared) {op : Op}
    (smooth : h.setsBack op = false) : (h.step op).site.arena.Prepared := by
  have hrollback {mark : Nat}
      (hkept : (h.site.asked (h.step (.rollback mark)).site).any Call.frees = false) :
      (h.step (.rollback mark)).site.arena.Prepared := by
    refine hs.prepared_rollback hl hp fun call hcall => ?_
    exact Bool.eq_false_iff.mpr (List.any_eq_false.mp hkept call hcall)
  have hforget (mark : Nat) : (h.step (.forget mark)).site.arena.Prepared := by
    obtain ⟨marks, -, heq⟩ := step_forget h mark
    rw [heq]
    exact hp
  cases op with
  | allocate demand =>
      show (h.served demand (demand.serve h.site)).site.arena.Prepared
      rw [served_site]
      exact Demand.prepared hs.site.arena hp demand
  | reserve more => exact Site.reserve_prepared hs.site.arena hp more
  | reset =>
      have hn := hs.site_nextGeneration.arena
      by_cases hnil : h.site.arena.retired = []
      · exact Site.clear_prepared_of_unretired hn hp hnil
      · exact Site.clear_prepared_of_retired hn hnil (of_decide_eq_false smooth)
  | shrinkToFit =>
      rw [Arena.Prepared, peak_shrinkToFit]
      exact (hs.step .shrinkToFit).site.arena.total_le_capacity
  | checkpoint => exact hp
  | rollback mark => exact hrollback smooth
  | forget mark => exact hforget mark
  | abandon mark => exact hp
  | guarded => exact hp
  | rollbackGuard mark => exact hrollback smooth
  | releaseGuard mark => exact hforget mark
  | dropGuard mark => exact hrollback smooth
  | rollbackForeign c =>
      obtain ⟨s, halike, heq⟩ := step_rollbackForeign h c
      rw [heq]
      show s.arena.Prepared
      rw [halike.arena]
      exact hp
  | forgetForeign c =>
      rw [step_forgetForeign]
      exact hp

/-- A smooth run leaves an arena prepared that was. -/
theorem prepared_run (hs : h.Sound) (hl : h.Levelled) (hp : h.site.arena.Prepared)
    {ops : List Op} (smooth : h.smooth ops) : (h.run ops).site.arena.Prepared := by
  induction ops generalizing h with
  | nil => exact hp
  | cons op ops ih =>
      obtain ⟨hfirst, hrest⟩ := Bool.and_eq_true_iff.mp smooth
      have hstep := hs.prepared_step hl hp (by simpa using hfirst)
      exact ih (hs.step op) (hl.step hs op) hstep hrest

/-- A reset that coalesces, or a rollback to the empty arena that does,
    brings the capacity to the peak. -/
theorem prepared_of_coalescing (hs : h.Sound) (hr : h.site.arena.retired ≠ []) {op : Op}
    (clears : op = .reset ∨ ∃ b, plain op = .rollback b.nextMark
      ∧ h.held? b.nextMark = some b ∧ b.total = 0 ∧ (h.site.rollback b.checkpoint).1 = .ok ())
    (granted : none ∉ answers (h.site.asked (h.step op).site)) :
    (h.step op).site.arena.Prepared := by
  rcases clears with rfl | ⟨b, hplain, inHand, nothing, accepted⟩
  · exact Site.clear_prepared_of_retired hs.site_nextGeneration.arena hr granted
  · obtain ⟨hb, -⟩ := held?_some inHand
    have hd := (hs.site_dropMarks b.nextMark).arena
    rw [← step_plain, hplain, step_rollback_some inHand,
      hs.rollback_empty hb ((hs.rollback_ok_iff hb).mp accepted) nothing] at granted ⊢
    exact Site.clear_prepared_of_retired hd hr granted

end Sound

/-- Growth anticipates the peak.  After any run, a request for some bytes
    that is granted room by the heap leaves a capacity no less than the
    peak; so does a reset of several chunks, or a rollback to the empty
    arena, whose coalescing is not refused.  A new arena has such a
    capacity, and every call keeps it but a rollback that frees chunks and
    a refused coalescing. -/
theorem capacity_anticipates_peak {settings : Settings}
    (words : settings.maxSize ≤ Word.largest) {id : Nat} {heap : Heap}
    (built : (Site.establish settings id heap).1 = .ok ()) :
    (start settings id heap).site.arena.peak ≤ (start settings id heap).site.arena.capacity
    ∧ ∀ (ops : List Op) (h : History), h = (start settings id heap).run ops →
      (∀ demand : Demand, 0 < demand.size →
        (∃ answer ∈ answers (h.site.asked (h.step (.allocate demand)).site), answer ≠ none) →
        (h.step (.allocate demand)).site.arena.peak
          ≤ (h.step (.allocate demand)).site.arena.capacity)
      ∧ (∀ op, h.site.arena.retired ≠ [] →
        (op = .reset ∨ ∃ b, plain op = .rollback b.nextMark ∧ h.held? b.nextMark = some b
          ∧ b.total = 0 ∧ (h.site.rollback b.checkpoint).1 = .ok ()) →
        none ∉ answers (h.site.asked (h.step op).site) →
        (h.step op).site.arena.peak ≤ (h.step op).site.arena.capacity)
      ∧ (∀ op, h.setsBack op = false → h.site.arena.peak ≤ h.site.arena.capacity →
        (h.step op).site.arena.peak ≤ (h.step op).site.arena.capacity)
      ∧ ((start settings id heap).smooth ops →
        h.site.arena.peak ≤ h.site.arena.capacity) := by
  have hs := Sound.start words built
  have hl := levelled_start settings id heap
  have hp : (start settings id heap).site.arena.Prepared := by
    rw [Arena.Prepared, (start_books words built).peak]
    exact Nat.zero_le _
  refine ⟨hp, ?_⟩
  rintro ops h rfl
  have hrun := hs.run ops
  refine ⟨?_, fun op hr clears granted => hrun.prepared_of_coalescing hr clears granted,
    fun op smooth hle => hrun.prepared_step (hl.run hs ops) hle smooth,
    fun smooth => hs.prepared_run hl hp smooth⟩
  intro demand hpos granted
  rw [show (((start settings id heap).run ops).step (.allocate demand)).site
    = (demand.serve ((start settings id heap).run ops).site).2 from served_site ..] at granted ⊢
  exact Demand.prepared_of_granted hrun.site.arena hpos granted

/-- A rollback within a chunk leaves a peak of 84.  A request is granted a
    second chunk and raises it to 164, and a reset coalesces.  Had the
    second chunk been given back by a rollback, the capacity would be 124. -/
theorem capacity_anticipates_peak_of_two_chunks :
    let first := start (.standard true) 0 (Heap.fresh (Limits.policy ⟨200, 1000, false⟩))
    let h := first.run [.allocate (.bytes 60 1), .checkpoint, .allocate (.bytes 20 8), .rollback 0]
    let grown := first.run [.allocate (.bytes 60 1), .checkpoint, .allocate (.bytes 20 8),
      .rollback 0, .allocate (.bytes 100 8)]
    let undone := first.run
      [.allocate (.bytes 60 1), .checkpoint, .allocate (.bytes 100 8), .rollback 0]
    (h.site.arena.peak, grown.site.arena.peak, grown.site.arena.chunks.length) = (84, 164, 2)
      ∧ h.site.arena.peak ≤ h.site.arena.capacity
      ∧ (h.step (.allocate (.bytes 100 8))).site.arena.peak
        ≤ (h.step (.allocate (.bytes 100 8))).site.arena.capacity
      ∧ (grown.step .reset).site.arena.peak ≤ (grown.step .reset).site.arena.capacity
      ∧ (undone.site.arena.peak, undone.site.arena.capacity) = (164, 124) := by
  intro first h grown undone
  have built : (Site.establish (.standard true) 0
      (Heap.fresh (Limits.policy ⟨200, 1000, false⟩))).1 = .ok () :=
    rfl
  obtain ⟨-, hruns⟩ := capacity_anticipates_peak (by decide) built
  obtain ⟨hgranted, -, -, hkept⟩ := hruns _ h rfl
  obtain ⟨-, hcoalesced, -, -⟩ := hruns _ grown rfl
  exact ⟨by decide +kernel, hkept (by decide +kernel),
    hgranted (.bytes 100 8) (by decide) (by decide +kernel),
    hcoalesced .reset (by decide +kernel) (Or.inl rfl) (by decide +kernel),
    by decide +kernel⟩

end History

end ScratchArena
