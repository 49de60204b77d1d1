import ScratchArena.Proofs.Ledger
import ScratchArena.Proofs.LiveAllocations
import ScratchArena.Proofs.Writes

/-! # Tenancy — live memory reads back what its owner put there

    The owner of an allocation writes to it whenever it likes, and expects
    to find there what it wrote last, or what the allocation started with.
    `Tenancy` keeps these expectations beside a history, one account for
    each allocation.  Memory of which nobody expects anything is stirred at
    will between the calls, and so is all memory that is not on loan,
    whoever expects something of it.

    That the expectations are met rests on four facts: a call changes the
    bytes of its own writing; live allocations lie apart; a chunk that moves
    takes its bytes along, and none with a live allocation does move; and
    the blocks of live allocations stay on loan. -/

namespace ScratchArena

/-- Bytes that nobody has asked to keep are replaced, and so are those of
    blocks that are not on loan. -/
def Heap.stir (h : Heap) (kept : Nat → Nat → Bool) (byte : Nat → Nat → UInt8) : Heap :=
  { h with blocks := h.blocks.mapIdx fun block b =>
      { b with byteAt := fun i => if b.held && kept block i then b.byteAt i else byte block i } }

/-- Bytes that are on loan and kept are not stirred. -/
theorem Heap.byteAt_stir {h : Heap} {kept : Nat → Nat → Bool} {block size i : Nat}
    (hl : h.Lent block size) (hk : kept block i) (byte : Nat → Nat → UInt8) :
    (h.stir kept byte).byteAt block i = h.byteAt block i := by
  rw [Heap.Lent, Heap.terms, List.getElem?_map] at hl
  obtain ⟨b, hb, hterms⟩ := Option.map_eq_some_iff.mp hl
  have hheld : b.held = true := congrArg Prod.snd hterms
  simp only [stir, Heap.byteAt, List.getElem?_mapIdx, hb]
  simp [hheld, hk]

/-- A heap that is stirred is alike but for its bytes. -/
theorem Heap.alike_stir (h : Heap) (kept : Nat → Nat → Bool) (byte : Nat → Nat → UInt8) :
    h.Alike (h.stir kept byte) := by
  refine ⟨rfl, rfl, List.ext_getElem? ?_⟩
  intro i
  simp only [stir, Heap.terms, List.getElem?_map, List.getElem?_mapIdx]
  cases h.blocks[i]? with
  | none => rfl
  | some b => rfl

/-- What happens to an arena and its memory. -/
inductive Turn where
  | call (op : Op)
  /-- The owner of a live allocation writes within it. -/
  | write (l : Live) (start : Nat) (data : List UInt8)
  /-- Memory of which nobody expects anything changes, and so does all that
      is not on loan. -/
  | stir (byte : Nat → Nat → UInt8)

/-- A history, and what the owners of its allocations expect to read. -/
structure Tenancy where
  history : History
  /-- What the owner of an allocation expects at an offset in it. -/
  expected : Live → Nat → Option UInt8 := fun _ _ => none

namespace Tenancy

/-- Somebody expects something of this byte. -/
def expects (t : Tenancy) (block i : Nat) : Bool :=
  t.history.live.any fun l => l.pointer.block = block ∧ l.pointer.offset ≤ i ∧ i < l.stop
    ∧ (t.expected l (i - l.pointer.offset)).isSome

/-- What is expected of allocations once a call was made: of a new one, the
    bytes that it starts with. -/
def expectedAfter (t : Tenancy) : Op → Live → Nat → Option UInt8
  | .allocate demand =>
      match (demand.serve t.history.site).1 with
      | .ok p => Function.update t.expected (t.history.fresh demand.size demand.align p) fun i =>
          (demand.contents? t.history.site.arena.settings).bind (·[i]?)
      | .error _ => t.expected
  | _ => t.expected

/-- One turn. -/
def step (t : Tenancy) : Turn → Tenancy
  | .call op => { history := t.history.step op, expected := t.expectedAfter op }
  | .write l start data =>
      if l ∈ t.history.live ∧ start + data.length ≤ l.size then
        { history := { t.history with site := { t.history.site with
            heap := t.history.site.heap.write l.pointer.block (l.pointer.offset + start) data } }
          expected := Function.update t.expected l fun i =>
            if start ≤ i ∧ i < start + data.length then data[i - start]? else t.expected l i }
      else t
  | .stir byte =>
      { t with history := { t.history with site := { t.history.site with
          heap := t.history.site.heap.stir t.expects byte } } }

/-- Any number of turns. -/
def run (t : Tenancy) (turns : List Turn) : Tenancy := turns.foldl step t

/-- An arena just made. -/
def start (settings : Settings) (id : Nat) (heap : Heap) : Tenancy :=
  { history := .start settings id heap }

end Tenancy

/-! ## Live allocations from call to call -/

theorem Live.Apart.symm {l k : Live} (h : l.Apart k) : k.Apart l := by
  unfold Live.Apart at h ⊢
  omega

instance : Std.Symm Live.Apart := ⟨fun _ _ => Live.Apart.symm⟩

theorem Live.Apart.ne {l k : Live} (h : l.Apart k) (hpos : 0 < l.size) : l ≠ k := by
  rintro rfl
  unfold Live.Apart Live.stop at h
  omega

namespace History

variable {h : History}

/-- Two live allocations are the same or lie apart. -/
theorem Sound.apart_of_ne (hs : h.Sound) {l k : Live} (hl : l ∈ h.live) (hk : k ∈ h.live)
    (hne : l ≠ k) : l.Apart k :=
  hs.apart.forall hl hk hne

/-- A rollback makes no allocation. -/
theorem Sound.live_rollback (hs : h.Sound) {mark : Nat} {l : Live}
    (hl : l ∈ (h.step (.rollback mark)).live) : l ∈ h.live := by
  have hp := hs.presented mark
  generalize h.step (.rollback mark) = h' at hp hl
  cases hp with
  | absent away => exact hl
  | stale inHand offRecord alike => exact hl
  | empty inHand onRecord nothing => exact List.mem_of_mem_filter hl
  | grafted inHand onRecord inUse grafted => exact List.mem_of_mem_filter hl

theorem live_forget (h : History) (mark : Nat) : (h.step (.forget mark)).live = h.live := by
  obtain ⟨marks, -, heq⟩ := step_forget h mark
  rw [heq]

/-- An allocation is live after a call if it was before, or if the call is
    the request that made it. -/
theorem Sound.live_step (hs : h.Sound) {op : Op} {l : Live} (hl : l ∈ (h.step op).live) :
    l ∈ h.live ∨ ∃ demand p, op = .allocate demand ∧ (demand.serve h.site).1 = .ok p
      ∧ 0 < demand.size ∧ l = h.fresh demand.size demand.align p := by
  cases op with
  | allocate demand =>
      have hl : l ∈ (h.served demand (demand.serve h.site)).live := hl
      cases ho : demand.serve h.site with
      | mk outcome s =>
          rw [ho] at hl
          cases outcome with
          | error e => exact Or.inl hl
          | ok p =>
              rcases Nat.eq_zero_or_pos demand.size with hz | hpos
              · rw [h.served_nothing hz] at hl
                exact Or.inl hl
              · rw [h.served_bytes hpos] at hl
                rcases List.mem_cons.mp hl with rfl | hl
                · exact Or.inr ⟨demand, p, rfl, by rw [ho], hpos, rfl⟩
                · exact Or.inl hl
  | reset => exact nomatch (show l ∈ [] from hl)
  | reserve more => exact Or.inl hl
  | shrinkToFit => exact Or.inl hl
  | checkpoint => exact Or.inl hl
  | rollback mark => exact Or.inl (hs.live_rollback hl)
  | forget mark => exact Or.inl (live_forget h mark ▸ hl)
  | abandon mark => exact Or.inl hl
  | guarded => exact Or.inl hl
  | rollbackGuard mark => exact Or.inl (hs.live_rollback hl)
  | releaseGuard mark => exact Or.inl (live_forget h mark ▸ hl)
  | dropGuard mark => exact Or.inl (hs.live_rollback hl)
  | rollbackForeign c =>
      obtain ⟨s, -, heq⟩ := step_rollbackForeign h c
      rw [heq] at hl
      exact Or.inl hl
  | forgetForeign c =>
      rw [step_forgetForeign] at hl
      exact Or.inl hl

end History

/-! ## What is written in an allocation, and outside -/

/-- What its owner expects of an allocation that it has written to was
    written, or was expected before and is not written over. -/
theorem Writing.at?_of_expected {p : Pointer} {start i : Nat} {data : List UInt8}
    {before : Option UInt8} {v : UInt8}
    (hv : (if start ≤ i ∧ i < start + data.length then data[i - start]? else before) = some v) :
    (⟨⟨p.block, p.offset + start⟩, data⟩ : Writing).at? p.block (p.offset + i) = some v
      ∨ (⟨⟨p.block, p.offset + start⟩, data⟩ : Writing).at? p.block (p.offset + i) = none
        ∧ before = some v := by
  rw [Writing.at?_within]
  split at hv
  · rename_i hin
    rw [if_pos hin.1]
    exact Or.inl hv
  · rename_i hout
    refine Or.inr ⟨?_, hv⟩
    -- behind what was written, or before it
    split
    · exact List.getElem?_eq_none (by omega)
    · rfl

/-- A writing within one of two allocations that lie apart leaves the other
    alone. -/
theorem Live.Apart.at?_eq_none {l k : Live} (h : l.Apart k) {w : Writing} {start i : Nat}
    (hblock : w.pointer.block = l.pointer.block)
    (hoffset : w.pointer.offset = l.pointer.offset + start)
    (hlen : start + w.data.length ≤ l.size) (hi : i < k.size) :
    w.at? k.pointer.block (k.pointer.offset + i) = none := by
  unfold Live.Apart Live.stop at h
  unfold Writing.at?
  split
  · rename_i hat
    exact List.getElem?_eq_none (by omega)
  · rfl

namespace History

variable {h : History}

/-- An allocation that a request makes lies apart from all older ones. -/
theorem Sound.fresh_apart (hs : h.Sound) {demand : Demand} {p : Pointer}
    (hok : (demand.serve h.site).1 = .ok p) (hpos : 0 < demand.size) {l : Live}
    (hl : l ∈ h.live) : (h.fresh demand.size demand.align p).Apart l := by
  have happart := (hs.step (.allocate demand)).apart
  rw [show h.step (.allocate demand) = h.served demand (demand.serve h.site) from rfl,
    show demand.serve h.site = (.ok p, (demand.serve h.site).2) from Prod.ext hok rfl,
    h.served_bytes hpos] at happart
  exact (List.pairwise_cons.mp happart).1 l hl

/-- A live allocation is not the one that is granted now. -/
theorem Sound.ne_fresh (hs : h.Sound) {demand : Demand} {p : Pointer} {l : Live}
    (hl : l ∈ h.live) (hok : (demand.serve h.site).1 = .ok p) :
    l ≠ h.fresh demand.size demand.align p := by
  have hsize := (hs.proper l hl).size_pos
  rintro rfl
  exact (hs.fresh_apart hok hsize hl).ne hsize rfl

/-- A call writes nothing in an allocation that was live before. -/
theorem Sound.written?_outside (hs : h.Sound) {op : Op} {l : Live} (hl : l ∈ h.live) {i : Nat}
    (hi : i < l.size) :
    (h.written? op).bind (·.at? l.pointer.block (l.pointer.offset + i)) = none := by
  cases hw : h.written? op with
  | none => rfl
  | some w =>
      obtain ⟨demand, rfl, hok, -, hlen⟩ := written?_eq_some_iff.mp hw
      show w.at? _ _ = none
      rcases Nat.eq_zero_or_pos demand.size with hz | hpos
      · rw [Writing.at?, List.eq_nil_of_length_eq_zero (hlen.trans hz)]
        split
        · rfl
        · rfl
      · exact (hs.fresh_apart hok hpos hl).at?_eq_none rfl (Nat.add_zero _).symm
          ((Nat.zero_add _).trans_le (Nat.le_of_eq hlen)) hi

/-- An allocation that stays live keeps its bytes, whatever the call. -/
theorem Sound.byteAt_live (hs : h.Sound) {op : Op} {l : Live} (hl : l ∈ h.live)
    (hl' : l ∈ (h.step op).live) {i : Nat} (hi : i < l.size) :
    (h.step op).site.heap.byteAt l.pointer.block (l.pointer.offset + i)
      = h.site.heap.byteAt l.pointer.block (l.pointer.offset + i) := by
  obtain ⟨c, hc, hblock, hstop, -⟩ := hs.within l hl
  obtain ⟨d, hd, hblock', -, -⟩ := (hs.step op).within l hl'
  cases hs.writes_step op with
  | afterwards carries chunks bytes =>
      have hcarried := carries.of_block hs.site hc (chunks ▸ hd) (hblock'.trans hblock.symm)
      have hbytes := hcarried.bytes (l.pointer.offset + i)
        (Nat.lt_of_lt_of_le (Nat.add_lt_add_left hi _) hstop)
      rw [hblock, hblock'] at hbytes
      rw [bytes, hs.written?_outside hl hi, Option.getD_none, hbytes]

end History

namespace Tenancy

variable {t : Tenancy} {base : Heap}

/-- What is expected of live allocations is there, and the heap has lent
    their blocks, besides what it had lent in `base`. -/
structure Fulfilled (base : Heap) (t : Tenancy) : Prop where
  sound : t.history.Sound
  balanced : t.history.site.Balanced base
  read : ∀ l ∈ t.history.live, ∀ i < l.size, ∀ v, t.expected l i = some v →
    t.history.site.heap.byteAt l.pointer.block (l.pointer.offset + i) = v

/-- What is expected of a new allocation is expected of no older one. -/
theorem expectedAfter_of_mem (hs : t.history.Sound) (op : Op) {l : Live}
    (hl : l ∈ t.history.live) : t.expectedAfter op l = t.expected l := by
  cases op with
  | allocate demand =>
      cases ho : (demand.serve t.history.site).1 with
      | error e => simp only [expectedAfter, ho]
      | ok p =>
          have hne : l ≠ t.history.fresh demand.size demand.align p :=
            hs.ne_fresh hl ho
          simp only [expectedAfter, ho, Function.update_of_ne hne]
  | _ => rfl

/-- The blocks of live allocations are on loan. -/
theorem Fulfilled.lent (hf : t.Fulfilled base) {l : Live} (hl : l ∈ t.history.live) :
    ∃ size, t.history.site.heap.Lent l.pointer.block size := by
  obtain ⟨c, hc, hblock, -, -⟩ := hf.sound.within l hl
  refine ⟨c.capacity, (hf.balanced.lent _ _).mpr (Or.inl ?_)⟩
  rw [← hblock]
  exact List.mem_map_of_mem hc

/-- A call keeps all expectations fulfilled. -/
theorem Fulfilled.call (hf : t.Fulfilled base) (op : Op) :
    (t.step (.call op)).Fulfilled base := by
  refine ⟨hf.sound.step op, (hf.sound.moved op).balanced hf.balanced, ?_⟩
  intro l hl i hi v hv
  have hv : t.expectedAfter op l i = some v := hv
  show (t.history.step op).site.heap.byteAt _ _ = v
  rcases hf.sound.live_step hl with hold | ⟨demand, p, rfl, hok, hpos, rfl⟩
  · -- the call writes elsewhere
    rw [expectedAfter_of_mem hf.sound op hold] at hv
    rw [hf.sound.byteAt_live hold hl hi]
    exact hf.read l hold i hi v hv
  · -- the call writes what is expected
    have hv : (demand.contents? t.history.site.arena.settings).bind (·[i]?) = some v := by
      simpa only [expectedAfter, hok, Function.update_self] using hv
    obtain ⟨data, hdata, hv⟩ := Option.bind_eq_some_iff.mp hv
    have hread := hf.sound.read_written (History.written?_eq_some_iff (w := ⟨p, data⟩).mpr
      ⟨demand, rfl, hok, hdata, Demand.length_contents hdata⟩)
    obtain ⟨hlt, -⟩ := List.getElem?_eq_some_iff.mp hv
    have hread := congrArg (·[i]?) hread
    simp only [Heap.getElem?_read, if_pos hlt, hv] at hread
    exact Option.some.inj hread

/-- So does a write into a live allocation. -/
theorem Fulfilled.write (hf : t.Fulfilled base) (l : Live) (start : Nat) (data : List UInt8) :
    (t.step (.write l start data)).Fulfilled base := by
  by_cases hw : l ∈ t.history.live ∧ start + data.length ≤ l.size
  · obtain ⟨hl, hlen⟩ := hw
    rw [show t.step (.write l start data) = _ from if_pos ⟨hl, hlen⟩]
    refine ⟨hf.sound.alike ⟨rfl, t.history.site.heap.alike_write ..⟩,
      hf.balanced.congr rfl (t.history.site.heap.alike_write ..), ?_⟩
    intro k hkl i hi v hv
    have hkl : k ∈ t.history.live := hkl
    show (t.history.site.heap.write _ _ data).byteAt _ _ = v
    rw [Heap.byteAt_write _ fun _ => hf.sound.block_lt hl]
    by_cases heq : k = l
    · subst heq
      have hv : (if start ≤ i ∧ i < start + data.length then data[i - start]?
          else t.expected k i) = some v := by
        simpa only [Function.update_self] using hv
      rcases Writing.at?_of_expected hv with hat | ⟨hat, hv⟩
      · rw [hat]
        rfl
      · rw [hat]
        exact hf.read k hkl i hi v hv
    · have hv : t.expected k i = some v := by
        simpa only [Function.update_of_ne heq] using hv
      rw [((hf.sound.apart_of_ne hl hkl (Ne.symm heq)).at?_eq_none rfl rfl hlen hi)]
      exact hf.read k hkl i hi v hv
  · rw [show t.step (.write l start data) = t from if_neg hw]
    exact hf

/-- So does whatever happens to all other bytes. -/
theorem Fulfilled.stir (hf : t.Fulfilled base) (byte : Nat → Nat → UInt8) :
    (t.step (.stir byte)).Fulfilled base := by
  refine ⟨hf.sound.alike ⟨rfl, t.history.site.heap.alike_stir t.expects byte⟩,
    hf.balanced.congr rfl (t.history.site.heap.alike_stir t.expects byte), ?_⟩
  intro l hl i hi v hv
  have hl : l ∈ t.history.live := hl
  have hv : t.expected l i = some v := hv
  have hexpects : t.expects l.pointer.block (l.pointer.offset + i) := by
    refine List.any_eq_true.mpr ⟨l, hl, decide_eq_true ⟨rfl, Nat.le_add_right .., ?_, ?_⟩⟩
    · exact Nat.add_lt_add_left hi _
    · rw [Nat.add_sub_cancel_left, hv]
      rfl
  obtain ⟨size, hlent⟩ := hf.lent hl
  exact (Heap.byteAt_stir hlent hexpects byte).trans (hf.read l hl i hi v hv)

theorem Fulfilled.step (hf : t.Fulfilled base) : ∀ turn, (t.step turn).Fulfilled base
  | .call op => hf.call op
  | .write l start data => hf.write l start data
  | .stir byte => hf.stir byte

/-- So does a whole run of turns. -/
theorem Fulfilled.run (hf : t.Fulfilled base) (turns : List Turn) :
    (t.run turns).Fulfilled base := by
  induction turns generalizing t with
  | nil => exact hf
  | cons turn turns ih => exact ih (hf.step turn)

theorem Fulfilled.start {settings : Settings} (words : settings.maxSize ≤ Word.largest) {id : Nat}
    {heap : Heap} (built : (Site.establish settings id heap).1 = .ok ()) :
    (Tenancy.start settings id heap).Fulfilled heap :=
  ⟨History.Sound.start words built, History.balanced_start words id heap, fun _ hl => nomatch hl⟩

/-- Whatever is called and written, whatever becomes of memory that nobody
    relies on or that is not on loan, and wherever the heap moves a block
    to.  A call keeps the bytes of every chunk and of every block that is
    none of the arena's, but for one writing.  It has one exactly if it is a
    request that succeeds and starts with poison or a copy, and then that is
    the whole of the returned range; poison reads as `0xEF` in all of it, a
    copy as the elements that were copied, each in its place.  And every
    live allocation reads back what its owner wrote last, or what it started
    with. -/
theorem only_owners_write {settings : Settings} (words : settings.maxSize ≤ Word.largest)
    {id : Nat} {heap : Heap} (built : (Site.establish settings id heap).1 = .ok ())
    (turns : List Turn) (t : Tenancy) (reached : t = (start settings id heap).run turns) :
    (∀ op, t.history.site.Keeps (t.history.step op).site (t.history.written? op))
    ∧ (∀ op w, t.history.written? op = some w ↔
        ∃ demand, op = .allocate demand ∧ (demand.serve t.history.site).1 = .ok w.pointer
          ∧ demand.contents? t.history.site.arena.settings = some w.data
          ∧ w.data.length = demand.size)
    ∧ (∀ demand p, (∀ element values, demand ≠ .copy element values) →
        (demand.serve t.history.site).1 = .ok p →
        t.history.site.arena.settings.poison = true →
        (t.history.step (.allocate demand)).site.heap.read p.block p.offset demand.size
          = List.replicate demand.size 0xEF)
    ∧ (∀ element values p, ((Demand.copy element values).serve t.history.site).1 = .ok p →
        ∀ k v, values[k]? = some v →
        Site.ofLittleEndian ((t.history.step (.allocate (.copy element values))).site.heap.read
          p.block (p.offset + k * element.size) element.size) = v % 256 ^ element.size)
    ∧ ∀ l ∈ t.history.live, ∀ i < l.size, ∀ v, t.expected l i = some v →
        t.history.site.heap.byteAt l.pointer.block (l.pointer.offset + i) = v := by
  subst reached
  have hf := (Fulfilled.start words built).run turns
  exact ⟨hf.sound.keeps, fun _ _ => History.written?_eq_some_iff,
    fun _ _ hplain hok poison => hf.sound.read_poisoned poison hplain hok,
    fun _ _ _ hok _ _ hv => hf.sound.read_copied hok hv, hf.read⟩

/-- A heap that moves every block it enlarges, and leaves 170 in what comes
    back.  The first chunk is moved before anything is in it; then bytes
    are written to a poisoned allocation, and a rollback takes away a copy
    in a second chunk.  By then the block moved away from reads as it was
    stirred, and the one that came back as the heap left it. -/
theorem only_owners_write_after_rollback :
    let l : Live := ⟨⟨1, 0⟩, 60, 1, 0, 0⟩
    let t := (start (.standard true) 0 (Heap.fresh .restless (.all 170))).run
      [.call (.reserve 20), .call (.reserve 100), .call (.allocate (.bytes 60 1)),
        .write l 10 [1, 2], .call .checkpoint,
        .call (.allocate (.copy ⟨8, 8⟩ (List.range 20))), .stir fun _ _ => 7,
        .call (.rollback 0)]
    l ∈ t.history.live ∧ t.expected l 9 = some 0xEF ∧ t.expected l 10 = some 1
      ∧ t.history.site.heap.byteAt 1 (0 + 9) = 0xEF
      ∧ t.history.site.heap.byteAt 1 (0 + 10) = 1
      ∧ t.history.site.heap.byteAt 0 9 = 7 ∧ t.history.site.heap.byteAt 2 9 = 170 := by
  intro l t
  have hl : l ∈ t.history.live := by decide +kernel
  have hpoison : t.expected l 9 = some 0xEF := by decide +kernel
  have hwritten : t.expected l 10 = some 1 := by decide +kernel
  obtain ⟨-, -, -, -, hread⟩ := only_owners_write (by decide) (by rfl) _ t rfl
  exact ⟨hl, hpoison, hwritten, hread l hl 9 (by decide) _ hpoison,
    hread l hl 10 (by decide) _ hwritten, by decide +kernel, by decide +kernel⟩

end Tenancy

end ScratchArena
