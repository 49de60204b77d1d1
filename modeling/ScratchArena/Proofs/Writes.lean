import ScratchArena.Proofs.Carrying

/-! # Writes — the bytes that a call changes

    Where chunks are given back and room is made, memory is carried along.
    What is left is the allocation itself: it poisons the range it returns,
    and a copy then sets the same range to its source.  Both are one
    `Writing`, and `Sound.keeps` says that a call changes the bytes of its
    writing and no others. -/

namespace ScratchArena

/-- Bytes set from a pointer on. -/
structure Writing where
  pointer : Pointer
  data : List UInt8
deriving DecidableEq, Repr

/-- The byte written at an offset of a block, if one was. -/
def Writing.at? (w : Writing) (block i : Nat) : Option UInt8 :=
  if block = w.pointer.block ∧ w.pointer.offset ≤ i then w.data[i - w.pointer.offset]? else none

/-- What is written from `start` on in a range. -/
theorem Writing.at?_within (p : Pointer) (start : Nat) (data : List UInt8) (i : Nat) :
    Writing.at? ⟨⟨p.block, p.offset + start⟩, data⟩ p.block (p.offset + i)
      = if start ≤ i then data[i - start]? else none := by
  by_cases hle : start ≤ i
  · rw [if_pos hle, Writing.at?, if_pos ⟨rfl, Nat.add_le_add_left hle _⟩,
      Nat.add_sub_add_left]
  · rw [if_neg hle, Writing.at?, if_neg fun hat => hle (Nat.le_of_add_le_add_left hat.2)]

/-- Only the block that is written to has a byte written. -/
theorem Writing.of_at? {w : Writing} {block i : Nat} {byte : UInt8}
    (h : w.at? block i = some byte) : w.data ≠ [] ∧ block = w.pointer.block := by
  unfold at? at h
  split at h
  · rename_i hat
    refine ⟨?_, hat.1⟩
    rintro hnil
    rw [hnil] at h
    exact nomatch h
  · exact nomatch h

/-- A writing covers an earlier one of the same range. -/
theorem Writing.at?_getD_at? {p : Pointer} {data data' : List UInt8}
    (hlen : data.length = data'.length) (block i : Nat) (old : UInt8) :
    (Writing.at? ⟨p, data⟩ block i).getD ((Writing.at? ⟨p, data'⟩ block i).getD old)
      = (Writing.at? ⟨p, data⟩ block i).getD old := by
  simp only [Writing.at?]
  split
  · by_cases hlt : i - p.offset < data.length
    · rw [List.getElem?_eq_getElem hlt]
      rfl
    · rw [List.getElem?_eq_none (Nat.le_of_not_lt hlt),
        List.getElem?_eq_none (by omega)]
      rfl
  · rfl

/-- What becomes of bytes that a request is to start with. -/
def Writing.of? (outcome : Except Failure Pointer) (data : Option (List UInt8)) : Option Writing :=
  match outcome with
  | .ok p => data.map (Writing.mk p)
  | .error _ => none

/-- The bytes of a range of `size`, where fresh allocations are poisoned. -/
def Settings.poisoned? (settings : Settings) (size : Nat) : Option (List UInt8) :=
  if settings.poison then some (.replicate size poisonByte) else none

/-- The bytes that a request sets in the range it is given: the values to
    be copied, else poison, where that is on. -/
def Demand.contents? (settings : Settings) : Demand → Option (List UInt8)
  | .copy element values => some (values.flatMap (Site.littleEndian element.size))
  | .array element count => settings.poisoned? (count * element.size)
  | .aligned count size _ => settings.poisoned? (count * size)
  | .bytes size _ => settings.poisoned? size

/-- What a call on an arena writes. -/
def History.written? (h : History) : Op → Option Writing
  | .allocate demand =>
      Writing.of? (demand.serve h.site).1 (demand.contents? h.site.arena.settings)
  | _ => none

theorem Site.length_littleEndian (width n : Nat) : (littleEndian width n).length = width := by
  induction width generalizing n with
  | zero => rfl
  | succ width ih => exact congrArg Nat.succ (ih _)

/-- A number can be read off its bytes again, as far as they go. -/
theorem Site.ofLittleEndian_littleEndian (width n : Nat) :
    ofLittleEndian (littleEndian width n) = n % 256 ^ width := by
  induction width generalizing n with
  | zero => exact (Nat.mod_one n).symm
  | succ width ih =>
      rw [littleEndian, ofLittleEndian, ih, Nat.pow_succ', Nat.mod_mul]
      rfl

/-- Values that are copied one behind the other are found in their places. -/
theorem Site.window_flatMap {width : Nat} {values : List Nat} {k v : Nat}
    (hv : values[k]? = some v) :
    ((values.flatMap (littleEndian width)).drop (k * width)).take width
      = littleEndian width v := by
  induction values generalizing k with
  | nil => exact nomatch hv
  | cons first rest ih =>
      have hlen := length_littleEndian width first
      rw [List.flatMap_cons]
      cases k with
      | zero =>
          obtain rfl := Option.some.inj hv
          rw [Nat.zero_mul, List.drop_zero]
          exact List.take_left' hlen
      | succ k =>
          rw [Nat.succ_mul, Nat.add_comm, ← List.drop_drop, List.drop_left' hlen]
          exact ih hv

theorem Settings.length_poisoned {settings : Settings} {size : Nat} {data : List UInt8}
    (h : settings.poisoned? size = some data) : data.length = size := by
  unfold poisoned? at h
  split at h
  · obtain rfl := Option.some.inj h
    exact List.length_replicate
  · exact nomatch h

/-- What a request sets is all of its range. -/
theorem Demand.length_contents {settings : Settings} {demand : Demand} {data : List UInt8}
    (h : demand.contents? settings = some data) : data.length = demand.size := by
  cases demand with
  | array element count => exact Settings.length_poisoned h
  | aligned count size align => exact Settings.length_poisoned h
  | bytes size align => exact Settings.length_poisoned h
  | copy element values =>
      obtain rfl := Option.some.inj h
      simp [Demand.size, List.length_flatMap, Site.length_littleEndian]

namespace Heap

/-- A byte of a range that is read. -/
theorem getElem?_read (h : Heap) (block offset length i : Nat) :
    (h.read block offset length)[i]?
      = if i < length then some (h.byteAt block (offset + i)) else none := by
  rw [read, List.getElem?_map]
  split
  · rename_i hlt
    rw [List.getElem?_range hlt, Option.map_some]
  · rename_i hge
    rw [List.getElem?_eq_none (by simpa using hge), Option.map_none]

/-- Part of a range is read by reading the range. -/
theorem read_window (h : Heap) (block offset : Nat) {start length size : Nat}
    (hle : start + length ≤ size) :
    h.read block (offset + start) length
      = ((h.read block offset size).drop start).take length := by
  refine List.ext_getElem? fun i => ?_
  rw [getElem?_read, List.getElem?_take, List.getElem?_drop, getElem?_read]
  by_cases hlt : i < length
  · rw [if_pos hlt, if_pos hlt, if_pos (by omega), Nat.add_assoc]
  · rw [if_neg hlt, if_neg hlt]

/-- A byte after a change of a range: the new one inside, the old one
    elsewhere. -/
theorem byteAt_update (h : Heap) {target offset length : Nat} {byte : Nat → UInt8}
    (hb : 0 < length → target < h.blocks.length) (block i : Nat) :
    (h.update target offset length byte).byteAt block i
      = if block = target ∧ offset ≤ i ∧ i < offset + length then byte (i - offset)
        else h.byteAt block i := by
  by_cases hin : block = target ∧ offset ≤ i ∧ i < offset + length
  · obtain ⟨rfl, hlo, hhi⟩ := hin
    rw [if_pos ⟨rfl, hlo, hhi⟩, byteAt_update_inside (hb (by omega)) hlo hhi]
  · rw [if_neg hin, byteAt_update_outside (by omega)]

/-- Bytes written to a block that exists are there; all others stay. -/
theorem byteAt_write (h : Heap) {target offset : Nat} {data : List UInt8}
    (hb : 0 < data.length → target < h.blocks.length) (block i : Nat) :
    (h.write target offset data).byteAt block i
      = (Writing.at? ⟨⟨target, offset⟩, data⟩ block i).getD (h.byteAt block i) := by
  show (h.update target offset data.length _).byteAt block i = _
  rw [byteAt_update h hb, Writing.at?]
  by_cases hat : block = target ∧ offset ≤ i
  · rw [if_pos hat]
    by_cases hlt : i - offset < data.length
    · rw [if_pos ⟨hat.1, hat.2, by omega⟩, List.getElem?_eq_getElem hlt]
      simp [Array.getD, hlt]
    · rw [if_neg (by omega), List.getElem?_eq_none (Nat.le_of_not_lt hlt)]
      rfl
  · rw [if_neg hat, if_neg (by omega)]
    rfl

/-- Poison is the same byte written all over. -/
theorem byteAt_fill (h : Heap) {target : Nat} (offset length : Nat) (byte : UInt8)
    (hb : target < h.blocks.length) (block i : Nat) :
    (h.fill target offset length byte).byteAt block i
      = (Writing.at? ⟨⟨target, offset⟩, .replicate length byte⟩ block i).getD
          (h.byteAt block i) := by
  show (h.update target offset length _).byteAt block i = _
  rw [byteAt_update h (fun _ => hb), Writing.at?]
  by_cases hat : block = target ∧ offset ≤ i
  · rw [if_pos hat, List.getElem?_replicate]
    by_cases hlt : i - offset < length
    · rw [if_pos ⟨hat.1, hat.2, by omega⟩, if_pos hlt]
      rfl
    · rw [if_neg (by omega), if_neg hlt]
      rfl
  · rw [if_neg hat, if_neg (by omega)]
    rfl

end Heap

namespace Site

variable {s : Site}

/-! ## Requests -/

/-- Memory is carried along, then one range of it is written, if any. -/
inductive Writes (s s' : Site) (written : Option Writing) : Prop where
  | afterwards {room : Site} (carries : s.Carries room)
      (chunks : s'.arena.chunks = room.arena.chunks)
      (bytes : ∀ block i, s'.heap.byteAt block i
        = (written.bind (·.at? block i)).getD (room.heap.byteAt block i))

/-- Where nothing is written. -/
theorem Carries.writes {s' : Site} (h : s.Carries s') : s.Writes s' none :=
  .afterwards h rfl fun _ _ => rfl

/-- What was written is read. -/
theorem Writes.read {s' : Site} {w : Writing} (h : s.Writes s' (some w)) :
    s'.heap.read w.pointer.block w.pointer.offset w.data.length = w.data := by
  cases h with
  | @afterwards room carries chunks bytes =>
      refine List.ext_getElem? fun i => ?_
      rw [Heap.getElem?_read]
      split
      · rename_i hlt
        rw [bytes, Option.bind_some]
        show some ((Writing.at? ⟨⟨_, w.pointer.offset + 0⟩, w.data⟩ _ _).getD _) = _
        rw [Writing.at?_within w.pointer 0, if_pos (Nat.zero_le i), Nat.sub_zero,
          List.getElem?_eq_getElem hlt]
        rfl
      · rename_i hge
        exact (List.getElem?_eq_none (Nat.le_of_not_lt hge)).symm

/-- The bytes of all chunks that are still there, wherever they are now, and
    of all blocks that are none of the arena's, but for one writing. -/
structure Keeps (s s' : Site) (written : Option Writing) : Prop where
  chunks : ∀ c ∈ s.arena.chunks, ∀ d ∈ s'.arena.chunks, d.number = c.number →
    ∀ i < c.capacity, s'.heap.byteAt d.block i
      = (written.bind (·.at? d.block i)).getD (s.heap.byteAt c.block i)
  others : ∀ block < s.heap.blocks.length, (∀ c ∈ s.arena.chunks, c.block ≠ block) →
    ∀ i, s'.heap.byteAt block i = s.heap.byteAt block i

/-- Memory is kept where it is only written in chunks. -/
theorem Writes.keeps {s' : Site} {written : Option Writing} (h : s.Writes s' written)
    (hs : s.Sound) (inside : ∀ w, written = some w → w.data ≠ [] →
      ∃ d ∈ s'.arena.chunks, d.block = w.pointer.block) : s.Keeps s' written := by
  cases h with
  | @afterwards room carries chunks bytes =>
      refine ⟨?_, ?_⟩
      · intro c hc d hd hnumber i hi
        rw [bytes, (carries.of_number hs hc (chunks ▸ hd) hnumber).bytes i hi]
      · intro block hb hnone i
        rw [bytes, ← carries.others block hb hnone i]
        cases hw : written.bind (·.at? block i) with
        | none => rfl
        | some byte =>
            -- the block would be that of a chunk, which is old or new
            obtain ⟨w, hwritten, hat⟩ := Option.bind_eq_some_iff.mp hw
            obtain ⟨hdata, rfl⟩ := Writing.of_at? hat
            obtain ⟨d, hd, hblock⟩ := inside w hwritten hdata
            rcases carries.chunks d (chunks ▸ hd) with ⟨c, hc, hcarried⟩ | ⟨-, hnew⟩
            · rcases hcarried.block with hstays | hmoved
              · exact absurd (hstays.symm.trans hblock) (hnone c hc)
              · omega
            · omega

/-- The block that some bytes are given a place in is that of a chunk. -/
theorem Answered.block_mem {size align : Nat} {p : Pointer} {s' : Site}
    (h : s.Answered size align (.ok p, s')) (hpos : 0 < size) :
    ∃ c ∈ s'.arena.chunks, c.block = p.block := by
  cases h with
  | nothing empty resized alike on_top => exact absurd empty (Nat.ne_of_gt hpos)
  | @allotted room s' c offset positive allotted =>
      obtain ⟨older, hc⟩ := allotted.on_top
      refine ⟨c, ?_, rfl⟩
      rw [allotted.arena]
      show c ∈ room.arena.chunks
      rw [hc]
      exact List.mem_cons_self

/-- A request for some bytes that succeeds poisons its range, if anything,
    in a chunk that it has made room in. -/
theorem allocBytes_poisoned {s' : Site} (h : s.arena.Sound) {size align : Nat} {p : Pointer}
    (hsize : 0 < size) (he : s.allocBytes size align = (.ok p, s')) :
    ∃ room c older, Resized s room ∧ room.arena.chunks = c :: older ∧ c.block = p.block
      ∧ s'.arena.chunks = room.arena.chunks
      ∧ s'.heap = if s.arena.settings.poison then room.heap.fill p.block p.offset size poisonByte
        else room.heap := by
  rw [allocBytes_eq s hsize align] at he
  split at he
  · exact absurd he.symm ok_ne_error
  · rename_i hlim
    split at he
    · rename_i c hp
      obtain ⟨⟨older, htop⟩, -⟩ := Arena.placement_inside hp
      obtain rfl := congrArg Prod.snd he
      obtain rfl := Except.ok.inj (congrArg Prod.fst he)
      exact ⟨s, c, older, .idle rfl rfl, htop, rfl, rfl, rfl⟩
    · rename_i growth hp
      obtain ⟨hapt, -, -⟩ := h.placement_after hsize (by omega) hp
      split at he
      · rename_i c room hg
        obtain ⟨-, -, older, htop⟩ := grow_ok hapt hg
        have hr := grow_resized hapt
        rw [hg] at hr
        obtain rfl := congrArg Prod.snd he
        obtain rfl := Except.ok.inj (congrArg Prod.fst he)
        refine ⟨room, c, older, hr, htop, rfl, rfl, ?_⟩
        rw [← hr.books.settings]
        rfl
      · exact absurd he.symm ok_ne_error

/-- Poison, where that is on, is all that a request for bytes writes. -/
theorem allocBytes_writes (hs : s.Sound) (size align : Nat) :
    s.Writes (s.allocBytes size align).2
      (Writing.of? (s.allocBytes size align).1 (s.arena.settings.poisoned? size)) := by
  cases he : s.allocBytes size align with
  | mk outcome s' =>
      cases outcome with
      | error e => exact ((allocBytes_error hs.arena he).1.carries hs).writes
      | ok p =>
          rcases Nat.eq_zero_or_pos size with rfl | hpos
          · -- an empty range has no byte to poison
            have hr := allocNothing_resized hs.arena
            rw [show s.allocNothing = s.allocBytes 0 align from rfl, he] at hr
            refine .afterwards (hr.carries hs) rfl fun block i => ?_
            by_cases hpoison : s.arena.settings.poison
            · simp [Writing.of?, Settings.poisoned?, hpoison, Writing.at?]
            · simp [Writing.of?, Settings.poisoned?, hpoison]
          · obtain ⟨room, c, older, hr, htop, hblock, hchunks, hheap⟩ :=
              allocBytes_poisoned hs.arena hpos he
            have hlt : p.block < room.heap.blocks.length := by
              rw [← hblock]
              refine (hr.sound hs).block_lt c ?_
              rw [htop]
              exact List.mem_cons_self
            refine .afterwards (hr.carries hs) hchunks fun block i => ?_
            show s'.heap.byteAt block i = _
            rw [hheap, Writing.of?, Settings.poisoned?]
            split
            · exact room.heap.byteAt_fill _ _ _ hlt block i
            · rfl

theorem allocAligned_writes (hs : s.Sound) (count size align : Nat) :
    s.Writes (s.allocAligned count size align).2
      (Writing.of? (s.allocAligned count size align).1
        (s.arena.settings.poisoned? (count * size))) := by
  rcases s.allocAligned_cases count size align with heq | heq
  · rw [heq]
    exact Carries.writes (.of_same rfl rfl rfl)
  · rw [heq]
    exact allocBytes_writes hs (count * size) align

/-- The copy covers the range that was poisoned before. -/
theorem allocCopy_writes (hs : s.Sound) (element : Element) (values : List Nat) :
    s.Writes (s.allocCopy element values).2
      (Writing.of? (s.allocCopy element values).1
        (some (values.flatMap (littleEndian element.size)))) := by
  have hwrites := allocAligned_writes hs values.length element.size element.align
  have ha := allocAligned_answered hs.arena values.length element.size element.align
  have hcontents : (Demand.copy element values).contents? s.arena.settings
      = some (values.flatMap (littleEndian element.size)) := rfl
  have hlen : (values.flatMap (littleEndian element.size)).length = values.length * element.size :=
    Demand.length_contents hcontents
  rw [show s.allocAligned values.length element.size element.align
    = s.alloc element values.length from rfl] at hwrites ha
  rcases s.allocCopy_cases element values with ⟨e, s', he, heq⟩ | ⟨p, s', he, heq⟩
  · rw [he] at hwrites
    rw [heq]
    exact hwrites
  · rw [he] at hwrites ha
    rw [heq]
    have hlt (hpos : 0 < values.length * element.size) : p.block < s'.heap.blocks.length := by
      obtain ⟨c, hc, hblock⟩ := ha.block_mem hpos
      exact hblock ▸ (ha.sound hs).block_lt c hc
    cases hwrites with
    | afterwards carries chunks bytes =>
        refine .afterwards carries chunks fun block i => ?_
        show (s'.heap.write p.block p.offset _).byteAt block i = _
        rw [s'.heap.byteAt_write fun hpos => hlt (hlen ▸ hpos), bytes, Writing.of?,
          Settings.poisoned?]
        split
        · exact Writing.at?_getD_at? (hlen.trans List.length_replicate.symm) block i _
        · rfl

end Site

/-- A request writes its contents where its pointer leads, and nothing
    besides. -/
theorem Demand.writes {s : Site} (hs : s.Sound) (demand : Demand) :
    s.Writes (demand.serve s).2
      (Writing.of? (demand.serve s).1 (demand.contents? s.arena.settings)) := by
  cases demand with
  | array element count => exact Site.allocAligned_writes hs count element.size element.align
  | aligned count size align => exact Site.allocAligned_writes hs count size align
  | bytes size align => exact Site.allocBytes_writes hs size align
  | copy element values => exact Site.allocCopy_writes hs element values

namespace History

variable {h : History}

/-- A rollback writes nothing. -/
theorem Sound.writes_rollback (hs : h.Sound) (mark : Nat) :
    h.site.Writes (h.step (.rollback mark)).site none := by
  rcases h.site_step_rollback mark with heq | ⟨c, heq⟩
  · rw [heq]
    exact (Site.Carries.refl _).writes
  · rw [heq]
    exact (hs.site.carries_rollback c).writes

theorem writes_forget (h : History) (mark : Nat) :
    h.site.Writes (h.step (.forget mark)).site none := by
  obtain ⟨marks, -, heq⟩ := step_forget h mark
  rw [heq]
  exact Site.Carries.writes (.of_same rfl rfl rfl)

/-- A call carries memory along, then makes its writing. -/
theorem Sound.writes_step (hs : h.Sound) (op : Op) :
    h.site.Writes (h.step op).site (h.written? op) := by
  cases op with
  | allocate demand =>
      show h.site.Writes (h.served demand (demand.serve h.site)).site _
      rw [served_site]
      exact Demand.writes hs.site demand
  | reserve more => exact ((Site.reserve_resized hs.site.arena more).carries hs.site).writes
  | reset => exact hs.site.carries_reset.writes
  | shrinkToFit => exact hs.site.carries_shrinkToFit.writes
  | checkpoint => exact Site.Carries.writes (.of_same rfl rfl rfl)
  | rollback mark => exact hs.writes_rollback mark
  | forget mark => exact writes_forget h mark
  | abandon mark => exact (Site.Carries.refl _).writes
  | guarded => exact Site.Carries.writes (.of_same rfl rfl rfl)
  | rollbackGuard mark => exact hs.writes_rollback mark
  | releaseGuard mark => exact writes_forget h mark
  | dropGuard mark => exact hs.writes_rollback mark
  | rollbackForeign c =>
      show h.site.Writes (h.step (.rollbackForeign c)).site none
      rcases h.site_step_rollbackForeign c with heq | heq
      · rw [heq]
        exact (Site.Carries.refl _).writes
      · rw [heq]
        exact (hs.site.carries_rollback c).writes
  | forgetForeign c =>
      rw [step_forgetForeign]
      exact (Site.Carries.refl _).writes

/-- Requests that succeed write, and only what they start with. -/
theorem written?_eq_some_iff {op : Op} {w : Writing} :
    h.written? op = some w ↔ ∃ demand, op = .allocate demand
      ∧ (demand.serve h.site).1 = .ok w.pointer
      ∧ demand.contents? h.site.arena.settings = some w.data
      ∧ w.data.length = demand.size := by
  constructor
  · intro hw
    cases op with
    | allocate demand =>
        have hw : Writing.of? (demand.serve h.site).1 (demand.contents? h.site.arena.settings)
          = some w := hw
        refine ⟨demand, rfl, ?_⟩
        cases ho : (demand.serve h.site).1 with
        | error e =>
            rw [ho] at hw
            exact nomatch hw
        | ok p =>
            rw [ho] at hw
            obtain ⟨data, hdata, rfl⟩ := Option.map_eq_some_iff.mp hw
            exact ⟨rfl, hdata, Demand.length_contents hdata⟩
    | _ => exact nomatch hw
  · rintro ⟨demand, rfl, hok, hdata, -⟩
    show Writing.of? (demand.serve h.site).1 (demand.contents? h.site.arena.settings) = some w
    rw [hok, hdata]
    rfl

/-- A call keeps all memory but what it writes. -/
theorem Sound.keeps (hs : h.Sound) (op : Op) :
    h.site.Keeps (h.step op).site (h.written? op) := by
  refine (hs.writes_step op).keeps hs.site ?_
  intro w hw hdata
  obtain ⟨demand, rfl, hok, -, hlen⟩ := written?_eq_some_iff.mp hw
  have ha := Demand.answered hs.site.arena demand
  have hsite : (h.step (.allocate demand)).site = (demand.serve h.site).2 := served_site ..
  rw [show demand.serve h.site = (.ok w.pointer, (demand.serve h.site).2) from
    Prod.ext hok rfl] at ha
  rw [hsite]
  exact ha.block_mem (hlen ▸ List.length_pos_iff.mpr hdata)

/-- What a call writes is read afterwards. -/
theorem Sound.read_written (hs : h.Sound) {op : Op} {w : Writing} (hw : h.written? op = some w) :
    (h.step op).site.heap.read w.pointer.block w.pointer.offset w.data.length = w.data := by
  have hwrites := hs.writes_step op
  rw [hw] at hwrites
  exact hwrites.read

/-- Fresh bytes are poisoned, where that is on. -/
theorem Sound.read_poisoned (hs : h.Sound) {demand : Demand} {p : Pointer}
    (poison : h.site.arena.settings.poison = true)
    (hplain : ∀ element values, demand ≠ .copy element values)
    (hok : (demand.serve h.site).1 = .ok p) :
    (h.step (.allocate demand)).site.heap.read p.block p.offset demand.size
      = List.replicate demand.size poisonByte := by
  have hdata : demand.contents? h.site.arena.settings
      = some (List.replicate demand.size poisonByte) := by
    cases demand with
    | copy element values => exact absurd rfl (hplain element values)
    | _ => exact if_pos poison
  have hread := hs.read_written (written?_eq_some_iff (w := ⟨p, _⟩).mpr
    ⟨demand, rfl, hok, hdata, List.length_replicate⟩)
  rwa [List.length_replicate] at hread

/-- Elements that were copied are read back, each in its place. -/
theorem Sound.read_copied (hs : h.Sound) {element : Element} {values : List Nat} {p : Pointer}
    (hok : ((Demand.copy element values).serve h.site).1 = .ok p) {k v : Nat}
    (hv : values[k]? = some v) :
    Site.ofLittleEndian ((h.step (.allocate (.copy element values))).site.heap.read p.block
      (p.offset + k * element.size) element.size) = v % 256 ^ element.size := by
  have hcontents : (Demand.copy element values).contents? h.site.arena.settings
      = some (values.flatMap (Site.littleEndian element.size)) := rfl
  have hlen := Demand.length_contents hcontents
  have hread : (h.step (.allocate (.copy element values))).site.heap.read p.block p.offset
      (values.flatMap (Site.littleEndian element.size)).length
        = values.flatMap (Site.littleEndian element.size) :=
    hs.read_written (written?_eq_some_iff (w := ⟨p, _⟩).mpr ⟨_, rfl, hok, hcontents, hlen⟩)
  have hin : k * element.size + element.size ≤ values.length * element.size := by
    obtain ⟨hlt, -⟩ := List.getElem?_eq_some_iff.mp hv
    rw [← Nat.succ_mul]
    exact Nat.mul_le_mul_right _ hlt
  rw [show (values.flatMap (Site.littleEndian element.size)).length
    = values.length * element.size from hlen] at hread
  rw [Heap.read_window _ _ _ hin, hread, Site.window_flatMap hv,
    Site.ofLittleEndian_littleEndian]

end History

end ScratchArena
