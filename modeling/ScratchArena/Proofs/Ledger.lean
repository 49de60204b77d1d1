import ScratchArena.Proofs.Moves

/-! # The ledger — blocks on loan, and the calls that move them

    A heap asks three things of its callers: a block is asked for at a size
    above zero; it is enlarged only while it is on loan, from its true size
    to a larger one; and it comes back once, at its true size.  `Ledger`
    reads a list of calls under these rules and keeps the loans as they
    change.

    An arena keeps the rules, and after every call its chunks are its
    loans, in the order of the stack.  The route: one lemma for each call
    on a heap says how the loans move and that the heap's own record of its
    blocks moves with them; growth and release are made of these calls;
    every call on an arena is made of growth and release. -/

namespace ScratchArena

/-- A block on loan, at the size the heap has it. -/
structure Loan where
  block : Nat
  size : Nat
deriving DecidableEq, Repr

/-- The loan behind a chunk. -/
def Chunk.loan (c : Chunk) : Loan := ⟨c.block, c.capacity⟩

/-- The loans of an arena, newest first. -/
def Arena.loans (a : Arena) : List Loan := a.chunks.map Chunk.loan

namespace Call

/-- The loans after a call.  A block that becomes larger is the block that
    the heap answers with from then on. -/
def settle (loans : List Loan) : Call → List Loan
  | .alloc size (some block) => ⟨block, size⟩ :: loans
  | .alloc _ none => loans
  | .grow block _ new (some answer) =>
      loans.map fun l => if l.block = block then ⟨answer, new⟩ else l
  | .grow _ _ _ none => loans
  | .free block _ => loans.filter (·.block ≠ block)

/-- The call keeps the rules of the heap, given the loans before it. -/
def Lawful (loans : List Loan) : Call → Prop
  | .alloc size _ => 0 < size
  | .grow block old new _ => ⟨block, old⟩ ∈ loans ∧ old < new
  | .free block size => ⟨block, size⟩ ∈ loans

end Call

/-- Lawful calls that turn some loans into others. -/
inductive Ledger : List Loan → List Call → List Loan → Prop where
  | blank (loans : List Loan) : Ledger loans [] loans
  | entry {loans after : List Loan} {call : Call} {calls : List Call}
      (lawful : call.Lawful loans) (rest : Ledger (call.settle loans) calls after) :
      Ledger loans (call :: calls) after

/-- A ledger is continued at its end. -/
theorem Ledger.add {loans after : List Loan} {calls : List Call} (h : Ledger loans calls after)
    {call : Call} (lawful : call.Lawful after) :
    Ledger loans (calls ++ [call]) (call.settle after) := by
  induction h with
  | blank loans => exact .entry lawful (.blank _)
  | entry first rest ih => exact .entry first (ih lawful)

namespace Heap

/-- The heap has a block of this size on loan. -/
def Lent (h : Heap) (block size : Nat) : Prop := h.terms[block]? = some (size, true)

/-- A block on loan is one of the heap's. -/
theorem Lent.lt {h : Heap} {block size : Nat} (hl : h.Lent block size) :
    block < h.blocks.length := by
  obtain ⟨hlt, -⟩ := List.getElem?_eq_some_iff.mp hl
  simpa [terms] using hlt

theorem Alike.lent_iff {h h' : Heap} (ha : h.Alike h') (block size : Nat) :
    h'.Lent block size ↔ h.Lent block size := by
  rw [Lent, Lent, ha.terms]

/-- A block that is added on loan is lent, beside all that were. -/
theorem lent_append {h h' : Heap} {size : Nat} {byteAt : Nat → UInt8}
    (hblocks : h'.blocks = h.blocks ++ [⟨size, true, byteAt⟩]) (b n : Nat) :
    h'.Lent b n ↔ (b = h.blocks.length ∧ n = size) ∨ h.Lent b n := by
  have hlen : h.terms.length = h.blocks.length := List.length_map ..
  rw [Lent, terms, hblocks, List.map_append, show h.blocks.map Block.terms = h.terms from rfl,
    Lent]
  rcases Nat.lt_trichotomy b h.blocks.length with hlt | rfl | hgt
  · rw [List.getElem?_append_left (by omega), or_iff_right (fun hb => by omega)]
  · -- the number of the new block was out of range before
    rw [List.getElem?_append_right (by omega), hlen, Nat.sub_self,
      List.getElem?_eq_none (l := h.terms) (by omega)]
    simp [Block.terms, eq_comm]
  · rw [List.getElem?_eq_none (by simp [hlen]; omega),
      List.getElem?_eq_none (l := h.terms) (by omega)]
    simp
    omega

/-- A granted block is on loan beside those that were. -/
theorem lent_alloc {h h' : Heap} {size block : Nat} (e : h.alloc size = (some block, h'))
    (b n : Nat) : h'.Lent b n ↔ (b = block ∧ n = size) ∨ h.Lent b n := by
  obtain ⟨rfl, rfl⟩ := alloc_granted e
  exact lent_append rfl b n

/-- A change to one block is a change to its terms. -/
theorem terms_modify {h h' : Heap} (target : Nat) {f : Block → Block}
    {g : Nat × Bool → Nat × Bool} (hblocks : h'.blocks = h.blocks.modify target f)
    (hf : ∀ b, (f b).terms = g b.terms) (b : Nat) :
    h'.terms[b]? = if b = target then h.terms[b]?.map g else h.terms[b]? := by
  rw [terms, terms, hblocks, List.getElem?_map, List.getElem?_map, List.getElem?_modify]
  by_cases heq : target = b
  · rw [if_pos heq.symm]
    cases h.blocks[b]? with
    | none => rfl
    | some block => simp [heq, hf]
  · rw [if_neg (Ne.symm heq)]
    cases h.blocks[b]? with
    | none => rfl
    | some block => simp [heq]

/-- A freed block is the only one no longer on loan. -/
theorem lent_free (h : Heap) (block size b n : Nat) :
    (h.free block size).Lent b n ↔ b ≠ block ∧ h.Lent b n := by
  rw [Lent, terms_modify block (g := fun t => (t.1, false)) rfl (fun _ => rfl)]
  split
  · rename_i heq
    simp [heq]
  · rename_i hne
    exact (and_iff_right hne).symm

/-- A loan that becomes larger is on the block that the heap answers with,
    and no longer on the one it was on. -/
theorem lent_grow {h h' : Heap} {block old new answer : Nat}
    (e : h.grow block old new = (some answer, h')) (hl : h.Lent block old) (b n : Nat) :
    h'.Lent b n ↔ (b = answer ∧ n = new) ∨ b ≠ block ∧ h.Lent b n := by
  rcases grow_granted e with ⟨rfl, rfl⟩ | ⟨rfl, rfl⟩
  · rw [Lent, terms_modify answer (g := fun t => (new, t.2)) rfl (fun _ => rfl)]
    by_cases heq : b = answer
    · subst heq
      rw [if_pos rfl, show h.terms[b]? = some (old, true) from hl]
      simp [eq_comm]
    · rw [if_neg heq]
      simp [heq, Lent]
  · rw [lent_append (h := h.free block old) rfl, h.length_blocks_free, lent_free]

/-- What a heap has lent since it was as in `base`: the calls made since
    then say so, and so does its record of blocks.  Newer loans are on newer
    blocks, so no block is lent twice. -/
structure Lends (base h : Heap) (loans : List Loan) : Prop where
  journal : ∃ calls, h.calls = base.calls ++ calls ∧ Ledger [] calls loans
  lent : ∀ block size, h.Lent block size ↔ ⟨block, size⟩ ∈ loans ∨ base.Lent block size
  own : ∀ l ∈ loans, base.blocks.length ≤ l.block
  newest_first : loans.Pairwise fun l k => k.block < l.block
  later : base.blocks.length ≤ h.blocks.length

theorem Lends.refl (base : Heap) : base.Lends base [] where
  journal := ⟨[], (List.append_nil _).symm, .blank []⟩
  lent := fun _ _ => by simp
  own := fun _ hl => nomatch hl
  newest_first := List.Pairwise.nil
  later := Nat.le_refl _

namespace Lends

variable {base h h' : Heap} {loans : List Loan}

/-- One more call on record. -/
theorem journal_add (hl : base.Lends h loans) (call : Call) (lawful : call.Lawful loans)
    (hcalls : h'.calls = h.calls ++ [call]) :
    ∃ calls, h'.calls = base.calls ++ calls ∧ Ledger [] calls (call.settle loans) := by
  obtain ⟨calls, heq, hledger⟩ := hl.journal
  exact ⟨calls ++ [call], by rw [hcalls, heq, List.append_assoc], hledger.add lawful⟩

/-- A call that is refused moves nothing. -/
theorem refused (hl : base.Lends h loans) (call : Call) (lawful : call.Lawful loans)
    (hcalls : h'.calls = h.calls ++ [call]) (hsame : call.settle loans = loans)
    (hblocks : h'.blocks = h.blocks) : base.Lends h' loans where
  journal := hsame ▸ hl.journal_add call lawful hcalls
  lent := by
    intro block size
    rw [Lent, terms, hblocks]
    exact hl.lent block size
  own := hl.own
  newest_first := hl.newest_first
  later := hblocks ▸ hl.later

theorem alike (hl : base.Lends h loans) (ha : h.Alike h') : base.Lends h' loans where
  journal := ha.calls ▸ hl.journal
  lent := fun block size => (ha.lent_iff block size).trans (hl.lent block size)
  own := hl.own
  newest_first := hl.newest_first
  later := ha.blocks ▸ hl.later

theorem block_lt (hl : base.Lends h loans) {l : Loan} (hm : l ∈ loans) :
    l.block < h.blocks.length :=
  ((hl.lent l.block l.size).mpr (Or.inl hm)).lt

/-- A block granted is a loan more. -/
theorem alloc (hl : base.Lends h loans) {size block : Nat} (hpos : 0 < size)
    (e : h.alloc size = (some block, h')) : base.Lends h' (⟨block, size⟩ :: loans) := by
  have hcalls := calls_of_alloc e
  obtain ⟨rfl, heap⟩ := alloc_granted e
  have hlen : h'.blocks.length = h.blocks.length + 1 := by
    rw [heap]
    exact List.length_append
  exact {
    journal := hl.journal_add (.alloc size (some h.blocks.length)) hpos hcalls
    lent := by
      intro b n
      rw [lent_alloc e, hl.lent, List.mem_cons, Loan.mk.injEq, or_assoc]
    own := List.forall_mem_cons.mpr ⟨hl.later, hl.own⟩
    newest_first := List.pairwise_cons.mpr ⟨fun l hm => hl.block_lt hm, hl.newest_first⟩
    later := by
      have := hl.later
      omega }

/-- The newest loan becomes larger, and moves to a block of its own if it
    moves at all. -/
theorem grow {block old new answer : Nat} (hl : base.Lends h (⟨block, old⟩ :: loans))
    (hlt : old < new) (e : h.grow block old new = (some answer, h')) :
    base.Lends h' (⟨answer, new⟩ :: loans) := by
  obtain ⟨hnewest, hrest⟩ := List.pairwise_cons.mp hl.newest_first
  obtain ⟨hown, hothers⟩ := List.forall_mem_cons.mp hl.own
  have hlent : h.Lent block old := (hl.lent block old).mpr (Or.inl List.mem_cons_self)
  have hblock := hlent.lt
  have hlater := hl.later
  have hanswer : block ≤ answer ∧ h.blocks.length ≤ h'.blocks.length := by
    rcases blocks_of_grow e with ⟨rfl, hlen⟩ | ⟨rfl, hlen⟩
    · omega
    · omega
  -- the call leaves every other loan alone
  have hsettle : (Call.grow block old new (some answer)).settle (⟨block, old⟩ :: loans)
      = ⟨answer, new⟩ :: loans := by
    rw [Call.settle, List.map_cons, if_pos rfl]
    refine congrArg _ ((List.map_congr_left ?_).trans (List.map_id _))
    intro l hm
    exact if_neg (Nat.ne_of_lt (hnewest l hm))
  exact {
    journal := hsettle ▸ hl.journal_add (.grow block old new (some answer))
      ⟨List.mem_cons_self, hlt⟩ (calls_of_grow e)
    lent := by
      intro b n
      rw [lent_grow e hlent, hl.lent, List.mem_cons, List.mem_cons, Loan.mk.injEq,
        Loan.mk.injEq]
      -- the block is on no older loan, and not on one from before `base`
      have hbase : base.Lent b n → b ≠ block := by
        rintro hb rfl
        exact Nat.not_lt.mpr hown hb.lt
      have hothers : ⟨b, n⟩ ∈ loans → b ≠ block :=
        fun hm => Nat.ne_of_lt (hnewest ⟨b, n⟩ hm)
      tauto
    own := List.forall_mem_cons.mpr ⟨Nat.le_trans hown hanswer.1, hothers⟩
    newest_first := List.pairwise_cons.mpr
      ⟨fun l hm => Nat.lt_of_lt_of_le (hnewest l hm) hanswer.1, hrest⟩
    later := Nat.le_trans hlater hanswer.2 }

/-- A block freed is a loan less. -/
theorem free (hl : base.Lends h loans) {l : Loan} (hm : l ∈ loans) :
    base.Lends (h.free l.block l.size) (loans.filter (·.block ≠ l.block)) where
  journal := hl.journal_add (.free l.block l.size) hm rfl
  lent := by
    intro b n
    rw [lent_free, hl.lent, List.mem_filter]
    have hbase : base.Lent b n → b ≠ l.block := by
      rintro hb rfl
      exact Nat.not_lt.mpr (hl.own l hm) hb.lt
    simp only [ne_eq, decide_not, Bool.not_eq_eq_eq_not, Bool.not_true, decide_eq_false_iff_not]
    tauto
  own := fun k hk => hl.own k (List.mem_of_mem_filter hk)
  newest_first := hl.newest_first.sublist List.filter_sublist
  later := (h.length_blocks_free ..).symm ▸ hl.later

/-- Chunks that come back, each of them once. -/
theorem freeAll {chunks : List Chunk} (hl : base.Lends h loans)
    (hm : ∀ c ∈ chunks, c.loan ∈ loans) (hd : chunks.Pairwise fun c d => c.block ≠ d.block) :
    base.Lends (h.freeAll chunks) (loans.filter (·.block ∉ chunks.map Chunk.block)) := by
  induction chunks generalizing h loans with
  | nil =>
      rw [List.filter_eq_self.mpr fun l _ => by simp]
      exact hl
  | cons c rest ih =>
      obtain ⟨hc, hrest⟩ := List.forall_mem_cons.mp hm
      obtain ⟨hne, hd⟩ := List.pairwise_cons.mp hd
      have hfree := hl.free hc
      have hlater := ih hfree ?_ hd
      · rw [List.filter_filter] at hlater
        refine (List.filter_congr ?_) ▸ hlater
        intro l _
        by_cases heq : l.block = c.block
        · simp [Chunk.loan, heq]
        · simp [Chunk.loan, heq]
      · -- the others are still on loan
        intro d hd
        refine List.mem_filter.mpr ⟨hrest d hd, ?_⟩
        exact decide_eq_true (Ne.symm (hne d hd))

/-- Chunks that come back leave the loans of the others. -/
theorem freeAll_kept {chunks : List Chunk} {kept : List Loan} (hl : base.Lends h loans)
    (hp : (chunks.map Chunk.loan ++ kept).Perm loans) (hk : kept.Sublist loans) :
    base.Lends (h.freeAll chunks) kept := by
  -- no block is lent twice, whatever the order the loans are listed in
  have hne : loans.Pairwise fun l k => l.block ≠ k.block :=
    hl.newest_first.imp fun hlt => Nat.ne_of_gt hlt
  have hapart := List.pairwise_append.mp ((hp.pairwise_iff fun h => Ne.symm h).mpr hne)
  have hblocks := hapart.1
  rw [List.pairwise_map] at hblocks
  have hfreed := hl.freeAll
    (fun c hc => hp.subset (List.mem_append_left _ (List.mem_map_of_mem hc))) hblocks
  have hgone : (chunks.map Chunk.loan).filter (·.block ∉ chunks.map Chunk.block) = [] := by
    refine List.filter_eq_nil_iff.mpr ?_
    intro l hm
    obtain ⟨c, hc, rfl⟩ := List.mem_map.mp hm
    simpa using ⟨c, hc, rfl⟩
  have hstay : kept.filter (·.block ∉ chunks.map Chunk.block) = kept := by
    refine List.filter_eq_self.mpr ?_
    intro l hm
    refine decide_eq_true ?_
    intro hb
    obtain ⟨c, hc, heq⟩ := List.mem_map.mp hb
    exact hapart.2.2 c.loan (List.mem_map_of_mem hc) l hm heq
  have hperm := hp.filter (·.block ∉ chunks.map Chunk.block)
  rw [List.filter_append, hgone, hstay, List.nil_append] at hperm
  rw [hperm.eq_of_pairwise (fun l k _ _ hlt hgt => absurd hlt (Nat.lt_asymm hgt))
    (hl.newest_first.sublist hk) (hl.newest_first.sublist List.filter_sublist)]
  exact hfreed

end Lends

end Heap

/-! ## Arenas -/

namespace Site

/-- The heap has lent the chunks of the arena, and nothing else since it was
    as in `base`. -/
def Balanced (base : Heap) (s : Site) : Prop := base.Lends s.heap s.arena.loans

namespace Balanced

variable {base : Heap} {s s' : Site}

theorem congr (hb : s.Balanced base) (hchunks : s'.arena.chunks = s.arena.chunks)
    (hheap : s.heap.Alike s'.heap) : s'.Balanced base := by
  rw [Balanced, Arena.loans, hchunks]
  exact hb.alike hheap

/-- Making room keeps the ledger. -/
theorem resized (hb : s.Balanced base) (hr : Resized s s') : s'.Balanced base := by
  unfold Balanced at hb ⊢
  cases hr with
  | idle arena heap =>
      rw [arena, heap]
      exact hb
  | @refusedGrow c older capacity chunks unused larger arena refused =>
      rw [arena]
      refine hb.refused (.grow c.block c.capacity capacity none) ?_
        (Heap.calls_of_grow refused) rfl (by rw [Heap.grow_refused refused])
      rw [Arena.loans, chunks]
      exact ⟨List.mem_cons_self, larger⟩
  | @refusedAlloc capacity positive arena refused =>
      rw [arena]
      exact hb.refused (.alloc capacity none) positive (Heap.calls_of_alloc refused) rfl
        (by rw [Heap.alloc_refused refused])
  | extended chunks unused larger arena granted =>
      rw [Arena.loans, chunks] at hb
      rw [arena, Arena.loans, Arena.extend_chunks chunks]
      exact hb.grow larger granted
  | pushed positive inUse arena granted =>
      rw [arena]
      exact hb.alloc positive granted

/-- Chunks that are freed leave the loans of the others. -/
theorem freeAll (hb : s.Balanced base) {chunks : List Chunk} (kept : List Chunk)
    (hp : (chunks ++ kept).Perm s.arena.chunks) (hk : kept.Sublist s.arena.chunks) :
    base.Lends (s.heap.freeAll chunks) (kept.map Chunk.loan) := by
  refine hb.freeAll_kept ?_ (hk.map _)
  rw [← List.map_append]
  exact hp.map _

/-- Freed chunks keep loans and chunks in step. -/
theorem freed (hb : s.Balanced base) {gone : List Chunk} (hf : s.Freed s' gone) :
    s'.Balanced base := by
  rw [Balanced, hf.heap]
  exact hb.freeAll _ hf.perm hf.kept

end Balanced

/-- An arena that goes away leaves nothing on loan. -/
theorem Balanced.disposed {base : Heap} {s : Site} (hb : s.Balanced base) :
    base.Lends s.dispose [] :=
  hb.freeAll [] ((List.append_nil _).symm ▸ disposal_perm s.arena) (List.nil_sublist _)

end Site

namespace History

variable {h : History} {base : Heap}

/-- Every call keeps the ledger. -/
theorem Moved.balanced {s' : Site} (hm : h.Moved s') (hb : h.site.Balanced base) :
    s'.Balanced base := by
  obtain ⟨kept, room, gone, hfreed, hroom, hsame⟩ := hm.split
  exact ((hb.freed hfreed).resized hroom).congr hsame.chunks hsame.heap

/-- Loans and chunks stay in step. -/
theorem Sound.balanced_run (hs : h.Sound) (hb : h.site.Balanced base) (ops : List Op) :
    (h.run ops).site.Balanced base :=
  (run_induct (P := fun h => h.Sound ∧ h.site.Balanced base) ⟨hs, hb⟩
    (fun _ op hp => ⟨hp.1.step op, (hp.1.moved op).balanced hp.2⟩) ops).2

/-- Whether an arena could be made or not, the heap has lent what it holds. -/
theorem balanced_start {settings : Settings} (words : settings.maxSize ≤ Word.largest) (id : Nat)
    (heap : Heap) : (start settings id heap).site.Balanced heap := by
  have hbare : (Site.bare settings id heap).Balanced heap := .refl heap
  show (Site.establish settings id heap).2.Balanced heap
  rcases establish_cases settings id heap with ⟨flaw, heq⟩ | ⟨hvalid, heq⟩
  · rw [heq]
    exact hbare
  · rw [heq]
    exact hbare.resized (Site.reserve_resized (Arena.Sound.bare hvalid words id) settings.reserve)

/-- An arena that could not be made holds nothing. -/
theorem chunks_of_failed_start {settings : Settings} (words : settings.maxSize ≤ Word.largest)
    {id : Nat} {heap : Heap} {e : Failure}
    (failed : (Site.establish settings id heap).1 = .error e) :
    (start settings id heap).site.arena.chunks = [] := by
  show (Site.establish settings id heap).2.arena.chunks = []
  rcases establish_cases settings id heap with ⟨flaw, heq⟩ | ⟨hvalid, heq⟩
  · rw [heq]
    rfl
  · rw [heq] at failed ⊢
    rw [Site.reserve_error (Arena.Sound.bare hvalid words id) (Prod.ext failed rfl)]
    rfl

/-- What a heap has lent to an arena is what the arena holds: nothing where
    it could not be made, its chunks after any run, nothing once it has gone
    away.  All calls in between keep the rules of the heap. -/
theorem loans_are_chunks {settings : Settings} (words : settings.maxSize ≤ Word.largest)
    (id : Nat) (heap : Heap) :
    (∀ e, (Site.establish settings id heap).1 = .error e →
      (start settings id heap).site.arena.chunks = []
        ∧ heap.Lends (start settings id heap).site.heap [])
    ∧ ((Site.establish settings id heap).1 = .ok () → ∀ (ops : List Op) (s : Site),
      s = ((start settings id heap).run ops).site →
        heap.Lends s.heap (s.arena.chunks.map Chunk.loan)
        ∧ (∃ freed : List Chunk, s.dispose.calls = s.heap.calls ++ freed.map Chunk.freed
          ∧ freed.Perm s.arena.chunks)
        ∧ heap.Lends s.dispose []) := by
  have hb := balanced_start words id heap
  refine ⟨?_, ?_⟩
  · intro e failed
    have hnil := chunks_of_failed_start words failed
    refine ⟨hnil, ?_⟩
    rw [Site.Balanced, Arena.loans, hnil] at hb
    exact hb
  · intro built ops s hs
    have hrun : s.Balanced heap := hs ▸ (Sound.start words built).balanced_run hb ops
    exact ⟨hrun, ⟨Site.disposal s.arena, (s.heap.freeAll_eq _).1, Site.disposal_perm s.arena⟩,
      hrun.disposed⟩

/-- A heap that grants at most 200 bytes at a time and moves whatever it
    enlarges: one arena asks for more to begin with; another has its first
    chunk moved, fills a second one, is refused a third, and has given back
    both when it is gone. -/
theorem loans_are_chunks_when_refused :
    let heap := Heap.fresh (fun _ request => if request.new ≤ 200 then .moved else .refused)
      (.all 170)
    let s := ((start (.standard true) 0 heap).run
      [.reserve 20, .reserve 100, .allocate (.bytes 60 1), .guarded, .allocate (.bytes 100 8),
        .reserve 300]).site
    heap.Lends (start { reserve := 201, poison := true } 0 heap).site.heap []
      ∧ s.heap.calls = [.alloc 84 (some 0), .grow 0 84 100 (some 1), .alloc 164 (some 2),
        .alloc 364 none]
      ∧ s.arena.chunks.map Chunk.loan = [⟨2, 164⟩, ⟨1, 100⟩]
      ∧ heap.Lends s.heap (s.arena.chunks.map Chunk.loan) ∧ heap.Lends s.dispose [] := by
  intro heap s
  have unmade : (Site.establish { reserve := 201, poison := true } 0 heap).1
      = .error (.outOfMemory 265) := rfl
  have built : (Site.establish (.standard true) 0 heap).1 = .ok () := rfl
  obtain ⟨hrun, -, hgone⟩ := (loans_are_chunks (by decide) 0 heap).2 built _ s rfl
  exact ⟨((loans_are_chunks (by decide) 0 heap).1 _ unmade).2,
    by decide +kernel, by decide +kernel, hrun, hgone⟩

end History

end ScratchArena
