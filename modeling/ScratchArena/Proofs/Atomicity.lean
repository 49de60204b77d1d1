import ScratchArena.Proofs.Preservation
import ScratchArena.Proofs.Steadiness

/-! # Atomicity — a call that fails might as well not have been made

    A failure is found out before anything of the arena is changed, or by a
    refusal of the heap, which changes nothing either.  What it leaves
    behind is a line in the log and at most one refused request in the
    journal of the heap.  An arena reads neither, and since its operations
    are steady, nothing that is done later can tell whether the failed call
    was made, as long as the heap answers alike. -/

namespace ScratchArena

/-- A call on an arena, with whatever its caller passes. -/
inductive Act where
  | allocate (demand : Demand)
  | reserve (more : Nat)
  | reset
  | shrinkToFit
  | checkpoint
  | rollback (c : Checkpoint)
  | forget (c : Checkpoint)
  | guarded
  | rollbackGuard (g : Guard)
  | releaseGuard (g : Guard)
  | dropGuard (g : Guard)

/-- What a call returns. -/
inductive Reply where
  | served (outcome : Except Failure Pointer)
  | done (outcome : Except Failure Unit)
  /-- With the guard that is left. -/
  | rolledBack (outcome : Except Failure Unit) (left : Guard)
  | checkpoint (c : Checkpoint)
  | guard (g : Guard)
  | nothing

/-- The failure a call returns. -/
def Reply.failure? : Reply → Option Failure
  | .served (.error e) => some e
  | .done (.error e) => some e
  | .rolledBack (.error e) _ => some e
  | _ => none

theorem Reply.served_failed {outcome : Except Failure Pointer} {e : Failure}
    (h : (Reply.served outcome).failure? = some e) : outcome = .error e := by
  cases outcome with
  | error e' => exact congrArg Except.error (Option.some.inj h)
  | ok p => exact nomatch h

theorem Reply.done_failed {outcome : Except Failure Unit} {e : Failure}
    (h : (Reply.done outcome).failure? = some e) : outcome = .error e := by
  cases outcome with
  | error e' => exact congrArg Except.error (Option.some.inj h)
  | ok _ => exact nomatch h

theorem Reply.rolledBack_failed {outcome : Except Failure Unit} {left : Guard} {e : Failure}
    (h : (Reply.rolledBack outcome left).failure? = some e) : outcome = .error e := by
  cases outcome with
  | error e' => exact congrArg Except.error (Option.some.inj h)
  | ok _ => exact nomatch h

namespace Site

/-- One call. -/
def act (s : Site) : Act → Reply × Site
  | .allocate demand => (.served (demand.serve s).1, (demand.serve s).2)
  | .reserve more => (.done (s.reserve more).1, (s.reserve more).2)
  | .reset => (.nothing, s.reset)
  | .shrinkToFit => (.nothing, s.shrinkToFit)
  | .checkpoint => (.checkpoint s.checkpoint.1, s.checkpoint.2)
  | .rollback c => (.done (s.rollback c).1, (s.rollback c).2)
  | .forget c => (.nothing, s.forget c)
  | .guarded => (.guard s.guarded.1, s.guarded.2)
  | .rollbackGuard g =>
      (.rolledBack (s.rollbackGuard g).1.1 (s.rollbackGuard g).1.2, (s.rollbackGuard g).2)
  | .releaseGuard g => (.guard (s.releaseGuard g).1, (s.releaseGuard g).2)
  | .dropGuard g => (.nothing, s.dropGuard g)

/-- Any number of calls, with all they return. -/
def acts (s : Site) : List Act → List Reply × Site
  | [] => ([], s)
  | call :: later =>
      ((s.act call).1 :: ((s.act call).2.acts later).1, ((s.act call).2.acts later).2)

/-- What a heap was asked between two moments. -/
def asked (s s' : Site) : List Call := s'.heap.calls.drop s.heap.calls.length

/-- What was asked between two moments is what the journal has more. -/
theorem asked_of_append {s s' : Site} {calls : List Call}
    (h : s'.heap.calls = s.heap.calls ++ calls) : s.asked s' = calls := by
  rw [asked, h, List.drop_left]

end Site

/-! ## Failures -/

/-- Where no room was made, no block has changed. -/
theorem Resized.blocks_of_arena_eq {s s' : Site} (h : Resized s s') (harena : s'.arena = s.arena) :
    s'.heap.blocks = s.heap.blocks ∧ s'.heap.residue = s.heap.residue := by
  cases h with
  | idle arena heap =>
      rw [heap]
      exact ⟨rfl, rfl⟩
  | refusedGrow chunks unused larger arena refused =>
      rw [Heap.grow_refused refused]
      exact ⟨rfl, rfl⟩
  | refusedAlloc positive arena refused =>
      rw [Heap.alloc_refused refused]
      exact ⟨rfl, rfl⟩
  | extended chunks unused larger arena granted =>
      -- the arena would have a larger chunk
      have hc := congrArg Arena.chunks (arena.symm.trans harena)
      rw [Arena.extend_chunks chunks, chunks] at hc
      have hcapacity := congrArg Chunk.capacity (List.cons.inj hc).1
      exact absurd hcapacity (Nat.ne_of_gt larger)
  | pushed positive inUse arena granted =>
      have hnext := congrArg Arena.nextChunk (arena.symm.trans harena)
      exact absurd hnext (Nat.succ_ne_self _)

namespace Site

variable {s s' : Site} {e : Failure}

/-- Room that was not made leaves the site as it was. -/
theorem Sound.same_of_resized (hs : s.Sound) (h : Resized s s') (harena : s'.arena = s.arena) :
    s.Same s' :=
  ⟨harena, (h.blocks_of_arena_eq harena).1, (h.blocks_of_arena_eq harena).2, hs.block_lt⟩

/-- A request that fails leaves everything the same. -/
theorem same_of_serve_error (hs : s.Sound) {demand : Demand}
    (h : demand.serve s = (.error e, s')) : s.Same s' := by
  have ha := Demand.answered hs.arena demand
  rw [h] at ha
  cases ha with
  | failed resized arena => exact hs.same_of_resized resized arena

/-- So does a reservation. -/
theorem same_of_reserve_error (hs : s.Sound) {more : Nat}
    (h : s.reserve more = (.error e, s')) : s.Same s' := by
  have hr := reserve_resized hs.arena more
  rw [h] at hr
  exact hs.same_of_resized hr (reserve_error hs.arena h)

/-- So does a rollback. -/
theorem same_of_rollback_error (hs : s.Sound) {c : Checkpoint}
    (h : s.rollback c = (.error e, s')) : s.Same s' := by
  cases hto : s.arena.rollbackTo c with
  | rejected why =>
      simp only [rollback, hto] at h
      obtain rfl := congrArg Prod.snd h
      exact ⟨rfl, rfl, rfl, hs.block_lt⟩
  | toEmpty =>
      simp only [rollback, hto] at h
      exact absurd h ok_ne_error
  | resume depth offset =>
      simp only [rollback, hto] at h
      exact absurd h ok_ne_error

/-- Whatever call fails, it leaves the arena and the blocks as they were. -/
theorem same_of_failure (hs : s.Sound) {call : Act}
    (failed : (s.act call).1.failure? = some e) : s.Same (s.act call).2 := by
  cases call with
  | allocate demand => exact same_of_serve_error hs (Prod.ext (Reply.served_failed failed) rfl)
  | reserve more => exact same_of_reserve_error hs (Prod.ext (Reply.done_failed failed) rfl)
  | rollback c => exact same_of_rollback_error hs (Prod.ext (Reply.done_failed failed) rfl)
  | rollbackGuard g =>
      obtain ⟨checkpoint⟩ := g
      cases checkpoint with
      | none => exact nomatch failed
      | some c =>
          exact same_of_rollback_error hs (c := c) (Prod.ext (Reply.rolledBack_failed failed) rfl)
  | reset => exact nomatch failed
  | shrinkToFit => exact nomatch failed
  | checkpoint => exact nomatch failed
  | forget c => exact nomatch failed
  | guarded => exact nomatch failed
  | releaseGuard g => exact nomatch failed
  | dropGuard g => exact nomatch failed

/-! ## Later calls -/

theorem steady_serve (demand : Demand) : Steady demand.serve := by
  cases demand with
  | array element count => exact steady_allocAligned count element.size element.align
  | aligned count size align => exact steady_allocAligned count size align
  | bytes size align => exact steady_allocBytes size align
  | copy element values => exact steady_allocCopy element values

theorem steady_rollbackGuard (g : Guard) : Steady (·.rollbackGuard g) := by
  obtain ⟨checkpoint⟩ := g
  cases checkpoint with
  | none => exact .pure _
  | some c => exact (steady_rollback c).map fun outcome => (outcome, Guard.spent)

theorem steady_releaseGuard (g : Guard) : Steady (·.releaseGuard g) := by
  obtain ⟨checkpoint⟩ := g
  cases checkpoint with
  | none => exact .pure _
  | some c => exact (steady_forget c).map fun _ => Guard.spent

/-- Every call is steady. -/
theorem steady_act (call : Act) : Steady (·.act call) := by
  cases call with
  | allocate demand => exact (steady_serve demand).map Reply.served
  | reserve more => exact (steady_reserve more).map Reply.done
  | reset => exact steady_reset.map fun _ => Reply.nothing
  | shrinkToFit => exact steady_shrinkToFit.map fun _ => Reply.nothing
  | checkpoint => exact steady_checkpoint.map Reply.checkpoint
  | rollback c => exact (steady_rollback c).map Reply.done
  | forget c => exact (steady_forget c).map fun _ => Reply.nothing
  | guarded => exact steady_checkpoint.map fun c => Reply.guard ⟨some c⟩
  | rollbackGuard g => exact (steady_rollbackGuard g).map fun r => Reply.rolledBack r.1 r.2
  | releaseGuard g => exact (steady_releaseGuard g).map Reply.guard
  | dropGuard g => exact (steady_rollbackGuard g).map fun _ => Reply.nothing

/-- Calls one after the other are steady. -/
theorem steady_acts (calls : List Act) : Steady (·.acts calls) := by
  induction calls with
  | nil => exact .pure []
  | cons call later ih =>
      intro s t hst
      exact (steady_act call s t hst).bind
        (k := fun o => (o.1 :: (o.2.acts later).1, (o.2.acts later).2))
        fun reply => ih.map (reply :: ·)

/-- From the same arena over the same blocks, calls that are answered alike
    end alike. -/
theorem acts_of_answers_eq {s t : Site} (hst : s.Same t) {calls : List Act}
    (alike : answers (s.asked (s.acts calls).2) = answers (t.asked (t.acts calls).2)) :
    (t.acts calls).1 = (s.acts calls).1
      ∧ t.asked (t.acts calls).2 = s.asked (s.acts calls).2
      ∧ (s.acts calls).2.Same (t.acts calls).2 := by
  cases steady_acts calls s t hst with
  | same asked here there result same =>
      rw [asked_of_append here, asked_of_append there]
      exact ⟨result, rfl, same⟩
  | parted asked asked' here there parted =>
      rw [asked_of_append here, asked_of_append there] at alike
      exact absurd alike parted.ne

/-- A call that fails leaves the arena and all blocks as they were, and
    later calls come to the same as if it had not been made: whatever heap
    the arena has then, if it answers alike, the same is returned, the same
    is asked of the heap, and the same arena is left over the same
    blocks. -/
theorem failed_call_changes_nothing {settings : Settings}
    (words : settings.maxSize ≤ Word.largest) {id : Nat} {heap : Heap}
    (built : (Site.establish settings id heap).1 = .ok ()) (ops : List Op) (s : Site)
    (reached : s = ((History.start settings id heap).run ops).site) (call : Act) {e : Failure}
    (failed : (s.act call).1.failure? = some e) :
    (s.act call).2.arena = s.arena ∧ (s.act call).2.heap.blocks = s.heap.blocks
    ∧ ∀ (policy : Policy) (later : List Act) (unmade made : Site),
      unmade = { s with heap := { s.heap with policy } } → made = (s.act call).2 →
      answers (unmade.asked (unmade.acts later).2) = answers (made.asked (made.acts later).2) →
      (made.acts later).1 = (unmade.acts later).1
        ∧ made.asked (made.acts later).2 = unmade.asked (unmade.acts later).2
        ∧ (made.acts later).2.arena = (unmade.acts later).2.arena
        ∧ (made.acts later).2.heap.blocks = (unmade.acts later).2.heap.blocks := by
  have hs : s.Sound := reached ▸ ((History.Sound.start words built).run ops).site
  have hsame := same_of_failure hs failed
  refine ⟨hsame.arena, hsame.blocks, ?_⟩
  rintro policy later unmade made hunmade rfl alike
  have hunmade : unmade.Same (s.act call).2 := by
    rw [hunmade]
    exact ⟨hsame.arena, hsame.blocks, hsame.residue, hs.block_lt⟩
  obtain ⟨hreplies, hasked, hlater⟩ := acts_of_answers_eq hunmade alike
  exact ⟨hreplies, hasked, hlater.arena, hlater.blocks⟩

/-- A heap that grants at most 200 bytes at a time refuses a chunk for 500.
    Then a request for 100 bytes and a reset come to the same as before
    it. -/
theorem failed_call_changes_nothing_when_refused :
    let policy := Limits.policy ⟨200, 1000, false⟩
    let s := ((History.start (.standard true) 0 (Heap.fresh policy)).run
      [.allocate (.bytes 60 1), .checkpoint, .allocate (.bytes 100 8)]).site
    let call := Act.allocate (.bytes 500 8)
    let later : List Act := [.allocate (.bytes 100 4), .reset]
    s.asked (s.act call).2 = [.alloc 564 none]
      ∧ (s.act call).2.arena = s.arena ∧ (s.act call).2.heap.blocks = s.heap.blocks
      ∧ ((s.act call).2.acts later).1 = (s.acts later).1
      ∧ ((s.act call).2.acts later).2.arena = (s.acts later).2.arena := by
  intro policy s call later
  have built : (Site.establish (.standard true) 0 (Heap.fresh policy)).1 = .ok () := rfl
  have failed : (s.act call).1.failure? = some (.outOfMemory 564) := by decide +kernel
  have alike : answers (s.asked (s.acts later).2)
      = answers ((s.act call).2.asked ((s.act call).2.acts later).2) := by decide +kernel
  obtain ⟨harena, hblocks, hlater⟩ :=
    failed_call_changes_nothing (by decide) built _ s rfl call failed
  have heap_eta (s : Site) : s = { s with heap := { s.heap with policy := s.heap.policy } } := rfl
  obtain ⟨hreplies, -, hsame, -⟩ := hlater s.heap.policy later s _ (heap_eta s) rfl alike
  exact ⟨by decide +kernel, harena, hblocks, hreplies, hsame⟩

end Site

end ScratchArena
