import ScratchArena.Proofs.Pending

/-! # Brackets — what a guard makes of the work under it

    Work under a guard may take checkpoints and open further guards, to any
    depth, and end each of them in any way.  `Body` is the syntax of such
    work.  By induction on it, all its calls are tame, so the guard is
    pending when its scope ends, and either brackets the work or keeps
    it. -/

namespace ScratchArena

/-- How a guard ends: with its scope, by a call before that, or never. -/
inductive Ending where
  | drop
  | rollback
  | release
  | leak
deriving DecidableEq, Repr

/-- Work that opens no guard.  A checkpoint is named by its mark, counted
    from the first one given out under the outermost guard; the marks of
    inner guards count as well. -/
inductive Work where
  | allocate (demand : Demand)
  | reserve (more : Nat)
  | shrinkToFit
  | checkpoint
  | rollback (k : Nat)
  | forget (k : Nat)
  | abandon (k : Nat)
deriving DecidableEq, Repr

/-- The work under a guard. -/
inductive Body where
  | done
  | work (first : Work) (rest : Body)
  /-- Another guard, with work of its own. -/
  | scope (inner : Body) (ending : Ending) (rest : Body)
deriving DecidableEq, Repr

/-- The calls that end a guard.  A guard that was ended before its scope is
    spent when that ends. -/
def Ending.calls (mark : Nat) : Ending → List Op
  | .drop => [.dropGuard mark]
  | .rollback => [.rollbackGuard mark, .dropGuard mark]
  | .release => [.releaseGuard mark, .dropGuard mark]
  | .leak => [.abandon mark]

/-- The call that some work makes, the outermost guard having the mark
    `outer`. -/
def Work.call (outer : Nat) : Work → Op
  | .allocate demand => .allocate demand
  | .reserve more => .reserve more
  | .shrinkToFit => .shrinkToFit
  | .checkpoint => .checkpoint
  | .rollback k => .rollback (outer + 1 + k)
  | .forget k => .forget (outer + 1 + k)
  | .abandon k => .abandon (outer + 1 + k)

/-- All calls that some work makes from a state on. -/
def Body.calls (outer : Nat) : Body → History → List Op
  | .done, _ => []
  | .work first rest, h => first.call outer :: rest.calls outer (h.step (first.call outer))
  | .scope inner ending rest, h =>
      let ops := .guarded :: (inner.calls outer (h.step .guarded)
        ++ ending.calls h.site.arena.nextMark)
      ops ++ rest.calls outer (h.run ops)

/-- The end of a guarded body leaves older checkpoints alone. -/
theorem Ending.tame_calls {outer mark : Nat} (hlt : outer < mark) (ending : Ending) :
    ∀ op ∈ ending.calls mark, op.Tame outer := by
  cases ending <;> simpa [Ending.calls, Op.Tame, History.plain] using hlt

/-- A piece of work leaves older checkpoints alone. -/
theorem Work.tame_call (outer : Nat) (w : Work) : (w.call outer).Tame outer := by
  have hlt (k : Nat) : outer < outer + 1 + k := by omega
  cases w with
  | allocate | reserve | shrinkToFit | checkpoint => trivial
  | rollback k | forget k | abandon k => exact hlt k

/-- No work is given the mark of the outermost guard or an older one. -/
theorem Body.tame_calls {outer : Nat} (body : Body) {h : History} (hs : h.Sound)
    (hlt : outer < h.site.arena.nextMark) : ∀ op ∈ body.calls outer h, op.Tame outer := by
  induction body generalizing h with
  | done => exact fun _ hop => nomatch hop
  | work first rest ih =>
      refine List.forall_mem_cons.mpr ⟨first.tame_call outer, ?_⟩
      exact ih (hs.step _) (Nat.lt_of_lt_of_le hlt (hs.nextMark_le_step _))
  | scope inner ending rest ihInner ihRest =>
      have hopened := hs.nextMark_le_step .guarded
      have hinner := ihInner (hs.step .guarded) (Nat.lt_of_lt_of_le hlt hopened)
      refine List.forall_mem_append.mpr ⟨List.forall_mem_cons.mpr ⟨trivial, ?_⟩, ?_⟩
      · exact List.forall_mem_append.mpr ⟨hinner, ending.tame_calls hlt⟩
      · exact ihRest (hs.run _) (Nat.lt_of_lt_of_le hlt (hs.nextMark_le_run _))

namespace History

/-- The arena is back where it was: in size, in the position of its next
    allocation, in its retired chunks and in the marks on record. -/
structure Bracketed (a a' : Arena) : Prop where
  total : a'.total = a.total
  position : a'.position? = a.position?
  retired : a'.retired = a.retired
  marks : a'.marks = a.marks
  /-- An arena that was empty may have got its first chunk. -/
  chunks : a.total = 0 → a'.chunks.length ≤ 1

/-- What was done from the arena `a` to the history `h` is kept in `h'`, and
    of the marks given out since only those are on record that are not
    among the consumed ones. -/
structure Retained (a : Arena) (consumed : List Nat) (h h' : History) : Prop where
  live : h'.live = h.live
  within : ∀ l ∈ h'.live, l.Within h'.site.arena
  heap : h'.site.heap = h.site.heap
  chunks : h'.site.arena.chunks = h.site.arena.chunks
  marks : ∃ newer, h'.site.arena.marks = newer ++ a.marks
    ∧ ∀ n ∈ newer, a.nextMark < n ∧ n < h'.site.arena.nextMark ∧ n ∉ consumed

/-- Releasing a guard is a step of the history that leaves the guard
    spent. -/
theorem site_step_releaseGuard (h : History) (mark : Nat) :
    h.site.releaseGuard (h.guard mark) = (.spent, (h.step (.releaseGuard mark)).site) := by
  cases he : h.held? mark with
  | none =>
      rw [guard, he]
      simp only [step, he]
      rfl
  | some b =>
      rw [guard, he]
      simp only [step, he]
      rfl

namespace Sound

variable {h₀ : History} {ops : List Op}

/-- A guard opened in `h₀` is pending after tame calls. -/
theorem pending_guarded (hs₀ : h₀.Sound) (tame : ∀ op ∈ ops, op.Tame h₀.site.arena.nextMark)
    (inUse : (h₀.step .guarded).ShrinksInUse ops) :
    ((h₀.step .guarded).run ops).Pending h₀.site.arena := by
  have hopened : (h₀.step .guarded).Pending h₀.site.arena :=
    ⟨List.mem_cons_self, List.mem_cons_self⟩
  exact (hs₀.step .guarded).pending_run hopened tame inUse

/-- The marks from before a guard outlive its body. -/
theorem older_marks_guarded (hs₀ : h₀.Sound)
    (tame : ∀ op ∈ ops, op.Tame h₀.site.arena.nextMark) {h : History}
    (ran : h = (h₀.step .guarded).run ops) (hp : h.Pending h₀.site.arena) :
    h.site.arena.marks.filter (· < h₀.site.arena.nextMark) = h₀.site.arena.marks := by
  subst ran
  rw [(hs₀.step .guarded).older_marks_tame (Nat.lt_succ_self _) tame hp.onRecord]
  exact hs₀.site.arena.filter_marked

/-- Rolling the guard back brings the arena back to where it was. -/
theorem bracketed (hs₀ : h₀.Sound) (tame : ∀ op ∈ ops, op.Tame h₀.site.arena.nextMark)
    {h : History} (ran : h = (h₀.step .guarded).run ops) (hp : h.Pending h₀.site.arena) :
    Bracketed h₀.site.arena (h.site.rollback h₀.site.arena.checkpoint).2.arena := by
  have hs : h.Sound := ran ▸ (hs₀.step .guarded).run ops
  have hmarks := (hs.rollback_books hp.inHand hp.onRecord).1
  rw [hs₀.older_marks_guarded tame ran hp] at hmarks
  rcases Nat.eq_zero_or_pos h₀.site.arena.total with hz | hpos
  · obtain ⟨htotal, -, hchunks⟩ := hs.emptied hp.inHand hp.onRecord hz
    refine ⟨htotal.trans hz.symm, ?_, ?_, hmarks, fun _ => hchunks⟩
    · rw [Arena.position?, Arena.position?, if_neg (by omega), if_neg (by omega)]
    · rw [hs₀.site.arena.unretired_of_empty hz]
      exact List.eq_nil_of_length_eq_zero (by
        rw [Arena.retired, List.length_tail]
        omega)
  · obtain ⟨htotal, hused, hretired, ⟨c, c', hc, hc', hnumber, -⟩, -⟩ :=
      hs.restored hp.inHand hp.onRecord hpos
    refine ⟨htotal, ?_, hretired, hmarks, fun hz => absurd hz (Nat.ne_of_gt hpos)⟩
    rw [Arena.position?, Arena.position?, htotal, if_pos hpos, if_pos hpos, hc, hc', hused]
    simp [hnumber]

/-- Releasing the guard retains what its body has done. -/
theorem retained (hs₀ : h₀.Sound) (tame : ∀ op ∈ ops, op.Tame h₀.site.arena.nextMark)
    {h : History} (ran : h = (h₀.step .guarded).run ops) (hp : h.Pending h₀.site.arena) :
    Retained h₀.site.arena ((h₀.step .guarded).consumed ops) h
      (h.step (.releaseGuard h₀.site.arena.nextMark)) := by
  have hs : h.Sound := ran ▸ (hs₀.step .guarded).run ops
  have he := hs.held?_of_mem hp.inHand
  have hbooked := hs.booked (.releaseGuard h₀.site.arena.nextMark)
  have hedit : h.edit (.releaseGuard h₀.site.arena.nextMark)
      = .strike h₀.site.arena.nextMark := if_pos (by rw [he]; rfl)
  rw [hedit] at hbooked
  obtain ⟨marks, -, heq⟩ := step_forget h h₀.site.arena.nextMark
  have hwithin := (hs.forget h₀.site.arena.nextMark).within
  rw [show h.step (.releaseGuard h₀.site.arena.nextMark) = _ from heq] at hbooked ⊢
  rw [heq] at hwithin
  refine ⟨rfl, hwithin, rfl, rfl,
    h.site.arena.marks.filter (h₀.site.arena.nextMark < ·), ?_, ?_⟩
  · rw [← hs₀.older_marks_guarded tame ran hp]
    exact hbooked.marks.trans (filter_ne_newest_first hs.site.arena.marks_newest_first _)
  · intro n hn
    obtain ⟨hn, hlt⟩ := List.mem_filter.mp hn
    refine ⟨of_decide_eq_true hlt, ?_, ?_⟩
    · rw [hbooked.nextMark]
      exact hs.site.arena.mark_lt n hn
    · rw [ran] at hn
      exact (hs₀.step .guarded).not_consumed_of_mem hn

end Sound

/-- A guard over any arena, with any work under it that shrinks the arena
    only while it is in use.  At the end of its scope the guard is live, its
    rollback is accepted and takes the arena back to where it was.  If it is
    released instead, everything stays, and of the marks given out under it
    only those that were not consumed are still on record.  After either
    call the guard is spent, whatever is done then: a rollback of it succeeds
    and does nothing, and so does the end of its scope. -/
theorem guard_brackets {settings : Settings} (words : settings.maxSize ≤ Word.largest)
    {id : Nat} {heap : Heap} (built : (Site.establish settings id heap).1 = .ok ())
    (earlier : List Op) (body : Body) (h₀ h : History) (mark : Nat) (ops : List Op)
    (reached : h₀ = (start settings id heap).run earlier)
    (opened : mark = h₀.site.arena.nextMark)
    (made : ops = body.calls mark (h₀.step .guarded))
    (ran : h = (h₀.step .guarded).run ops)
    (inUse : (h₀.step .guarded).ShrinksInUse ops) :
    h.guard mark = h₀.site.guarded.1
    ∧ (h.site.rollbackGuard (h.guard mark)).1 = (.ok (), .spent)
    ∧ Bracketed h₀.site.arena (h.site.dropGuard (h.guard mark)).arena
    ∧ h.site.releaseGuard (h.guard mark) = (.spent, (h.step (.releaseGuard mark)).site)
    ∧ Retained h₀.site.arena ((h₀.step .guarded).consumed ops) h (h.step (.releaseGuard mark))
    ∧ ∀ (ending : Op) (later : List Op) (h' : History),
        ending = .rollbackGuard mark ∨ ending = .releaseGuard mark →
        h' = (h.step ending).run later →
        h'.guard mark = .spent
          ∧ h'.site.rollbackGuard (h'.guard mark) = ((.ok (), .spent), h'.site)
          ∧ h'.site.dropGuard (h'.guard mark) = h'.site := by
  have hs₀ : h₀.Sound := reached ▸ (Sound.start words built).run earlier
  subst opened
  have tame : ∀ op ∈ ops, op.Tame h₀.site.arena.nextMark :=
    made ▸ body.tame_calls (hs₀.step .guarded) (Nat.lt_succ_self _)
  have hs : h.Sound := ran ▸ (hs₀.step .guarded).run ops
  have hp : h.Pending h₀.site.arena := ran ▸ hs₀.pending_guarded tame inUse
  rw [hs.guard_of_mem hp.inHand]
  have hok := (hs.rollback_ok_iff hp.inHand).mpr hp.onRecord
  refine ⟨rfl, congrArg (·, Guard.spent) hok,
    hs₀.bracketed tame ran hp, ?_, hs₀.retained tame ran hp, ?_⟩
  · rw [← hs.guard_of_mem hp.inHand]
    exact site_step_releaseGuard h _
  · rintro ending later h' hending rfl
    -- either call takes the checkpoint out of the hand, and none is taken up again
    have hgone : ∀ b ∈ (h.step ending).held, b.nextMark ≠ h₀.site.arena.nextMark := by
      intro b hb
      rw [(hs.booked ending).held] at hb
      rcases hending with rfl | rfl
      · exact of_decide_eq_true (List.mem_filter.mp hb).2
      · exact of_decide_eq_true (List.mem_filter.mp hb).2
    have hlt := Nat.lt_of_lt_of_le (hs.held_lt _ hp.inHand) (hs.nextMark_le_step ending)
    rw [(hs.step ending).guard_spent hlt hgone later]
    exact ⟨rfl, rfl, rfl⟩

/-- Under a guard, a second chunk and a third, a leaked guard, and a
    checkpoint that is rolled back.  The end of the guard leads back to the
    first chunk, its release leaves the leaked mark on record. -/
theorem guard_brackets_leaked :
    let h₀ := (start (.standard true) 0 (Heap.fresh .generous)).run
      [.allocate (.bytes 60 1), .checkpoint]
    let body : Body := .work (.allocate (.bytes 100 8)) <|
      .scope (.work (.allocate (.bytes 300 8)) .done) .leak <|
      .work .checkpoint <| .work .shrinkToFit <| .work (.rollback 1) .done
    let ops := body.calls 1 (h₀.step .guarded)
    let h := (h₀.step .guarded).run ops
    ops.length = 7 ∧ h.site.arena.chunks.length = 3
      ∧ Bracketed h₀.site.arena (h.site.dropGuard (h.guard 1)).arena
      ∧ Retained h₀.site.arena ((h₀.step .guarded).consumed ops) h (h.step (.releaseGuard 1))
      ∧ (h₀.step .guarded).consumed ops = [3]
      ∧ (h.step (.releaseGuard 1)).site.arena.marks = [2, 0] := by
  intro h₀ body ops h
  have built : (Site.establish (.standard true) 0 (Heap.fresh .generous)).1 = .ok () := rfl
  have inUse : (h₀.step .guarded).ShrinksInUse ops :=
    ⟨nofun, nofun, nofun, nofun, nofun, fun _ => by decide +kernel, nofun, trivial⟩
  obtain ⟨-, -, hdrop, -, hkept, -⟩ := guard_brackets (by decide) built _ body h₀ h 1 ops rfl
    (by decide +kernel) rfl rfl inUse
  exact ⟨rfl, by decide +kernel, hdrop, hkept, by decide +kernel, by decide +kernel⟩

end History

end ScratchArena
