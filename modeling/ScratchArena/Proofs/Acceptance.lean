import ScratchArena.Proofs.Record

/-! # Acceptance — exactly the right checkpoints

    Whether a checkpoint is accepted is decided by a list of marks and two
    counters, but what it means is a matter of history: its own arena has
    seen neither a reset, nor a release of all its chunks, nor a successful
    rollback of an older checkpoint since it was taken.  Any other arena
    turns it away.

    Several arenas are at work at once, and a checkpoint can be presented to
    any of them.  What one arena sees of such a run is a run of its own, so
    the account of one arena carries over. -/

namespace ScratchArena

namespace History

/-- The call makes a checkpoint stale that is in hand under `mark`. -/
def Voids (h : History) (mark : Nat) : Op → Prop
  | .reset => True
  | .shrinkToFit => h.site.arena.isEmpty
  | .rollback older | .rollbackGuard older | .dropGuard older =>
      older < mark
        ∧ ∃ b, h.held? older = some b ∧ (h.site.rollback b.checkpoint).1 = .ok ()
  | _ => False

variable {h : History}

/-- Under a guard a call voids what the same call voids without one. -/
theorem voids_plain (h : History) (mark : Nat) (op : Op) :
    h.Voids mark (plain op) ↔ h.Voids mark op := by
  cases op <;> exact Iff.rfl

namespace Sound

/-- A rollback to another checkpoint spares a mark unless it succeeds and
    is to an older one. -/
theorem spares_rollback_iff (hs : h.Sound) {older mark : Nat} (hne : mark ≠ older) :
    (h.edit (.rollback older)).spares mark ↔ ¬ h.Voids mark (.rollback older) := by
  show (if (h.held? older).isSome ∧ older ∈ h.site.arena.marks then Edit.cut older
    else .keep).spares mark ↔ _
  cases hd : h.held? older with
  | none =>
      -- nothing is presented, so nothing is cut and nothing voided
      rw [if_neg (fun hx => nomatch hx.1)]
      refine iff_of_true rfl ?_
      rintro ⟨-, d, he, -⟩
      exact nomatch hd.symm.trans he
  | some d =>
      obtain ⟨hmem, rfl⟩ := held?_some hd
      have hok := hs.rollback_ok_iff hmem
      by_cases hm : d.nextMark ∈ h.site.arena.marks
      · rw [if_pos ⟨rfl, hm⟩]
        refine decide_eq_true_iff.trans ?_
        constructor
        · rintro hlt ⟨hgt, -⟩
          omega
        · intro hv
          have hnot : ¬ d.nextMark < mark := fun hgt => hv ⟨hgt, d, hd, hok.mpr hm⟩
          omega
      · -- its mark is gone, hence it is stale itself
        rw [if_neg (fun hx => hm hx.2)]
        refine iff_of_true rfl ?_
        rintro ⟨-, e, he, haccepted⟩
        obtain rfl := Option.some.inj (hd.symm.trans he)
        exact hm (hok.mp haccepted)

/-- A call that leaves a checkpoint in hand leaves its mark on record unless
    it voids it. -/
theorem spares_iff_not_voids (hs : h.Sound) {op : Op} {b : Arena}
    (hb : b ∈ (h.step op).held) : (h.edit op).spares b.nextMark ↔ ¬ h.Voids b.nextMark op := by
  rw [(hs.booked op).held, ← holding_plain] at hb
  rw [← voids_plain, ← edit_plain]
  -- a checkpoint that is presented leaves the hand, so it is not this one
  have hother : ∀ mark, b ∈ h.without mark → b.nextMark ≠ mark :=
    fun mark hb => of_decide_eq_true (List.mem_filter.mp hb).2
  have hforget : ∀ mark, b ∈ h.without mark →
      ((h.edit (.forget mark)).spares b.nextMark ↔ ¬ h.Voids b.nextMark (.forget mark)) := by
    intro mark hb
    refine iff_of_true ?_ id
    show (if _ then Edit.strike mark else .keep).spares b.nextMark
    split
    · exact decide_eq_true (hother mark hb)
    · rfl
  cases op with
  | reset => exact iff_of_false (fun hx => nomatch hx) (not_not_intro trivial)
  | shrinkToFit =>
      show (if h.site.arena.isEmpty then Edit.wipe else .keep).spares b.nextMark ↔ _
      by_cases he : h.site.arena.isEmpty
      · rw [if_pos he]
        exact iff_of_false (fun hx => nomatch hx) (not_not_intro he)
      · rw [if_neg he]
        exact iff_of_true rfl he
  | rollback older => exact hs.spares_rollback_iff (hother older hb)
  | rollbackGuard older => exact hs.spares_rollback_iff (hother older hb)
  | dropGuard older => exact hs.spares_rollback_iff (hother older hb)
  | forget mark => exact hforget mark hb
  | releaseGuard mark => exact hforget mark hb
  | _ => exact iff_of_true rfl id

end Sound

end History

/-! ## Several arenas at work -/

/-- A call on one of several arenas. -/
inductive Deed (ι : Type) where
  | on (arena : ι) (op : Op)
  /-- A checkpoint of `owner` is presented to `target`. -/
  | rollbackAt (owner target : ι) (mark : Nat)
  | forgetAt (owner target : ι) (mark : Nat)

/-- Several arenas, and what their callers hold. -/
abbrev World (ι : Type) := ι → History

namespace World

variable {ι : Type} [DecidableEq ι]

/-- What one arena sees of a call.  A checkpoint presented elsewhere is
    spent, so its owner sees it go. -/
def seen (w : World ι) (i : ι) : Deed ι → List Op
  | .on arena op => if i = arena then [op] else []
  | .rollbackAt owner target mark =>
      if owner = target then if i = owner then [.rollback mark] else []
      else if i = owner then [.abandon mark]
      else if i = target then
        ((w owner).held? mark).toList.map fun b => .rollbackForeign b.checkpoint
      else []
  | .forgetAt owner target mark =>
      if owner = target then if i = owner then [.forget mark] else []
      else if i = owner then [.abandon mark]
      else if i = target then
        ((w owner).held? mark).toList.map fun b => .forgetForeign b.checkpoint
      else []

/-- One call. -/
def step (w : World ι) (deed : Deed ι) : World ι := fun i => (w i).run (w.seen i deed)

/-- Any number of calls. -/
def run (w : World ι) (deeds : List (Deed ι)) : World ι := deeds.foldl step w

/-- Arenas just made. -/
def start (settings : ι → Settings) (ids : ι → Nat) (heaps : ι → Heap) : World ι :=
  fun i => History.start (settings i) (ids i) (heaps i)

end World

end ScratchArena
