import ScratchArena.Proofs.Requests

/-! # Histories — runs of one arena, and what its caller holds

    A history is an arena at work together with what its caller got out of
    it: the allocations that are live and the checkpoints in hand.  One
    step is one call on the arena; a run is any list of steps from an
    arena just made.  The heap answers as it likes, since its policy is
    arbitrary.

    Checkpoints are named by the order they were taken in.  A checkpoint
    leaves the hand when it is rolled back, forgotten or abandoned; a
    guard is a checkpoint that is kept for the caller. -/

namespace ScratchArena

/-- An allocation of some bytes. -/
structure Live where
  pointer : Pointer
  size : Nat
  align : Nat
  /-- Padding charged for it. -/
  padding : Nat
  /-- How many checkpoints had been taken before it. -/
  born : Nat
deriving DecidableEq, Repr

/-- A call on an arena. -/
inductive Op where
  | allocate (demand : Demand)
  | reserve (more : Nat)
  | reset
  | shrinkToFit
  | checkpoint
  | rollback (mark : Nat)
  | forget (mark : Nat)
  /-- A checkpoint is dropped, or spent on another arena, or its guard is
      leaked: it stays on record. -/
  | abandon (mark : Nat)
  | guarded
  | rollbackGuard (mark : Nat)
  | releaseGuard (mark : Nat)
  /-- The scope of a guard ends. -/
  | dropGuard (mark : Nat)
  /-- A checkpoint of another arena is presented. -/
  | rollbackForeign (c : Checkpoint)
  | forgetForeign (c : Checkpoint)

/-- An arena at work and what its caller holds. -/
structure History where
  site : Site
  /-- The live allocations, newest first. -/
  live : List Live := []
  /-- The checkpoints in hand, newest first: for each one, the arena as it
      was when the checkpoint was taken. -/
  held : List Arena := []

namespace History

/-- The checkpoints in hand. -/
def inHand (h : History) : List Checkpoint := h.held.map Arena.checkpoint

/-- The arena whose checkpoint carries a mark, while that is in hand. -/
def held? (h : History) (mark : Nat) : Option Arena := h.held.find? (·.nextMark == mark)

/-- The checkpoints in hand without one. -/
def without (h : History) (mark : Nat) : List Arena := h.held.filter (·.nextMark ≠ mark)

/-- What was allocated before a checkpoint was taken. -/
def before (h : History) (mark : Nat) : List Live := h.live.filter (·.born ≤ mark)

/-- A checkpoint was taken. -/
def taken (h : History) (site : Site) : History :=
  { h with site, held := h.site.arena :: h.held }

/-- What is live once a request of some bytes has been answered. -/
def fresh (h : History) (size align : Nat) (pointer : Pointer) : Live where
  pointer
  size
  align
  padding := padding h.site.arena.used (clampAlign align)
  born := h.site.arena.nextMark

/-- A request was answered: an allocation of some bytes is live. -/
def served (h : History) (demand : Demand) (outcome : Except Failure Pointer × Site) : History :=
  match outcome with
  | (.ok pointer, site) =>
      { h with
          site
          live :=
            if demand.size = 0 then h.live
            else h.fresh demand.size demand.align pointer :: h.live }
  | (.error _, site) => { h with site }

/-- The checkpoints in hand once the guard of one has been used: it is
    still there if the guard that is left is live. -/
def leaving (h : History) (mark : Nat) (g : Guard) : List Arena :=
  if g.isLive then h.held else h.without mark

/-- A checkpoint was presented: if it was accepted, what was allocated
    since is gone. -/
def rolledBack (h : History) (mark : Nat) (held : List Arena)
    (outcome : Except Failure Unit × Site) : History :=
  match outcome with
  | (.ok _, site) => { site, live := h.before mark, held }
  | (.error _, site) => { h with site, held }

/-- One call. -/
def step (h : History) : Op → History
  | .allocate demand => h.served demand (demand.serve h.site)
  | .reserve more => { h with site := (h.site.reserve more).2 }
  | .reset => { h with site := h.site.reset, live := [] }
  | .shrinkToFit => { h with site := h.site.shrinkToFit }
  | .checkpoint => h.taken h.site.checkpoint.2
  | .rollback mark =>
      match h.held? mark with
      | some b => h.rolledBack mark (h.without mark) (h.site.rollback b.checkpoint)
      | none => h
  | .forget mark =>
      match h.held? mark with
      | some b => { h with site := h.site.forget b.checkpoint, held := h.without mark }
      | none => h
  | .abandon mark => { h with held := h.without mark }
  | .guarded => h.taken h.site.guarded.2
  | .rollbackGuard mark =>
      match h.held? mark with
      | some b =>
          let ((result, left), site) := h.site.rollbackGuard ⟨some b.checkpoint⟩
          h.rolledBack mark (h.leaving mark left) (result, site)
      | none => h
  | .releaseGuard mark =>
      match h.held? mark with
      | some b =>
          let (left, site) := h.site.releaseGuard ⟨some b.checkpoint⟩
          { h with site, held := h.leaving mark left }
      | none => h
  | .dropGuard mark =>
      match h.held? mark with
      | some b =>
          h.rolledBack mark (h.without mark)
            ((h.site.rollbackGuard ⟨some b.checkpoint⟩).1.1,
              h.site.dropGuard ⟨some b.checkpoint⟩)
      | none => h
  | .rollbackForeign c =>
      if c.arena = h.site.arena.id then h else { h with site := (h.site.rollback c).2 }
  | .forgetForeign c =>
      if c.arena = h.site.arena.id then h else { h with site := h.site.forget c }

/-- Any number of calls. -/
def run (h : History) (ops : List Op) : History := ops.foldl step h

/-- The history of an arena just made. -/
def start (settings : Settings) (id : Nat) (heap : Heap) : History :=
  { site := (Site.establish settings id heap).2 }

/-- No bytes are not on record. -/
theorem served_nothing (h : History) {demand : Demand} (hz : demand.size = 0) (p : Pointer)
    (s : Site) : h.served demand (.ok p, s) = { h with site := s } := by
  simp only [served, if_pos hz]

/-- Bytes that are granted are live. -/
theorem served_bytes (h : History) {demand : Demand} (hpos : 0 < demand.size) (p : Pointer)
    (s : Site) : h.served demand (.ok p, s)
      = { h with site := s, live := h.fresh demand.size demand.align p :: h.live } := by
  simp only [served, if_neg (Nat.ne_of_gt hpos)]

/-- Either way the site is that of the outcome. -/
theorem served_site (h : History) (demand : Demand) (outcome : Except Failure Pointer × Site) :
    (h.served demand outcome).site = outcome.2 := by
  obtain ⟨answer, s⟩ := outcome
  cases answer with
  | error e => rfl
  | ok p => rfl

theorem run_cons (h : History) (op : Op) (ops : List Op) :
    h.run (op :: ops) = (h.step op).run ops := rfl

theorem run_append (h : History) (ops more : List Op) :
    h.run (ops ++ more) = (h.run ops).run more := List.foldl_append

/-- What every step keeps, every run keeps. -/
theorem run_induct {P : History → Prop} {h : History} (start : P h)
    (step : ∀ h op, P h → P (h.step op)) (ops : List Op) : P (h.run ops) := by
  induction ops generalizing h with
  | nil => exact start
  | cons op ops ih => exact ih (step h op start)

/-! ## Calls, case by case -/

/-- Rolling back a checkpoint in hand uses it up. -/
theorem step_rollback_some {h : History} {mark : Nat} {b : Arena} (he : h.held? mark = some b) :
    h.step (.rollback mark)
      = h.rolledBack mark (h.without mark) (h.site.rollback b.checkpoint) := by
  simp only [step, he]

/-- One that is not in hand cannot be rolled back. -/
theorem step_rollback_none {h : History} {mark : Nat} (he : h.held? mark = none) :
    h.step (.rollback mark) = h := by
  simp only [step, he]

/-- Forgetting a checkpoint in hand uses it up. -/
theorem step_forget_some {h : History} {mark : Nat} {b : Arena} (he : h.held? mark = some b) :
    h.step (.forget mark)
      = { h with site := h.site.forget b.checkpoint, held := h.without mark } := by
  simp only [step, he]

theorem step_forget_none {h : History} {mark : Nat} (he : h.held? mark = none) :
    h.step (.forget mark) = h := by
  simp only [step, he]

/-- A checkpoint that is found is in hand and has the mark. -/
theorem held?_some {h : History} {mark : Nat} {b : Arena} (he : h.held? mark = some b) :
    b ∈ h.held ∧ b.nextMark = mark :=
  ⟨List.mem_of_find?_eq_some he,
    beq_iff_eq.mp (List.find?_some (p := fun d : Arena => d.nextMark == mark) he)⟩

theorem without_of_held?_none {h : History} {mark : Nat} (he : h.held? mark = none) :
    h.without mark = h.held := by
  refine List.filter_eq_self.mpr ?_
  intro b hb
  have hne := List.find?_eq_none.mp he b hb
  exact decide_eq_true fun heq => hne (beq_iff_eq.mpr heq)

/-- Forgetting strikes a mark at most, and takes nothing but the checkpoint
    out of the hand. -/
theorem step_forget (h : History) (mark : Nat) :
    ∃ marks, marks.Sublist h.site.arena.marks
      ∧ h.step (.forget mark) = { h with
          site := { h.site with arena := { h.site.arena with marks } }
          held := h.without mark } := by
  cases he : h.held? mark with
  | none =>
      refine ⟨h.site.arena.marks, List.Sublist.refl _, ?_⟩
      rw [step_forget_none he, without_of_held?_none he]
  | some b =>
      rw [step_forget_some he]
      by_cases hown : b.checkpoint.arena = h.site.arena.id
          ∧ b.checkpoint.generation = h.site.arena.generation
      · rw [show h.site.forget b.checkpoint = _ from if_pos hown]
        exact ⟨_, List.filter_sublist, rfl⟩
      · rw [show h.site.forget b.checkpoint = _ from if_neg hown]
        exact ⟨_, List.Sublist.refl _, rfl⟩

/-- A checkpoint of another arena is turned away. -/
theorem rollback_foreign (s : Site) {c : Checkpoint} (hne : c.arena ≠ s.arena.id) :
    s.rollback c = (.error .foreignCheckpoint,
      s.log (.rollbackRejected .foreignArena c.total s.arena.total)) := by
  rw [Site.rollback, show s.arena.rollbackTo c = .rejected .foreignArena from if_pos hne]
  rfl

/-- A foreign checkpoint is rejected, and only the log shows it. -/
theorem step_rollbackForeign (h : History) (c : Checkpoint) :
    ∃ s, h.site.Alike s ∧ h.step (.rollbackForeign c) = { h with site := s } := by
  by_cases hc : c.arena = h.site.arena.id
  · exact ⟨h.site, Site.Alike.refl _, if_pos hc⟩
  · refine ⟨(h.site.rollback c).2, ?_, if_neg hc⟩
    rw [rollback_foreign h.site hc]
    exact ⟨rfl, Heap.Alike.refl _⟩

/-- A foreign checkpoint cannot be forgotten. -/
theorem step_forgetForeign (h : History) (c : Checkpoint) : h.step (.forgetForeign c) = h := by
  by_cases hc : c.arena = h.site.arena.id
  · exact if_pos hc
  · rw [show h.step (.forgetForeign c) = { h with site := h.site.forget c } from if_neg hc,
      show h.site.forget c = h.site from if_neg fun hown => hc hown.1]

/-- A rollback leaves the site as it is or rolls it back, whatever becomes
    of the rest. -/
theorem site_step_rollback (h : History) (mark : Nat) :
    (h.step (.rollback mark)).site = h.site
      ∨ ∃ c, (h.step (.rollback mark)).site = (h.site.rollback c).2 := by
  cases he : h.held? mark with
  | none =>
      rw [step_rollback_none he]
      exact Or.inl rfl
  | some b =>
      rw [step_rollback_some he]
      refine Or.inr ⟨b.checkpoint, ?_⟩
      obtain ⟨answer, s⟩ := h.site.rollback b.checkpoint
      cases answer with
      | error e => rfl
      | ok _ => rfl

/-- So does one to a checkpoint of another arena. -/
theorem site_step_rollbackForeign (h : History) (c : Checkpoint) :
    (h.step (.rollbackForeign c)).site = h.site
      ∨ (h.step (.rollbackForeign c)).site = (h.site.rollback c).2 := by
  by_cases hc : c.arena = h.site.arena.id
  · exact Or.inl (congrArg History.site (if_pos hc))
  · exact Or.inr (congrArg History.site (if_neg hc))

/-- An empty arena gives all chunks back, the newest one last. -/
theorem step_shrinkToFit_empty {h : History} (he : h.site.arena.isEmpty) :
    ∃ s, h.step .shrinkToFit = { h with site := s }
      ∧ s.arena = { h.site.arena.nextGeneration with chunks := [], used := 0, peak := 0 }
      ∧ s.heap.calls = h.site.heap.calls
        ++ (h.site.arena.retired.reverse ++ h.site.arena.current?.toList).map Chunk.freed
      ∧ s.heap.blocks.length = h.site.heap.blocks.length :=
  ⟨_, congrArg (fun s => { h with site := s }) (if_pos he), Site.release_eq _ _⟩

/-- An arena in use is shrunk by lowering its peak. -/
theorem step_shrinkToFit_inUse {h : History} (he : ¬ h.site.arena.isEmpty) :
    h.step .shrinkToFit = { h with site := { h.site with
      arena := { h.site.arena with peak := h.site.arena.total } } } :=
  congrArg (fun s => { h with site := s }) (if_neg he)

/-! ## Guards are checkpoints -/

/-- The call that a guard makes on its checkpoint. -/
def plain : Op → Op
  | .guarded => .checkpoint
  | .rollbackGuard mark => .rollback mark
  | .releaseGuard mark => .forget mark
  | .dropGuard mark => .rollback mark
  | op => op

/-- A guard does what its checkpoint does. -/
theorem step_plain (h : History) (op : Op) : h.step (plain op) = h.step op := by
  cases op <;> rfl

end History

end ScratchArena
