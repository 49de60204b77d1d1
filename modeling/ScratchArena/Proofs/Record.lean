import ScratchArena.Proofs.Preservation

/-! # The record — which marks stay on it

    Each call does one of five things to the marks on record: it keeps
    them, adds the next one, wipes them all, cuts them off at one, or
    strikes one.  Which of these it is, and which checkpoints are in hand
    afterwards, can be read off the call and the state before it.  A mark
    that is off the record never comes back, and a checkpoint that has
    left the hand never returns to it: marks are given out once. -/

namespace ScratchArena

/-- What a call does to the marks on record. -/
inductive Edit where
  | keep
  | add
  | wipe
  /-- A mark and all newer ones go. -/
  | cut (mark : Nat)
  /-- One mark goes. -/
  | strike (mark : Nat)
deriving DecidableEq, Repr

namespace Edit

/-- The marks on record after an edit. -/
def marks (a : Arena) : Edit → List Nat
  | .keep => a.marks
  | .add => a.nextMark :: a.marks
  | .wipe => []
  | .cut mark => a.marks.filter (· < mark)
  | .strike mark => a.marks.filter (· ≠ mark)

/-- The next mark after an edit. -/
def nextMark (a : Arena) : Edit → Nat
  | .add => a.nextMark + 1
  | _ => a.nextMark

/-- Whether an edit leaves a mark on record. -/
def spares (m : Nat) : Edit → Bool
  | .keep => true
  | .add => true
  | .wipe => false
  | .cut mark => m < mark
  | .strike mark => m ≠ mark

/-- The marks that an edit takes away one by one. -/
def struck : Edit → List Nat
  | .strike mark => [mark]
  | _ => []

theorem le_nextMark (e : Edit) (a : Arena) : a.nextMark ≤ e.nextMark a := by
  cases e with
  | add => exact Nat.le_succ _
  | keep | wipe | cut | strike => exact Nat.le_refl _

/-- A mark given out before is on record if it was and is spared. -/
theorem mem_marks_iff {e : Edit} {a : Arena} {m : Nat} (hlt : m < a.nextMark) :
    m ∈ e.marks a ↔ m ∈ a.marks ∧ e.spares m := by
  cases e with
  | keep => exact (and_iff_left rfl).symm
  | add =>
      refine List.mem_cons.trans ?_
      rw [or_iff_right (Nat.ne_of_lt hlt)]
      exact (and_iff_left rfl).symm
  | wipe => exact iff_of_false (fun hm => nomatch hm) (fun hm => nomatch hm.2)
  | cut mark => exact List.mem_filter
  | strike mark => exact List.mem_filter

/-- The older marks on record are those that were and are spared. -/
theorem filter_marks {e : Edit} {a : Arena} {m : Nat} (hle : m ≤ a.nextMark) :
    (e.marks a).filter (· < m) = (a.marks.filter (· < m)).filter (e.spares ·) := by
  cases e with
  | keep => exact (List.filter_eq_self.mpr fun _ _ => rfl).symm
  | add =>
      rw [show Edit.add.marks a = a.nextMark :: a.marks from rfl,
        List.filter_cons_of_neg (by simpa using hle)]
      exact (List.filter_eq_self.mpr fun _ _ => rfl).symm
  | wipe => exact (List.filter_eq_nil_iff.mpr fun _ _ => Bool.false_ne_true).symm
  | cut mark => exact List.filter_comm ..
  | strike mark => exact List.filter_comm ..

/-- Of the marks older than one that is spared, only the struck ones go. -/
theorem spares_iff {e : Edit} {m n : Nat} (hlt : n < m) (hm : e.spares m) :
    e.spares n ↔ n ∉ e.struck := by
  cases e with
  | keep => exact iff_of_true rfl (fun hn => nomatch hn)
  | add => exact iff_of_true rfl (fun hn => nomatch hn)
  | wipe => exact nomatch hm
  | cut mark =>
      have hm := of_decide_eq_true hm
      exact iff_of_true (decide_eq_true (Nat.lt_trans hlt hm)) (fun hn => nomatch hn)
  | strike mark =>
      refine decide_eq_true_iff.trans (not_congr ?_)
      exact List.mem_singleton.symm

end Edit

namespace History

/-- The edit that a call makes. -/
def edit (h : History) (op : Op) : Edit :=
  match plain op with
  | .checkpoint => .add
  | .reset => .wipe
  | .shrinkToFit => if h.site.arena.isEmpty then .wipe else .keep
  | .rollback mark =>
      if (h.held? mark).isSome ∧ mark ∈ h.site.arena.marks then .cut mark else .keep
  | .forget mark => if (h.held? mark).isSome then .strike mark else .keep
  | _ => .keep

/-- The checkpoints in hand after a call. -/
def holding (h : History) (op : Op) : List Arena :=
  match plain op with
  | .checkpoint => h.site.arena :: h.held
  | .rollback mark => h.without mark
  | .forget mark => h.without mark
  | .abandon mark => h.without mark
  | _ => h.held

/-- The mark of the checkpoint that a call forgets. -/
def forgets (h : History) (op : Op) : List Nat :=
  match plain op with
  | .forget mark => if (h.held? mark).isSome then [mark] else []
  | _ => []

/-- The marks of the checkpoints that a run forgets. -/
def forgotten (h : History) : List Op → List Nat
  | [] => []
  | op :: ops => h.forgets op ++ (h.step op).forgotten ops

/-- What a call leaves of the books on checkpoints. -/
structure Booked (h h' : History) (e : Edit) (held : List Arena) : Prop where
  id : h'.site.arena.id = h.site.arena.id
  marks : h'.site.arena.marks = e.marks h.site.arena
  nextMark : h'.site.arena.nextMark = e.nextMark h.site.arena
  held : h'.held = held

variable {h : History}

theorem edit_plain (h : History) (op : Op) : h.edit (plain op) = h.edit op := by
  cases op <;> rfl

theorem holding_plain (h : History) (op : Op) : h.holding (plain op) = h.holding op := by
  cases op <;> rfl

/-- What an edit strikes is what the call forgets. -/
theorem struck_edit (h : History) (op : Op) : (h.edit op).struck = h.forgets op := by
  unfold edit forgets
  cases plain op with
  | shrinkToFit =>
      show (if h.site.arena.isEmpty then Edit.wipe else .keep).struck = []
      split
      · rfl
      · rfl
  | rollback mark =>
      show (if _ then Edit.cut mark else .keep).struck = []
      split
      · rfl
      · rfl
  | forget mark =>
      show (if _ then Edit.strike mark else .keep).struck = if _ then _ else _
      split
      · rfl
      · rfl
  | _ => rfl

/-- A call that leaves the marks alone is booked as that. -/
theorem booked_keep {h' : History} (hm : h.site.arena.SameMarks h'.site.arena)
    {held : List Arena} (hheld : h'.held = held) : h.Booked h' .keep held :=
  ⟨hm.id, hm.marks, hm.nextMark, hheld⟩

namespace Sound

/-- A checkpoint in hand is accepted exactly if its mark is on record. -/
theorem rollback_ok_iff (hs : h.Sound) {b : Arena} (hb : b ∈ h.held) :
    (h.site.rollback b.checkpoint).1 = .ok () ↔ b.nextMark ∈ h.site.arena.marks := by
  by_cases hm : b.nextMark ∈ h.site.arena.marks
  · refine iff_of_true ?_ hm
    rcases Nat.eq_zero_or_pos b.total with hz | hpos
    · rw [hs.rollback_empty hb hm hz]
    · obtain ⟨newer, c, c', older, hg⟩ := (hs.anchored b hb hm).underlies hpos
      rw [hs.rollback_grafted hb hm hpos hg]
  · obtain ⟨why, -, -, hr⟩ := hs.rollback_stale hb hm
    rw [hr]
    exact iff_of_false (fun hx => nomatch hx) hm

/-- A rollback is booked as a cut, or as nothing. -/
theorem booked_rollback (hs : h.Sound) (mark : Nat) :
    h.Booked (h.step (.rollback mark)) (h.edit (.rollback mark)) (h.without mark) := by
  have hp := hs.presented mark
  have hcut : ∀ {b : Arena}, h.held? b.nextMark = some b → b.nextMark ∈ h.site.arena.marks →
      h.edit (.rollback b.nextMark) = .cut b.nextMark :=
    fun hb hm => if_pos ⟨by rw [hb]; rfl, hm⟩
  generalize h.step (.rollback mark) = h' at hp ⊢
  cases hp with
  | absent away =>
      rw [show h.edit (.rollback mark) = .keep from if_neg fun hx => by simp [away] at hx]
      exact ⟨rfl, rfl, rfl, (without_of_held?_none away).symm⟩
  | @stale b s inHand offRecord alike =>
      rw [show h.edit (.rollback b.nextMark) = .keep from if_neg fun hx => offRecord hx.2]
      exact booked_keep (alike.arena ▸ ⟨rfl, rfl, rfl, rfl⟩) rfl
  | @empty b inHand onRecord nothing =>
      obtain ⟨⟨id, -, marks, nextMark⟩, -, -, -⟩ :=
        Site.clear_books (hs.site_dropMarks b.nextMark).arena
      rw [hcut inHand onRecord]
      exact ⟨id, marks, nextMark, rfl⟩
  | grafted inHand onRecord inUse grafted =>
      rw [hcut inHand onRecord]
      exact ⟨rfl, rfl, rfl, rfl⟩

/-- Forgetting strikes the mark, also where the arena has been reset: a
    mark of an earlier generation is off the record. -/
theorem booked_forget (hs : h.Sound) (mark : Nat) :
    h.Booked (h.step (.forget mark)) (h.edit (.forget mark)) (h.without mark) := by
  cases he : h.held? mark with
  | none =>
      rw [step_forget_none he, show h.edit (.forget mark) = .keep by simp [edit, plain, he]]
      exact ⟨rfl, rfl, rfl, (without_of_held?_none he).symm⟩
  | some b =>
      obtain ⟨hb, rfl⟩ := held?_some he
      rw [step_forget_some he,
        show h.edit (.forget b.nextMark) = .strike b.nextMark by simp [edit, plain, he]]
      by_cases hown : b.checkpoint.arena = h.site.arena.id
          ∧ b.checkpoint.generation = h.site.arena.generation
      · rw [show h.site.forget b.checkpoint = _ from if_pos hown]
        exact ⟨rfl, rfl, rfl, rfl⟩
      · rw [show h.site.forget b.checkpoint = _ from if_neg hown]
        refine ⟨rfl, ?_, rfl, rfl⟩
        show h.site.arena.marks = h.site.arena.marks.filter (· ≠ b.nextMark)
        refine (List.filter_eq_self.mpr ?_).symm
        intro m hm
        refine decide_eq_true ?_
        rintro rfl
        exact hown ⟨hs.held_id b hb, (hs.anchored b hb hm).generation⟩

/-- A shrink is booked as nothing, or as one more generation. -/
theorem booked_shrinkToFit (h : History) :
    h.Booked (h.step .shrinkToFit) (h.edit .shrinkToFit) h.held := by
  by_cases he : h.site.arena.isEmpty
  · obtain ⟨⟨arena, heap, events⟩, heq, harena, -, -⟩ := step_shrinkToFit_empty he
    obtain rfl : arena = { h.site.arena.nextGeneration with chunks := [], used := 0, peak := 0 } :=
      harena
    rw [heq, show h.edit .shrinkToFit = .wipe from if_pos he]
    exact ⟨rfl, rfl, rfl, rfl⟩
  · rw [step_shrinkToFit_inUse he, show h.edit .shrinkToFit = .keep from if_neg he]
    exact ⟨rfl, rfl, rfl, rfl⟩

/-- Every call does what its edit says. -/
theorem booked (hs : h.Sound) (op : Op) :
    h.Booked (h.step op) (h.edit op) (h.holding op) := by
  rw [← step_plain]
  cases op with
  | allocate demand =>
      have hm := (Demand.answered hs.site.arena demand).marks
      show h.Booked (h.served demand (demand.serve h.site)) .keep h.held
      unfold served
      split
      · rename_i ho
        rw [ho] at hm
        exact booked_keep hm rfl
      · rename_i ho
        rw [ho] at hm
        exact booked_keep hm rfl
  | reserve more =>
      exact booked_keep (Site.reserve_resized hs.site.arena more).books.toSameMarks rfl
  | reset =>
      obtain ⟨⟨id, -, marks, nextMark⟩, -, -, -⟩ := Site.clear_books hs.site_nextGeneration.arena
      exact ⟨id, marks, nextMark, rfl⟩
  | shrinkToFit => exact booked_shrinkToFit h
  | checkpoint => exact ⟨rfl, rfl, rfl, rfl⟩
  | rollback mark => exact hs.booked_rollback mark
  | forget mark => exact hs.booked_forget mark
  | abandon mark => exact ⟨rfl, rfl, rfl, rfl⟩
  | guarded => exact ⟨rfl, rfl, rfl, rfl⟩
  | rollbackGuard mark => exact hs.booked_rollback mark
  | releaseGuard mark => exact hs.booked_forget mark
  | dropGuard mark => exact hs.booked_rollback mark
  | rollbackForeign c =>
      obtain ⟨s, ha, heq⟩ := step_rollbackForeign h c
      rw [show h.step (plain (.rollbackForeign c)) = { h with site := s } from heq]
      exact ⟨congrArg Arena.id ha.arena, congrArg Arena.marks ha.arena,
        congrArg Arena.nextMark ha.arena, rfl⟩
  | forgetForeign c =>
      rw [show h.step (plain (.forgetForeign c)) = h from step_forgetForeign h c]
      exact ⟨rfl, rfl, rfl, rfl⟩

theorem nextMark_le_step (hs : h.Sound) (op : Op) :
    h.site.arena.nextMark ≤ (h.step op).site.arena.nextMark := by
  rw [(hs.booked op).nextMark]
  exact (h.edit op).le_nextMark _

/-! ## Along a run -/

/-- Marks are never numbered anew. -/
theorem nextMark_le_run (hs : h.Sound) (ops : List Op) :
    h.site.arena.nextMark ≤ (h.run ops).site.arena.nextMark := by
  induction ops generalizing h with
  | nil => exact Nat.le_refl _
  | cons op ops ih => exact Nat.le_trans (hs.nextMark_le_step op) (ih (hs.step op))

/-- No checkpoint taken before is picked up again. -/
theorem held_of_step (hs : h.Sound) {op : Op} {b : Arena} (hb : b ∈ (h.step op).held)
    (hlt : b.nextMark < h.site.arena.nextMark) : b ∈ h.held := by
  rw [(hs.booked op).held] at hb
  unfold holding at hb
  split at hb
  · rcases List.mem_cons.mp hb with rfl | hb
    · exact absurd hlt (Nat.lt_irrefl _)
    · exact hb
  · exact List.mem_of_mem_filter hb
  · exact List.mem_of_mem_filter hb
  · exact List.mem_of_mem_filter hb
  · exact hb

/-- A checkpoint with an older mark was in hand before. -/
theorem held_of_run (hs : h.Sound) {ops : List Op} {b : Arena} (hb : b ∈ (h.run ops).held)
    (hlt : b.nextMark < h.site.arena.nextMark) : b ∈ h.held := by
  induction ops generalizing h with
  | nil => exact hb
  | cons op ops ih =>
      -- in hand at the end, hence after the first call, hence before it
      have hb' := ih (hs.step op) hb (Nat.lt_of_lt_of_le hlt (hs.nextMark_le_step op))
      exact hs.held_of_step hb' hlt

/-- While a mark stays on record, older ones only go by being forgotten. -/
theorem older_marks_run (hs : h.Sound) {ops : List Op} {m : Nat}
    (hlt : m < h.site.arena.nextMark) (hm : m ∈ (h.run ops).site.arena.marks) :
    m ∈ h.site.arena.marks
      ∧ (h.run ops).site.arena.marks.filter (· < m)
        = (h.site.arena.marks.filter (· < m)).filter (· ∉ h.forgotten ops) := by
  induction ops generalizing h with
  | nil => exact ⟨hm, (List.filter_eq_self.mpr fun _ _ => decide_eq_true List.not_mem_nil).symm⟩
  | cons op ops ih =>
      have hb := hs.booked op
      obtain ⟨hm', heq⟩ :=
        ih (hs.step op) (Nat.lt_of_lt_of_le hlt (hs.nextMark_le_step op)) hm
      rw [hb.marks] at hm'
      obtain ⟨hm', hspared⟩ := (Edit.mem_marks_iff hlt).mp hm'
      refine ⟨hm', ?_⟩
      rw [run_cons, heq, hb.marks, Edit.filter_marks (Nat.le_of_lt hlt), List.filter_filter]
      refine List.filter_congr ?_
      intro n hn
      -- what the first call does not spare of the older marks it has struck
      have hnm := of_decide_eq_true (List.mem_filter.mp hn).2
      have hiff := Edit.spares_iff hnm hspared
      rw [show h.forgotten (op :: ops) = h.forgets op ++ (h.step op).forgotten ops from rfl,
        ← struck_edit]
      by_cases hs : (h.edit op).spares n
      · simp [hs, hiff.mp hs]
      · simp [hs, Classical.not_not.mp (mt hiff.mpr hs)]

end Sound

end History

end ScratchArena
