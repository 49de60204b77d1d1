import ScratchArena.Proofs.Acceptance
import ScratchArena.Proofs.Restoration

/-! # Pending — a guard through the calls made under it

    Work under a guard gives out marks that are newer than the guard's own,
    and it has no other marks to give away.  Such calls are *tame*.  A tame
    run leaves the guard pending: its checkpoint is still in hand and its
    mark on record.  Then its end does one of two things.  A rollback
    returns to the moment the guard was made.  A release keeps everything,
    and of the marks given out since only those are left on record whose
    checkpoints nobody has consumed.  A guard that has ended is spent, and
    stays so. -/

namespace ScratchArena

/-- The call is given no mark up to `m` and does not reset the arena. -/
def Op.Tame (m : Nat) (op : Op) : Prop :=
  match History.plain op with
  | .reset => False
  | .rollback mark => m < mark
  | .forget mark => m < mark
  | .abandon mark => m < mark
  | _ => True

namespace History

/-- The guard of a mark holds its checkpoint while that is in hand, and is
    spent from then on. -/
def guard (h : History) (mark : Nat) : Guard := ⟨(h.held? mark).map Arena.checkpoint⟩

/-- The mark of the checkpoint that a call consumes. -/
def consumes (h : History) (op : Op) : List Nat :=
  match plain op with
  | .rollback mark => if (h.held? mark).isSome then [mark] else []
  | .forget mark => if (h.held? mark).isSome then [mark] else []
  | _ => []

/-- The marks of the checkpoints that a run consumes. -/
def consumed (h : History) : List Op → List Nat
  | [] => []
  | op :: ops => h.consumes op ++ (h.step op).consumed ops

/-- The run shrinks the arena only while it is in use. -/
def ShrinksInUse (h : History) : List Op → Prop
  | [] => True
  | op :: ops => (op = .shrinkToFit → ¬ h.site.arena.isEmpty) ∧ (h.step op).ShrinksInUse ops

/-- A checkpoint in hand whose mark is on record; `b` is the arena of its
    moment. -/
structure Pending (h : History) (b : Arena) : Prop where
  inHand : b ∈ h.held
  onRecord : b.nextMark ∈ h.site.arena.marks

/-! ## Tame calls -/

section Tame

variable {h : History} {m : Nat} {op : Op}

/-- A tame call voids no checkpoint that is older. -/
theorem not_voids_of_tame (tame : op.Tame m)
    (inUse : op = .shrinkToFit → ¬ h.site.arena.isEmpty) : ¬ h.Voids m op := by
  intro hv
  cases op with
  | reset => exact tame
  | shrinkToFit => exact inUse rfl hv
  | rollback older | rollbackGuard older | dropGuard older =>
      exact Nat.lt_asymm tame hv.1
  | _ => exact hv

/-- A checkpoint stays in hand while only newer ones are given away. -/
theorem mem_holding_of_tame (tame : op.Tame m) {b : Arena} (hb : b ∈ h.held)
    (hm : b.nextMark = m) : b ∈ h.holding op := by
  have hkept (mark : Nat) (hlt : m < mark) : b ∈ h.without mark :=
    List.mem_filter.mpr ⟨hb, decide_eq_true (by omega)⟩
  cases op with
  | checkpoint | guarded => exact List.mem_cons_of_mem _ hb
  | rollback mark | rollbackGuard mark | dropGuard mark => exact hkept mark tame
  | forget mark | releaseGuard mark => exact hkept mark tame
  | abandon mark => exact hkept mark tame
  | _ => exact hb

/-- A tame call forgets younger checkpoints only. -/
theorem lt_of_mem_forgets (tame : op.Tame m) : ∀ n ∈ h.forgets op, m < n := by
  intro n hn
  cases op with
  | forget mark | releaseGuard mark =>
      have hn : n ∈ (if (h.held? mark).isSome then [mark] else []) := hn
      split at hn
      · rw [List.mem_singleton.mp hn]
        exact tame
      · exact nomatch hn
  | _ => exact nomatch hn

end Tame

theorem lt_of_mem_forgotten {h : History} {m : Nat} {ops : List Op}
    (tame : ∀ op ∈ ops, op.Tame m) : ∀ n ∈ h.forgotten ops, m < n := by
  induction ops generalizing h with
  | nil => exact fun _ hn => nomatch hn
  | cons op ops ih =>
      obtain ⟨hop, hops⟩ := List.forall_mem_cons.mp tame
      exact List.forall_mem_append.mpr ⟨lt_of_mem_forgets hop, ih hops⟩

namespace Sound

variable {h : History} {b : Arena} {ops : List Op}

/-- A tame call leaves a pending checkpoint pending. -/
theorem pending_step (hs : h.Sound) (hp : h.Pending b) {op : Op} (tame : op.Tame b.nextMark)
    (inUse : op = .shrinkToFit → ¬ h.site.arena.isEmpty) : (h.step op).Pending b := by
  have hbooked := hs.booked op
  have hb : b ∈ (h.step op).held := by
    rw [hbooked.held]
    exact mem_holding_of_tame tame hp.inHand rfl
  refine ⟨hb, ?_⟩
  rw [hbooked.marks, Edit.mem_marks_iff (hs.held_lt b hp.inHand)]
  exact ⟨hp.onRecord, (hs.spares_iff_not_voids hb).mpr (not_voids_of_tame tame inUse)⟩

/-- A checkpoint stays pending through a tame run. -/
theorem pending_run (hs : h.Sound) (hp : h.Pending b) (tame : ∀ op ∈ ops, op.Tame b.nextMark)
    (inUse : h.ShrinksInUse ops) : (h.run ops).Pending b := by
  induction ops generalizing h with
  | nil => exact hp
  | cons op ops ih =>
      obtain ⟨hop, hops⟩ := List.forall_mem_cons.mp tame
      exact ih (hs.step op) (hs.pending_step hp hop inUse.1) hops inUse.2

/-- A tame run leaves the older marks alone. -/
theorem older_marks_tame (hs : h.Sound) {m : Nat} (hlt : m < h.site.arena.nextMark)
    (tame : ∀ op ∈ ops, op.Tame m) (hm : m ∈ (h.run ops).site.arena.marks) :
    (h.run ops).site.arena.marks.filter (· < m) = h.site.arena.marks.filter (· < m) := by
  rw [(hs.older_marks_run hlt hm).2]
  refine List.filter_eq_self.mpr ?_
  intro n hn
  have hn := of_decide_eq_true (List.mem_filter.mp hn).2
  exact decide_eq_true fun hf => Nat.lt_asymm hn (lt_of_mem_forgotten tame n hf)

/-! ## The guard -/

/-- No two checkpoints in hand carry the same mark. -/
theorem held?_of_mem (hs : h.Sound) (hb : b ∈ h.held) : h.held? b.nextMark = some b := by
  have hnodup : (h.held.map Arena.nextMark).Nodup :=
    List.pairwise_map.mpr (hs.held_newest_first.imp fun hlt => Nat.ne_of_gt hlt)
  cases he : h.held? b.nextMark with
  | none => exact absurd (beq_self_eq_true b.nextMark) (List.find?_eq_none.mp he b hb)
  | some d =>
      obtain ⟨hd, hmark⟩ := held?_some he
      rw [List.inj_on_of_nodup_map hnodup hd hb hmark]

/-- The guard of a checkpoint in hand holds that checkpoint. -/
theorem guard_of_mem (hs : h.Sound) (hb : b ∈ h.held) :
    h.guard b.nextMark = ⟨some b.checkpoint⟩ := by
  rw [History.guard, hs.held?_of_mem hb]
  rfl

/-- A checkpoint that has left the hand is gone for good. -/
theorem guard_spent (hs : h.Sound) {mark : Nat} (hlt : mark < h.site.arena.nextMark)
    (hgone : ∀ b ∈ h.held, b.nextMark ≠ mark) (ops : List Op) :
    (h.run ops).guard mark = .spent := by
  have hnone : (h.run ops).held? mark = none := by
    refine List.find?_eq_none.mpr ?_
    intro b hb heq
    obtain rfl := beq_iff_eq.mp heq
    exact hgone b (hs.held_of_run hb hlt) rfl
  rw [History.guard, hnone]
  rfl

/-! ## Consumed checkpoints -/

/-- What a call uses up is what it rolls back or forgets. -/
theorem mem_consumes_iff {op : Op} {n : Nat} :
    n ∈ h.consumes op
      ↔ (h.held? n).isSome ∧ (plain op = .rollback n ∨ plain op = .forget n) := by
  rw [consumes]
  cases plain op with
  | rollback mark | forget mark =>
      dsimp only
      split
      · rename_i he
        have hiff : n = mark ↔ (h.held? n).isSome ∧ mark = n :=
          ⟨fun heq => ⟨heq ▸ he, heq.symm⟩, fun hn => hn.2.symm⟩
        simpa using hiff
      · rename_i he
        have hnot : ¬ ((h.held? n).isSome ∧ mark = n) := fun hn => he (hn.2 ▸ hn.1)
        simpa using hnot
  | _ => simp

/-- A consumed checkpoint was given out, and its mark is off the record. -/
theorem not_mem_marks_of_consumes (hs : h.Sound) {op : Op} {n : Nat} (hn : n ∈ h.consumes op) :
    n < h.site.arena.nextMark ∧ n ∉ (h.step op).site.arena.marks := by
  obtain ⟨he, hop⟩ := mem_consumes_iff.mp hn
  obtain ⟨b, hb⟩ := Option.isSome_iff_exists.mp he
  obtain ⟨hb, hmark⟩ := held?_some hb
  refine ⟨hmark ▸ hs.held_lt b hb, ?_⟩
  rw [(hs.booked op).marks, ← edit_plain]
  rcases hop with hop | hop
  · rw [hop]
    by_cases hm : n ∈ h.site.arena.marks
    · rw [show h.edit (.rollback n) = .cut n from if_pos ⟨he, hm⟩]
      exact fun hm => Nat.lt_irrefl n (of_decide_eq_true (List.mem_filter.mp hm).2)
    · rw [show h.edit (.rollback n) = .keep from if_neg fun hx => hm hx.2]
      exact hm
  · rw [hop, show h.edit (.forget n) = .strike n from if_pos he]
    exact fun hm => of_decide_eq_true (List.mem_filter.mp hm).2 rfl

/-- No checkpoint that a run consumes is on record at its end. -/
theorem not_consumed_of_mem (hs : h.Sound) {n : Nat} (hn : n ∈ (h.run ops).site.arena.marks) :
    n ∉ h.consumed ops := by
  induction ops generalizing h with
  | nil => exact List.not_mem_nil
  | cons op ops ih =>
      intro hc
      rcases List.mem_append.mp hc with hc | hc
      · obtain ⟨hlt, hoff⟩ := hs.not_mem_marks_of_consumes hc
        have hlt := Nat.lt_of_lt_of_le hlt (hs.nextMark_le_step op)
        exact hoff ((hs.step op).older_marks_run hlt hn).1
      · exact ih (hs.step op) hn hc

end Sound

/-- Where marks are listed newest first, those other than one are the newer
    ones before the older ones. -/
theorem filter_ne_newest_first {marks : List Nat} (hm : marks.Pairwise fun m n => n < m)
    (mark : Nat) :
    marks.filter (· ≠ mark) = marks.filter (mark < ·) ++ marks.filter (· < mark) := by
  induction marks with
  | nil => rfl
  | cons m marks ih =>
      obtain ⟨hrest, hm⟩ := List.pairwise_cons.mp hm
      specialize ih hm
      rcases Nat.lt_or_ge mark m with hlt | hge
      · simp [hlt, Nat.ne_of_gt hlt, Nat.lt_asymm hlt, ← ih]
      · -- from here on every mark is an older one
        have hold : ∀ n ∈ marks, n < mark := fun n hn => Nat.lt_of_lt_of_le (hrest n hn) hge
        have hnone : marks.filter (mark < ·) = [] :=
          List.filter_eq_nil_iff.mpr fun n hn => by simpa using Nat.le_of_lt (hold n hn)
        rw [hnone, List.nil_append] at ih
        rcases Nat.eq_or_lt_of_le hge with rfl | hlt
        · simp [hnone, ← ih]
        · simp [hnone, hlt, Nat.ne_of_lt hlt, Nat.le_of_lt hlt, ← ih]

end History

end ScratchArena
