import ScratchArena.Proofs.Outcomes

/-! # Overflow — what a refusal for the size limit says

    A request that would pass the size limit is refused with three numbers:
    the bytes asked for, the total, and the limit.  The total and the limit
    are those of the arena.  But the limit is checked with the padding,
    which the report leaves out, and a size that no word holds is reported
    as the largest word.  So the numbers account for the refusal unless the
    bytes alone are within the limit, or the largest word is the limit of
    an empty arena. -/

namespace ScratchArena

/-- The numbers a request is made with. -/
def Demand.arguments : Demand → List Nat
  | .array _ count => [count]
  | .aligned count size align => [count, size, align]
  | .bytes size align => [size, align]
  | .copy _ values => [values.length]

namespace Site

/-- A growth fails for want of memory only. -/
theorem Grown.error_eq {s s' : Site} {growth : Growth} {e : Failure}
    (h : s.Grown growth (.error e, s')) : e = .outOfMemory growth.capacity := by
  cases h with
  | refusedGrow chunks unused larger arena refused => rfl
  | refusedAlloc positive arena refused => rfl

/-- The report on `size` bytes that would pass the size limit. -/
structure Overreached (s : Site) (size align requested total limit : Nat) : Prop where
  inUse : total = s.arena.total
  allowed : limit = s.arena.settings.maxSize
  reported : requested = min size Word.largest
  /-- With their padding the bytes are too many. -/
  beyond : limit < total + padding s.arena.used (clampAlign align) + size

variable {s : Site} {size align requested total limit : Nat}

/-- The numbers account for the refusal if the bytes alone pass the limit
    and the number of them is not cut short, or it does not matter. -/
theorem Overreached.truthful_iff (h : s.Overreached size align requested total limit)
    (words : limit ≤ Word.largest) :
    limit < total + requested
      ↔ limit < total + size ∧ (size ≤ Word.largest ∨ 0 < total ∨ limit < Word.largest) := by
  rw [h.reported]
  rcases Nat.le_total size Word.largest with hword | hlong
  · rw [Nat.min_eq_left hword]
    exact ⟨fun hlt => ⟨hlt, Or.inl hword⟩, And.left⟩
  · rw [Nat.min_eq_right hlong]
    omega

/-- A request is refused as an overflow for what it would take with its
    padding. -/
theorem allocBytes_overreached (hs : s.arena.Sound) (word : size ≤ Word.largest)
    (answered : (s.allocBytes size align).1 = .error (.overflow requested total limit)) :
    s.Overreached size align requested total limit := by
  rcases Nat.eq_zero_or_pos size with hz | hpos
  · -- a request for nothing is not checked against the limit
    rw [show s.allocBytes size align = s.allocNothing from if_pos hz] at answered
    rcases allocNothing_grown hs with ⟨c, older, -, heq⟩ | ⟨-, ⟨answer, room⟩, hgrown, heq⟩
    · rw [heq] at answered
      exact nomatch answered
    · rw [heq] at answered
      cases answer with
      | ok c => exact nomatch answered
      | error e =>
          obtain rfl := Except.error.inj answered
          exact nomatch hgrown.error_eq
  · have houtcome := allocBytes_outcome hs hpos align
    generalize s.allocBytes size align = outcome at houtcome answered
    cases houtcome with
    | overflow beyond arena heap =>
        obtain ⟨hrequested, htotal, hlimit⟩ := Failure.overflow.inj (Except.error.inj answered)
        subst hrequested htotal hlimit
        exact ⟨rfl, rfl, (Nat.min_eq_left word).symm, beyond⟩
    | inside limit chunks fits arena heap => exact nomatch answered
    | refused cramped grown =>
        obtain rfl := Except.error.inj answered
        exact nomatch grown.error_eq
    | grown cramped grown arena heap => exact nomatch answered

/-- A product that no word holds is above every limit. -/
theorem allocAligned_overreached (hs : s.arena.Sound) (count : Nat)
    (answered : (s.allocAligned count size align).1
      = .error (.overflow requested total limit)) :
    s.Overreached (count * size) align requested total limit := by
  by_cases hword : count * size ≤ Word.largest
  · have hmul : Word.mul? count size = some (count * size) := if_pos hword
    rw [show s.allocAligned count size align = s.allocBytes (count * size) align by
      simp only [allocAligned, hmul]] at answered
    exact allocBytes_overreached hs hword answered
  · have hmul : Word.mul? count size = none := if_neg hword
    rw [show s.allocAligned count size align = s.overflow (Word.satMul count size) by
      simp only [allocAligned, hmul]] at answered
    obtain ⟨hrequested, htotal, hlimit⟩ := Failure.overflow.inj (Except.error.inj answered)
    subst hrequested htotal hlimit
    refine ⟨rfl, rfl, rfl, ?_⟩
    have := hs.words
    omega

end Site

/-- Every report of an overflow has the numbers of the arena. -/
theorem Demand.overreached {s : Site} (hs : s.arena.Sound) {demand : Demand}
    (words : ∀ n ∈ demand.arguments, n ≤ Word.largest) {requested total limit : Nat}
    (answered : (demand.serve s).1 = .error (.overflow requested total limit)) :
    s.Overreached demand.size demand.align requested total limit := by
  cases demand with
  | array element count => exact Site.allocAligned_overreached hs count answered
  | aligned count size align => exact Site.allocAligned_overreached hs count answered
  | bytes size align =>
      exact Site.allocBytes_overreached hs (words size List.mem_cons_self) answered
  | copy element values =>
      refine Site.allocAligned_overreached hs values.length ?_
      have answered : (s.allocCopy element values).1
        = .error (.overflow requested total limit) := answered
      rcases s.allocCopy_cases element values with ⟨e, s', he, heq⟩ | ⟨p, s', -, heq⟩
      · rw [heq] at answered
        show (s.alloc element values.length).1 = _
        rw [he]
        exact answered
      · rw [heq] at answered
        exact nomatch answered

namespace History

/-- What an overflow reports after any run: the total and the limit of the
    arena, and the bytes asked for as far as a word holds them.  With their
    padding they pass the limit; that the reported numbers alone do so is
    the case exactly if the bytes pass it without their padding and, where
    their number is cut short to the largest word, the arena is not empty
    or its limit is below that. -/
theorem overflow_report_truthful_iff {settings : Settings}
    (words : settings.maxSize ≤ Word.largest) {id : Nat} {heap : Heap}
    (built : (Site.establish settings id heap).1 = .ok ()) (ops : List Op) {s : Site}
    (reached : s = ((start settings id heap).run ops).site) {demand : Demand}
    (arguments : ∀ n ∈ demand.arguments, n ≤ Word.largest) {requested total limit : Nat}
    (answered : (demand.serve s).1 = .error (.overflow requested total limit)) :
    total = s.arena.total ∧ limit = s.arena.settings.maxSize
    ∧ requested = min demand.size Word.largest
    ∧ limit < total + padding s.arena.used (clampAlign demand.align) + demand.size
    ∧ (limit < total + requested
      ↔ limit < total + demand.size
        ∧ (demand.size ≤ Word.largest ∨ 0 < total ∨ limit < Word.largest)) := by
  have hs : s.arena.Sound := reached ▸ ((Sound.start words built).run ops).site.arena
  have h := Demand.overreached hs arguments answered
  exact ⟨h.inUse, h.allowed, h.reported, h.beyond, h.truthful_iff (h.allowed ▸ hs.words)⟩

/-- With one byte of ten in use, seven more at a multiple of eight would
    begin at eight.  They are refused for their padding. -/
theorem overflow_report_truthful_iff_padded :
    let s := ((start { maxSize := 10, poison := true } 0 (Heap.fresh .generous)).run
      [.allocate (.bytes 1 1)]).site
    ((Demand.bytes 7 8).serve s).1 = .error (.overflow 7 1 10)
      ∧ 10 < 1 + padding s.arena.used (clampAlign 8) + 7
      ∧ (10 < 1 + 7 ↔ 10 < 1 + 7 ∧ (7 ≤ Word.largest ∨ 0 < 1 ∨ 10 < Word.largest)) := by
  intro s
  have built : (Site.establish { maxSize := 10, poison := true } 0
      (Heap.fresh .generous)).1 = .ok () := rfl
  have answered : ((Demand.bytes 7 8).serve s).1 = .error (.overflow 7 1 10) := by
    decide +kernel
  obtain ⟨-, -, -, hbeyond, htruthful⟩ := overflow_report_truthful_iff (by decide) built _
    (rfl : s = _) (by decide) answered
  exact ⟨answered, hbeyond, htruthful⟩

/-- A report that does not account for the refusal: seven bytes on top of
    one, where ten are allowed. -/
theorem overflow_report_within_limit :
    ¬ ∀ (settings : Settings) (id : Nat) (heap : Heap) (ops : List Op) (demand : Demand)
        (requested total limit : Nat),
      settings.maxSize ≤ Word.largest → (Site.establish settings id heap).1 = .ok () →
      (∀ n ∈ demand.arguments, n ≤ Word.largest) →
      (demand.serve ((start settings id heap).run ops).site).1
        = .error (.overflow requested total limit) →
      total = ((start settings id heap).run ops).site.arena.total ∧ limit = settings.maxSize
        ∧ limit < total + requested := by
  intro hall
  obtain ⟨-, -, htruthful⟩ := hall { maxSize := 10, poison := true } 0 (Heap.fresh .generous)
    [.allocate (.bytes 1 1)] (.bytes 7 8) 7 1 10 (by decide) rfl (by decide) (by decide +kernel)
  exact absurd htruthful (by decide)

end History

end ScratchArena
