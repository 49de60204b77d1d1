import Mathlib
import ScratchArena.Alignment

/-! # Padding — the masked negation is the least step to alignment

    The padding before an allocation is computed by negating the offset in
    two's complement and masking the result.  Here it is read on natural
    numbers: the mask is a remainder, the negation completes the offset to
    a multiple of the word range, and every power of two below that range
    divides it.  So the padded offset is a multiple of the alignment, and
    no smaller step reaches one.  A clamped alignment is itself the least
    power of two that reaches the request, or else a word. -/

namespace ScratchArena

/-- What is missing to the next multiple completes to a multiple. -/
theorem dvd_add_complement {m : Nat} (hm : 0 < m) (x : Nat) :
    m ∣ x + (m - x % m) % m := by
  have hlt : x % m < m := Nat.mod_lt x hm
  refine Nat.dvd_of_mod_eq_zero ?_
  rw [Nat.add_mod, Nat.mod_mod]
  by_cases hz : x % m = 0
  · rw [hz, Nat.sub_zero, Nat.mod_self, Nat.zero_add, Nat.zero_mod]
  · rw [Nat.mod_eq_of_lt (show m - x % m < m by omega),
      show x % m + (m - x % m) = m by omega, Nat.mod_self]

theorem dvd_add_mod_iff {m x p : Nat} : m ∣ x + p % m ↔ m ∣ x + p := by
  constructor
  · intro h
    have := Nat.mod_eq_zero_of_dvd h
    rw [Nat.add_mod_mod] at this
    exact Nat.dvd_of_mod_eq_zero this
  · intro h
    have := Nat.mod_eq_zero_of_dvd h
    rw [← Nat.add_mod_mod] at this
    exact Nat.dvd_of_mod_eq_zero this

/-- Two aligned offsets are whole steps apart, so a step to alignment that
    is below the alignment is the least one. -/
theorem isLeast_step {m x p : Nat} (hlt : p < m) (hdvd : m ∣ x + p) :
    IsLeast {q | m ∣ x + q} p := by
  refine ⟨hdvd, ?_⟩
  intro q hq
  refine Nat.le_of_not_lt fun hqp => ?_
  have hsteps : m ∣ p - q := by
    have := Nat.dvd_sub hdvd hq
    rwa [Nat.add_sub_add_left] at this
  have := Nat.le_of_dvd (by omega) hsteps
  omega

/-- The least step to alignment passes no aligned offset. -/
theorem add_le_of_isLeast_step {m x p n : Nat} (h : IsLeast {q | m ∣ x + q} p)
    (hle : x ≤ n) (hn : m ∣ n) : x + p ≤ n := by
  have hstep : m ∣ x + (n - x) := by rwa [Nat.add_sub_of_le hle]
  have := h.2 hstep
  omega

/-- The mask of a power of two is a remainder. -/
theorem padding_pow (offset : Nat) {k : Nat} (hk : k < 64) :
    padding offset (2 ^ k) = (2 ^ 64 - offset % 2 ^ 64) % 2 ^ 64 % 2 ^ k := by
  have hpow : 2 ^ k < 2 ^ 64 := Nat.pow_lt_pow_right (by decide) hk
  have hpos : 0 < 2 ^ k := Nat.two_pow_pos k
  -- the mask of ones below the alignment, free of the wrap-around
  have hmask : (UInt64.ofNat (2 ^ k) - 1).toNat = 2 ^ k - 1 := by
    rw [UInt64.toNat_sub, UInt64.toNat_ofNat', Nat.mod_eq_of_lt hpow]
    show (2 ^ 64 - 1 + 2 ^ k) % 2 ^ 64 = 2 ^ k - 1
    rw [show 2 ^ 64 - 1 + 2 ^ k = 2 ^ k - 1 + 2 ^ 64 by omega, Nat.add_mod_right]
    exact Nat.mod_eq_of_lt (by omega)
  show (-(UInt64.ofNat offset) &&& (UInt64.ofNat (2 ^ k) - 1)).toNat = _
  rw [UInt64.toNat_and, hmask, UInt64.toNat_neg, UInt64.toNat_ofNat',
    Nat.and_two_pow_sub_one_eq_mod, show UInt64.size = 2 ^ 64 from rfl]

/-- Padding is less than the alignment. -/
theorem padding_lt (offset : Nat) {k : Nat} (hk : k < 64) :
    padding offset (2 ^ k) < 2 ^ k := by
  rw [padding_pow offset hk]
  exact Nat.mod_lt _ (Nat.two_pow_pos k)

/-- Padding completes the alignment. -/
theorem dvd_add_padding (offset : Nat) {k : Nat} (hk : k < 64) :
    2 ^ k ∣ offset + padding offset (2 ^ k) := by
  rw [padding_pow offset hk, dvd_add_mod_iff]
  exact Nat.dvd_trans (Nat.pow_dvd_pow 2 (Nat.le_of_lt hk))
    (dvd_add_complement (Nat.two_pow_pos 64) offset)

/-- The padding is the least step to alignment. -/
theorem isLeast_padding_pow (offset : Nat) {k : Nat} (hk : k < 64) :
    IsLeast {p | 2 ^ k ∣ offset + p} (padding offset (2 ^ k)) :=
  isLeast_step (padding_lt offset hk) (dvd_add_padding offset hk)

/-- What the word's complement leaves under the mask is the remainder's own
    complement in the alignment. -/
theorem padding_eq_complement (offset : Nat) {k : Nat} (hk : k < 64) :
    padding offset (2 ^ k) = (2 ^ k - offset % 2 ^ k) % 2 ^ k := by
  have hpos : 0 < 2 ^ k := Nat.two_pow_pos k
  -- both are below the alignment and complete the offset to a multiple
  have hleast : IsLeast {p | 2 ^ k ∣ offset + p} ((2 ^ k - offset % 2 ^ k) % 2 ^ k) :=
    isLeast_step (Nat.mod_lt _ hpos) (dvd_add_complement hpos offset)
  exact (isLeast_padding_pow offset hk).unique hleast

/-! ## Clamped alignments -/

/-- Above a power of two and up to the next, the logarithm rounded up is
    that of the next. -/
theorem clog_eq_succ {m k : Nat} (hlo : 2 ^ k < m) (hhi : m ≤ 2 ^ (k + 1)) :
    Nat.clog 2 m = k + 1 :=
  Nat.le_antisymm (Nat.clog_le_of_le_pow hhi) ((Nat.lt_clog_iff_pow_lt Nat.one_lt_two).mpr hlo)

/-- What a word leaves of an alignment is rounded up to a power of two. -/
theorem clampAlign_eq_pow_clog (align : Nat) :
    clampAlign align = 2 ^ Nat.clog 2 (min align wordBytes) := by
  have hword : wordBytes = 8 := rfl
  unfold clampAlign
  split
  · rw [Nat.clog_of_right_le_one (by omega)]
    rfl
  · split
    · rw [clog_eq_succ (k := 0) (by omega) (by omega)]
      rfl
    · split
      · rw [clog_eq_succ (k := 1) (by omega) (by omega)]
        rfl
      · rw [clog_eq_succ (k := 2) (by omega) (by omega)]
        rfl

/-- A clamped alignment is a power of two, at most a word. -/
theorem clampAlign_eq_pow (align : Nat) : ∃ k ≤ 3, clampAlign align = 2 ^ k :=
  ⟨_, Nat.clog_le_of_le_pow (Nat.min_le_right ..), clampAlign_eq_pow_clog align⟩

/-- An alignment is clamped to the least power of two that reaches it, or
    else a word. -/
theorem isLeast_clampAlign (align : Nat) :
    IsLeast {n | n.isPowerOfTwo ∧ min align wordBytes ≤ n ∧ 1 ≤ n} (clampAlign align) := by
  rw [clampAlign_eq_pow_clog]
  refine ⟨⟨⟨_, rfl⟩, Nat.le_pow_clog Nat.one_lt_two _, Nat.one_le_two_pow⟩, ?_⟩
  rintro n ⟨⟨k, rfl⟩, hle, -⟩
  exact Nat.pow_le_pow_right Nat.two_pos (Nat.clog_le_of_le_pow hle)

/-- Padding is the least that does. -/
theorem isLeast_padding (offset align : Nat) :
    IsLeast {p | clampAlign align ∣ offset + p} (padding offset (clampAlign align)) := by
  obtain ⟨k, hk, heq⟩ := clampAlign_eq_pow align
  rw [heq]
  exact isLeast_padding_pow offset (by omega)

theorem clampAlign_dvd_add_padding (offset align : Nat) :
    clampAlign align ∣ offset + padding offset (clampAlign align) :=
  (isLeast_padding offset align).1

theorem padding_clampAlign_lt (offset align : Nat) :
    padding offset (clampAlign align) < clampAlign align := by
  obtain ⟨k, hk, heq⟩ := clampAlign_eq_pow align
  rw [heq]
  exact padding_lt offset (by omega)

/-- An alignment is clamped to one that divides a word. -/
theorem clampAlign_dvd_wordBytes (align : Nat) : clampAlign align ∣ wordBytes := by
  obtain ⟨k, hk, heq⟩ := clampAlign_eq_pow align
  rw [heq]
  exact Nat.pow_dvd_pow 2 hk

/-- Padding is less than a word. -/
theorem padding_lt_wordBytes (offset align : Nat) :
    padding offset (clampAlign align) < wordBytes :=
  Nat.lt_of_lt_of_le (padding_clampAlign_lt offset align)
    (Nat.le_of_dvd (by decide) (clampAlign_dvd_wordBytes align))

/-- Padding stays below every multiple of the word size that the offset is
    below. -/
theorem add_padding_le {offset m : Nat} (hle : offset ≤ m) (hm : wordBytes ∣ m) (align : Nat) :
    offset + padding offset (clampAlign align) ≤ m :=
  add_le_of_isLeast_step (isLeast_padding offset align) hle
    ((clampAlign_dvd_wordBytes align).trans hm)

/-- The start of a block needs no padding. -/
@[simp] theorem padding_zero_clampAlign (align : Nat) :
    padding 0 (clampAlign align) = 0 := by
  have haligned : clampAlign align ∣ 0 + 0 := Nat.dvd_zero _
  exact Nat.le_zero.mp ((isLeast_padding 0 align).2 haligned)

/-! ## The two rules together -/

/-- The arithmetic of alignment.  Under every power of two that a word
    holds, the masked negation is what the offset's remainder lacks, below
    the alignment and the least step to a multiple.  The sums are those of
    natural numbers, so an offset past the last multiple in the word range
    is completed to the range itself.  Every alignment is clamped to the
    least power of two that reaches it, or else a word, and the padding
    under it is the least step to a multiple of that power. -/
theorem padding_completes_alignment :
    (∀ offset align : Nat, align.isPowerOfTwo → align ≤ 2 ^ 63 →
      padding offset align = (align - offset % align) % align
      ∧ padding offset align < align
      ∧ IsLeast {p | align ∣ offset + p} (padding offset align))
    ∧ ∀ align : Nat,
      IsLeast {n | n.isPowerOfTwo ∧ min align wordBytes ≤ n ∧ 1 ≤ n} (clampAlign align)
      ∧ ∀ used : Nat,
        IsLeast {p | clampAlign align ∣ used + p} (padding used (clampAlign align)) := by
  refine ⟨?_, ?_⟩
  · rintro offset _ ⟨k, rfl⟩ hle
    have hk : k < 64 := Nat.lt_succ_of_le ((Nat.pow_le_pow_iff_right Nat.one_lt_two).mp hle)
    exact ⟨padding_eq_complement offset hk, padding_lt offset hk, isLeast_padding_pow offset hk⟩
  · intro align
    exact ⟨isLeast_clampAlign align, fun used => isLeast_padding used align⟩

/-- The largest alignment and an offset just past it: the step is the
    longest there is, and it ends where the word range does.  Five is
    clamped to eight, and the last offset is a step of one from the end. -/
theorem padding_completes_alignment_to_range :
    (2 ^ 63).isPowerOfTwo ∧ padding (2 ^ 63 + 1) (2 ^ 63) = 2 ^ 63 - 1
      ∧ 2 ^ 63 + 1 + padding (2 ^ 63 + 1) (2 ^ 63) = 2 ^ 64
      ∧ IsLeast {p | 2 ^ 63 ∣ 2 ^ 63 + 1 + p} (2 ^ 63 - 1)
      ∧ IsLeast {n | n.isPowerOfTwo ∧ min 5 wordBytes ≤ n ∧ 1 ≤ n} 8
      ∧ IsLeast {p | 8 ∣ 2 ^ 64 - 1 + p} 1 := by
  have power : (2 ^ 63).isPowerOfTwo := ⟨63, rfl⟩
  obtain ⟨hpadding, hclamp⟩ := padding_completes_alignment
  obtain ⟨heq, -, hleast⟩ := hpadding (2 ^ 63 + 1) (2 ^ 63) power (Nat.le_refl _)
  have hvalue : padding (2 ^ 63 + 1) (2 ^ 63) = 2 ^ 63 - 1 := heq.trans (by decide)
  have hend : 2 ^ 63 + 1 + padding (2 ^ 63 + 1) (2 ^ 63) = 2 ^ 64 := by
    rw [hvalue]
    decide
  rw [hvalue] at hleast
  obtain ⟨hword, hstep⟩ := hclamp 5
  have hone : padding (2 ^ 64 - 1) (clampAlign 5) = 1 := by decide
  exact ⟨power, hvalue, hend, hleast, hword, hone ▸ hstep (2 ^ 64 - 1)⟩

end ScratchArena
