/-! # Machine words — sixty-four bits, saturating

    Sizes, offsets and counters are natural numbers that fit a machine
    word.  A sum or a product that would pass the largest word is either
    refused by the caller or held at the largest word; the operations
    below are the second kind. -/

namespace ScratchArena.Word

/-- The largest machine word. -/
def largest : Nat := 18446744073709551615

/-- A sum, held at the largest word. -/
def satAdd (a b : Nat) : Nat := min (a + b) largest

/-- A product, held at the largest word. -/
def satMul (a b : Nat) : Nat := min (a * b) largest

/-- A product, when a word holds it. -/
def mul? (a b : Nat) : Option Nat := if a * b ≤ largest then some (a * b) else none

/-- A sum that a word holds is the sum. -/
theorem satAdd_eq {a b : Nat} (h : a + b ≤ largest) : satAdd a b = a + b := Nat.min_eq_left h

/-- A product is had exactly when a word holds it. -/
theorem mul?_eq_some_iff {a b n : Nat} : mul? a b = some n ↔ a * b = n ∧ n ≤ largest := by
  unfold mul?
  constructor
  · intro h
    split at h
    · rename_i hle
      obtain rfl := Option.some.inj h
      exact ⟨rfl, hle⟩
    · exact nomatch h
  · rintro ⟨rfl, hle⟩
    exact if_pos hle

end ScratchArena.Word
