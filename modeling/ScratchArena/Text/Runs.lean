/-! # Runs — sets of characters as tables

    A set of characters is given by the first and last code points of its
    runs. -/

namespace ScratchArena.Text

/-- The code point of the character lies in one of the runs. -/
def inRuns (runs : List (Nat × Nat)) (c : Char) : Bool :=
  runs.any fun (first, last) => first ≤ c.toNat && c.toNat ≤ last

end ScratchArena.Text
