/-! # Arena settings — fixed when an arena is made

    Four knobs and one check.  A zero `spare` is reported before a
    `reserve` above the size limit; nothing else can be wrong.  Poisoning
    has no value of its own to start from: it is on where a program is
    built with assertions. -/

namespace ScratchArena

/-- The byte that fills fresh allocations when poisoning is on. -/
def poisonByte : UInt8 := 0xEF

/-- How an arena is to behave. -/
structure Settings where
  /-- Bytes to have at hand from the start. -/
  reserve : Nat := 0
  /-- Slack on every new chunk. -/
  spare : Nat := 64
  /-- Most bytes in use at once. -/
  maxSize : Nat := 18446744073709551615
  /-- Fill fresh allocations with `poisonByte`. -/
  poison : Bool
deriving DecidableEq, Repr

namespace Settings

/-- The settings to start from, in a program built with assertions or
    without. -/
def standard (assertions : Bool) : Settings := { poison := assertions }

/-- Settings for a target whose sizes are sixteen-bit counters. -/
def embedded (assertions : Bool) : Settings := { standard assertions with maxSize := 65535 }

/-- Settings with a name. -/
inductive Preset where
  | standard
  | embedded
deriving DecidableEq, Repr

/-- The settings behind a name. -/
def Preset.settings (assertions : Bool) : Preset → Settings
  | .standard => Settings.standard assertions
  | .embedded => Settings.embedded assertions

/-- A change of settings: another start, then fields replaced one by one. -/
structure Change where
  preset : Option Preset := none
  reserve : Option Nat := none
  spare : Option Nat := none
  maxSize : Option Nat := none
  poison : Option Bool := none
deriving DecidableEq, Repr

/-- The settings after a change. -/
def apply (assertions : Bool) (s : Settings) (c : Change) : Settings :=
  let start := (c.preset.map (Preset.settings assertions)).getD s
  { reserve := c.reserve.getD start.reserve
    spare := c.spare.getD start.spare
    maxSize := c.maxSize.getD start.maxSize
    poison := c.poison.getD start.poison }

/-- Why settings cannot work. -/
inductive Flaw where
  | noSpare
  | reserveBeyondLimit (reserve limit : Nat)
deriving DecidableEq, Repr

/-- A flaw in words. -/
def Flaw.reason : Flaw → String
  | .noSpare => "arena.spare must be greater than zero"
  | .reserveBeyondLimit reserve limit =>
      "arena.reserve (" ++ toString reserve ++ ") exceeds arena.max_size ("
        ++ toString limit ++ ")"

/-- The first flaw of the settings, if they have one. -/
def flaw? (s : Settings) : Option Flaw :=
  if s.spare = 0 then some .noSpare
  else if s.maxSize < s.reserve then some (.reserveBeyondLimit s.reserve s.maxSize)
  else none

/-- The settings can work. -/
def Valid (s : Settings) : Prop := 0 < s.spare ∧ s.reserve ≤ s.maxSize

instance (s : Settings) : Decidable s.Valid := inferInstanceAs (Decidable (_ ∧ _))

/-- The check passes exactly the settings that can work. -/
theorem flaw?_eq_none_iff {s : Settings} : s.flaw? = none ↔ s.Valid := by
  unfold flaw? Valid
  split
  · rename_i h
    simp [h]
  · split
    · simp; omega
    · simp; omega

end Settings

end ScratchArena
