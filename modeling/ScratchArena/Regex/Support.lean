import ScratchArena.Regex.Reader

/-! # Support — expressions that need no character tables

    Expressions are matched without tables of character properties, and
    only against text.  So digits, blanks, words and their edges exist for
    ASCII alone, with the switch `u` off, and letter case cannot be
    ignored with it on.  With `u` off nothing may match a byte beyond
    ASCII, which any character and every negated set would. -/

namespace ScratchArena.Regex

/-- The switches that matter for support. -/
structure Mode where
  ignoreCase : Bool := false
  unicode : Bool := true
deriving DecidableEq, Repr

/-- The mode after a switch. -/
def Mode.after (m : Mode) (s : Switches) : Mode :=
  ⟨s.apply 'i' m.ignoreCase, s.apply 'u' m.unicode⟩

/-- A character in a set. -/
def Literal.supportedInSet (m : Mode) (l : Literal) : Bool :=
  if m.unicode then !m.ignoreCase else l.char ≤ '\x7f'

/-- The character can be matched. -/
def Literal.supported (m : Mode) (l : Literal) : Bool :=
  if m.unicode then !m.ignoreCase else !l.asByte || l.char ≤ '\x7f'

mutual

/-- A member of a set can be matched. -/
def Member.supported (m : Mode) : Member → Bool
  | .literal l => l.supportedInSet m
  | .range first last => first.supportedInSet m && last.supportedInSet m
  | .named negated => if m.unicode then !m.ignoreCase else !negated
  | .kind negated => !m.unicode && !negated
  | .nested negated s => (m.unicode || !negated) && s.supported m

/-- A set can be matched. -/
def CharSet.supported (m : Mode) : CharSet → Bool
  | .members ms => allSupported m ms
  | .combined left right => left.supported m && right.supported m

/-- Every member of a set can be matched. -/
def allSupported (m : Mode) : List Member → Bool
  | [] => true
  | member :: ms => member.supported m && allSupported m ms

end

mutual

/-- The mode after an expression, if all of it is supported.  Switches in
    a group hold to its end. -/
def modeAfter? (m : Mode) : Regex → Option Mode
  | .nothing => some m
  | .switch s => some (m.after s)
  | .literal l => if l.supported m then some m else none
  | .anyChar => if m.unicode then some m else none
  | .anchor => some m
  | .wordEdge => if m.unicode then none else some m
  | .kind negated => if m.unicode || negated then none else some m
  | .set negated s => if (m.unicode || !negated) && s.supported m then some m else none
  | .repeated r => modeAfter? m r
  | .group s _ r => (modeAfter? (m.after s) r).map fun _ => m
  | .choice rs => modeAfterAll? m rs
  | .sequence rs => modeAfterAll? m rs

/-- The mode after several expressions. -/
def modeAfterAll? (m : Mode) : List Regex → Option Mode
  | [] => some m
  | r :: rs => (modeAfter? m r).bind fun m => modeAfterAll? m rs

end

/-- The characters spell an expression that can be matched. -/
def isUsable (cs : List Char) : Bool := ((read? cs).bind (modeAfter? {})).isSome

end ScratchArena.Regex
