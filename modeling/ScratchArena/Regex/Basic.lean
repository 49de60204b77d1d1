/-! # Regular expressions — what they are made of

    The tree of a regular expression, kept as far as it takes to tell
    whether the expression is well formed and can be used: which sets and
    switches it holds, what its groups are called, how deep it nests. -/

namespace ScratchArena

namespace Regex

/-- Switches by the letters that name them: turned on, and turned off. -/
structure Switches where
  on : List Char := []
  off : List Char := []
deriving DecidableEq, Repr

/-- What becomes of a switch with this letter. -/
def Switches.apply (s : Switches) (letter : Char) (before : Bool) : Bool :=
  if letter ∈ s.on then true
  else if letter ∈ s.off then false
  else before

/-- A character, and how it was written. -/
structure Literal where
  char : Char
  /-- Written as two hexadecimal digits, which may mean a byte. -/
  asByte : Bool := false
deriving DecidableEq, Repr

mutual

/-- What stands between the brackets of a set. -/
inductive Member where
  | literal (l : Literal)
  | range (first last : Literal)
  /-- A set with a name in colons. -/
  | named (negated : Bool)
  /-- Digits, blanks or word characters. -/
  | kind (negated : Bool)
  | nested (negated : Bool) (s : CharSet)

/-- A set of characters. -/
inductive CharSet where
  | members (ms : List Member)
  /-- Intersection, difference or symmetric difference. -/
  | combined (left right : CharSet)

end

end Regex

/-- A regular expression as it was written. -/
inductive Regex where
  | nothing
  /-- Switches that hold from here to the end of the group. -/
  | switch (s : Regex.Switches)
  | literal (l : Regex.Literal)
  | anyChar
  /-- The start or the end of a line or of the text. -/
  | anchor
  /-- The start, the end, the edge or the inside of a word. -/
  | wordEdge
  /-- Digits, blanks or word characters. -/
  | kind (negated : Bool)
  | set (negated : Bool) (s : Regex.CharSet)
  | repeated (r : Regex)
  | group (s : Regex.Switches) (name : Option String) (r : Regex)
  | choice (rs : List Regex)
  | sequence (rs : List Regex)

namespace Regex

mutual

/-- How deep sets stand inside each other in a member. -/
def Member.depth : Member → Nat
  | .nested _ s => s.depth + 1
  | _ => 0

/-- How deep a set nests; several members count as one level. -/
def CharSet.depth : CharSet → Nat
  | .members [] => 0
  | .members [m] => m.depth
  | .members (m :: ms) => max m.depth (depthOfMembers ms) + 1
  | .combined left right => max left.depth right.depth + 1

/-- The depth of the deepest member. -/
def depthOfMembers : List Member → Nat
  | [] => 0
  | m :: ms => max m.depth (depthOfMembers ms)

end

mutual

/-- How deep an expression nests. -/
def depth : Regex → Nat
  | .set _ s => s.depth + 1
  | .repeated r => r.depth + 1
  | .group _ _ r => r.depth + 1
  | .choice rs => depthOfAll rs + 1
  | .sequence rs => depthOfAll rs + 1
  | _ => 0

/-- The depth of the deepest expression. -/
def depthOfAll : List Regex → Nat
  | [] => 0
  | r :: rs => max r.depth (depthOfAll rs)

end

mutual

/-- The names of the groups in an expression, in order. -/
def names : Regex → List String
  | .repeated r => r.names
  | .group _ name r => name.toList ++ r.names
  | .choice rs => namesOfAll rs
  | .sequence rs => namesOfAll rs
  | _ => []

/-- The names of the groups in several expressions, in order. -/
def namesOfAll : List Regex → List String
  | [] => []
  | r :: rs => r.names ++ namesOfAll rs

end

end Regex

end ScratchArena
