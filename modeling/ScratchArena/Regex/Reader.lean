import ScratchArena.Regex.Basic
import ScratchArena.Text.Blank
import ScratchArena.Text.Hex
import ScratchArena.Text.Letter

/-! # Reading — regular expressions from text

    Readers return what they read and what follows.  `blanks` says that
    blanks and comments are skipped, as the switch `x` asks.  No braces
    are read: an expression here is the value of a field, which a closing
    brace would end, so nothing that needs one can be completed.  Sets and
    groups take the length of the text as fuel, since each of their parts
    takes at least one character. -/

namespace ScratchArena.Regex

open Text

/-- Expressions nest no deeper than this. -/
def nestingLimit : Nat := 250

/-- The text without leading blanks and comments; `comment` says whether
    it starts inside a comment. -/
def skipFiller (comment : Bool) : List Char → List Char
  | [] => []
  | c :: rest =>
      if comment then skipFiller (c != '\n') rest
      else if isBlankChar c then skipFiller false rest
      else if c = '#' then skipFiller true rest
      else c :: rest

/-- What follows blanks and comments, where they are skipped. -/
def skip (blanks : Bool) (cs : List Char) : List Char := if blanks then skipFiller false cs else cs

/-! ## Escapes -/

/-- What a backslash may lead to. -/
inductive Atom where
  | literal (l : Literal)
  | kind (negated : Bool)
  | anchor
  | wordEdge

/-- Hexadecimal digits, so many of them, after `value`. -/
def hexDigits? (blanks : Bool) : Nat → Nat → List Char → Option (Nat × List Char)
  | 0, value, cs => some (value, cs)
  | n + 1, value, cs =>
      match skip blanks cs with
      | [] => none
      | c :: rest => (hexValue? c).bind fun d => hexDigits? blanks n (16 * value + d) rest

/-- The character with a code point of so many digits. -/
def codePoint? (blanks : Bool) (digits : Nat) (cs : List Char) : Option (Atom × List Char) :=
  (hexDigits? blanks digits 0 cs).bind fun (n, rest) =>
    (charOfCode? n).map fun c => (.literal ⟨c, digits == 2⟩, rest)

/-- A character that a backslash makes stand for itself: printable or not,
    but neither a letter nor a digit. -/
def isEscapable (c : Char) : Bool := c ≤ '\x7f' && !c.isAlphanum && c != '<' && c != '>'

/-- What stands after a backslash; blanks may be written with one where they
    do not count. -/
def escape? (blanks : Bool) : List Char → Option (Atom × List Char)
  | [] => none
  | c :: rest =>
      match c with
      | 'x' => codePoint? blanks 2 rest
      | 'u' => codePoint? blanks 4 rest
      | 'U' => codePoint? blanks 8 rest
      | 'd' | 's' | 'w' => some (.kind false, rest)
      | 'D' | 'S' | 'W' => some (.kind true, rest)
      | 'A' | 'z' => some (.anchor, rest)
      | 'b' | 'B' | '<' | '>' => some (.wordEdge, rest)
      | 'a' => some (.literal { char := '\x07' }, rest)
      | 'f' => some (.literal { char := '\x0c' }, rest)
      | 't' => some (.literal { char := '\t' }, rest)
      | 'n' => some (.literal { char := '\n' }, rest)
      | 'r' => some (.literal { char := '\r' }, rest)
      | 'v' => some (.literal { char := '\x0b' }, rest)
      | c => if isEscapable c then some (.literal { char := c }, rest) else none

/-! ## Sets -/

/-- The named sets between brackets. -/
def setNames : List String :=
  ["alnum", "alpha", "ascii", "blank", "cntrl", "digit", "graph", "lower", "print", "punct",
    "space", "upper", "word", "xdigit"]

/-- A named set, after its opening bracket: whether it is negated. -/
def named? : List Char → Option (Bool × List Char)
  | ':' :: rest =>
      let (negated, rest) := match rest with
        | '^' :: rest => (true, rest)
        | rest => (false, rest)
      match rest.dropWhile (· ≠ ':') with
      | ':' :: ']' :: after =>
          if String.ofList (rest.takeWhile (· ≠ ':')) ∈ setNames then some (negated, after)
          else none
      | _ => none
  | _ => none

/-- One end of a range, or a member of its own. -/
def setAtom? (blanks : Bool) : List Char → Option (Atom × List Char)
  | [] => none
  | '\\' :: rest => escape? blanks rest
  | c :: rest => some (.literal { char := c }, rest)

/-- An atom as a member of a set. -/
def Atom.toMember? : Atom → Option Member
  | .literal l => some (.literal l)
  | .kind negated => some (.kind negated)
  | _ => none

/-- A range: both ends are characters, in order. -/
def range? : Atom → Atom → Option Member
  | .literal first, .literal last =>
      if first.char ≤ last.char then some (.range first last) else none
  | _, _ => none

/-- The character that says whether a dash makes a range.  Blanks before it
    are passed over, where they are skipped, and so is the sign that begins
    a comment, but not the comment. -/
def afterDash? (blanks : Bool) (cs : List Char) : Option Char :=
  if blanks then
    match cs.dropWhile isBlankChar with
    | '#' :: rest => (rest.dropWhile isBlankChar).head?
    | rest => rest.head?
  else cs.head?

/-- A member: a dash makes a range unless a bracket or a second dash
    follows it. -/
def member? (blanks : Bool) (cs : List Char) : Option (Member × List Char) :=
  (setAtom? blanks cs).bind fun (first, rest) =>
    let alone (rest : List Char) := first.toMember?.map fun m => (m, rest)
    match skip blanks rest with
    | [] => none
    | '-' :: after =>
        if afterDash? blanks after = some ']' ∨ afterDash? blanks after = some '-' then
          alone ('-' :: after)
        else
          (setAtom? blanks (skip blanks after)).bind fun (last, rest) =>
            (range? first last).map fun m => (m, rest)
    | rest => alone rest

/-- Dashes a set begins with, and what follows them. -/
def leadingDashes (blanks : Bool) : Nat → List Char → List Member × List Char
  | fuel + 1, '-' :: rest =>
      let (ms, rest) := leadingDashes blanks fuel (skip blanks rest)
      (.literal { char := '-' } :: ms, rest)
  | _, cs => ([], cs)

/-- The beginning of a set, after its opening bracket: whether it is
    negated, and the dashes or the closing bracket that stand for
    themselves there. -/
def setOpening (blanks : Bool) (cs : List Char) : Bool × List Member × List Char :=
  let (negated, cs) := match skip blanks cs with
    | '^' :: rest => (true, skip blanks rest)
    | rest => (false, rest)
  match leadingDashes blanks cs.length cs with
  | ([], ']' :: rest) => (negated, [.literal { char := ']' }], rest)
  | (dashes, rest) => (negated, dashes, rest)

/-- What was read of a set: the members since the last operator, latest
    first, combined with what stands before it. -/
def combine (left : Option CharSet) (ms : List Member) : CharSet :=
  match left with
  | none => .members ms.reverse
  | some left => .combined left (.members ms.reverse)

/-- Two of the character in a row combine sets. -/
def isSetOperator (c : Char) : Bool := c == '&' || c == '-' || c == '~'

/-- The rest of a set, up to its closing bracket. -/
def setRest? (blanks : Bool) : Nat → Option CharSet → List Member → List Char →
    Option (CharSet × List Char)
  | 0, _, _, _ => none
  | fuel + 1, left, ms, cs =>
      match skip blanks cs with
      | [] => none
      | ']' :: rest => some (combine left ms, rest)
      | '[' :: rest =>
          match named? rest with
          | some (negated, rest) => setRest? blanks fuel left (.named negated :: ms) rest
          | none =>
              let (negated, first, rest) := setOpening blanks rest
              match setRest? blanks fuel none first.reverse rest with
              | none => none
              | some (s, rest) => setRest? blanks fuel left (.nested negated s :: ms) rest
      | c :: rest =>
          if isSetOperator c ∧ rest.head? = some c then
            setRest? blanks fuel (some (combine left ms)) [] rest.tail
          else
            match member? blanks (c :: rest) with
            | none => none
            | some (m, rest) => setRest? blanks fuel left (m :: ms) rest

/-- A set, after its opening bracket. -/
def set? (blanks : Bool) (cs : List Char) : Option (Regex × List Char) :=
  let (negated, first, rest) := setOpening blanks cs
  (setRest? blanks (cs.length + 1) none first.reverse rest).map fun (s, rest) =>
    (.set negated s, rest)

/-! ## Groups -/

/-- What an opening parenthesis may lead to. -/
inductive Opening where
  /-- Switches for the rest of the group. -/
  | switch (s : Switches)
  | group (s : Switches) (name : Option String)

/-- The letters that switch something on or off. -/
def switchLetters : List Char := ['i', 'm', 's', 'U', 'u', 'R', 'x']

/-- Letters of switches and at most one dash, none of them twice, `seen`
    so far; then the character that ends them. -/
def switchesUpTo? (seen : List Char) : List Char → Option (List Char × Char × List Char)
  | [] => none
  | c :: rest =>
      if c = ':' ∨ c = ')' then some (seen.reverse, c, rest)
      else if (c = '-' ∨ c ∈ switchLetters) ∧ c ∉ seen then switchesUpTo? (c :: seen) rest
      else none

/-- The switches that letters stand for: a dash turns off what follows it,
    and something has to. -/
def switchesOf? (letters : List Char) : Option Switches :=
  if letters.getLast? = some '-' then none
  else some ⟨letters.takeWhile (· ≠ '-'), (letters.dropWhile (· ≠ '-')).drop 1⟩

/-- The name of a group may begin with the character. -/
def beginsName (c : Char) : Bool := c == '_' || isLetter c

/-- The character may stand in the name of a group. -/
def isNameChar (c : Char) : Bool :=
  c == '_' || c == '.' || c == '\x5b' || c == '\x5d' || isLetterOrNumber c

/-- The name of a group, up to its closing angle bracket. -/
def groupName? (cs : List Char) : Option (Opening × List Char) :=
  match cs.takeWhile (· ≠ '>'), cs.dropWhile (· ≠ '>') with
  | c :: name, '>' :: rest =>
      if beginsName c && name.all isNameChar then
        some (.group {} (some (String.ofList (c :: name))), rest)
      else none
  | _, _ => none

/-- What opens a group, after its parenthesis. -/
def opening? (blanks : Bool) (cs : List Char) : Option (Opening × List Char) :=
  match skip blanks cs with
  | '?' :: 'P' :: '<' :: rest => groupName? rest
  | '?' :: '<' :: rest => groupName? rest
  | '?' :: rest =>
      match switchesUpTo? [] rest with
      | none => none
      | some ([], ')', _) => none
      | some (letters, ending, rest) =>
          (switchesOf? letters).map fun s =>
            (if ending = ')' then .switch s else .group s none, rest)
  | rest => some (.group {} none, rest)

/-! ## Expressions -/

/-- Several expressions in a row, latest first. -/
def inRow : List Regex → Regex
  | [] => .nothing
  | [r] => r
  | rs => .sequence rs.reverse

/-- Several expressions to choose from, latest first. -/
def oneOf : List Regex → Regex
  | [r] => r
  | rs => .choice rs.reverse

/-- An atom as an expression. -/
def Atom.toRegex : Atom → Regex
  | .literal l => .literal l
  | .kind negated => .kind negated
  | .anchor => .anchor
  | .wordEdge => .wordEdge

/-- One character or escape. -/
def single? (blanks : Bool) : List Char → Option (Regex × List Char)
  | [] => none
  | '\\' :: rest => (escape? blanks rest).map fun (a, rest) => (a.toRegex, rest)
  | '.' :: rest => some (.anyChar, rest)
  | '^' :: rest => some (.anchor, rest)
  | '$' :: rest => some (.anchor, rest)
  | c :: rest => some (.literal { char := c }, rest)

/-- The expression that a repetition mark after it repeats. -/
def repeat? : List Regex → Option (List Regex)
  | [] => none
  | .switch _ :: _ => none
  | r :: rs => some (.repeated r :: rs)

/-- The text without a mark that makes a repetition reluctant. -/
def skipReluctance : List Char → List Char
  | '?' :: rest => rest
  | cs => cs

/-- An expression up to the end of its group or of the text: `row` was
    read since the last bar and `rows` before it, both latest first. -/
def body? : Nat → Bool → List Regex → List Regex → List Char → Option (Regex × List Char)
  | 0, _, _, _, _ => none
  | fuel + 1, blanks, rows, row, cs =>
      match skip blanks cs with
      | [] => some (oneOf (inRow row :: rows), [])
      | ')' :: rest => some (oneOf (inRow row :: rows), ')' :: rest)
      | '|' :: rest => body? fuel blanks (inRow row :: rows) [] rest
      | '(' :: rest =>
          match opening? blanks rest with
          | none => none
          | some (.switch s, rest) =>
              body? fuel (s.apply 'x' blanks) rows (.switch s :: row) rest
          | some (.group s name, rest) =>
              match body? fuel (s.apply 'x' blanks) [] [] rest with
              | some (r, ')' :: rest) => body? fuel blanks rows (.group s name r :: row) rest
              | _ => none
      | '[' :: rest =>
          match set? blanks rest with
          | none => none
          | some (r, rest) => body? fuel blanks rows (r :: row) rest
      | '{' :: _ => none
      | c :: rest =>
          if c = '?' ∨ c = '*' ∨ c = '+' then
            match repeat? row with
            | none => none
            | some row => body? fuel blanks rows row (skipReluctance rest)
          else
            match single? blanks (c :: rest) with
            | none => none
            | some (r, rest) => body? fuel blanks rows (r :: row) rest

/-- The expression a text spells, if it is well formed: every group is
    closed, no two have the same name, and it does not nest too deep. -/
def read? (cs : List Char) : Option Regex :=
  match body? (cs.length + 1) false [] [] cs with
  | some (r, []) =>
      if r.names.eraseDups = r.names ∧ r.depth ≤ nestingLimit then some r else none
  | _ => none

end ScratchArena.Regex
