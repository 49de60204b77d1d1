import ScratchArena.Text.Runs

/-! # Blanks — white space in any script

    The white space of Unicode, which has more than core's: vertical tab,
    form feed, next line, and the spaces and separators beyond ASCII. -/

namespace ScratchArena.Text

/-- First and last code points of every run of white space. -/
def blankRuns : List (Nat × Nat) :=
  [(0x9, 0xd), (0x20, 0x20), (0x85, 0x85), (0xa0, 0xa0), (0x1680, 0x1680), (0x2000, 0x200a),
   (0x2028, 0x2029), (0x202f, 0x202f), (0x205f, 0x205f), (0x3000, 0x3000)]

/-- The character is white space. -/
def isBlankChar (c : Char) : Bool := inRuns blankRuns c

/-- The text without the white space around it. -/
def trimBlanks (cs : List Char) : List Char :=
  ((cs.dropWhile isBlankChar).reverse.dropWhile isBlankChar).reverse

end ScratchArena.Text
