import ScratchArena.Toml.Value

/-! # Spacing — blanks, comments and line ends

    A line ends with a line feed, a carriage return and a line feed, or
    the end of the text.  A comment runs to the end of its line and holds
    no control character but the tab. -/

namespace ScratchArena.Toml

/-- The character is a blank. -/
def isBlank (c : Char) : Bool := c == ' ' || c == '\t'

/-- The character may stand in a comment. -/
def isCommentChar (c : Char) : Bool := c == '\t' || (' ' ≤ c && c != '\x7f')

/-- The text without blanks in front. -/
def skipBlanks (cs : List Char) : List Char := cs.dropWhile isBlank

/-- What follows a line break. -/
def lineBreak? : List Char → Option (List Char)
  | '\n' :: rest => some rest
  | '\r' :: '\n' :: rest => some rest
  | _ => none

/-- What follows the end of a line: a line break, or nothing at all. -/
def lineEnd? : List Char → Option (List Char)
  | [] => some []
  | cs => lineBreak? cs

/-- What follows the rest of a line that holds blanks and a comment at
    most. -/
def lineRest? (cs : List Char) : Option (List Char) :=
  match skipBlanks cs with
  | '#' :: rest => lineEnd? (rest.dropWhile isCommentChar)
  | rest => lineEnd? rest

/-- The text without leading blanks, line breaks and comments; `comment`
    says whether it starts inside a comment. -/
def skipFiller (comment : Bool) : List Char → List Char
  | [] => []
  | '\n' :: rest => skipFiller false rest
  | '\r' :: '\n' :: rest => skipFiller false rest
  | c :: rest =>
      if comment then
        if isCommentChar c then skipFiller true rest else c :: rest
      else if c = '#' then skipFiller true rest
      else if isBlank c then skipFiller false rest
      else c :: rest

end ScratchArena.Toml
