import ScratchArena.Text.Hex
import ScratchArena.Toml.Spacing

/-! # Quotations — text between quotes

    Four forms: basic and literal, each on one line or over several.  A
    basic quotation has escapes, a literal one has none.  Over several
    lines the first line break is left out, a line break reads as a line
    feed, up to two quotes may stand next to the closing ones, and in the
    basic form a backslash at the end of a line joins it to the next word.

    The readers take one character at a time and start after the opening
    quotes; each returns the text and what follows the closing quotes. -/

namespace ScratchArena.Toml.Quotation

/-- Put a character in front of what was read. -/
def push (c : Char) (read : Option (List Char × List Char)) : Option (List Char × List Char) :=
  read.map fun (cs, rest) => (c :: cs, rest)

/-- What stands after a backslash. -/
inductive Escape where
  /-- The letter stands for a character. -/
  | letter (c : Char)
  /-- So many hexadecimal digits of a code point follow. -/
  | code (digits : Nat)

/-- What a letter after a backslash stands for. -/
def escape? : Char → Option Escape
  | 'b' => some (.letter '\x08')
  | 't' => some (.letter '\t')
  | 'n' => some (.letter '\n')
  | 'f' => some (.letter '\x0c')
  | 'r' => some (.letter '\r')
  | '"' => some (.letter '"')
  | '\\' => some (.letter '\\')
  | 'u' => some (.code 4)
  | 'U' => some (.code 8)
  | _ => none

/-- A character that stands for itself between quotes: no control but the
    tab. -/
def isPlain (c : Char) : Bool := isCommentChar c

/-- Where in a basic quotation a reader is. -/
inductive Place where
  | plain
  /-- Right after a backslash. -/
  | escape
  /-- In a code point, `left` digits before its end. -/
  | code (left value : Nat)

/-- The rest of a basic quotation on one line. -/
def basic : Place → Reader (List Char)
  | _, [] => none
  | .plain, c :: rest =>
      if c = '"' then some ([], rest)
      else if c = '\\' then basic .escape rest
      else if isPlain c then push c (basic .plain rest)
      else none
  | .escape, c :: rest =>
      match escape? c with
      | some (.letter d) => push d (basic .plain rest)
      | some (.code digits) => basic (.code digits 0) rest
      | none => none
  | .code left value, c :: rest =>
      match Text.hexValue? c with
      | none => none
      | some d =>
          if left = 1 then
            match Text.charOfCode? (16 * value + d) with
            | some c => push c (basic .plain rest)
            | none => none
          else basic (.code (left - 1) (16 * value + d)) rest

/-- The rest of a literal quotation on one line. -/
def literal : Reader (List Char)
  | [] => none
  | c :: rest =>
      if c = '\'' then some ([], rest)
      else if isPlain c then push c (literal rest)
      else none

/-- What closes a quotation over several lines, given what follows three
    quotes: up to two more belong to the text. -/
def closing (quote : Char) : List Char → List Char × List Char
  | a :: b :: rest =>
      if a = quote then if b = quote then ([a, b], rest) else ([a], b :: rest)
      else ([], a :: b :: rest)
  | [a] => if a = quote then ([a], []) else ([], [a])
  | [] => ([], [])

/-- Where in a basic quotation over several lines a reader is. -/
inductive LinesPlace where
  | plain
  /-- Right after a backslash. -/
  | escape
  /-- After a backslash and blanks. -/
  | joint
  /-- After a backslash at the end of a line. -/
  | joined
  /-- In a code point, `left` digits before its end. -/
  | code (left value : Nat)

/-- The rest of a basic quotation over several lines. -/
def basicLines : LinesPlace → Reader (List Char)
  | _, [] => none
  | .joined, '\n' :: rest => basicLines .joined rest
  | .joined, '\r' :: '\n' :: rest => basicLines .joined rest
  | .escape, '\n' :: rest => basicLines .joined rest
  | .escape, '\r' :: '\n' :: rest => basicLines .joined rest
  | .joint, '\n' :: rest => basicLines .joined rest
  | .joint, '\r' :: '\n' :: rest => basicLines .joined rest
  | .joint, c :: rest => if isBlank c then basicLines .joint rest else none
  | .escape, c :: rest =>
      if isBlank c then basicLines .joint rest
      else
        match escape? c with
        | some (.letter d) => push d (basicLines .plain rest)
        | some (.code digits) => basicLines (.code digits 0) rest
        | none => none
  | .code left value, c :: rest =>
      match Text.hexValue? c with
      | none => none
      | some d =>
          if left = 1 then
            match Text.charOfCode? (16 * value + d) with
            | some c => push c (basicLines .plain rest)
            | none => none
          else basicLines (.code (left - 1) (16 * value + d)) rest
  | .plain, '"' :: '"' :: '"' :: rest => some (closing '"' rest)
  | .joined, '"' :: '"' :: '"' :: rest => some (closing '"' rest)
  | .plain, '\n' :: rest => push '\n' (basicLines .plain rest)
  | .plain, '\r' :: '\n' :: rest => push '\n' (basicLines .plain rest)
  | .plain, c :: rest =>
      if c = '\\' then basicLines .escape rest
      else if isPlain c then push c (basicLines .plain rest)
      else none
  | .joined, c :: rest =>
      if isBlank c then basicLines .joined rest
      else if c = '\\' then basicLines .escape rest
      else if isPlain c then push c (basicLines .plain rest)
      else none

/-- The rest of a literal quotation over several lines. -/
def literalLines : Reader (List Char)
  | [] => none
  | '\'' :: '\'' :: '\'' :: rest => some (closing '\'' rest)
  | '\n' :: rest => push '\n' (literalLines rest)
  | '\r' :: '\n' :: rest => push '\n' (literalLines rest)
  | c :: rest => if isPlain c then push c (literalLines rest) else none

/-- The text without a line break in front. -/
def skipLineBreak (cs : List Char) : List Char := (lineBreak? cs).getD cs

/-- A quotation on one line, from its opening quote. -/
def oneLine : Reader (List Char)
  | '"' :: rest => basic .plain rest
  | '\'' :: rest => literal rest
  | _ => none

/-- A quotation of any form, from its opening quotes. -/
def any : Reader (List Char)
  | '"' :: '"' :: '"' :: rest => basicLines .plain (skipLineBreak rest)
  | '\'' :: '\'' :: '\'' :: rest => literalLines (skipLineBreak rest)
  | cs => oneLine cs

end ScratchArena.Toml.Quotation
