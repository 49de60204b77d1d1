import ScratchArena.Toml.Library
import ScratchArena.Toml.Moment
import ScratchArena.Toml.Number
import ScratchArena.Toml.Quotation
import ScratchArena.Toml.Table

/-! # Documents — from text to a table

    A document is a list of key-value lines under headers.  Readers of a
    key, a value and a line return what follows; loops over items take the
    length of the text as fuel, since every item takes at least one
    character.  Values nest less than eighty deep and a dotted key has
    fewer than eighty parts. -/

namespace ScratchArena.Toml

/-- Values that stand inside each other, and parts of a key, stay below
    this. -/
def nestingLimit : Nat := 80

/-! ## Keys -/

/-- A part of a key: quoted on one line, or bare. -/
def keyPart? : Reader String
  | '"' :: rest => (Quotation.oneLine ('"' :: rest)).map fun (k, rest) => (String.ofList k, rest)
  | '\'' :: rest => (Quotation.oneLine ('\'' :: rest)).map fun (k, rest) => (String.ofList k, rest)
  | cs =>
      match cs.takeWhile isKeyChar with
      | [] => none
      | k => some (String.ofList k, cs.dropWhile isKeyChar)

/-- The parts of a dotted key, each with blanks around it. -/
def keyParts? : Nat → Reader (List String)
  | 0, _ => none
  | fuel + 1, cs =>
      match keyPart? (skipBlanks cs) with
      | none => none
      | some (part, rest) =>
          match skipBlanks rest with
          | '.' :: rest => (keyParts? fuel rest).map fun (parts, rest) => (part :: parts, rest)
          | rest => some ([part], rest)

/-- A dotted key: the path to its table and the key in that table. -/
def key? (cs : List Char) : Option ((List String × String) × List Char) :=
  match keyParts? cs.length cs with
  | none => none
  | some (parts, rest) =>
      if parts.length < nestingLimit then
        match parts.getLast? with
        | some key => some ((parts.dropLast, key), rest)
        | none => none
      else none

/-! ## Values -/

/-- A character of a value that stands without quotes. -/
def isScalarChar (c : Char) : Bool :=
  c.isAlphanum || c == '_' || c == '+' || c == '-' || c == '.' || c == ':'

/-- The value that a spelling without quotes stands for. -/
def scalarOf? (cs : List Char) : Option Value :=
  if cs = ['t', 'r', 'u', 'e'] then some (.truth true)
  else if cs = ['f', 'a', 'l', 's', 'e'] then some (.truth false)
  else
    match Number.integer? cs with
    | some n => some (.integer n)
    | none =>
        if Number.isFloat cs then some (.float (String.ofList cs))
        else if Moment.isMoment cs then some (.moment (String.ofList cs))
        else none

/-- The spelling of a value without quotes.  After a date, a space may
    lead on to a time. -/
def spelling (cs : List Char) : List Char × List Char :=
  let word := cs.takeWhile isScalarChar
  match Moment.isDate word, cs.dropWhile isScalarChar with
  | true, ' ' :: rest =>
      match rest.takeWhile isScalarChar with
      | [] => (word, ' ' :: rest)
      | time => (word ++ ' ' :: time, rest.dropWhile isScalarChar)
  | _, rest => (word, rest)

/-- A value without quotes. -/
def scalar? (cs : List Char) : Option (Value × List Char) :=
  (scalarOf? (spelling cs).1).map fun v => (v, (spelling cs).2)

/-- The items of an array, after its opening bracket. -/
def items? (item : Reader Value) : Nat → Reader (List Value)
  | 0, _ => none
  | fuel + 1, cs =>
      match skipFiller false cs with
      | ']' :: rest => some ([], rest)
      | cs =>
          match item cs with
          | none => none
          | some (v, rest) =>
              match skipFiller false rest with
              | ',' :: rest => (items? item fuel rest).map fun (vs, rest) => (v :: vs, rest)
              | ']' :: rest => some ([v], rest)
              | _ => none

/-- A key, an equals sign and a value. -/
def pair? (value : Reader Value) (cs : List Char) :
    Option ((List String × String × Value) × List Char) :=
  match key? cs with
  | some ((path, key), '=' :: rest) =>
      (value (skipBlanks rest)).map fun (v, rest) => ((path, key, v), rest)
  | _ => none

/-- The pairs of an inline table, after its opening brace and at least one
    of them. -/
def pairs? (value : Reader Value) : Nat → Reader (List (List String × String × Value))
  | 0, _ => none
  | fuel + 1, cs =>
      match pair? value cs with
      | none => none
      | some (pair, rest) =>
          match skipBlanks rest with
          | ',' :: rest => (pairs? value fuel rest).map fun (ps, rest) => (pair :: ps, rest)
          | '}' :: rest => some ([pair], rest)
          | _ => none

/-- An inline table, after its opening brace. -/
def inlineTable? (value : Reader Value) (cs : List Char) : Option (Value × List Char) :=
  match skipBlanks cs with
  | '}' :: rest => some (.table .closed [], rest)
  | _ =>
      match pairs? value cs.length cs with
      | none => none
      | some (pairs, rest) =>
          (Entries.insertAll pairs []).map fun es => (.table .closed es, rest)

/-- A value that nests at most `depth` deep. -/
def value? : Nat → Reader Value
  | depth, c :: rest =>
      if c = '"' ∨ c = '\'' then
        (Quotation.any (c :: rest)).map fun (s, rest) => (.text (String.ofList s), rest)
      else if c = '[' then
        match depth with
        | 0 => none
        | depth + 1 =>
            (items? (value? depth) rest.length rest).map fun (vs, rest) => (.array vs, rest)
      else if c = '{' then
        match depth with
        | 0 => none
        | depth + 1 => inlineTable? (value? depth) rest
      else scalar? (c :: rest)
  | _, [] => none

/-! ## Lines -/

/-- A header, with the pairs under it; the top of a document has none. -/
structure Section where
  /-- Path, key, and whether the header is a repeated one. -/
  header : Option (List String × String × Bool)
  /-- Path, key and value of each pair. -/
  pairs : List (List String × String × Value)

/-- A line that says something. -/
inductive Line where
  | header (path : List String) (key : String) (repeated : Bool)
  | pair (path : List String) (key : String) (v : Value)

/-- A header, after its opening bracket. -/
def header? (cs : List Char) : Option (Line × List Char) :=
  match cs with
  | '[' :: cs =>
      match key? cs with
      | some ((path, key), ']' :: ']' :: rest) => some (.header path key true, rest)
      | _ => none
  | cs =>
      match key? cs with
      | some ((path, key), ']' :: rest) => some (.header path key false, rest)
      | _ => none

/-- A line that says something, up to its comment. -/
def line? (cs : List Char) : Option (Line × List Char) :=
  match cs with
  | '[' :: rest => header? rest
  | cs =>
      (pair? (value? (nestingLimit - 1)) cs).map fun ((path, key, v), rest) =>
        (.pair path key v, rest)

/-- The lines of a text that say something. -/
def lines? : Nat → List Char → Option (List Line)
  | 0, _ => none
  | fuel + 1, cs =>
      match skipBlanks cs with
      | [] => some []
      | '\n' :: rest => lines? fuel rest
      | '\r' :: '\n' :: rest => lines? fuel rest
      | '#' :: rest => (lineRest? ('#' :: rest)).bind (lines? fuel)
      | cs =>
          match line? cs with
          | none => none
          | some (line, rest) =>
              ((lineRest? rest).bind (lines? fuel)).map (line :: ·)

/-- Lines gathered under their headers. -/
def sections : Option (List String × String × Bool) → List Line → List Section
  | header, [] => [⟨header, []⟩]
  | header, .header path key repeated :: rest =>
      ⟨header, []⟩ :: sections (some (path, key, repeated)) rest
  | header, .pair path key v :: rest =>
      match sections header rest with
      | [] => []
      | first :: others => { first with pairs := (path, key, v) :: first.pairs } :: others

/-- The table after a section. -/
def Section.addTo (s : Section) (es : Entries) : Option Entries :=
  match s.header with
  | none => es.insertAll s.pairs
  | some (path, key, false) => es.descend (·.define key s.pairs) path
  | some (path, key, true) => es.descend (·.extend key s.pairs) path

/-- The text without a byte order mark in front. -/
def skipMark : List Char → List Char
  | '\ufeff' :: rest => rest
  | cs => cs

/-- The table a text describes, if it is well formed. -/
def parse? (text : String) : Option Entries :=
  let cs := skipMark text.toList
  (lines? (cs.length + 1) cs).bind fun lines =>
    (sections none lines).foldlM (fun es s => s.addTo es) []

end ScratchArena.Toml
