import ScratchArena.Toml.Library
import ScratchArena.Toml.Number

/-! # Writing — sections of simple values

    A document is written as headers, each with its keys below it, one
    pair a line, and an empty line between sections.  Text takes the first
    form that needs no escapes: basic on one line, literal on one line,
    basic over several lines, literal over several lines; failing those,
    the basic form with escapes, over several lines if the text has
    several.  The choice rests on the longest runs of quotes.  A writer may
    count them up to a limit only: text with a longer run it cannot write. -/

namespace ScratchArena.Toml

namespace Quotation

/-- The longest run of a quote in a text, after `run` of them in a row. -/
def longestRun (q : Char) (run : Nat) : List Char → Nat
  | [] => run
  | c :: rest => if c = q then longestRun q (run + 1) rest else max run (longestRun q 0 rest)

/-- A control character that only an escape can write: neither a tab nor
    a line feed. -/
def needsCode (c : Char) : Bool := (c < ' ' || c == '\x7f') && c != '\t' && c != '\n'

/-- A hexadecimal digit, with a capital letter. -/
def hexDigit (n : Nat) : Char := (Nat.digitChar n).toUpper

/-- The escape of a character, if it has one in the basic form. -/
def escapeOf? (c : Char) : Option (List Char) :=
  match c with
  | '\x08' => some ['\\', 'b']
  | '\t' => some ['\\', 't']
  | '\n' => some ['\\', 'n']
  | '\x0c' => some ['\\', 'f']
  | '\r' => some ['\\', 'r']
  | '"' => some ['\\', '"']
  | '\\' => some ['\\', '\\']
  | c =>
      if needsCode c then
        some ['\\', 'u', '0', '0', hexDigit (c.toNat / 16), hexDigit (c.toNat % 16)]
      else none

/-- The text of a basic quotation on one line. -/
def escaped (cs : List Char) : List Char := cs.flatMap fun c => (escapeOf? c).getD [c]

/-- The text of a basic quotation over several lines, after `run` quotes
    in a row: a third one gets a backslash. -/
def escapedLines (run : Nat) : List Char → List Char
  | [] => []
  | c :: rest =>
      if c = '"' then
        if run = 2 then '\\' :: '"' :: escapedLines 0 rest else '"' :: escapedLines (run + 1) rest
      else if c = '\n' then '\n' :: escapedLines 0 rest
      else (escapeOf? c).getD [c] ++ escapedLines 0 rest

/-- A basic quotation on one line. -/
def writeBasic (cs : List Char) : List Char := '"' :: escaped cs ++ ['"']

/-- A literal quotation on one line. -/
def writeLiteral (cs : List Char) : List Char := '\'' :: cs ++ ['\'']

/-- A line break after the opening quotes of a text over several lines. -/
def opening (cs : List Char) : List Char := if '\n' ∈ cs then ['\n'] else []

/-- A basic quotation over several lines. -/
def writeBasicLines (cs : List Char) : List Char :=
  ['"', '"', '"'] ++ opening cs ++ escapedLines 0 cs ++ ['"', '"', '"']

/-- A literal quotation over several lines. -/
def writeLiteralLines (cs : List Char) : List Char :=
  ['\'', '\'', '\''] ++ opening cs ++ cs ++ ['\'', '\'', '\'']

/-- The first form that needs no escapes, given the longest runs of quotes
    and of ticks. -/
def writeWith (quotes ticks : Nat) (cs : List Char) : List Char :=
  let codes := cs.any needsCode
  let backslash := cs.contains '\\'
  let broken := cs.contains '\n'
  if !codes && !backslash && !broken && quotes = 0 then writeBasic cs
  else if !codes && !broken && ticks = 0 then writeLiteral cs
  else if !codes && !backslash && quotes ≤ 2 then writeBasicLines cs
  else if !codes && ticks ≤ 2 then writeLiteralLines cs
  else if broken then writeBasicLines cs
  else writeBasic cs

/-- A run is longer than what is counted; without a limit none is. -/
def exceeds (limit : Option Nat) (run : Nat) : Bool := limit.any (· < run)

/-- A quotation of a text, by a writer that counts up to a limit. -/
def write (limit : Option Nat) (cs : List Char) : Except WriteFault (List Char) :=
  let quotes := longestRun '"' 0 cs
  let ticks := longestRun '\'' 0 cs
  if exceeds limit quotes || exceeds limit ticks then .error .uncountable
  else .ok (writeWith quotes ticks cs)

end Quotation

/-- A value as it stands after its key. -/
def Simple.write (limit : Option Nat) : Simple → Except WriteFault (List Char)
  | .text s => Quotation.write limit s.toList
  | .integer n =>
      if n ≤ Number.largest then .ok (Nat.toDigits 10 n) else .error .outOfRange
  | .truth true => .ok ['t', 'r', 'u', 'e']
  | .truth false => .ok ['f', 'a', 'l', 's', 'e']

/-- A line with a key and its value. -/
def writePair (limit : Option Nat) (pair : String × Simple) : Except WriteFault (List Char) :=
  (pair.2.write limit).map fun v => pair.1.toList ++ [' ', '=', ' '] ++ v ++ ['\n']

/-- A header with the lines below it. -/
def writeSection (limit : Option Nat) (header : String) (pairs : List (String × Simple)) :
    Except WriteFault (List Char) :=
  (pairs.mapM (writePair limit)).map fun lines =>
    '[' :: header.toList ++ [']', '\n'] ++ lines.flatten

/-- Sections with an empty line between them; the first fault counts. -/
def write (limit : Option Nat) (document : Sections) : Except WriteFault String :=
  (document.mapM fun (header, pairs) => writeSection limit header pairs).map fun sections =>
    String.ofList (['\n'].intercalate sections)

end ScratchArena.Toml
