import ScratchArena.Text.Invisible

/-! # Quoted text — a string shown so that every character can be seen

    The text stands between double quotes.  A quote and a backslash get a
    backslash; tab, line feed, carriage return and the null character have
    a letter of their own; every other invisible character is written as
    its code point in hexadecimal. -/

namespace ScratchArena.Text

/-- The code point of a character between braces. -/
def codePoint (c : Char) : List Char :=
  '\\' :: 'u' :: '{' :: Nat.toDigits 16 c.toNat ++ ['}']

/-- A character as it is shown between quotes. -/
def quoteChar (c : Char) : List Char :=
  match c with
  | '"' => ['\\', '"']
  | '\\' => ['\\', '\\']
  | '\t' => ['\\', 't']
  | '\n' => ['\\', 'n']
  | '\r' => ['\\', 'r']
  | '\x00' => ['\\', '0']
  | c => if isInvisible c then codePoint c else [c]

/-- A text as it is shown. -/
def quoted (text : String) : String :=
  String.ofList ('"' :: text.toList.flatMap quoteChar ++ ['"'])

end ScratchArena.Text
