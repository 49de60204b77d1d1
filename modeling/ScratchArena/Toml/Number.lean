/-! # Numbers — integers of sixty-four bits and floats

    Digits may be grouped by single underscores between them.  A decimal
    integer has no leading zero; hexadecimal, octal and binary ones have a
    prefix and no sign.  A float has a fraction or an exponent, or is the
    word for infinity or for no number; a spelling that overflows to
    positive infinity is refused. -/

namespace ScratchArena.Toml.Number

/-- The digits without the underscores between them; nothing unless every
    character is a digit or stands between two. -/
def ungroup? (isDigit : Char → Bool) : List Char → Option (List Char)
  | [] => none
  | [c] => if isDigit c then some [c] else none
  | c :: '_' :: rest => if isDigit c then (ungroup? isDigit rest).map (c :: ·) else none
  | c :: d :: rest => if isDigit c then (ungroup? isDigit (d :: rest)).map (c :: ·) else none

/-- The value of a digit in any base up to sixteen. -/
def digitValue (c : Char) : Nat :=
  if c ≤ '9' then c.toNat - '0'.toNat
  else if c ≤ 'F' then c.toNat - 'A'.toNat + 10
  else c.toNat - 'a'.toNat + 10

/-- The number that digits spell in a base. -/
def ofDigits (base : Nat) (digits : List Char) : Nat :=
  digits.foldl (fun n c => n * base + digitValue c) 0

/-- A digit of a hexadecimal integer. -/
def isHexDigit (c : Char) : Bool := c.isDigit || ('a' ≤ c && c ≤ 'f') || ('A' ≤ c && c ≤ 'F')

/-- A digit of an octal integer. -/
def isOctalDigit (c : Char) : Bool := '0' ≤ c && c ≤ '7'

/-- A digit of a binary integer. -/
def isBinaryDigit (c : Char) : Bool := c == '0' || c == '1'

/-- The digits of an unsigned decimal integer: no leading zero. -/
def decimalDigits? (cs : List Char) : Option (List Char) :=
  (ungroup? Char.isDigit cs).filter fun ds => ds.length = 1 || ds.head? ≠ some '0'

/-- The largest integer of sixty-four bits with a sign. -/
def largest : Nat := Nat.pow 2 63 - 1

/-- The number, if sixty-four bits with a sign hold it. -/
def inRange? (n : Int) : Option Int :=
  if -(largest + 1 : Int) ≤ n ∧ n ≤ largest then some n else none

/-- The integer that the characters spell. -/
def integer? : List Char → Option Int
  | '0' :: 'x' :: ds => (ungroup? isHexDigit ds).bind fun ds => inRange? (ofDigits 16 ds)
  | '0' :: 'o' :: ds => (ungroup? isOctalDigit ds).bind fun ds => inRange? (ofDigits 8 ds)
  | '0' :: 'b' :: ds => (ungroup? isBinaryDigit ds).bind fun ds => inRange? (ofDigits 2 ds)
  | '-' :: ds => (decimalDigits? ds).bind fun ds => inRange? (-(ofDigits 10 ds : Int))
  | '+' :: ds => (decimalDigits? ds).bind fun ds => inRange? (ofDigits 10 ds)
  | ds => (decimalDigits? ds).bind fun ds => inRange? (ofDigits 10 ds)

/-! ## Floats -/

/-- The least number that rounds to infinity: halfway between the largest
    double and the next power of two. -/
def infinityBound : Nat := Nat.pow 2 1024 - Nat.pow 2 970

/-- `digits * 10 ^ exponent` rounds to infinity. -/
def overflows (digits : Nat) (exponent : Int) : Bool :=
  if digits = 0 then false
  else
    let places : Int := (Nat.toDigits 10 digits).length + exponent
    if places > 309 then true
    else if places < 309 then false
    else if 0 ≤ exponent then infinityBound ≤ digits * Nat.pow 10 exponent.toNat
    else infinityBound * Nat.pow 10 (-exponent).toNat ≤ digits

/-- The exponent that the characters spell. -/
def exponent? : List Char → Option Int
  | '-' :: ds => (ungroup? Char.isDigit ds).map fun ds => -(ofDigits 10 ds : Int)
  | '+' :: ds => (ungroup? Char.isDigit ds).map fun ds => (ofDigits 10 ds : Int)
  | ds => (ungroup? Char.isDigit ds).map fun ds => (ofDigits 10 ds : Int)

/-- The character stands before an exponent. -/
def isExponentMark (c : Char) : Bool := c == 'e' || c == 'E'

/-- Digits and decimal exponent of an unsigned float. -/
def unsignedFloat? (cs : List Char) : Option (Nat × Int) := do
  let whole ← decimalDigits? (cs.takeWhile fun c => c != '.' && !isExponentMark c)
  match cs.dropWhile fun c => c != '.' && !isExponentMark c with
  | '.' :: rest =>
      let fraction ← ungroup? Char.isDigit (rest.takeWhile fun c => !isExponentMark c)
      let exponent ←
        match rest.dropWhile fun c => !isExponentMark c with
        | [] => some 0
        | _ :: ds => exponent? ds
      return (ofDigits 10 (whole ++ fraction), exponent - fraction.length)
  | _ :: ds =>
      let exponent ← exponent? ds
      return (ofDigits 10 whole, exponent)
  | [] => none

/-- The characters spell infinity or no number. -/
def isSpecial (cs : List Char) : Bool := cs == ['i', 'n', 'f'] || cs == ['n', 'a', 'n']

/-- The characters spell a float. -/
def isFloat : List Char → Bool
  | '-' :: cs => isSpecial cs || (unsignedFloat? cs).isSome
  | '+' :: cs => isSpecial cs || (unsignedFloat? cs).any fun (n, e) => !overflows n e
  | cs => isSpecial cs || (unsignedFloat? cs).any fun (n, e) => !overflows n e

end ScratchArena.Toml.Number
