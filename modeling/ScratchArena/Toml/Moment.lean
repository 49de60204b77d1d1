/-! # Moments — dates, times of day, and both

    A date names a day that exists.  A time has hours, minutes and
    seconds, sixty allowed, and may have a fraction; after a date it may
    also have an offset from universal time. -/

namespace ScratchArena.Toml.Moment

/-- The number that decimal digits spell. -/
def digits? (cs : List Char) : Option Nat :=
  if cs.all Char.isDigit then some (cs.foldl (fun n c => n * 10 + (c.toNat - '0'.toNat)) 0)
  else none

/-- How many days a month has. -/
def daysIn (year month : Nat) : Nat :=
  if month = 2 then
    if year % 4 = 0 ∧ (year % 100 ≠ 0 ∨ year % 400 = 0) then 29 else 28
  else if month = 4 ∨ month = 6 ∨ month = 9 ∨ month = 11 then 30
  else 31

/-- The digits spell a number in a range. -/
def within (cs : List Char) (least most : Nat) : Bool :=
  (digits? cs).any fun n => least ≤ n && n ≤ most

/-- The characters spell a day that exists. -/
def isDate : List Char → Bool
  | [y1, y2, y3, y4, '-', m1, m2, '-', d1, d2] =>
      (digits? [y1, y2, y3, y4]).any fun year =>
        (digits? [m1, m2]).any fun month =>
          1 ≤ month && month ≤ 12 && within [d1, d2] 1 (daysIn year month)
  | _ => false

/-- The characters spell hours and minutes. -/
def isHourMinute : List Char → Bool
  | [h1, h2, ':', m1, m2] => within [h1, h2] 0 23 && within [m1, m2] 0 59
  | _ => false

/-- The characters spell a time of day. -/
def isTime (cs : List Char) : Bool :=
  isHourMinute (cs.take 5) &&
    match cs.drop 5 with
    | [':', s1, s2] => within [s1, s2] 0 60
    | ':' :: s1 :: s2 :: '.' :: fraction =>
        within [s1, s2] 0 60 && !fraction.isEmpty && fraction.all Char.isDigit
    | _ => false

/-- The characters spell an offset from universal time. -/
def isOffset : List Char → Bool
  | ['Z'] | ['z'] => true
  | '+' :: cs | '-' :: cs => isHourMinute cs
  | _ => false

/-- An offset may begin with the character. -/
def beginsOffset (c : Char) : Bool := c == 'Z' || c == 'z' || c == '+' || c == '-'

/-- The characters spell a time of day, perhaps with an offset. -/
def isTimeWithOffset (cs : List Char) : Bool :=
  let offset := cs.dropWhile (!beginsOffset ·)
  isTime (cs.takeWhile (!beginsOffset ·)) && (offset.isEmpty || isOffset offset)

/-- The character may stand between a date and a time. -/
def isSeparator (c : Char) : Bool := c == 'T' || c == 't' || c == ' '

/-- The characters spell a date, a time of day, or both. -/
def isMoment (cs : List Char) : Bool :=
  isDate cs || isTime cs ||
    (isDate (cs.take 10) &&
      match cs.drop 10 with
      | c :: time => isSeparator c && isTimeWithOffset time
      | [] => false)

end ScratchArena.Toml.Moment
