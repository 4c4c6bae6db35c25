/-!
# Timestamps in Text Form

Internet timestamps such as `2024-05-01T12:30:00.25+02:00`. The separator between date and time is
`T`, `t` or one space; a fraction of the second may follow; the offset from universal time is `Z`,
`z`, or a sign with hours and minutes. Second 60 is allowed in every minute and is one second after
second 59.
-/

namespace TrafficMap

/-! ## The calendar

Dates of the proleptic Gregorian calendar from the year 0 on, and their distance from 1 January
1970.
-/

/-- The year has 366 days. -/
def isLeapYear (year : Nat) : Bool :=
  year % 4 == 0 && (year % 100 != 0 || year % 400 == 0)

/-- Days of a month; there are no days in a month that does not exist. -/
def daysInMonth (year month : Nat) : Nat :=
  match month with
  | 1 | 3 | 5 | 7 | 8 | 10 | 12 => 31
  | 4 | 6 | 9 | 11 => 30
  | 2 => if isLeapYear year then 29 else 28
  | _ => 0

/-- A day of the calendar. -/
structure Date where
  year : Nat
  month : Nat
  day : Nat
deriving Repr, BEq, DecidableEq

namespace Date

/-- The day exists. -/
def isValid (d : Date) : Bool :=
  1 ≤ d.day && d.day ≤ daysInMonth d.year d.month

/-- Days from 1 January of the year 0 to 1 January of a year. -/
def daysBeforeYear (year : Nat) : Nat :=
  365 * year + (year + 3) / 4 - (year + 99) / 100 + (year + 399) / 400

/-- Days of a year before a month. -/
def daysBeforeMonth (year month : Nat) : Nat :=
  (List.range month).foldl (fun days m => days + daysInMonth year m) 0

/-- Days from 1 January of the year 0. -/
def dayNumber (d : Date) : Nat :=
  daysBeforeYear d.year + daysBeforeMonth d.year d.month + (d.day - 1)

/-- Days from 1 January 1970; negative before it. -/
def daysSince1970 (d : Date) : Int :=
  (d.dayNumber : Int) - (Date.dayNumber ⟨1970, 1, 1⟩ : Int)

end Date

end TrafficMap

namespace TrafficMap.Timestamp

/-! ## Reading characters -/

/-- A function that reads the beginning of a text and leaves the rest. -/
abbrev Reader (α : Type) := List Char → Option (α × List Char)

/-- Exactly one character that satisfies `p`. -/
def one (p : Char → Bool) : Reader Char
  | [] => none
  | c :: rest => if p c then some (c, rest) else none

def digitValue (c : Char) : Nat := c.toNat - '0'.toNat

/-- Exactly `n` decimal digits, on top of the value read so far. -/
def digitsFrom (value : Nat) : Nat → Reader Nat
  | 0, cs => some (value, cs)
  | n + 1, cs => do
    let (c, rest) ← one Char.isDigit cs
    digitsFrom (10 * value + digitValue c) n rest

def digits (n : Nat) : Reader Nat := digitsFrom 0 n

/-- A number of `n` digits that stands after the character `mark`. -/
def digitsAfter (mark : Char) (n : Nat) : Reader Nat := fun cs => do
  let (_, rest) ← one (· == mark) cs
  digits n rest

/-! ## Parts of a timestamp -/

/-- Year, month and day. -/
def date : Reader Date := fun cs => do
  let (year, cs) ← digits 4 cs
  let (month, cs) ← digitsAfter '-' 2 cs
  let (day, cs) ← digitsAfter '-' 2 cs
  let d : Date := ⟨year, month, day⟩
  if d.isValid then some (d, cs) else none

/-- What stands between date and time. -/
def isDivider (c : Char) : Bool := c == 'T' || c == 't' || c == ' '

/-- Seconds since midnight. -/
def clock : Reader Nat := fun cs => do
  let (hour, cs) ← digits 2 cs
  let (minute, cs) ← digitsAfter ':' 2 cs
  let (second, cs) ← digitsAfter ':' 2 cs
  if hour ≤ 23 && minute ≤ 59 && second ≤ 60 then some ((hour * 60 + minute) * 60 + second, cs)
  else none

/-- Milliseconds of the fraction with the given digits, further digits cut off. -/
def millisOfDigits (ds : List Char) : Nat :=
  (ds ++ ['0', '0', '0']).take 3 |>.foldl (fun n c => 10 * n + digitValue c) 0

/-- Milliseconds of a fraction of a second, which may be missing. -/
def fraction : Reader Nat
  | '.' :: rest =>
    match rest.takeWhile Char.isDigit with
    -- A point without digits behind it is no fraction.
    | [] => none
    | ds => some (millisOfDigits ds, rest.dropWhile Char.isDigit)
  | cs => some (0, cs)

/-- The minus signs: hyphen and U+2212. -/
def isMinusSign (c : Char) : Bool := c == '-' || c == '\u2212'

/-- Seconds by which local time is ahead of universal time. -/
def offset : Reader Int
  | [] => none
  | c :: cs =>
    if c == 'Z' || c == 'z' then some (0, cs)
    else if c == '+' || isMinusSign c then do
      let (hours, cs) ← digits 2 cs
      let (minutes, cs) ← digitsAfter ':' 2 cs
      if hours ≤ 23 && minutes ≤ 59 then
        let seconds : Int := ((hours * 60 + minutes) * 60 : Nat)
        some (if c == '+' then seconds else -seconds, cs)
      else none
    else none

/-! ## The whole -/

/-- Milliseconds since the beginning of 1970 of a timestamp that fills the text. -/
def millis? (s : String) : Option Int := do
  let (d, cs) ← date s.toList
  let (_, cs) ← one isDivider cs
  let (seconds, cs) ← clock cs
  let (millis, cs) ← fraction cs
  let (ahead, cs) ← offset cs
  match cs with
  | [] => some ((d.daysSince1970 * 86400 + seconds - ahead) * 1000 + millis)
  | _ => none

end TrafficMap.Timestamp
