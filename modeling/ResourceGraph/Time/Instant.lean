/-
**Points in time.**

An instant is a day, a second of it and nanoseconds; nanoseconds of a thousand million and more are
those of a leap second, which follows the last second of some minute.

* `Instant.ofText?`: a date and a time with an offset, in the generous form of the internet profile
  of dates: fields may be short and preceded by blanks, a year may have a sign;
* `Instant.text`: the same in UTC, with as many groups of three fraction digits as are needed;
* `Instant.millisSince`: the time between two instants, cut off toward zero.
-/

import ResourceGraph.Text.Blank
import ResourceGraph.Text.Digits
import ResourceGraph.Text.Search
import ResourceGraph.Time.Calendar

namespace ResourceGraph

/-- A point in time. -/
structure Instant where
  /-- Days since the first of January 1970. -/
  day : Int
  second : Nat
  nanos : Nat
deriving DecidableEq, Repr

namespace Instant

/-- The nanoseconds of a second. -/
def nanosPerSecond : Nat := 1000000000

/-- The seconds of a day. -/
def secondsPerDay : Nat := 86400

/-- The instant in seconds and nanoseconds since the start of 1970. -/
def ofSeconds (seconds : Int) (nanos : Nat) : Instant :=
  ⟨seconds / secondsPerDay, (seconds % secondsPerDay).toNat, nanos⟩

/-! ### Writing -/

/-- The fraction of a second, in groups of three digits. -/
def fractionText (nanos : Nat) : String :=
  if nanos = 0 then ""
  else if nanos % 1000000 = 0 then "." ++ Text.padded 3 (nanos / 1000000)
  else if nanos % 1000 = 0 then "." ++ Text.padded 6 (nanos / 1000)
  else "." ++ Text.padded 9 nanos

/-- A year: four digits, with a sign outside the range of four digits. -/
def yearText (year : Int) : String :=
  if 0 ≤ year ∧ year ≤ 9999 then Text.padded 4 year.toNat
  else if year < 0 then "-" ++ Text.padded 4 year.natAbs
  else "+" ++ Text.padded 4 year.natAbs

/-- The instant in UTC. -/
def text (instant : Instant) : String :=
  let date := Calendar.Date.ofDays instant.day
  let leap := instant.nanos / nanosPerSecond
  yearText date.year ++ "-" ++ Text.padded 2 date.month ++ "-" ++ Text.padded 2 date.day ++ "T" ++
    Text.padded 2 (instant.second / 3600) ++ ":" ++
    Text.padded 2 (instant.second / 60 % 60) ++ ":" ++
    Text.padded 2 (instant.second % 60 + leap) ++
    fractionText (instant.nanos % nanosPerSecond) ++ "Z"

/-! ### Reading -/

/-- A number of one up to `width` digits at the start of the characters. -/
def takeNumber? (width : Nat) (chars : List Char) : Option (Nat × List Char) :=
  let digits := (chars.take width).takeWhile Char.isDigit
  if digits.isEmpty then none else some (Text.digitsValue digits, chars.drop digits.length)

/-- A number after blanks, within bounds. -/
def takeField? (low high : Nat) (chars : List Char) : Option (Nat × List Char) := do
  let (value, rest) ← takeNumber? 2 (Text.trimLeft chars)
  if low ≤ value ∧ value ≤ high then some (value, rest) else none

/-- A character after blanks. -/
def takeMark? (mark : Char) (chars : List Char) : Option (List Char) :=
  match Text.trimLeft chars with
  | c :: rest => if c = mark then some rest else none
  | [] => none

/-- A year after blanks: up to four digits, or any number of them after a sign. -/
def takeYear? (chars : List Char) : Option (Int × List Char) :=
  match Text.trimLeft chars with
  | '-' :: rest => (takeNumber? rest.length rest).map fun (value, rest) => (-(value : Int), rest)
  | '+' :: rest => (takeNumber? rest.length rest).map fun (value, rest) => ((value : Int), rest)
  | rest => (takeNumber? 4 rest).map fun (value, rest) => ((value : Int), rest)

/-- The nanoseconds after a point; digits past the ninth are dropped. -/
def takeNanos? : List Char → Option (Nat × List Char)
  | '.' :: rest =>
    let (digits, rest) := Text.takeDigits rest
    if digits.isEmpty then none
    else
      let kept := digits.take 9
      some (Text.digitsValue kept * Nat.pow 10 (9 - kept.length), rest)
  | rest => some (0, rest)

/-- Two digits at the start of the characters. -/
def takePair? : List Char → Option (Nat × List Char)
  | a :: b :: rest =>
    if a.isDigit && b.isDigit then some (Text.digitsValue [a, b], rest) else none
  | _ => none

/-- The sign of an offset. -/
def takeSign? : List Char → Option (Int × List Char)
  | '+' :: rest => some (1, rest)
  | '-' :: rest => some (-1, rest)
  | '\u2212' :: rest => some (-1, rest)
  | _ => none

/-- The offset from UTC in seconds: a letter or a word for none, or a sign, hours and minutes. -/
def takeOffset? (chars : List Char) : Option (Int × List Char) :=
  match chars with
  | 'Z' :: rest => some (0, rest)
  | 'z' :: rest => some (0, rest)
  | _ =>
    if Text.foldCase (chars.take 3) = ['u', 't', 'c'] then some (0, chars.drop 3)
    else do
      let (sign, rest) ← takeSign? chars
      let (hours, rest) ← takePair? rest
      let (minutes, rest) ← takePair? (rest.dropWhile fun c => c == ':' || Text.isBlank c)
      if hours ≤ 23 ∧ minutes ≤ 59 then some (sign * (hours * 3600 + minutes * 60), rest) else none

/-- The character between the date and the time. -/
def takeSeparator? : List Char → Option (List Char)
  | 'T' :: rest => some rest
  | 't' :: rest => some rest
  | ' ' :: rest => some rest
  | _ => none

/-- The first and the last year that are admitted. -/
def yearBounds : Int × Int := (-262143, 262142)

/-- Whether a date exists in an admitted year. -/
def isAdmitted (date : Calendar.Date) : Bool :=
  date.isValid && yearBounds.1 ≤ date.year && date.year ≤ yearBounds.2

/-- Reads a date, a time and an offset. -/
def ofText? (text : String) : Option Instant := do
  let (year, rest) ← takeYear? text.toList
  let (month, rest) ← takeField? 1 12 (← takeMark? '-' rest)
  let (day, rest) ← takeField? 1 31 (← takeMark? '-' rest)
  let (hour, rest) ← takeField? 0 23 (← takeSeparator? rest)
  let (minute, rest) ← takeField? 0 59 (← takeMark? ':' rest)
  let (second, rest) ← takeField? 0 60 (← takeMark? ':' rest)
  let (fraction, rest) ← takeNanos? rest
  let (offset, rest) ← takeOffset? (Text.trimLeft rest)
  let date : Calendar.Date := ⟨year, month, day⟩
  if !(Text.trimLeft rest).isEmpty || !isAdmitted date then none
  else
    let (second, nanos) :=
      if second = 60 then (59, nanosPerSecond + fraction) else (second, fraction)
    let localTime : Int := date.toDays * secondsPerDay + (hour * 3600 + minute * 60 + second : Nat)
    let instant := ofSeconds (localTime - offset) nanos
    if isAdmitted (Calendar.Date.ofDays instant.day) then some instant else none

/-! ### Differences -/

/-- The whole seconds that a leap second adds between two times of day. -/
def leapBetween (start stop : Instant) : Int :=
  if start.second < stop.second ∧ nanosPerSecond ≤ start.nanos then 1
  else if stop.second < start.second ∧ nanosPerSecond ≤ stop.nanos then -1
  else 0

/-- The milliseconds from one instant to another, cut off toward zero. -/
def millisSince (start stop : Instant) : Int :=
  let seconds := (stop.day - start.day) * secondsPerDay + ((stop.second : Int) - start.second) +
    leapBetween start stop
  Int.tdiv (seconds * nanosPerSecond + ((stop.nanos : Int) - start.nanos)) 1000000

end Instant

end ResourceGraph
