/-
This file reads timestamps: a date, or a date and a time that may have a fraction and an offset from
universal time. A text of that form denotes a timestamp only if there is such a day and such a time.
-/

import ScenarioTree.Number.Literal
import ScenarioTree.Yaml.Character

namespace ScenarioTree.Yaml

open ScenarioTree.Number (digitsValue)

/-! ### Written timestamps -/

/-- An offset: whether it is to the west, the hours and the minutes. -/
structure Offset where
  west : Bool
  hours : Nat
  minutes : Nat
  deriving DecidableEq

/-- A time of day. The fraction is in millionths of a second. -/
structure Clock where
  hour : Nat
  minute : Nat
  second : Nat
  fraction : Nat
  offset : Option Offset
  deriving DecidableEq

/-- A timestamp as it is written; `short` tells whether the month or the day has one digit. -/
structure Timestamp where
  year : Nat
  month : Nat
  day : Nat
  short : Bool
  clock : Option Clock
  deriving DecidableEq

namespace Timestamp

/-- A number of exactly `width` digits, and the rest. -/
def fixed? (width : Nat) (characters : List Char) : Option (Nat × List Char) :=
  let digits := (characters.take width).takeWhile Char.isDigit
  if digits.length = width then some (digitsValue digits, characters.drop width) else none

/-- A number of one or two digits, its width, and the rest. -/
def shortNumber? (characters : List Char) : Option (Nat × Nat × List Char) :=
  let digits := (characters.take 2).takeWhile Char.isDigit
  if digits.isEmpty then none
  else some (digitsValue digits, digits.length, characters.drop digits.length)

/-- The rest after a character. -/
def after? (expected : Char) : List Char → Option (List Char)
  | [] => none
  | character :: rest => if character == expected then some rest else none

/-- The value of the first six digits of a fraction. -/
def fractionValue (digits : List Char) : Nat :=
  let kept := digits.take 6
  digitsValue kept * Nat.pow 10 (6 - kept.length)

/-- What follows the seconds: blanks and an offset, or nothing. -/
def offset? (characters : List Char) : Option (Option Offset) :=
  match characters with
  | [] => some none
  | _ =>
    match characters.dropWhile isBlank with
    | ['Z'] => some (some ⟨false, 0, 0⟩)
    | sign :: rest =>
      if sign != '-' && sign != '+' then none
      else do
        let (hours, _, rest) ← shortNumber? rest
        match rest with
        | [] => return some ⟨sign == '-', hours, 0⟩
        | ':' :: rest =>
          let (minutes, rest) ← fixed? 2 rest
          if rest.isEmpty then return some ⟨sign == '-', hours, minutes⟩ else none
        | _ => none
    | [] => none

/-- A time of day. -/
def clock? (characters : List Char) : Option Clock := do
  let (hour, _, rest) ← shortNumber? characters
  let (minute, rest) ← fixed? 2 (← after? ':' rest)
  let (second, rest) ← fixed? 2 (← after? ':' rest)
  match rest with
  | '.' :: rest =>
    let digits := rest.takeWhile Char.isDigit
    return ⟨hour, minute, second, fractionValue digits, ← offset? (rest.dropWhile Char.isDigit)⟩
  | rest => return ⟨hour, minute, second, 0, ← offset? rest⟩

/-- The characters of a time after those of a date: behind a letter, or behind blanks. -/
def clockPart? : List Char → Option (List Char)
  | [] => none
  | character :: rest =>
    if character == 'T' || character == 't' then some rest
    else if isBlank character then some (rest.dropWhile isBlank)
    else none

/-- A timestamp as it is written. -/
def ofCharacters? (characters : List Char) : Option Timestamp := do
  let (year, rest) ← fixed? 4 characters
  let (month, monthWidth, rest) ← shortNumber? (← after? '-' rest)
  let (day, dayWidth, rest) ← shortNumber? (← after? '-' rest)
  let short := monthWidth < 2 || dayWidth < 2
  if rest.isEmpty then return ⟨year, month, day, short, none⟩
  else return ⟨year, month, day, short, some (← clock? (← clockPart? rest))⟩

/-- Whether a plain scalar of this form is a timestamp. A date alone needs all its digits. -/
def isPlain (stamp : Timestamp) : Bool :=
  stamp.clock.isSome || !stamp.short

/-! ### Days and times that there are -/

/-- Whether a year has a day more than others. -/
def isLeap (year : Nat) : Bool :=
  year % 4 == 0 && (year % 100 != 0 || year % 400 == 0)

/-- The number of days of a month. -/
def daysIn (year month : Nat) : Nat :=
  if month == 2 then if isLeap year then 29 else 28
  else if month == 4 || month == 6 || month == 9 || month == 11 then 30
  else 31

/-- Minutes of an offset. -/
def Offset.total (offset : Offset) : Nat :=
  60 * offset.hours + offset.minutes

/-- Whether there is such a time of day. -/
def clockIsValid (clock : Clock) : Bool :=
  clock.hour < 24 && clock.minute < 60 && clock.second < 60 &&
    clock.offset.all fun offset => Offset.total offset < 24 * 60

/-- Whether there is such a timestamp. -/
def isValid (stamp : Timestamp) : Bool :=
  1 ≤ stamp.year && 1 ≤ stamp.month && stamp.month ≤ 12 && 1 ≤ stamp.day &&
    stamp.day ≤ daysIn stamp.year stamp.month && stamp.clock.all clockIsValid

/-! ### Moments -/

/-- Minutes of a day before a time of it. -/
def Clock.minutes (clock : Clock) : Nat :=
  60 * clock.hour + clock.minute

/-- The number of a day, counted from the first day of the first year. -/
def dayNumber (stamp : Timestamp) : Nat :=
  let years := stamp.year - 1
  let months := (List.range (stamp.month - 1)).foldl
    (fun days month => days + daysIn stamp.year (month + 1)) 0
  365 * years + years / 4 - years / 100 + years / 400 + months + stamp.day

/-- The moment of a timestamp in universal time, as minutes, seconds and their fraction. Without an
offset it is not known. -/
def moment? (stamp : Timestamp) : Option (Int × Nat × Nat) := do
  let clock ← stamp.clock
  let offset ← clock.offset
  let minutes : Int := 24 * 60 * stamp.dayNumber + Clock.minutes clock
  let ahead : Int := if offset.west then -Offset.total offset else Offset.total offset
  return (minutes - ahead, clock.second, clock.fraction)

/-! ### Texts -/

/-- A number with zeros in front up to a width. -/
def padded (width number : Nat) : String :=
  let digits := toString number
  String.ofList (List.replicate (width - digits.length) '0') ++ digits

/-- An offset in seconds, as the day before or the same day and a number of seconds in it. -/
def Offset.shown (offset : Offset) : String :=
  let seconds := 60 * Offset.total offset
  if seconds == 0 then "datetime.timezone.utc"
  else if offset.west then
    "datetime.timezone(datetime.timedelta(days=-1, seconds=" ++ toString (86400 - seconds) ++ "))"
  else "datetime.timezone(datetime.timedelta(seconds=" ++ toString seconds ++ "))"

/-- A timestamp as it is shown. Seconds and their fraction are left out when they are zero. -/
def shown (stamp : Timestamp) : String :=
  let date := [stamp.year, stamp.month, stamp.day]
  let join (numbers : List Nat) := ", ".intercalate (numbers.map toString)
  match stamp.clock with
  | none => "datetime.date(" ++ join date ++ ")"
  | some clock =>
    let time :=
      if clock.fraction != 0 then [clock.hour, clock.minute, clock.second, clock.fraction]
      else if clock.second != 0 then [clock.hour, clock.minute, clock.second]
      else [clock.hour, clock.minute]
    "datetime.datetime(" ++ join (date ++ time) ++
      clock.offset.elim "" (fun offset => ", tzinfo=" ++ Offset.shown offset) ++ ")"

/-- A timestamp as a key. -/
def keyText (stamp : Timestamp) : String :=
  let date := padded 4 stamp.year ++ "-" ++ padded 2 stamp.month ++ "-" ++ padded 2 stamp.day
  match stamp.clock with
  | none => date
  | some clock =>
    date ++ " " ++ padded 2 clock.hour ++ ":" ++ padded 2 clock.minute ++ ":" ++
      padded 2 clock.second ++
      (if clock.fraction == 0 then "" else "." ++ padded 6 clock.fraction) ++
      clock.offset.elim "" fun offset =>
        let total := Offset.total offset
        (if offset.west && total != 0 then "-" else "+") ++ padded 2 (total / 60) ++ ":" ++
          padded 2 (total % 60)

end Timestamp

end ScenarioTree.Yaml
