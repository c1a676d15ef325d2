import ClientGen.Yaml.Cursor

/-!
# Moments

Dates, with or without a time of day and its offset. `Moment.read?` reads one from its text, and
`Moment.text` is how it is shown, or `Moment.shownInside` if it is in a collection. Two moments with
offsets are the same if they are the same instant.
-/

set_option autoImplicit false
set_option relaxedAutoImplicit false

namespace ClientGen.Yaml

/-- A time of day. The offset is in minutes. -/
structure DayTime where
  hour : Nat
  minute : Nat
  second : Nat
  microsecond : Nat
  offset : Option Int
  deriving DecidableEq, Repr

/-- A moment as it is written. -/
structure Moment where
  year : Nat
  month : Nat
  day : Nat
  time : Option DayTime
  deriving DecidableEq, Repr

namespace Moment

/-- The number that decimal digits write. -/
def number (digits : List Char) : Nat :=
  digits.foldl (fun n c ↦ n * 10 + (c.toNat - 48)) 0

/-- Digits in front, as many as there are up to the most, if there are as many as the least. -/
def digits? (least most : Nat) (cs : List Char) : Option (List Char × List Char) :=
  let taken := (cs.take most).takeWhile Char.isDigit
  if least ≤ taken.length then some (taken, cs.drop taken.length) else none

/-- The rest behind a character. -/
def after? (c : Char) : List Char → Option (List Char)
  | [] => none
  | d :: rest => if d = c then some rest else none

/-- The offset at the end of a time, in minutes, if there is one. -/
def offset? (cs : List Char) : Option (Option Int) := do
  match cs.dropWhile isSpace with
  | [] => if cs.isEmpty then some none else none
  | ['Z'] => some (some 0)
  | sign :: rest =>
    if sign ≠ '+' && sign ≠ '-' then none
    else
      let (hours, rest) ← digits? 1 2 rest
      let minutes ← match rest with
        | [] => some 0
        | _ => do
          let (minutes, rest) ← digits? 2 2 (← after? ':' rest)
          if rest.isEmpty then some (number minutes) else none
      let total : Int := number hours * 60 + minutes
      some (some (if sign = '-' then -total else total))

/-- The fraction of a second in microseconds, and the rest behind it. -/
def fraction (cs : List Char) : Nat × List Char :=
  match cs with
  | '.' :: rest =>
    let digits := rest.takeWhile Char.isDigit
    let six := digits.take 6
    (number (six ++ List.replicate (6 - six.length) '0'), rest.drop digits.length)
  | _ => (0, cs)

/-- The time of day behind a date, if there is one. -/
def dayTime? (cs : List Char) : Option (Option DayTime) := do
  let rest ← match cs with
    | [] => return none
    | 'T' :: rest => some rest
    | 't' :: rest => some rest
    | c :: rest => if isSpace c then some (rest.dropWhile isSpace) else none
  let (hour, rest) ← digits? 1 2 rest
  let (minute, rest) ← digits? 2 2 (← after? ':' rest)
  let (second, rest) ← digits? 2 2 (← after? ':' rest)
  let (microsecond, rest) := fraction rest
  let offset ← offset? rest
  return some ⟨number hour, number minute, number second, microsecond, offset⟩

/-- The moment that a text writes. -/
def read? (cs : List Char) : Option Moment := do
  let (year, rest) ← digits? 4 4 cs
  let (month, rest) ← digits? 1 2 (← after? '-' rest)
  let (day, rest) ← digits? 1 2 (← after? '-' rest)
  let time ← dayTime? rest
  return ⟨number year, number month, number day, time⟩

/-- Whether a plain scalar counts as a moment: a date has two digits for month and day, unless a
time follows. -/
def isPlain (cs : List Char) : Bool :=
  (read? cs).any fun moment ↦ moment.time.isSome || cs.length = 10

/-- The number of days of a month. -/
def daysIn (year month : Nat) : Nat :=
  if month = 2 then
    if year % 4 = 0 && (year % 100 ≠ 0 || year % 400 = 0) then 29 else 28
  else if [4, 6, 9, 11].contains month then 30 else 31

/-- An offset other than zero as it is shown, in days and seconds. -/
def durationText (offset : Int) : String :=
  let parts := [("days", offset.fdiv 1440), ("seconds", offset.fmod 1440 * 60)]
  let shown := (parts.filter (·.2 ≠ 0)).map fun (name, n) ↦ name ++ "=" ++ toString n
  "datetime.timedelta(" ++ ", ".intercalate shown ++ ")"

/-- What is wrong with an offset of a day or more. -/
def offsetFault? (offset : Int) : Option String :=
  if offset.natAbs < 1440 then none
  else some ("offset must be a timedelta strictly between -timedelta(hours=24) and " ++
    "timedelta(hours=24), not " ++ durationText offset ++ ".")

/-- What is wrong with a moment that is none. -/
def fault? (moment : Moment) : Option String :=
  ((moment.time.bind (·.offset)).bind offsetFault?).or <|
  if moment.year = 0 then some "year 0 is out of range"
  else if moment.month = 0 || 12 < moment.month then some "month must be in 1..12"
  else if moment.day = 0 || daysIn moment.year moment.month < moment.day then
    some "day is out of range for month"
  else do
    let time ← moment.time
    if 23 < time.hour then some "hour must be in 0..23"
    else if 59 < time.minute then some "minute must be in 0..59"
    else if 59 < time.second then some "second must be in 0..59"
    else none

/-- A number with zeros in front, up to a width. -/
def padded (width n : Nat) : String :=
  let digits := Nat.toDigits 10 n
  String.ofList (List.replicate (width - digits.length) '0' ++ digits)

/-- An offset as it is shown. -/
def offsetText (offset : Int) : String :=
  (if offset < 0 then "-" else "+") ++ padded 2 (offset.natAbs / 60) ++ ":" ++
    padded 2 (offset.natAbs % 60)

/-- A time of day as it is shown. -/
def timeText (time : DayTime) : String :=
  padded 2 time.hour ++ ":" ++ padded 2 time.minute ++ ":" ++ padded 2 time.second ++
    (if time.microsecond = 0 then "" else "." ++ padded 6 time.microsecond) ++
    match time.offset with
    | none => ""
    | some offset => offsetText offset

/-- A moment as it is shown. -/
def text (moment : Moment) : String :=
  padded 4 moment.year ++ "-" ++ padded 2 moment.month ++ "-" ++ padded 2 moment.day ++
    match moment.time with
    | none => ""
    | some time => " " ++ timeText time

/-- A time of day as it is shown inside a collection, behind its date. Seconds and microseconds are
left out if nothing but zeros follows. -/
def timeShownInside (time : DayTime) : List String :=
  let numbers := [time.hour, time.minute] ++
    if time.microsecond ≠ 0 then [time.second, time.microsecond]
    else if time.second ≠ 0 then [time.second] else []
  numbers.map toString ++
    match time.offset with
    | none => []
    | some 0 => ["tzinfo=datetime.timezone.utc"]
    | some offset => ["tzinfo=datetime.timezone(" ++ durationText offset ++ ")"]

/-- A moment as it is shown inside a collection. -/
def shownInside (moment : Moment) : String :=
  let date := [moment.year, moment.month, moment.day].map toString
  match moment.time with
  | none => "datetime.date(" ++ ", ".intercalate date ++ ")"
  | some time => "datetime.datetime(" ++ ", ".intercalate (date ++ timeShownInside time) ++ ")"

/-- The number of days up to a date. -/
def dayNumber (moment : Moment) : Nat :=
  let years := moment.year - 1
  let months := (List.range (moment.month - 1)).map fun month ↦ daysIn moment.year (month + 1)
  years * 365 + years / 4 - years / 100 + years / 400 + months.foldl (· + ·) 0 + moment.day

/-- The microseconds up to a moment with an offset. -/
def instant? (moment : Moment) : Option Int := do
  let time ← moment.time
  let offset ← time.offset
  let minutes : Int := (dayNumber moment * 24 + time.hour) * 60 + time.minute - offset
  return (minutes * 60 + time.second) * 1000000 + time.microsecond

/-- Whether two moments are the same. -/
def isSame (a b : Moment) : Bool :=
  match a.instant?, b.instant? with
  | some m, some n => m = n
  | none, none => a = b
  | _, _ => false

end Moment

end ClientGen.Yaml
