import SnippetBench.Data.Basic
import SnippetBench.Number.Numeral
import SnippetBench.Yaml.Fault
import SnippetBench.Yaml.Tag

/-!
# Timestamps in YAML

A timestamp is a date, or a date and a time of the day with an offset from universal time, if any.
Each part has to be in its range, and an offset less than a day. Two times with an offset are the
same if they are the same instant; dates and times without an offset are the same if their parts
are.
-/

namespace SnippetBench.Yaml

/-- Whether a year has a 29th of February. -/
def isLeap (year : Nat) : Bool := year % 4 = 0 && (year % 100 ≠ 0 || year % 400 = 0)

/-- The number of days in a month. -/
def daysIn (year month : Nat) : Nat :=
  if month = 2 then (if isLeap year then 29 else 28)
  else if [4, 6, 9, 11].contains month then 30
  else 31

/-- The number of days before a date, counted from the first day of the year one. -/
def daysBefore (year month day : Nat) : Nat :=
  let years := year - 1
  let months := (List.range (month - 1)).foldl (fun n m => n + daysIn year (m + 1)) 0
  365 * years + years / 4 - years / 100 + years / 400 + months + (day - 1)

/-- The number that decimal digits write. -/
def decimal (t : Text) : Nat := Number.Numeral.ofDigits 10 (t.filterMap Number.Numeral.asciiDigit?)

/-- Parts in parentheses behind a name. -/
def called (name : Text) (parts : List Text) : Text := name ++ '(' :: Text.join ", " parts ++ [')']

/-- The minutes of an offset from universal time. -/
def zoneMinutes (z : Tag.Zone) : Int :=
  let size : Int := decimal z.hours * 60 + decimal z.minutes
  if z.negative then -size else size

/-- The way a span of minutes is shown: in days and the seconds left. -/
def showSpan (minutes : Int) : Text :=
  let part (name : Text) (n : Int) : List Text := if n = 0 then [] else [name ++ Text.ofInt n]
  called "datetime.timedelta"
    (part "days=" (minutes.fdiv 1440) ++ part "seconds=" (minutes.fmod 1440 * 60))

/-- The way an offset from universal time is shown. -/
def showZone (minutes : Int) : Text :=
  if minutes = 0 then "datetime.timezone.utc"
  else called "datetime.timezone" [showSpan minutes]

/-- Reads an offset from universal time, in minutes. -/
def readZone (z : Tag.Zone) : Except Unreadable Int :=
  let minutes := zoneMinutes z
  if minutes.natAbs < 1440 then .ok minutes
  else .error (.range ("offset must be a timedelta strictly between -timedelta(hours=24) and "
    ++ "timedelta(hours=24), not ".toList ++ showSpan minutes ++ ['.']))

/-- Refuses a part of a timestamp that is out of its range. -/
def requireRange (inRange : Bool) (message : Text) : Except Unreadable Unit :=
  if inRange then .ok () else .error (.range message)

/-- The numbers without zeros at the end, of which at most two are dropped. -/
def dropZeros (parts : List Nat) : List Nat :=
  match parts.reverse with
  | 0 :: 0 :: rest => rest.reverse
  | 0 :: rest => rest.reverse
  | _ => parts

/-- A timestamp as data, with the instant of one that has an offset, in microseconds. -/
structure Moment where
  data : Data
  instant? : Option Int

/-- Reads a timestamp. -/
def readTimestamp (t : Text) : Except Unreadable Moment := do
  match Tag.stamp? (Tag.withoutBreak t) with
  | none => throw .timestamp
  | some s =>
    let year := decimal s.year
    let month := decimal s.month
    let day := decimal s.day
    let zone ← (s.clock.bind (·.zone)).mapM readZone
    requireRange (year ≠ 0) "year 0 is out of range"
    requireRange (1 ≤ month && month ≤ 12) "month must be in 1..12"
    requireRange (1 ≤ day && day ≤ daysIn year month) "day is out of range for month"
    match s.clock with
    | none =>
      let parts := [year, month, day].map Text.ofNat
      return ⟨.other "date" (called "datetime.date" parts), none⟩
    | some c =>
      let hour := decimal c.hour
      let minute := decimal c.minute
      let second := decimal c.second
      let micro := decimal ((c.fraction ++ List.replicate 6 '0').take 6)
      requireRange (hour ≤ 23) "hour must be in 0..23"
      requireRange (minute ≤ 59) "minute must be in 0..59"
      requireRange (second ≤ 59) "second must be in 0..59"
      let parts := (dropZeros [year, month, day, hour, minute, second, micro]).map Text.ofNat
      let zoned := (zone.map fun z => "tzinfo=".toList ++ showZone z).toList
      let minutes : Int := (daysBefore year month day * 24 + hour) * 60 + minute
      let instant (z : Int) : Int := ((minutes - z) * 60 + second) * 1000000 + micro
      return ⟨.other "datetime" (called "datetime.datetime" (parts ++ zoned)), zone.map instant⟩

end SnippetBench.Yaml
