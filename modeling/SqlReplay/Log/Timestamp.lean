import SqlReplay.Text.Basic

/-! Moments and their texts. Dates are those of the Gregorian calendar, in universal time. Moments
that are too far away have no text. -/

namespace SqlReplay.Log

/-- Seconds since the beginning of 1970, and milliseconds after that. -/
structure Timestamp where
  seconds : Int
  milliseconds : Int
  deriving DecidableEq

structure Date where
  year : Int
  month : Nat
  day : Nat
  deriving DecidableEq

/-- The date so many days after the first of January 1970. Years are counted from March on, so that
a leap day comes last; an era of 400 years has 146097 days. -/
def Date.ofDays (days : Int) : Date :=
  let sinceZero := days + 719468
  let era := sinceZero / 146097
  let dayOfEra := (sinceZero % 146097).toNat
  let yearOfEra := (dayOfEra - dayOfEra / 1460 + dayOfEra / 36524 - dayOfEra / 146096) / 365
  let dayOfYear := dayOfEra - (365 * yearOfEra + yearOfEra / 4 - yearOfEra / 100)
  let monthFromMarch := (5 * dayOfYear + 2) / 153
  let month := if monthFromMarch < 10 then monthFromMarch + 3 else monthFromMarch - 9
  ⟨yearOfEra + era * 400 + (if month ≤ 2 then 1 else 0), month,
    dayOfYear - (153 * monthFromMarch + 2) / 5 + 1⟩

def Date.text (d : Date) : Text :=
  Text.ofInt d.year ++ '-' :: Text.zeroPadded 2 d.month ++ '-' :: Text.zeroPadded 2 d.day

def timeOfDay (second : Nat) : Text :=
  Text.zeroPadded 2 (second / 3600) ++ ':' :: Text.zeroPadded 2 (second / 60 % 60) ++
    ':' :: Text.zeroPadded 2 (second % 60)

def millisecondText (n : Int) : Text :=
  if n < 0 then '-' :: Text.zeroPadded 2 n.natAbs else Text.zeroPadded 3 n.natAbs

inductive TimeFault
  | secondsOutOfRange
  | dateOutOfRange
  | yearTooLarge
  deriving DecidableEq

def TimeFault.message : TimeFault → Text
  | .secondsOutOfRange => "timestamp out of range for platform time_t"
  | .dateOutOfRange => "[Errno 75] Value too large for defined data type"
  | .yearTooLarge => "signed integer is greater than maximum"

/-- Dates count their years from 1900 in 32 bits, and are written by years in 32 bits. -/
def Date.fault? (d : Date) : Option TimeFault :=
  if d.year - 1900 < -Int.pow 2 31 ∨ Int.pow 2 31 ≤ d.year - 1900 then some .dateOutOfRange
  else if Int.pow 2 31 ≤ d.year then some .yearTooLarge
  else none

def Timestamp.text (t : Timestamp) : Except TimeFault Text :=
  if t.seconds < -Int.pow 2 63 ∨ Int.pow 2 63 ≤ t.seconds then .error .secondsOutOfRange
  else
    let date := Date.ofDays (t.seconds / 86400)
    match date.fault? with
    | some fault => .error fault
    | none => .ok <| date.text ++ ' ' :: timeOfDay (t.seconds % 86400).toNat ++
        ',' :: millisecondText t.milliseconds

end SqlReplay.Log
