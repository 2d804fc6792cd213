import PolicyRollout.Text.Basic
/-!
Moments in time as text: date and time of day in the Gregorian calendar, at
longitude zero.  The id of a run holds the milliseconds at which it was made,
so that ids sort by time, and random bits, so that no two are equal.
-/
namespace PolicyRollout

/-- A moment, by the nanoseconds since the year 1970 began. -/
structure Instant where
  nanoseconds : Nat
deriving DecidableEq, Repr

namespace Instant

structure Date where
  year : Nat
  month : Nat
  day : Nat
deriving DecidableEq, Repr

/-- The date so many days after the first of March of the year 0.  Years are
counted from March, so that a leap day is the last day of its year. -/
def dateFromMarch (days : Nat) : Date :=
  let era := days / 146097
  let dayOfEra := days % 146097
  let yearOfEra := (dayOfEra - dayOfEra / 1460 + dayOfEra / 36524 - dayOfEra / 146096) / 365
  let dayOfYear := dayOfEra - (365 * yearOfEra + yearOfEra / 4 - yearOfEra / 100)
  let monthFromMarch := (5 * dayOfYear + 2) / 153
  let day := dayOfYear - (153 * monthFromMarch + 2) / 5 + 1
  let year := 400 * era + yearOfEra
  if monthFromMarch < 10 then ⟨year, monthFromMarch + 3, day⟩
  else ⟨year + 1, monthFromMarch - 9, day⟩

/-- The days from the first of March of the year 0 to the first of January of 1970. -/
def daysTo1970 : Nat := 719468

def nanosPerSecond : Nat := 1000000000

/-- A number with zeros before it. -/
def padded (width n : Nat) : String :=
  let digits := Text.decimal n
  String.ofList (List.replicate (width - digits.length) '0' ++ digits)

/-- The moment with so many places of the second. -/
def textWith (places : Nat) (t : Instant) : String :=
  let seconds := t.nanoseconds / nanosPerSecond
  let date := dateFromMarch (seconds / 86400 + daysTo1970)
  let time := seconds % 86400
  let fraction := padded places (t.nanoseconds % nanosPerSecond / Nat.pow 10 (9 - places))
  padded 4 date.year ++ "-" ++ padded 2 date.month ++ "-" ++ padded 2 date.day ++ "T" ++
    padded 2 (time / 3600) ++ ":" ++ padded 2 (time / 60 % 60) ++ ":" ++ padded 2 (time % 60) ++
    (if places = 0 then "" else "." ++ fraction) ++ "Z"

/-- The moment with as many places, in threes, as it takes. -/
def text (t : Instant) : String :=
  let fraction := t.nanoseconds % nanosPerSecond
  t.textWith (if fraction = 0 then 0 else if fraction % 1000000 = 0 then 3
    else if fraction % 1000 = 0 then 6 else 9)

/-- The last second of a leap day that ends a century. -/
example : textWith 0 ⟨951868799000000000⟩ = "2000-02-29T23:59:59Z" := by cbv

/-- A moment with microseconds. -/
example : text ⟨1700000000000001000⟩ = "2023-11-14T22:13:20.000001Z" := by cbv

end Instant

section RunId

/-- So many hexadecimal digits of a number, the last ones. -/
def hexDigits : (width : Nat) → Nat → List Char
  | 0, _ => []
  | width + 1, n => hexDigits width (n / 16) ++ [Text.hexDigit n]

/-- The id made at a moment from a random number of 74 bits. -/
def runId (milliseconds random : Nat) : String :=
  let time := hexDigits 12 milliseconds
  let groups := [time.take 8, time.drop 8, '7' :: hexDigits 3 (random / 0x4000000000000000),
    hexDigits 4 (0x8000 + random / 0x1000000000000 % 0x4000), hexDigits 12 random]
  String.ofList (['-'].intercalate groups)

/-- An id of no time and no bits. -/
example : runId 0 0 = "00000000-0000-7000-8000-000000000000" := by cbv

/-- An id of all bits. -/
example : runId 0xFFFFFFFFFFFF 0x3FFFFFFFFFFFFFFFFFF = "ffffffff-ffff-7fff-bfff-ffffffffffff" := by cbv

end RunId

end PolicyRollout
