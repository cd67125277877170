import CallScript.Shell.Interval
import CallScript.Text.Pieces

/-!
# Dates

The moments that texts name, in nanoseconds from the beginning of 1970. A date is written with
dashes, a time of day with colons; a number of seconds stands behind an at sign, and a distance from
now is a number and a unit. All times are universal. A day is written as the date that is read as
that day: `Calendar.daysTo_dateOf`.
-/

namespace CallScript.Shell.Calendar

/-- The days from the beginning of 1970 to a day. The year begins in March, so that the day that
only some years have is its last. -/
def daysTo (year month day : Nat) : Int :=
  let year : Int := if month ≤ 2 then year - 1 else year
  let era := year.fdiv 400
  let yearOfEra := year - era * 400
  let monthOfYear : Int := (month + 9) % 12
  let dayOfYear := (153 * monthOfYear + 2) / 5 + day - 1
  let dayOfEra := yearOfEra * 365 + yearOfEra / 4 - yearOfEra / 100 + dayOfYear
  era * 146097 + dayOfEra - 719468

/-- Days are counted by eras of 400 years, each of which has the same number of days. -/
theorem daysTo_eq {yearOfEra : Nat} (bound : yearOfEra < 400) (era month day : Nat) :
    daysTo (yearOfEra + era * 400 + (if month ≤ 2 then 1 else 0)) month day =
      era * 146097 + (365 * yearOfEra + yearOfEra / 4 - yearOfEra / 100 : Nat) +
        (((153 * ((month + 9) % 12) + 2) / 5 : Nat) + day - 1) - 719468 := by
  have marchYear : (if month ≤ 2
      then ((yearOfEra + era * 400 + (if month ≤ 2 then 1 else 0) : Nat) : Int) - 1
      else (yearOfEra + era * 400 + (if month ≤ 2 then 1 else 0) : Nat)) =
        (yearOfEra + era * 400 : Nat) := by
    split <;> omega
  have inEra : ((yearOfEra + era * 400 : Nat) : Int).fdiv 400 = era := by
    rw [Int.fdiv_eq_ediv_of_nonneg _ (by decide)]
    omega
  unfold daysTo
  rw [marchYear]
  dsimp only
  rw [inEra]
  omega

/-- Year, month and day of a day counted from the beginning of 1970. -/
def dateOf (days : Nat) : Nat × Nat × Nat :=
  let days := days + 719468
  let (era, dayOfEra) := (days / 146097, days % 146097)
  let yearOfEra := (dayOfEra - dayOfEra / 1460 + dayOfEra / 36524 - dayOfEra / 146096) / 365
  let dayOfYear := dayOfEra - (365 * yearOfEra + yearOfEra / 4 - yearOfEra / 100)
  let monthOfYear := (5 * dayOfYear + 2) / 153
  let day := dayOfYear - (153 * monthOfYear + 2) / 5 + 1
  let month := if monthOfYear < 10 then monthOfYear + 3 else monthOfYear - 9
  (yearOfEra + era * 400 + (if month ≤ 2 then 1 else 0), month, day)

theorem yearOfEra_spec {n y : Nat} (bound : n < 146097)
    (isYear : y = (n - n / 1460 + n / 36524 - n / 146096) / 365) :
    y < 400 ∧ 365 * y + y / 4 - y / 100 ≤ n ∧ n ≤ 365 * y + y / 4 - y / 100 + 365 := by
  have century : n / 36524 = 0 ∨ n / 36524 = 1 ∨ n / 36524 = 2 ∨ n / 36524 = 3 ∨
      n / 36524 = 4 := by omega
  have last : n / 146096 = if n / 36524 = 4 then 1 else 0 := by split <;> omega
  rw [last] at isYear
  -- century by century of the era, the last of which is a day longer
  obtain first | first | first | first | first := century
  all_goals
    rw [first] at isYear
    simp only [Nat.reduceEqDiff, ↓reduceIte] at isYear
    have passed : y / 100 = min 3 (n / 36524) := by omega
    rw [passed, first]
    omega

/-- The date of a day counts back to that day. -/
theorem daysTo_dateOf (days : Nat) :
    daysTo (dateOf days).1 (dateOf days).2.1 (dateOf days).2.2 = days := by
  unfold dateOf
  generalize shifted : days + 719468 = n
  dsimp only
  have bound : n % 146097 < 146097 := Nat.mod_lt _ (by decide)
  obtain ⟨below, starts, ends⟩ := yearOfEra_spec bound rfl
  rw [daysTo_eq below]
  generalize (n % 146097 - n % 146097 / 1460 + n % 146097 / 36524 - n % 146097 / 146096) / 365 =
    year at *
  generalize isDay : n % 146097 - (365 * year + year / 4 - year / 100) = dayOfYear
  have inYear : (5 * dayOfYear + 2) / 153 < 12 := by omega
  have month : ((if (5 * dayOfYear + 2) / 153 < 10 then (5 * dayOfYear + 2) / 153 + 3
      else (5 * dayOfYear + 2) / 153 - 9) + 9) % 12 = (5 * dayOfYear + 2) / 153 := by
    split <;> omega
  rw [month]
  omega

example : dateOf 0 = (1970, 1, 1) := by decide

def padded (width n : Nat) : String :=
  let digits := Nat.toDigits 10 n
  String.ofList (List.replicate (width - digits.length) '0' ++ digits)

def text (moment : Nat) : String :=
  let seconds := moment / secondLength
  let (year, month, day) := dateOf (seconds / 86400)
  padded 4 year ++ "-" ++ padded 2 month ++ "-" ++ padded 2 day ++ " " ++
    padded 2 (seconds / 3600 % 24) ++ ":" ++ padded 2 (seconds / 60 % 60) ++ ":" ++
    padded 2 (seconds % 60) ++ "." ++ padded 9 (moment % secondLength) ++ " +0000"

def isLeap (year : Nat) : Bool := year % 4 = 0 && (year % 100 ≠ 0 || year % 400 = 0)

def daysIn (year month : Nat) : Nat :=
  if month = 2 then if isLeap year then 29 else 28
  else if [4, 6, 9, 11].contains month then 30
  else 31

def secondsAt? (year month day hour minute second : Nat) : Option Int := do
  guard (1 ≤ month && month ≤ 12 && 1 ≤ day && day ≤ daysIn year month)
  guard (hour < 24 && minute < 60 && second ≤ 60)
  return daysTo year month day * 86400 + hour * 3600 + minute * 60 + second

/-- A moment in nanoseconds. All before 1970 counts as its beginning. -/
def momentOf (seconds : Int) (fraction : Nat) : Nat := seconds.toNat * secondLength + fraction

def numbers? (mark : Char) (text : List Char) : Option (List Nat) :=
  (Text.pieces mark text).mapM Number.natural?

def fractionOf (digits : List Char) : Nat :=
  Number.ofDigits 10 ((digits ++ List.replicate 9 '0').take 9)

/-- A time of day: hour, minute, second and nanoseconds. -/
def timeOfDay? (text : List Char) : Option (Nat × Nat × Nat × Nat) := do
  let text := if text.getLast? = some 'Z' then text.dropLast else text
  let whole := text.takeWhile (· ≠ '.')
  let fraction := text.drop (whole.length + 1)
  guard (fraction.all Char.isDigit)
  match ← numbers? ':' whole with
  | [hour, minute] => return (hour, minute, 0, fractionOf fraction)
  | [hour, minute, second] => return (hour, minute, second, fractionOf fraction)
  | _ => none

def units : List (String × Nat) :=
  [("sec", 1), ("second", 1), ("min", 60), ("minute", 60), ("hour", 3600), ("day", 86400),
    ("week", 604800), ("fortnight", 1209600), ("month", 2592000), ("year", 31536000)]

def unit? (word : List Char) : Option Nat :=
  let word := if word.getLast? = some 's' then word.dropLast else word
  units.lookup (String.ofList word)

def distance? : List (List Char) → Option Int
  | [word] =>
      [("now", (0 : Int)), ("today", 0), ("yesterday", -86400), ("tomorrow", 86400)].lookup
        (String.ofList word)
  | [number, word] => do
      let (negative, digits) := Number.splitSign number
      let size ← Number.natural? digits
      let unit ← unit? word
      return if negative then -(size * unit : Nat) else (size * unit : Nat)
  | [number, word, ago] => do
      guard (ago = "ago".toList)
      let size ← Number.natural? number
      let unit ← unit? word
      return -(size * unit : Nat)
  | _ => none

def moment? (now : Nat) (text : String) : Option Nat :=
  let words := (Text.pieces ' ' (text.toList.map fun c => if c = 'T' then ' ' else c)).filter
    fun word => !word.isEmpty && word ≠ "UTC".toList
  match words with
  | [] => some (momentOf (now / secondLength / 86400 * 86400 : Nat) 0)
  | ['@' :: seconds] => do
      let whole := seconds.takeWhile (· ≠ '.')
      let fraction := seconds.drop (whole.length + 1)
      guard (fraction.all Char.isDigit)
      return momentOf (← Number.natural? whole) (fractionOf fraction)
  | date :: rest =>
      let day? : Option (Nat × Nat × Nat) :=
        match numbers? '-' date, numbers? '/' date with
        | some [year, month, day], _ => some (year, month, day)
        | _, some [year, month, day] => some (year, month, day)
        | _, _ => none
      match day?, rest with
      | some (year, month, day), [] => do
          return momentOf (← secondsAt? year month day 0 0 0) 0
      | some (year, month, day), [time] => do
          let (hour, minute, second, fraction) ← timeOfDay? time
          return momentOf (← secondsAt? year month day hour minute second) fraction
      | some _, _ => none
      | none, _ => do
          let seconds := (now / secondLength : Nat) + (← distance? words)
          return momentOf seconds (now % secondLength)

def pair? (digits : List Char) : Option Nat := do
  guard (digits.length ≥ 2)
  Number.natural? (digits.take 2)

/-- The moment that a stamp means: month, day, hour and minute with two digits each, a year with two
or four digits before them, and seconds behind a point. -/
def stamp? (now : Nat) (text : String) : Option Nat := do
  let whole := text.toList.takeWhile (· ≠ '.')
  let behind := text.toList.drop (whole.length + 1)
  let second ← if whole.length < text.length then do
      guard (behind.length = 2)
      Number.natural? behind
    else some 0
  guard (whole.all Char.isDigit)
  let year ←
    match whole.length with
    | 8 => some (1970 + now / secondLength / 31556952)
    | 10 => do
        let year ← pair? whole
        return if year < 69 then 2000 + year else 1900 + year
    | 12 => Number.natural? (whole.take 4)
    | _ => none
  let rest := whole.drop (whole.length - 8)
  let seconds ← secondsAt? year (← pair? rest) (← pair? (rest.drop 2)) (← pair? (rest.drop 4))
    (← pair? (rest.drop 6)) second
  return momentOf seconds 0

end CallScript.Shell.Calendar
