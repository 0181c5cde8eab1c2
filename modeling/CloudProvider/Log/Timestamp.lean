/-!
Times in the log: date and time of day, to the second.
-/

namespace CloudProvider.Timestamp

structure Date where
  year : Nat
  month : Nat
  day : Nat
  deriving DecidableEq, Repr

/-- The date a number of days after the first of January 1970. Years are counted from March, so that a
leap day is the last day of its year; four hundred years have 146097 days. -/
def dateOf (days : Nat) : Date :=
  let shifted := days + 719468
  let era := shifted / 146097
  let dayOfEra := shifted % 146097
  let yearOfEra := (dayOfEra - dayOfEra / 1460 + dayOfEra / 36524 - dayOfEra / 146096) / 365
  let dayOfYear := dayOfEra - (365 * yearOfEra + yearOfEra / 4 - yearOfEra / 100)
  let monthFromMarch := (5 * dayOfYear + 2) / 153
  let month := if monthFromMarch < 10 then monthFromMarch + 3 else monthFromMarch - 9
  ⟨yearOfEra + era * 400 + (if month ≤ 2 then 1 else 0), month,
    dayOfYear - (153 * monthFromMarch + 2) / 5 + 1⟩

example : dateOf 0 = ⟨1970, 1, 1⟩ ∧ dateOf 11016 = ⟨2000, 2, 29⟩ ∧ dateOf 19723 = ⟨2024, 1, 1⟩ := by decide

/-- A number in at least so many digits. -/
def padded (width n : Nat) : String :=
  let digits := toString n
  String.ofList (List.replicate (width - digits.length) '0') ++ digits

/-- The time a number of seconds after the beginning of 1970. -/
def text (seconds : Nat) : String :=
  let date := dateOf (seconds / 86400)
  let time := seconds % 86400
  s!"{padded 4 date.year}-{padded 2 date.month}-{padded 2 date.day}T" ++
    s!"{padded 2 (time / 3600)}:{padded 2 (time / 60 % 60)}:{padded 2 (time % 60)}Z"

end CloudProvider.Timestamp
