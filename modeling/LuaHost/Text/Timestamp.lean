/-!
# Timestamps

A moment, given in milliseconds since the start of 1970, as RFC 3339 writes it in universal time.
-/

namespace LuaHost.Text

/-- The year, month and day that lie a number of days after the start of 1970. -/
def civilDate (days : Nat) : Nat × Nat × Nat :=
  let shifted := days + 719468
  let era := shifted / 146097
  let dayOfEra := shifted % 146097
  let yearOfEra := (dayOfEra - dayOfEra / 1460 + dayOfEra / 36524 - dayOfEra / 146096) / 365
  let dayOfYear := dayOfEra - (365 * yearOfEra + yearOfEra / 4 - yearOfEra / 100)
  let shiftedMonth := (5 * dayOfYear + 2) / 153
  let day := dayOfYear - (153 * shiftedMonth + 2) / 5 + 1
  let month := if shiftedMonth < 10 then shiftedMonth + 3 else shiftedMonth - 9
  let year := yearOfEra + era * 400
  (if month ≤ 2 then year + 1 else year, month, day)

/-- The digits of a number, with zeros in front up to a width. -/
def padded (width n : Nat) : String :=
  let digits := Nat.toDigits 10 n
  String.ofList (List.replicate (width - digits.length) '0' ++ digits)

/-- A moment as text; a whole second has no fraction. -/
def timestamp (millis : Nat) : String :=
  let seconds := millis / 1000
  let (year, month, day) := civilDate (seconds / 86400)
  let fraction := if millis % 1000 = 0 then "" else "." ++ padded 3 (millis % 1000)
  padded 4 year ++ "-" ++ padded 2 month ++ "-" ++ padded 2 day ++ "T" ++
    padded 2 (seconds / 3600 % 24) ++ ":" ++ padded 2 (seconds / 60 % 60) ++ ":" ++
    padded 2 (seconds % 60) ++ fraction ++ "+00:00"

example : timestamp 951782400123 = "2000-02-29T00:00:00.123+00:00" := by decide +kernel

end LuaHost.Text
