import SettingsForm.Calendar.Instant
import SettingsForm.Text.Blank

/-!
# Timestamps

The written form of an instant is `YYYY-MM-DDTHH:MM:SS` in UTC, then the fraction in three, six or
nine digits unless it is zero, then `Z`; a year of more or fewer than four digits carries its sign.
Reading is lenient: fields may have fewer digits and blank characters around them, the separator may
be small or a space, and the offset may be `Z`, `UTC` or hours and minutes.
-/

namespace SettingsForm.Timestamp

/-- The decimal digits of a number, with zeros in front up to a width. -/
def padded (width n : Nat) : String :=
  let digits := toString n
  String.ofList (List.replicate (width - digits.length) '0') ++ digits

/-- A year in four digits, with a sign when it needs more or is before the year zero. -/
def writeYear (year : Int) : String :=
  if 0 ≤ year ∧ year ≤ 9999 then padded 4 year.toNat
  else (if year < 0 then "-" else "+") ++ padded 4 year.natAbs

/-- The fraction of a second, in as few groups of three digits as it takes. -/
def writeFraction (nano : Nat) : String :=
  if nano = 0 then ""
  else if nano % 1000000 = 0 then "." ++ padded 3 (nano / 1000000)
  else if nano % 1000 = 0 then "." ++ padded 6 (nano / 1000)
  else "." ++ padded 9 nano

/-- The written form of an instant. -/
def write (t : Instant) : String :=
  let date := Date.ofDays (t.second / secondsPerDay)
  let second := (t.second % secondsPerDay).toNat
  let leap := if nanosPerSecond ≤ t.nano then 1 else 0
  writeYear date.year ++ "-" ++ padded 2 date.month ++ "-" ++ padded 2 date.day ++ "T" ++
    padded 2 (second / 3600) ++ ":" ++ padded 2 (second / 60 % 60) ++ ":" ++
    padded 2 (second % 60 + leap) ++ writeFraction (t.nano - leap * nanosPerSecond) ++ "Z"

/-! ## Reading

A reader takes what it reads from the front of the text and leaves the rest. -/

/-- Takes what it reads from the front of some characters. -/
abbrev Reader (α : Type) := StateT (List Char) Option α

/-- Skips blank characters. -/
def skipBlank : Reader Unit := modify fun cs => cs.dropWhile Text.isBlank

/-- Takes one given character. -/
def literal (c : Char) : Reader Unit := fun cs =>
  match cs with
  | d :: rest => if d = c then some ((), rest) else none
  | [] => none

/-- The value of some digits. -/
def digitsValue (ds : List Char) : Nat := ds.foldl (fun n d => n * 10 + (d.toNat - '0'.toNat)) 0

/-- Takes at least one digit and at most `limit` of them. -/
def number (limit : Nat) : Reader Nat := fun cs =>
  let ds := (cs.take limit).takeWhile Char.isDigit
  if ds.isEmpty then none else some (digitsValue ds, cs.drop ds.length)

/-- Takes a number of up to two digits in a range, with blank characters before it. -/
def field (low high : Nat) : Reader Nat := do
  skipBlank
  let n ← number 2
  if low ≤ n ∧ n ≤ high then pure n else failure

/-- Takes a year: up to four digits, or a sign and any number of digits. -/
def year : Reader Int := do
  skipBlank
  match ← get with
  | '-' :: rest => do
    set rest
    return -(Int.ofNat (← number rest.length))
  | '+' :: rest => do
    set rest
    return Int.ofNat (← number rest.length)
  | _ => return Int.ofNat (← number 4)

/-- Takes a separator that may have blank characters before it. -/
def separator (c : Char) : Reader Unit := do
  skipBlank
  literal c

/-- Takes a fraction in nanoseconds, if there is one; digits after the ninth do not count. -/
def fraction : Reader Nat := do
  match ← get with
  | '.' :: rest => do
    let ds := rest.takeWhile Char.isDigit
    if ds.isEmpty then failure
    else do
      set (rest.drop ds.length)
      let kept := ds.take 9
      return digitsValue (kept ++ List.replicate (9 - kept.length) '0')
  | _ => return 0

/-- Takes exactly two digits. -/
def twoDigits : Reader Nat := fun cs =>
  match cs with
  | a :: b :: rest =>
    if a.isDigit && b.isDigit then some (digitsValue [a, b], rest) else none
  | _ => none

/-- Takes an offset from UTC, in seconds. -/
def offset : Reader Int := do
  let cs ← get
  if (cs.take 3).map Char.toUpper = ['U', 'T', 'C'] then do
    set (cs.drop 3)
    return 0
  else
    match cs with
    | 'Z' :: rest => do set rest; return 0
    | 'z' :: rest => do set rest; return 0
    | sign :: rest =>
      if sign = '+' ∨ sign = '-' ∨ sign = '\u2212' then do
        set rest
        let hours ← twoDigits
        modify fun cs => cs.dropWhile fun c => c = ':' || Text.isBlank c
        let minutes ← twoDigits
        if minutes < 60 then
          let seconds := Int.ofNat (hours * 3600 + minutes * 60)
          return if sign = '+' then seconds else -seconds
        else failure
      else failure
    | [] => failure

/-- Takes the separator between date and time. -/
def dateSeparator : Reader Unit := fun cs =>
  match cs with
  | c :: rest => if c = 'T' ∨ c = 't' ∨ c = ' ' then some ((), rest) else none
  | [] => none

/-- Takes a whole timestamp and the blank characters after it. -/
def instant : Reader Instant := do
  let y ← year
  separator '-'
  let month ← field 1 12
  separator '-'
  let day ← field 1 31
  dateSeparator
  let hour ← field 0 23
  separator ':'
  let minute ← field 0 59
  separator ':'
  let second ← field 0 60
  let nano ← fraction
  skipBlank
  let off ← offset
  skipBlank
  let date : Date := ⟨y, month, day⟩
  let leap := if second = 60 then 1 else 0
  let clock := date.toDays * secondsPerDay + Int.ofNat (hour * 3600 + minute * 60 + (second - leap))
  let utc := clock - off
  if date.isValid && decide (off.natAbs < 86400) &&
      Date.inRange (Date.ofDays (utc / secondsPerDay)).year then
    return ⟨utc, nano + leap * nanosPerSecond⟩
  else failure

/-- The instant that a text names. -/
def read? (s : String) : Option Instant :=
  match instant s.toList with
  | some (t, []) => some t
  | _ => none

end SettingsForm.Timestamp
