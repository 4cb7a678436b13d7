import QueryBinding.Nearest
import QueryBinding.Text.Numeral

/-! Moments in UTC, counted in milliseconds from the start of 1970, as dates
and times of day of the Gregorian calendar. Years are taken to begin in
March, so that a leap day is the last day of its year. A clock counts whole
seconds, which it keeps as a double, and its years have 32 bits. -/

namespace QueryBinding

structure Moment where
  year : Int
  month : Nat
  day : Nat
  hour : Nat
  minute : Nat
  second : Nat
  millisecond : Nat
  deriving DecidableEq, Repr

/-- Why a clock has no moment for a count of milliseconds, or no text for a
moment. -/
inductive ClockFault where
  | infinite
  | wideSeconds
  | farYear
  | wideYear
  /-- A NUL in the pattern. -/
  | embeddedNull
  deriving DecidableEq, Repr

def ClockFault.text : ClockFault → String
  | infinite => "int too large to convert to float"
  | wideSeconds => "timestamp out of range for platform time_t"
  | farYear => "[Errno 75] Value too large for defined data type"
  | wideYear => "signed integer is greater than maximum"
  | embeddedNull => "embedded null character"

namespace Moment

/-- Year, month and day of a count of days from the start of 1970. -/
def date (days : Int) : Int × Nat × Nat :=
  let z := days + 719468
  let era := z.fdiv 146097
  let doe := (z - era * 146097).toNat
  let yoe := (doe - doe / 1460 + doe / 36524 - doe / 146096) / 365
  let doy := doe - (365 * yoe + yoe / 4 - yoe / 100)
  let m := (5 * doy + 2) / 153
  let month := if m < 10 then m + 3 else m - 9
  (yoe + era * 400 + (if month ≤ 2 then 1 else 0), month, doy - (153 * m + 2) / 5 + 1)

def ofSeconds (seconds : Int) (millisecond : Nat) : Moment :=
  let (year, month, day) := date (seconds.fdiv 86400)
  let t := (seconds.fmod 86400).toNat
  ⟨year, month, day, t / 3600, t / 60 % 60, t % 60, millisecond⟩

def ofMilliseconds (ms : Int) : Moment := ofSeconds (ms.fdiv 1000) (ms.fmod 1000).toNat

/-- The moment by a clock. Its years count from 1900. -/
def ofClock (ms : Int) : Except ClockFault Moment :=
  let seconds := Nearest.double (ms.fdiv 1000)
  if Nat.pow 2 1024 ≤ seconds.natAbs then .error .infinite
  else if seconds < -Int.pow 2 63 ∨ Int.pow 2 63 < seconds then .error .wideSeconds
  else
    let m := ofSeconds seconds (ms.fmod 1000).toNat
    if m.year - 1900 < -Int.pow 2 31 ∨ Int.pow 2 31 ≤ m.year - 1900 then .error .farYear else .ok m

/-- What a percent sign before `c` stands for. -/
def field (m : Moment) (c : Char) : List Char :=
  match c with
  | 'Y' => Numeral.ofInt m.year
  | 'y' => Numeral.padded 2 (m.year.fmod 100).toNat
  | 'm' => Numeral.padded 2 m.month
  | 'd' => Numeral.padded 2 m.day
  | 'H' => Numeral.padded 2 m.hour
  | 'M' => Numeral.padded 2 m.minute
  | 'S' => Numeral.padded 2 m.second
  | '%' => ['%']
  | c => ['%', c]

def fill (m : Moment) : List Char → List Char
  | [] => []
  | '%' :: c :: cs => m.field c ++ fill m cs
  | c :: cs => c :: fill m cs

/-- The moment by a pattern; the empty pattern stands for the usual form, which
is the only one with milliseconds. -/
def text (m : Moment) (pattern : String) : String :=
  if pattern = "" then
    String.ofList (m.fill "%Y-%m-%d %H:%M:%S".toList ++ ',' :: Numeral.padded 3 m.millisecond)
  else String.ofList (m.fill pattern.toList)

/-- The moment by a pattern that has to be sound, in a year of 32 bits. -/
def stamp (m : Moment) (pattern : String) : Except ClockFault String :=
  if Int.pow 2 31 ≤ m.year then .error .wideYear
  else if pattern.contains '\x00' then .error .embeddedNull
  else .ok (m.text pattern)

end Moment

end QueryBinding
