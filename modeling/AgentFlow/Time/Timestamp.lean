import AgentFlow.Text.Blank

/-!
# Points in time

A point in time in UTC, its RFC 3339 text, and the reader of such texts. The reader is lenient:
blanks may stand between the parts, a blank may stand in place of `T`, `UTC` in place of `Z`, years
may have a sign and more than four digits, and the colon of the offset may be missing. It checks
every part as it comes, so of two faults the one further left is reported; whether the parts make
up a date is asked last.

Dates are converted to day numbers and back in the calendar that starts its years in March, which
puts the leap day at the end.
-/

namespace AgentFlow

/-- A point in time. Leap seconds are not counted in `seconds`; within one `nanos` goes on beyond
`10 ^ 9`. -/
structure Timestamp where
  /-- Seconds since the start of 1970. -/
  seconds : Int
  /-- Billionths of a second since then. -/
  nanos : Nat
  deriving DecidableEq, Repr, Inhabited

/-- Why a text is no point in time. -/
inductive TimestampError where
  | outOfRange
  | impossible
  | invalid
  | tooShort
  | trailing
  deriving DecidableEq, Repr, Inhabited

/-- The text shown for a cause. -/
def TimestampError.message : TimestampError → String
  | outOfRange => "input is out of range"
  | impossible => "no possible date and time matching input"
  | invalid => "input contains invalid characters"
  | tooShort => "premature end of input"
  | trailing => "trailing input"

namespace Timestamp

/-! ### Days -/

/-- A day of the calendar. -/
structure Date where
  year : Int
  month : Nat
  day : Nat
  deriving DecidableEq, Repr

/-- Has a year a leap day? -/
def isLeap (year : Int) : Bool :=
  year % 4 == 0 && (year % 100 != 0 || year % 400 == 0)

/-- The length of a month. -/
def daysIn (year : Int) (month : Nat) : Nat :=
  if month = 2 then if isLeap year then 29 else 28
  else if [4, 6, 9, 11].contains month then 30
  else 31

namespace Date

/-- The first and the last year that can be told. -/
def firstYear : Int := -262143

@[inherit_doc firstYear]
def lastYear : Int := 262142

/-- Is this a day that there is? -/
def isValid (date : Date) : Bool :=
  firstYear ≤ date.year && date.year ≤ lastYear && 1 ≤ date.month && date.month ≤ 12 &&
    1 ≤ date.day && date.day ≤ daysIn date.year date.month

/-- The number of a day, counted from the first day of 1970. -/
def toDays (date : Date) : Int :=
  let year := if date.month ≤ 2 then date.year - 1 else date.year
  let inEra := year % 400
  let inYear : Int := (153 * ((date.month + 9) % 12) + 2) / 5 + date.day - 1
  year / 400 * 146097 + (inEra * 365 + inEra / 4 - inEra / 100 + inYear) - 719468

/-- The day with a number. -/
def ofDays (days : Int) : Date :=
  let era := (days + 719468) / 146097
  let inEra := (days + 719468) % 146097
  let years := (inEra - inEra / 1460 + inEra / 36524 - inEra / 146096) / 365
  let inYear := inEra - (365 * years + years / 4 - years / 100)
  let month := (5 * inYear + 2) / 153
  let day := inYear - (153 * month + 2) / 5 + 1
  let month := if month < 10 then month + 3 else month - 9
  ⟨years + era * 400 + (if month ≤ 2 then 1 else 0), month.toNat, day.toNat⟩

end Date

/-! ### Writing -/

/-- A number with at least so many digits. -/
def padded (width n : Nat) : List Char :=
  let digits := Nat.toDigits 10 n
  List.replicate (width - digits.length) '0' ++ digits

/-- A year: four digits, or a sign and at least four. -/
def yearText (year : Int) : List Char :=
  if 0 ≤ year && year ≤ 9999 then padded 4 year.toNat
  else (if year < 0 then '-' else '+') :: padded 4 year.natAbs

/-- The fraction of a second: none, or three, six or nine digits, the fewest that lose nothing. -/
def fractionText (nanos : Nat) : List Char :=
  if nanos = 0 then []
  else if nanos % 1000000 = 0 then '.' :: padded 3 (nanos / 1000000)
  else if nanos % 1000 = 0 then '.' :: padded 6 (nanos / 1000)
  else '.' :: padded 9 nanos

/-- The RFC 3339 text, in UTC. A leap second is second sixty. -/
def render (t : Timestamp) : String :=
  let date := Date.ofDays (t.seconds / 86400)
  let inDay := (t.seconds % 86400).toNat
  let leap := t.nanos / 1000000000
  String.ofList <|
    yearText date.year ++ '-' :: padded 2 date.month ++ '-' :: padded 2 date.day ++
      'T' :: padded 2 (inDay / 3600) ++ ':' :: padded 2 (inDay / 60 % 60) ++
      ':' :: padded 2 (inDay % 60 + leap) ++ fractionText (t.nanos % 1000000000) ++ ['Z']

/-! ### Reading -/

/-- A step of reading: looks at the rest of the text and takes some of it. -/
abbrev Scan := StateT (List Char) (Except TimestampError)

/-- Skips blanks. -/
def skipBlanks : Scan Unit :=
  modify Text.trimStart

/-- Takes a number of one to `most` digits. -/
def digits (most : Nat) : Scan Nat := do
  match ← get with
  | [] => throw .tooShort
  | c :: rest =>
    if !c.isDigit then throw .invalid
    let run := ((c :: rest).take most).takeWhile Char.isDigit
    set ((c :: rest).drop run.length)
    return run.foldl (fun n d => 10 * n + (d.toNat - '0'.toNat)) 0

/-- Takes a number behind blanks, and checks its range. -/
def part (low high : Nat) : Scan Nat := do
  skipBlanks
  let n ← digits 2
  if n < low || high < n then throw .outOfRange
  return n

/-- Takes a character. -/
def mark (c : Char) : Scan Unit := do
  match ← get with
  | [] => throw .tooShort
  | d :: rest => if d = c then set rest else throw .invalid

/-- Takes a character behind blanks. -/
def spacedMark (c : Char) : Scan Unit := do
  skipBlanks
  mark c

/-- Takes a year: four digits at most, or a sign and any number of digits. -/
def year : Scan Int := do
  skipBlanks
  let rest ← get
  let year : Int ←
    match rest with
    | '-' :: behind => do
      set behind
      let n ← digits behind.length
      pure (-(n : Int))
    | '+' :: behind => do
      set behind
      let n ← digits behind.length
      pure (n : Int)
    | _ => do
      let n ← digits 4
      pure (n : Int)
  if year < -Int.pow 2 31 || Int.pow 2 31 ≤ year then throw .outOfRange
  return year

/-- Takes the character between date and time. -/
def separator : Scan Unit := do
  match ← get with
  | [] => throw .tooShort
  | c :: rest => if c = 't' || c = 'T' || c = ' ' then set rest else throw .invalid

/-- Takes the fraction of a second; digits beyond the ninth do not count. -/
def fraction : Scan Nat := do
  match ← get with
  | '.' :: rest =>
    set rest
    let n ← digits 9
    let left ← get
    set (left.dropWhile Char.isDigit)
    return n * Nat.pow 10 (9 - (rest.length - left.length))
  | _ => return 0

/-- Takes two digits of an offset; a text of fewer than two bytes is too short. -/
def offsetDigits (highest : Char) : Scan Nat := do
  match ← get with
  | a :: b :: rest =>
    if a.isDigit && b.isDigit then
      if highest < a then throw .outOfRange
      set rest
      return 10 * (a.toNat - '0'.toNat) + (b.toNat - '0'.toNat)
    else throw .invalid
  | [a] => throw (if a.utf8Size = 1 then .tooShort else .invalid)
  | [] => throw .tooShort

/-- Takes the sign of an offset. -/
def offsetSign : Scan Int := do
  match ← get with
  | [] => throw .tooShort
  | c :: rest =>
    set rest
    if c = '+' then return 1
    else if c = '-' || c = '\u2212' then return -1
    else throw .invalid

/-- Takes the offset from UTC, in seconds. -/
def offset : Scan Int := do
  skipBlanks
  match ← get with
  | 'Z' :: rest => set rest; return 0
  | 'z' :: rest => set rest; return 0
  | rest =>
    if ((rest.take 3).map Char.toUpper) = ['U', 'T', 'C'] then
      set (rest.drop 3)
      return 0
    let sign ← offsetSign
    let hours ← offsetDigits '9'
    modify fun rest => rest.dropWhile fun c => c = ':' || Text.isBlank c
    let minutes ← offsetDigits '5'
    return sign * ((hours * 3600 + minutes * 60 : Nat) : Int)

/-- The point in time that a date, a time of day and an offset denote. -/
def ofParts (date : Date) (hour minute second nanos : Nat) (offset : Int) :
    Except TimestampError Timestamp := do
  if !date.isValid || 86400 ≤ offset.natAbs then throw .outOfRange
  let leap := second / 60
  let inDay := hour * 3600 + minute * 60 + (second - leap)
  let seconds := date.toDays * 86400 + inDay - offset
  let day := seconds / 86400
  if day < Date.toDays ⟨Date.firstYear, 1, 1⟩ || Date.toDays ⟨Date.lastYear, 12, 31⟩ < day then
    throw .impossible
  return ⟨seconds, nanos + leap * 1000000000⟩

/-- Reads a whole text. -/
def scan : Scan Timestamp := do
  let year ← year
  spacedMark '-'
  let month ← part 1 12
  spacedMark '-'
  let day ← part 1 31
  separator
  let hour ← part 0 23
  spacedMark ':'
  let minute ← part 0 59
  spacedMark ':'
  let second ← part 0 60
  let nanos ← fraction
  let offset ← offset
  skipBlanks
  if !(← get).isEmpty then throw .trailing
  ofParts ⟨year, month, day⟩ hour minute second nanos offset

/-- The point in time that a text denotes. -/
def parse (text : String) : Except TimestampError Timestamp :=
  (scan.run text.toList).map Prod.fst

/-- The start of 1970. -/
def epoch : Timestamp := ⟨0, 0⟩

/-- The point in time that is so many millionths of a second after the start of 1970. -/
def ofMicros (micros : Int) : Timestamp :=
  ⟨micros / 1000000, (micros % 1000000).toNat * 1000⟩

/-- Whole milliseconds from one point in time to a later one; none to an earlier one. -/
def millisUntil (start stop : Timestamp) : Nat :=
  let nanos := (stop.seconds - start.seconds) * 1000000000 + ((stop.nanos : Int) - start.nanos)
  (nanos / 1000000).toNat

end Timestamp

end AgentFlow
