import TagWeave.Text.Blank

/-! Moments in time and their written form: a date, a time of day and an offset from universal time.
Reading is lenient about white space and the number of digits, writing is not. -/
namespace TagWeave

/-- A moment: whole seconds since the beginning of 1970 in universal time, and billionths of a
second. A thousand million billionths or more stand for a leap second. -/
structure Moment where
  seconds : Int
  billionths : Nat
  deriving DecidableEq, Repr

namespace Moment

/-- The days from the beginning of 1970 to a date of the Gregorian calendar. -/
def daysOfDate (year month day : Int) : Int :=
  let shifted := if month ≤ 2 then year - 1 else year
  let era := shifted / 400
  let yearOfEra := shifted - era * 400
  let dayOfYear := (153 * (if month ≤ 2 then month + 9 else month - 3) + 2) / 5 + day - 1
  era * 146097 + (yearOfEra * 365 + yearOfEra / 4 - yearOfEra / 100 + dayOfYear) - 719468

def dateOfDays (days : Int) : Int × Int × Int :=
  let shifted := days + 719468
  let era := shifted / 146097
  let dayOfEra := shifted - era * 146097
  let yearOfEra := (dayOfEra - dayOfEra / 1460 + dayOfEra / 36524 - dayOfEra / 146096) / 365
  let dayOfYear := dayOfEra - (365 * yearOfEra + yearOfEra / 4 - yearOfEra / 100)
  let shiftedMonth := (5 * dayOfYear + 2) / 153
  let month := if shiftedMonth < 10 then shiftedMonth + 3 else shiftedMonth - 9
  (yearOfEra + era * 400 + (if month ≤ 2 then 1 else 0), month,
    dayOfYear - (153 * shiftedMonth + 2) / 5 + 1)

def isLeapYear (year : Int) : Bool := year % 4 == 0 && (year % 100 != 0 || year % 400 == 0)

def daysInMonth (year month : Int) : Int :=
  if month = 2 then (if isLeapYear year then 29 else 28)
  else if month = 4 ∨ month = 6 ∨ month = 9 ∨ month = 11 then 30 else 31

def hasYear (year : Int) : Bool := -262143 ≤ year && year ≤ 262142

def padded (width n : Nat) : Text :=
  let digits := Text.ofNat n
  List.replicate (width - digits.length) '0' ++ digits

/-- A year in four digits; other years have a sign. -/
def yearText (year : Int) : Text :=
  if 0 ≤ year ∧ year ≤ 9999 then padded 4 year.toNat
  else (if year < 0 then '-' else '+') :: padded 4 year.natAbs

/-- A fraction of a second in three, six or nine digits, as many as it needs. -/
def fractionText (billionths : Nat) : Text :=
  if billionths = 0 then []
  else if billionths % 1000000 = 0 then '.' :: padded 3 (billionths / 1000000)
  else if billionths % 1000 = 0 then '.' :: padded 6 (billionths / 1000)
  else '.' :: padded 9 billionths

def text (moment : Moment) : Text :=
  let (year, month, day) := dateOfDays (moment.seconds / 86400)
  let second := (moment.seconds % 86400).toNat
  let leap := moment.billionths / 1000000000
  yearText year ++ '-' :: padded 2 month.toNat ++ '-' :: padded 2 day.toNat ++
    'T' :: padded 2 (second / 3600) ++ ':' :: padded 2 (second / 60 % 60) ++
    ':' :: padded 2 (second % 60 + leap) ++ fractionText (moment.billionths % 1000000000) ++ ['Z']

/-- A run of digits, at most as many as `limit` says if there is one. -/
def readDigits (limit : Option Nat) (source : Text) : Option (Nat × Text) :=
  let digits := (match limit with
    | some limit => source.take limit
    | none => source).takeWhile Char.isDigit
  if digits = [] then none else some (Text.natOfDigits digits, source.drop digits.length)

/-- A number of one or two digits, white space before it. -/
def readPair (source : Text) : Option (Nat × Text) := readDigits (some 2) (Text.trimStart source)

/-- A year: up to four digits, or a sign and any number of digits. -/
def readYear (source : Text) : Option (Int × Text) :=
  match Text.trimStart source with
  | '-' :: rest => (readDigits none rest).map fun (n, rest) => (-n, rest)
  | '+' :: rest => (readDigits none rest).map fun (n, rest) => ((n : Int), rest)
  | rest => (readDigits (some 4) rest).map fun (n, rest) => ((n : Int), rest)

def readMark (mark : Char) (source : Text) : Option Text :=
  match Text.trimStart source with
  | c :: rest => if c = mark then some rest else none
  | [] => none

/-- A fraction of a second. Only the first nine digits count. -/
def readFraction (source : Text) : Option (Nat × Text) :=
  match source with
  | '.' :: rest => do
    let (n, after) ← readDigits (some 9) rest
    return (n * Nat.pow 10 (9 - (rest.length - after.length)), after.dropWhile Char.isDigit)
  | rest => some (0, rest)

def readOffset (source : Text) : Option (Int × Text) :=
  if Text.lowerAscii (source.take 3) = "utc".toList then some (0, source.drop 3)
  else match source with
    | [] => none
    | c :: rest =>
      if c = 'Z' ∨ c = 'z' then some (0, rest)
      else if c = '+' ∨ c = '-' ∨ c = '−' then
        match rest with
        | h :: h' :: rest =>
          match rest.dropWhile fun c => c == ':' || Text.isBlank c with
          | m :: m' :: rest =>
            if [h, h', m, m'].all Char.isDigit && m.toNat < '6'.toNat then
              let offset : Int := Text.natOfDigits [h, h'] * 3600 + Text.natOfDigits [m, m'] * 60
              some (if c = '+' then offset else -offset, rest)
            else none
          | _ => none
        | _ => none
      else none

def ofParts? (year : Int) (month day hour minute second billionths : Nat) (offset : Int) :
    Option Moment :=
  let seconds : Int := daysOfDate year month day * 86400 + hour * 3600 + minute * 60 +
    (min second 59 : Nat) - offset
  if hasYear year && 1 ≤ month && month ≤ 12 && 1 ≤ day && day ≤ daysInMonth year month &&
      hour < 24 && minute < 60 && second ≤ 60 && offset.natAbs < 86400 &&
      hasYear (dateOfDays (seconds / 86400)).1 then
    some ⟨seconds, billionths + (if second = 60 then 1000000000 else 0)⟩
  else none

def ofText? (source : Text) : Option Moment := do
  let (year, rest) ← readYear source
  let (month, rest) ← readPair (← readMark '-' rest)
  let (day, rest) ← readPair (← readMark '-' rest)
  let rest ← match rest with
    | 'T' :: rest | 't' :: rest | ' ' :: rest => some rest
    | _ => none
  let (hour, rest) ← readPair rest
  let (minute, rest) ← readPair (← readMark ':' rest)
  let (second, rest) ← readPair (← readMark ':' rest)
  let (billionths, rest) ← readFraction rest
  let (offset, rest) ← readOffset (Text.trimStart rest)
  if Text.trimStart rest = [] then ofParts? year month day hour minute second billionths offset
  else none

end Moment

end TagWeave
