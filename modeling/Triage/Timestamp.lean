import Triage.Text.Blank

/-!
This module contains points in time of the proleptic Gregorian calendar in universal time, with nanoseconds
and leap seconds, and their texts after RFC 3339. The stored text has a fixed width, so that texts are
ordered as the times are.
-/

namespace Triage

namespace Calendar

def isLeapYear (year : Int) : Bool :=
  year % 4 == 0 && (year % 100 != 0 || year % 400 == 0)

def daysIn (year : Int) (month : Nat) : Nat :=
  if month = 2 then if isLeapYear year then 29 else 28
  else if month = 4 ∨ month = 6 ∨ month = 9 ∨ month = 11 then 30
  else 31

def dayBefore (year : Int) (month day : Nat) : Int × Nat × Nat :=
  if 1 < day then (year, month, day - 1)
  else if 1 < month then (year, month - 1, daysIn year (month - 1))
  else (year - 1, 12, 31)

def dayAfter (year : Int) (month day : Nat) : Int × Nat × Nat :=
  if day < daysIn year month then (year, month, day + 1)
  else if month < 12 then (year, month + 1, 1)
  else (year + 1, 1, 1)

/--
The date that lies a number of days behind the first of March of the year zero. Years are counted from March on,
so that a leap day is the last day of its year.
-/
def dateOf (days : Nat) : Int × Nat × Nat :=
  let era := days / 146097
  let day := days % 146097
  let year := (day - day / 1460 + day / 36524 - day / 146096) / 365
  let day := day - (365 * year + year / 4 - year / 100)
  let month := (5 * day + 2) / 153
  let day := day - (153 * month + 2) / 5 + 1
  let year : Int := (era * 400 + year : Nat)
  if month < 10 then (year, month + 3, day) else (year + 1, month - 9, day)

end Calendar

/--
A point in time. The second `60` is a leap second.
-/
structure Timestamp where
  year : Int
  month : Nat
  day : Nat
  hour : Nat
  minute : Nat
  second : Nat
  nano : Nat
  validDate : 1 ≤ month ∧ month ≤ 12 ∧ 1 ≤ day ∧ day ≤ Calendar.daysIn year month
  validTime : hour < 24 ∧ minute < 60 ∧ second ≤ 60 ∧ nano < 1000000000
deriving DecidableEq

namespace Timestamp

/--
The point in time of its parts, if they are in range.
-/
def ofParts? (year : Int) (month day hour minute second nano : Nat) : Option Timestamp :=
  if hd : 1 ≤ month ∧ month ≤ 12 ∧ 1 ≤ day ∧ day ≤ Calendar.daysIn year month then
    if ht : hour < 24 ∧ minute < 60 ∧ second ≤ 60 ∧ nano < 1000000000 then
      some ⟨year, month, day, hour, minute, second, nano, hd, ht⟩
    else none
  else none

/--
The start of the year 1970.
-/
def epoch : Timestamp :=
  ⟨1970, 1, 1, 0, 0, 0, 0, by decide, by decide⟩

instance : Inhabited Timestamp := ⟨epoch⟩

/--
The point in time a number of seconds and nanoseconds behind the start of the year 1970.
-/
def ofEpoch? (seconds nano : Nat) : Option Timestamp :=
  let (year, month, day) := Calendar.dateOf (seconds / 86400 + 719468)
  ofParts? year month day (seconds / 3600 % 24) (seconds / 60 % 60) (seconds % 60) nano

/--
The point in time of a local time that is `offset` minutes ahead of universal time, by less than a day.
-/
def ofLocal? (t : Timestamp) (offset : Int) : Option Timestamp :=
  let minutes : Int := (t.hour * 60 + t.minute : Nat) - offset
  let (year, month, day) :=
    if minutes < 0 then Calendar.dayBefore t.year t.month t.day
    else if minutes < 1440 then (t.year, t.month, t.day)
    else Calendar.dayAfter t.year t.month t.day
  let minute := (minutes % 1440).toNat
  ofParts? year month day (minute / 60) (minute % 60) t.second t.nano

/--
The point in time without its nanoseconds below the last whole microsecond.
-/
def toMicros (t : Timestamp) : Timestamp :=
  { t with
    nano := t.nano / 1000 * 1000
    validTime := by have := t.validTime; omega }

/--
The digits of `n`, with zeros in front up to `width` digits.
-/
def padded (width n : Nat) : List Char :=
  let digits := Nat.toDigits 10 n
  List.replicate (width - digits.length) '0' ++ digits

/--
The text of a year: four digits, or a sign and at least four digits outside of the years `0` to `9999`.
-/
def yearChars (year : Int) : List Char :=
  if 0 ≤ year ∧ year ≤ 9999 then padded 4 year.toNat
  else (if year < 0 then '-' else '+') :: padded 4 year.natAbs

def secondsChars (t : Timestamp) : List Char :=
  yearChars t.year ++ '-' :: padded 2 t.month ++ '-' :: padded 2 t.day ++ 'T' :: padded 2 t.hour
    ++ ':' :: padded 2 t.minute ++ ':' :: padded 2 t.second

/--
The fraction of the second with as few of 0, 3, 6 and 9 digits as are exact.
-/
def fractionChars (nano : Nat) : List Char :=
  if nano = 0 then []
  else if nano % 1000000 = 0 then '.' :: padded 3 (nano / 1000000)
  else if nano % 1000 = 0 then '.' :: padded 6 (nano / 1000)
  else '.' :: padded 9 nano

/--
The text of a point in time, with `Z` for universal time.
-/
def text (t : Timestamp) : String :=
  String.ofList (t.secondsChars ++ fractionChars t.nano ++ ['Z'])

def offsetText (t : Timestamp) : String :=
  String.ofList (t.secondsChars ++ fractionChars t.nano ++ ['+', '0', '0', ':', '0', '0'])

/--
The text that is stored: always six digits of the fraction.
-/
def stored (t : Timestamp) : String :=
  String.ofList (t.secondsChars ++ '.' :: padded 6 (t.nano / 1000) ++ ['Z'])

/-! Reading. Each reader takes what it can from the front of a text and returns the rest. -/

/--
Between one and `width` digits.
-/
def readNumber? (width : Nat) (cs : List Char) : Option (Nat × List Char) :=
  let digits := (cs.take width).takeWhile Char.isDigit
  if digits.isEmpty then none
  else some (digits.foldl (fun n c => n * 10 + (c.toNat - '0'.toNat)) 0, cs.drop digits.length)

def readField? (width : Nat) (cs : List Char) : Option (Nat × List Char) :=
  readNumber? width (Text.trimStart cs)

def readMark? (mark : Char) (cs : List Char) : Option (List Char) :=
  match Text.trimStart cs with
  | c :: cs => if c = mark then some cs else none
  | [] => none

/--
A year: up to four digits, or a sign and any number of digits.
-/
def readYear? (cs : List Char) : Option (Int × List Char) :=
  match Text.trimStart cs with
  | '-' :: cs => (readNumber? cs.length cs).map fun (n, rest) => (-(n : Int), rest)
  | '+' :: cs => (readNumber? cs.length cs).map fun (n, rest) => ((n : Int), rest)
  | cs => (readNumber? 4 cs).map fun (n, rest) => ((n : Int), rest)

/--
A fraction of a second, if there is one. Digits after the ninth are dropped.
-/
def readFraction? (cs : List Char) : Option (Nat × List Char) :=
  match cs with
  | '.' :: cs =>
    (readNumber? 9 cs).map fun (n, rest) =>
      (n * Nat.pow 10 (9 - (cs.length - rest.length)), rest.dropWhile Char.isDigit)
  | cs => some (0, cs)

def readPair? : List Char → Option (Nat × List Char)
  | c :: d :: cs =>
    if c.isDigit ∧ d.isDigit then
      some ((c.toNat - '0'.toNat) * 10 + (d.toNat - '0'.toNat), cs)
    else
      none
  | _ => none

/--
A sign with hours and minutes, in minutes. `separate?` takes what stands between the two numbers.
-/
def readSigned? (separate? : List Char → Option (List Char)) (cs : List Char) : Option (Int × List Char) := do
  let sign :: cs := cs | none
  let negative ←
    if sign = '+' then some false
    else if sign = '-' ∨ sign = '\u2212' then some true
    else none
  let (hours, cs) ← readPair? cs
  let (minutes, cs) ← readPair? (← separate? cs)
  if 60 ≤ minutes ∨ 24 ≤ hours then none
  let offset : Int := (hours * 60 + minutes : Nat)
  return (if negative then -offset else offset, cs)

def readOffset? (cs : List Char) : Option (Int × List Char) :=
  let cs := Text.trimStart cs
  match cs with
  | 'Z' :: cs | 'z' :: cs => some (0, cs)
  | _ =>
    if (cs.take 3).map Char.toUpper = ['U', 'T', 'C'] then some (0, cs.drop 3)
    else readSigned? (fun cs => some (cs.dropWhile fun c => c = ':' || Text.isBlank c)) cs

def inYears (year : Int) : Bool :=
  -262143 ≤ year && year ≤ 262142

/--
The point in time that a text after RFC 3339 stands for; blanks between the parts do no harm.
-/
def parse? (text : String) : Option Timestamp := do
  let (year, cs) ← readYear? text.toList
  let cs ← readMark? '-' cs
  let (month, cs) ← readField? 2 cs
  let cs ← readMark? '-' cs
  let (day, cs) ← readField? 2 cs
  let separator :: cs := cs | none
  if separator ≠ 'T' ∧ separator ≠ 't' ∧ separator ≠ ' ' then none
  let (hour, cs) ← readField? 2 cs
  let cs ← readMark? ':' cs
  let (minute, cs) ← readField? 2 cs
  let cs ← readMark? ':' cs
  let (second, cs) ← readField? 2 cs
  let (nano, cs) ← readFraction? cs
  let (offset, cs) ← readOffset? cs
  if !cs.all Text.isBlank then none
  if !inYears year then none
  let t ← (← ofParts? year month day hour minute second nano).ofLocal? offset
  if !inYears t.year then none
  return t

/-! Reading without blanks, where every number has its full width. -/

def readDigits? (width : Nat) (cs : List Char) : Option (Nat × List Char) :=
  if ((cs.take width).takeWhile Char.isDigit).length = width then readNumber? width cs else none

def dropMark? (mark : Char) : List Char → Option (List Char)
  | c :: cs => if c = mark then some cs else none
  | [] => none

def readZone? : List Char → Option (Int × List Char)
  | 'Z' :: cs | 'z' :: cs => some (0, cs)
  | cs => readSigned? (dropMark? ':') cs

/--
The point in time of a stored text. It is a text after RFC 3339 in the narrow sense: nothing is left out and nothing
stands in between, and years have four digits.
-/
def ofStored? (text : String) : Option Timestamp := do
  let (year, cs) ← readDigits? 4 text.toList
  let cs ← dropMark? '-' cs
  let (month, cs) ← readDigits? 2 cs
  let cs ← dropMark? '-' cs
  let (day, cs) ← readDigits? 2 cs
  let separator :: cs := cs | none
  if separator ≠ 'T' ∧ separator ≠ 't' ∧ separator ≠ ' ' then none
  let (hour, cs) ← readDigits? 2 cs
  let cs ← dropMark? ':' cs
  let (minute, cs) ← readDigits? 2 cs
  let cs ← dropMark? ':' cs
  let (second, cs) ← readDigits? 2 cs
  let (nano, cs) ← readFraction? cs
  let (offset, cs) ← readZone? cs
  if !cs.isEmpty then none
  (← ofParts? year month day hour minute second nano).ofLocal? offset

end Timestamp
end Triage
