-- SUMMARY: Date patterns: their items, reading them, and writing a moment by them.
import LogLine.Calendar.Date

/-!
# Date patterns

A date pattern is text with directives: a percent sign, an optional padding for
numbers, and a letter or a short group. Anything else after a percent sign is
malformed. A malformed piece is an item like the others, but one that is never
written, so a pattern that has one gives no text at all.
-/

namespace LogLine

/-! ## Items -/

/-- What fills a number up to its width. -/
inductive Padding where
  | none | zero | space
deriving DecidableEq, Repr

inductive DateNumber where
  | year | century | yearOfCentury | isoYear | isoYearOfCentury
  | quarter | month | day | dayOfYear
  | weekFromSunday | weekFromMonday | isoWeek | sinceSunday | weekday
  | hour | hour12 | minute | second | nanosecond | timestamp
deriving DecidableEq, Repr

/-- How an offset is written. -/
inductive OffsetForm where
  /-- Hours and minutes, rounded to the minute. -/
  | minutes (colon : Bool)
  /-- Hours, minutes and seconds, with colons. -/
  | seconds
  /-- Hours alone, cut off. -/
  | hours
deriving DecidableEq, Repr

/-- A piece of a date pattern. -/
inductive DateItem where
  | literal (text : Text)
  | number (what : DateNumber) (padding : Padding)
  | monthName (full : Bool)
  | weekdayName (full : Bool)
  | halfDay (upper : Bool)
  /-- The fraction of the second with a dot, in as few of no, three, six or nine digits as are
      exact. -/
  | fraction
  /-- The leading digits of the fraction of the second. -/
  | fractionDigits (dot : Bool) (digits : Nat)
  | offset (form : OffsetForm)
  | zoneName
  /-- The date and time of RFC 3339. -/
  | timestamp3339
  /-- An offset that can be read in several forms and for that reason is never written. -/
  | looseOffset
  /-- What is no directive. It is never written. -/
  | malformed
deriving DecidableEq, Repr

namespace DateItem

def zeros (what : DateNumber) : DateItem := .number what .zero

def spaces (what : DateNumber) : DateItem := .number what .space

/-! ## Reading patterns -/

/-- The hour, minute and second. -/
def clockTime : List DateItem :=
  [zeros .hour, .literal [':'], zeros .minute, .literal [':'], zeros .second]

/-- The month, day and year of the century. -/
def shortDate : List DateItem :=
  [zeros .month, .literal ['/'], zeros .day, .literal ['/'], zeros .yearOfCentury]

def ofLetter? : Char → Option (List DateItem)
  | 'A' => some [.weekdayName true]
  | 'B' => some [.monthName true]
  | 'C' => some [zeros .century]
  | 'D' => some shortDate
  | 'F' => some [zeros .year, .literal ['-'], zeros .month, .literal ['-'], zeros .day]
  | 'G' => some [zeros .isoYear]
  | 'H' => some [zeros .hour]
  | 'I' => some [zeros .hour12]
  | 'M' => some [zeros .minute]
  | 'P' => some [.halfDay false]
  | 'R' => some [zeros .hour, .literal [':'], zeros .minute]
  | 'S' => some [zeros .second]
  | 'T' => some clockTime
  | 'U' => some [zeros .weekFromSunday]
  | 'V' => some [zeros .isoWeek]
  | 'W' => some [zeros .weekFromMonday]
  | 'X' => some clockTime
  | 'Y' => some [zeros .year]
  | 'Z' => some [.zoneName]
  | 'a' => some [.weekdayName false]
  | 'b' => some [.monthName false]
  | 'c' =>
    some ([.weekdayName false, .literal [' '], .monthName false, .literal [' '], spaces .day,
      .literal [' ']] ++ clockTime ++ [.literal [' '], zeros .year])
  | 'd' => some [zeros .day]
  | 'e' => some [spaces .day]
  | 'f' => some [zeros .nanosecond]
  | 'g' => some [zeros .isoYearOfCentury]
  | 'h' => some [.monthName false]
  | 'j' => some [zeros .dayOfYear]
  | 'k' => some [spaces .hour]
  | 'l' => some [spaces .hour12]
  | 'm' => some [zeros .month]
  | 'n' => some [.literal ['\n']]
  | 'p' => some [.halfDay true]
  | 'q' => some [.number .quarter .none]
  | 'r' =>
    some [zeros .hour12, .literal [':'], zeros .minute, .literal [':'], zeros .second,
      .literal [' '], .halfDay true]
  | 's' => some [.number .timestamp .none]
  | 't' => some [.literal ['\t']]
  | 'u' => some [zeros .weekday]
  | 'v' =>
    some [spaces .day, .literal ['-'], .monthName false, .literal ['-'], zeros .year]
  | 'w' => some [zeros .sinceSunday]
  | 'x' => some shortDate
  | 'y' => some [zeros .yearOfCentury]
  | 'z' => some [.offset (.minutes false)]
  | '+' => some [.timestamp3339]
  | '%' => some [.literal ['%']]
  | _ => none

/-- The item of a directive with a padding, which takes a letter for a single number. -/
def padded? (padding : Padding) (letter : Char) : Option (List DateItem) :=
  match ofLetter? letter with
  | some [.number what _] => some [.number what padding]
  | _ => none

/-- Reads a directive after its percent sign: its items and the number of its characters. -/
def directive? : Text → Option (List DateItem × Nat)
  | '-' :: c :: _ => (padded? .none c).map (·, 2)
  | '_' :: c :: _ => (padded? .space c).map (·, 2)
  | '0' :: c :: _ => (padded? .zero c).map (·, 2)
  | '#' :: 'z' :: _ => some ([.looseOffset], 2)
  | ':' :: 'z' :: _ => some ([.offset (.minutes true)], 2)
  | ':' :: ':' :: 'z' :: _ => some ([.offset .seconds], 3)
  | ':' :: ':' :: ':' :: 'z' :: _ => some ([.offset .hours], 4)
  | '.' :: 'f' :: _ => some ([.fraction], 2)
  | '.' :: '3' :: 'f' :: _ => some ([.fractionDigits true 3], 3)
  | '.' :: '6' :: 'f' :: _ => some ([.fractionDigits true 6], 3)
  | '.' :: '9' :: 'f' :: _ => some ([.fractionDigits true 9], 3)
  | '3' :: 'f' :: _ => some ([.fractionDigits false 3], 2)
  | '6' :: 'f' :: _ => some ([.fractionDigits false 6], 2)
  | '9' :: 'f' :: _ => some ([.fractionDigits false 9], 2)
  | c :: _ => (ofLetter? c).map (·, 1)
  | [] => none

/-- The items of a pattern, after passing over a number of characters that were read. Nothing is
    read after a malformed directive. -/
def ofPatternFrom : Nat → Text → List DateItem
  | _, [] => []
  | skip + 1, _ :: rest => ofPatternFrom skip rest
  | 0, c :: rest =>
    if c = '%' then
      match directive? rest with
      | some (items, count) => items ++ ofPatternFrom count rest
      | none => [.malformed]
    else .literal [c] :: ofPatternFrom 0 rest

def ofPattern (pattern : Text) : List DateItem := ofPatternFrom 0 pattern

end DateItem

/-! ## Writing numbers -/

namespace DateItem

/-- A text filled up to a width by a character before it. -/
def fill (c : Char) (width : Nat) (t : Text) : Text := List.replicate (width - t.length) c ++ t

/-- A number in at least the given number of characters, with its sign before the zeros. A number
    that always has a sign takes one character more. -/
def signed (width : Nat) (padding : Padding) (always : Bool) (n : Int) : Text :=
  let sign : Text := if n < 0 then ['-'] else if always then ['+'] else []
  let width := if always then width + 1 else width
  let digits := Text.ofNat n.natAbs
  match padding with
  | .none => sign ++ digits
  | .zero => sign ++ fill '0' (width - sign.length) digits
  | .space => fill ' ' width (sign ++ digits)

/-- A year in four digits, with a sign if that does not do. -/
def yearText (padding : Padding) (year : Int) : Text :=
  signed 4 padding (year < 0 ∨ 9999 < year) year

/-- A number of one byte in two characters. Tens past nine are written by the character that far
    after the digit zero. -/
def twoDigits (padding : Padding) (n : Int) : Text :=
  let n := (n % 256).toNat
  let tens : Text :=
    match n / 10, padding with
    | 0, .none => []
    | 0, .space => [' ']
    | tens, _ => [Char.ofNat ('0'.toNat + tens)]
  tens ++ Text.ofNat (n % 10)

def numberText (m : Moment) (what : DateNumber) (padding : Padding) : Text :=
  let d := m.date
  match what with
  | .year => yearText padding d.year
  | .century => twoDigits padding (d.year / 100)
  | .yearOfCentury => twoDigits padding (d.year % 100)
  | .isoYear => yearText padding d.isoYearAndWeek.1
  | .isoYearOfCentury => twoDigits padding (d.isoYearAndWeek.1 % 100)
  | .quarter => Text.ofNat d.quarter
  | .month => twoDigits padding d.month
  | .day => twoDigits padding d.day
  | .dayOfYear => signed 3 padding false d.dayOfYear
  | .weekFromSunday => twoDigits padding d.weekFromSunday
  | .weekFromMonday => twoDigits padding d.weekFromMonday
  | .isoWeek => twoDigits padding d.isoYearAndWeek.2
  | .sinceSunday => Text.ofNat d.sinceSunday
  | .weekday => Text.ofNat (d.sinceMonday + 1)
  | .hour => twoDigits padding m.hour
  | .hour12 => twoDigits padding m.hour12
  | .minute => twoDigits padding m.minute
  | .second => twoDigits padding m.second
  | .nanosecond => signed 9 padding false m.subsecond
  | .timestamp => signed 9 padding false m.seconds

/-! ## Writing names, fractions and offsets -/

def monthNames : List Text :=
  ["January", "February", "March", "April", "May", "June", "July", "August", "September",
    "October", "November", "December"].map String.toList

/-- The days of the week, from Sunday. -/
def weekdayNames : List Text :=
  ["Sunday", "Monday", "Tuesday", "Wednesday", "Thursday", "Friday", "Saturday"].map String.toList

/-- The name at a place of a list, in full or by its first three letters. -/
def nameText (full : Bool) (names : List Text) (place : Nat) : Text :=
  let name := names.getD place []
  if full then name else name.take 3

/-- The first digits of a number of nanoseconds. -/
def leadingDigits (digits nanos : Nat) : Text :=
  (fill '0' 9 (Text.ofNat nanos)).take digits

/-- The fraction of a second, as short as it is exact in groups of three digits. -/
def fractionText (nanos : Nat) : Text :=
  if nanos = 0 then []
  else if nanos % 1000000 = 0 then '.' :: leadingDigits 3 nanos
  else if nanos % 1000 = 0 then '.' :: leadingDigits 6 nanos
  else '.' :: leadingDigits 9 nanos

/-- A number in at least two digits. -/
def atLeastTwo (n : Nat) : Text := fill '0' 2 (Text.ofNat n)

/-- An offset from universal time. -/
def offsetText (form : OffsetForm) (offset : Int) : Text :=
  let sign := if offset < 0 then '-' else '+'
  let seconds := offset.natAbs
  match form with
  | .hours => sign :: atLeastTwo (seconds / 3600)
  | .minutes colon =>
    let minutes := (seconds + 30) / 60
    sign :: atLeastTwo (minutes / 60) ++ (if colon then [':'] else []) ++
      atLeastTwo (minutes % 60)
  | .seconds =>
    sign :: atLeastTwo (seconds / 3600) ++ ':' :: atLeastTwo (seconds / 60 % 60) ++
      ':' :: atLeastTwo (seconds % 60)

/-- The name of a zone that has only an offset: hours and minutes, and seconds if there are any. -/
def zoneText (offset : Int) : Text :=
  if offset.natAbs % 60 = 0 then offsetText (.minutes true) offset else offsetText .seconds offset

/-- The date and time of RFC 3339. -/
def text3339 (m : Moment) : Text :=
  let two := twoDigits .zero
  yearText .zero m.date.year ++ '-' :: two m.date.month ++ '-' :: two m.date.day ++
    'T' :: two m.hour ++ ':' :: two m.minute ++ ':' :: two m.second ++ fractionText m.subsecond ++
    offsetText (.minutes true) m.offset

/-! ## Writing moments -/

/-- The text of an item, or `none` for one that is never written. -/
def text? (m : Moment) : DateItem → Option Text
  | .literal t => some t
  | .number what padding => some (numberText m what padding)
  | .monthName full => some (nameText full monthNames (m.date.month - 1))
  | .weekdayName full => some (nameText full weekdayNames m.date.sinceSunday)
  | .halfDay upper =>
    some (match upper, m.isAfternoon with
      | true, true => ['P', 'M']
      | true, false => ['A', 'M']
      | false, true => ['p', 'm']
      | false, false => ['a', 'm'])
  | .fraction => some (fractionText m.subsecond)
  | .fractionDigits dot digits =>
    some ((if dot then ['.'] else []) ++ leadingDigits digits m.subsecond)
  | .offset form => some (offsetText form m.offset)
  | .zoneName => some (zoneText m.offset)
  | .timestamp3339 => some (text3339 m)
  | .looseOffset => none
  | .malformed => none

/-- The text of a moment by items written one after the other, or `none` at the first one that is
    never written. -/
def textOf? (m : Moment) : List DateItem → Option Text
  | [] => some []
  | item :: items => do
    let t ← item.text? m
    return t ++ (← textOf? m items)

end DateItem

end LogLine
