/-
# Points in time

A point in time is a day, a second of the day and nanoseconds, all in UTC. A leap second is the second before it
with a thousand million nanoseconds more. The text form is that of RFC 3339: any offset is read, UTC is written.
-/

import Calibration.Number.Decimal
import Calibration.Time.Date

namespace Calibration
namespace Time

/-- A point in time: days since 1 January 1970, second of the day, nanoseconds. -/
structure Timestamp where
  day : Int
  second : Nat
  nano : Nat
deriving DecidableEq, Repr

namespace Timestamp

/-- The first second of 1970. -/
def epoch : Timestamp := ⟨0, 0, 0⟩

instance : Inhabited Timestamp := ⟨epoch⟩

/-- Nanoseconds from this value on are those of a leap second. -/
def leap : Nat := 1000000000

open Number (digits digitValue?)

/-- A numeral with zeros in front up to a width. -/
def padded (width n : Nat) : List Char :=
  let ds := digits n
  List.replicate (width - ds.length) '0' ++ ds

/-- Four digits, or a sign and at least four digits for a year that has not four. -/
def yearChars (year : Int) : List Char :=
  if 0 ≤ year ∧ year ≤ 9999 then padded 4 year.natAbs
  else (if year < 0 then '-' else '+') :: padded 4 year.natAbs

/-- The fraction of a second, in the least of three, six and nine digits that holds it. -/
def fractionChars (nano : Nat) : List Char :=
  if nano = 0 then []
  else if nano % 1000000 = 0 then '.' :: padded 3 (nano / 1000000)
  else if nano % 1000 = 0 then '.' :: padded 6 (nano / 1000)
  else '.' :: padded 9 nano

/-- The text of a point in time. -/
def chars (t : Timestamp) : List Char :=
  let date := Date.ofDayNumber t.day
  let second := t.second % 60 + (if leap ≤ t.nano then 1 else 0)
  yearChars date.year ++ '-' :: padded 2 date.month ++ '-' :: padded 2 date.day ++
    'T' :: padded 2 (t.second / 3600) ++ ':' :: padded 2 (t.second / 60 % 60) ++
    ':' :: padded 2 second ++ fractionChars (t.nano % leap) ++ "+00:00".toList

@[inherit_doc chars]
def text (t : Timestamp) : String := String.ofList t.chars

/-- Two digits. -/
def two? (a b : Char) : Option Nat := do
  return (← digitValue? a) * 10 + (← digitValue? b)

/-- The nanoseconds that the digits behind the point of a second mean; those behind the ninth are not read. -/
def nanos (ds : List Char) : Nat :=
  ((Number.readNat? ((ds ++ List.replicate 9 '0').take 9))).getD 0

/-- The offset from UTC in minutes. The minus may be a hyphen or the minus sign proper. -/
def offset? : List Char → Option Int
  | ['Z'] => some 0
  | ['z'] => some 0
  | [sign, a, b, ':', c, d] => do
    let hours ← two? a b
    let minutes ← two? c d
    if 24 ≤ hours ∨ 60 ≤ minutes then none
    else if sign = '+' then some (hours * 60 + minutes : Nat)
    else if sign = '-' ∨ sign = '\u2212' then some (-((hours * 60 + minutes : Nat) : Int))
    else none
  | _ => none

/-- The point in time at a date, hour, minute, second (`60` being a leap second), nanosecond and offset. -/
def ofParts? (date : Date) (hour minute second nano : Nat) (offset : Int) : Option Timestamp :=
  if !date.isValid ∨ 24 ≤ hour ∨ 60 ≤ minute ∨ 61 ≤ second then none
  else
    let (second, nano) := if second = 60 then (59, nano + leap) else (second, nano)
    let total : Int := date.dayNumber * 86400 + (hour * 3600 + minute * 60 + second : Nat) - offset * 60
    some ⟨total / 86400, (total % 86400).toNat, nano⟩

/-- Reads a point in time. -/
def readChars? : List Char → Option Timestamp
  | y₁ :: y₂ :: y₃ :: y₄ :: '-' :: m₁ :: m₂ :: '-' :: d₁ :: d₂ :: separator ::
      h₁ :: h₂ :: ':' :: n₁ :: n₂ :: ':' :: s₁ :: s₂ :: rest => do
    let century ← two? y₁ y₂
    let yearOfCentury ← two? y₃ y₄
    let month ← two? m₁ m₂
    let day ← two? d₁ d₂
    let hour ← two? h₁ h₂
    let minute ← two? n₁ n₂
    let second ← two? s₁ s₂
    if separator ≠ 'T' ∧ separator ≠ 't' ∧ separator ≠ ' ' then none
    let (fraction, zone) ← match rest with
      | '.' :: cs =>
        let ds := cs.takeWhile Char.isDigit
        if ds.isEmpty then none else some (ds, cs.dropWhile Char.isDigit)
      | cs => some ([], cs)
    let offset ← offset? zone
    ofParts? ⟨(century * 100 + yearOfCentury : Nat), month, day⟩ hour minute second (nanos fraction) offset
  | _ => none

@[inherit_doc readChars?]
def read? (s : String) : Option Timestamp := readChars? s.toList

end Timestamp
end Time
end Calibration
