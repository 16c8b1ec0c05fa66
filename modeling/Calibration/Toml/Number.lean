/-
# TOML numbers and times

Integers of 64 bits in four bases, numbers with a fraction or an exponent, and dates and times. Of the latter two
only the form matters.
-/

import Calibration.Number.Shortest
import Calibration.Time.Date
import Calibration.Toml.Node
import Calibration.Toml.Reader

namespace Calibration
namespace Toml
namespace Reader

open Number (Binary64)

/-- The integers of 64 bits. -/
def int64? (n : Int) : Option Int :=
  if -9223372036854775808 ≤ n ∧ n ≤ 9223372036854775807 then some n else none

/-- The value of a digit in base sixteen. -/
def hexValue? (c : Char) : Option Nat :=
  (Number.digitValue? c).or
    (if 'a' ≤ c ∧ c ≤ 'f' then some (c.toNat - 'a'.toNat + 10)
     else if 'A' ≤ c ∧ c ≤ 'F' then some (c.toNat - 'A'.toNat + 10)
     else none)

/-- The character is a digit of a base. -/
def isDigitOf (base : Nat) (c : Char) : Bool := (hexValue? c).any (· < base)

/-- The value of some digits in a base. -/
def valueIn (base : Nat) (ds : List Char) : Nat :=
  ds.foldl (fun n c => n * base + (hexValue? c).getD 0) 0

/-- A sign and decimal digits, without a zero in front. -/
def decimal : Reader (List Char) := do
  let s ← sign
  let first ← char Char.isDigit
  let more ← if first = '0' then pure [] else moreDigits Char.isDigit
  return s ++ first :: more

/-- An integer in a base other than ten. -/
def based (mark : String) (base : Nat) : Reader Int := do
  exactly mark
  let n ← (int64? (valueIn base (← digitGroup (isDigitOf base))) : Option Int)
  return n

/-- An integer. -/
def integer : Reader Node := do
  let n ← based "0x" 16 <|> based "0o" 8 <|> based "0b" 2 <|>
    (do (((Number.readInt? (← decimal)).bind int64? : Option Int) : Reader Int))
  return .integer n

/-- An exponent. -/
def exponent : Reader (List Char) := do
  let mark ← char fun c => c = 'e' || c = 'E'
  let s ← sign
  return mark :: s ++ (← digitGroup Char.isDigit)

/-- A fraction. -/
def fraction : Reader (List Char) := do
  exactly "."
  return '.' :: (← digitGroup Char.isDigit)

/-- A number with a fraction or an exponent, not beyond the greatest double. -/
def float : Reader Node := do
  let whole ← decimal
  let rest ← exponent <|> (do return (← fraction) ++ (← exponent <|> pure []))
  match Binary64.readChars? (whole ++ rest) with
  | none => failure
  | some x => if x = .infinite false then failure else return .float

/-- An infinity or no number. -/
def special : Reader Node := do
  let _sign ← sign
  exactly "inf" <|> exactly "nan"
  return .float

/-- A number of `n` digits between bounds. -/
def bounded (n low high : Nat) : Reader Nat := do
  let v := valueIn 10 (← times (char Char.isDigit) n)
  if low ≤ v ∧ v ≤ high then return v else failure

/-- A date that exists. -/
def date : Reader Unit := do
  let year ← bounded 4 0 9999
  exactly "-"
  let month ← bounded 2 1 12
  exactly "-"
  let day ← bounded 2 1 31
  let d : Time.Date := ⟨year, month, day⟩
  if !d.isValid then failure

/-- A time of the day. -/
def clock : Reader Unit := do
  let _hour ← bounded 2 0 23
  exactly ":"
  let _minute ← bounded 2 0 59
  exactly ":"
  let _second ← bounded 2 0 60
  let _fraction ← optional do exactly "."; let _first ← char Char.isDigit; takeWhile Char.isDigit

/-- The offset of a time. -/
def offset : Reader Unit :=
  (do let _zulu ← char fun c => c = 'Z' || c = 'z') <|> do
    let _sign ← char fun c => c = '+' || c = '-'
    let _hour ← bounded 2 0 23
    exactly ":"
    let _minute ← bounded 2 0 59

/-- A date, a time, or both. -/
def time : Reader Node := do
  (do date
      let _clock ← optional do
        let _mark ← char fun c => c = 'T' || c = 't' || c = ' '
        clock
        optional offset) <|> clock
  return .time

end Reader
end Toml
end Calibration
