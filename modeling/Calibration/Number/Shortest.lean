/-
# Doubles as decimal text

A double is written with the fewest digits that read back as the same double, the nearest such digits to its
value, always in positional notation. A number is read by rounding it to the nearest double.
-/

import Calibration.Number.Binary64
import Calibration.Number.Decimal

namespace Calibration
namespace Number

/-- The number `digits * 10 ^ exponent`. -/
structure Decimal where
  digits : Nat
  exponent : Int
deriving DecidableEq, Repr

namespace Decimal

/-- Without the zeros at the end. -/
def dropZeros (cs : List Char) : List Char := (cs.reverse.dropWhile (· == '0')).reverse

/-- The digits of a fraction behind a point, nothing if there is none. -/
def pointed (fraction : List Char) : List Char :=
  if fraction.isEmpty then [] else '.' :: fraction

/-- Positional notation, without zeros at the end of the fraction. -/
def chars (d : Decimal) : List Char :=
  let ds := Number.digits d.digits
  if 0 ≤ d.exponent then ds ++ (if d.digits = 0 then [] else List.replicate d.exponent.toNat '0')
  else
    let places := (-d.exponent).toNat
    let padded := List.replicate (places + 1 - ds.length) '0' ++ ds
    let whole := padded.take (padded.length - places)
    whole ++ pointed (dropZeros (padded.drop (padded.length - places)))

end Decimal

namespace Binary64

/-- The bounds of the numbers that round to a rank, in units of `2 ^ (-1075)`. -/
def lowerBound (rank : Nat) : Nat := units (rank - 1) + units rank

@[inherit_doc lowerBound]
def upperBound (rank : Nat) : Nat := units rank + units (rank + 1)

/-- The number `num / den`, in units of `2 ^ (-1075)`, rounds to the rank: the bounds themselves do so when the
rank is even. -/
def roundsTo (rank num den : Nat) : Bool :=
  let low := lowerBound rank * den
  let high := upperBound rank * den
  if rank % 2 = 0 then low ≤ num && num ≤ high else low < num && num < high

/-- `10 ^ e` as a quotient of natural numbers. -/
def powerOfTen (e : Int) : Nat × Nat :=
  if 0 ≤ e then (Nat.pow 10 e.toNat, 1) else (1, Nat.pow 10 (-e).toNat)

/-- The exponent of the first digit of the magnitude. -/
def leadingExponent (rank : Nat) : Int :=
  ((Number.digits (units rank * Nat.pow 10 400 / Nat.pow 2 1074)).length : Int) - 401

/-- On the grid of `10 ^ e`, the point that rounds to the rank and is nearest to its magnitude, of two equally
near the greater. -/
def onGrid? (rank : Nat) (e : Int) : Option Decimal :=
  let (p, q) := powerOfTen e
  let scaled := 2 * units rank * q
  let step := p * Nat.pow 2 1075
  let low := scaled / step
  let hit (d : Nat) : Bool := roundsTo rank (d * step) q
  match hit low, hit (low + 1) with
  | true, true =>
    some ⟨if scaled - low * step < (low + 1) * step - scaled then low else low + 1, e⟩
  | true, false => some ⟨low, e⟩
  | false, true => some ⟨low + 1, e⟩
  | false, false => none

/-- The magnitude of a rank in full. -/
def exactDecimal (rank : Nat) : Decimal := ⟨units rank * Nat.pow 5 1074, -1074⟩

/-- The shortest decimal that rounds to a positive rank: the coarsest grid with a point that does. -/
def shortest (rank : Nat) : Decimal :=
  let top := leadingExponent rank
  ((List.range 17).findSome? fun n : Nat => onGrid? rank (top - n)).getD (exactDecimal rank)

/-- The text of a double. -/
def chars : Binary64 → List Char
  | nan => "NaN".toList
  | infinite s => (if s then "-inf" else "inf").toList
  | finite s r =>
    (if s then ['-'] else []) ++ if r.val = 0 then ['0'] else (shortest r).chars

@[inherit_doc chars]
def text (x : Binary64) : String := String.ofList x.chars

/-- The magnitude of a rank with `places` digits behind the point; a half goes to the even digit. -/
def fixedChars (places rank : Nat) : List Char :=
  let num := units rank * Nat.pow 10 places
  let den := Nat.pow 2 1074
  let low := num / den
  let rest := 2 * (num % den)
  let n := if rest < den ∨ (rest = den ∧ low % 2 = 0) then low else low + 1
  let ds := Number.digits n
  let padded := List.replicate (places + 1 - ds.length) '0' ++ ds
  padded.take (padded.length - places) ++ Decimal.pointed (padded.drop (padded.length - places))

/-- The text of a double with `places` digits behind the point. -/
def fixed (places : Nat) : Binary64 → String
  | finite s r => String.ofList ((if s then ['-'] else []) ++ fixedChars places r)
  | x => x.text

/-- The exponent behind the digits of a number, if the text is one. -/
def readExponent? : List Char → Option Int
  | [] => some 0
  | c :: cs => if c = 'e' ∨ c = 'E' then readInt? cs else none

/-- Reads digits with at most one point among them, then an exponent. -/
def readMagnitude? (negative : Bool) (cs : List Char) : Option Binary64 :=
  let whole := cs.takeWhile Char.isDigit
  let (fraction, rest) := match cs.dropWhile Char.isDigit with
    | '.' :: cs => (cs.takeWhile Char.isDigit, cs.dropWhile Char.isDigit)
    | cs => ([], cs)
  do
    let n ← readNat? (whole ++ fraction)
    let e ← readExponent? rest
    return ofDecimal negative n (e - fraction.length)

/-- Reads a name of a special number, in any case of letters, or a magnitude. -/
def readUnsigned? (negative : Bool) (cs : List Char) : Option Binary64 :=
  let lower := cs.map Char.toLower
  if lower = "nan".toList then some nan
  else if lower = "inf".toList ∨ lower = "infinity".toList then some (infinite negative)
  else readMagnitude? negative cs

/-- Reads a double: at most one sign, then a special name or a magnitude. -/
def readChars? : List Char → Option Binary64
  | '-' :: cs => readUnsigned? true cs
  | '+' :: cs => readUnsigned? false cs
  | cs => readUnsigned? false cs

@[inherit_doc readChars?]
def read? (s : String) : Option Binary64 := readChars? s.toList

end Binary64
end Number
end Calibration
