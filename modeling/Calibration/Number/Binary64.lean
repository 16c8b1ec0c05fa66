/-
# Double precision numbers

A double is a NaN, an infinity, or a finite number with a sign. The finite magnitudes are numbered in order:
rank `0` is zero, rank `1` the least positive number `2 ^ (-1074)`, and so on to the greatest, so that the
neighbours of a number are one rank away and an even rank is an even significand. In units of `2 ^ (-1074)`
every finite magnitude is a natural number (`units`), and all rounding is done on natural numbers: to the
nearest, of two equally near to the even rank, beyond the greatest to infinity (`round`).
-/

namespace Calibration
namespace Number

/-- The number of finite magnitudes. -/
abbrev magnitudes : Nat := 2047 * Nat.pow 2 52

/-- A double precision number. There is one NaN: its sign and payload mean nothing. -/
inductive Binary64 where
  | nan
  | infinite (negative : Bool)
  | finite (negative : Bool) (rank : Fin magnitudes)
deriving DecidableEq, Repr

namespace Binary64

/-- The magnitude of a rank in units of `2 ^ (-1074)`. From rank `2 ^ 52` on there are `2 ^ 52` magnitudes in
each binade, and their distance doubles from each binade to the next. -/
def units (rank : Nat) : Nat :=
  if rank < Nat.pow 2 52 then rank
  else (Nat.pow 2 52 + rank % Nat.pow 2 52) * Nat.pow 2 (rank / Nat.pow 2 52 - 1)

/-- The greatest rank whose magnitude is at most `n` units. -/
def floorRank (n : Nat) : Nat :=
  let shift := n.log2 - 52
  shift * Nat.pow 2 52 + n / Nat.pow 2 shift

/-- The rank nearest to `num / den` units, of two equally near the even one. -/
def nearestRank (num den : Nat) : Nat :=
  let low := floorRank (num / den)
  let middle := (units low + units (low + 1)) * den
  if 2 * num < middle then low
  else if middle < 2 * num then low + 1
  else if low % 2 = 0 then low else low + 1

/-- The magnitude of a rank, infinite beyond the greatest. -/
def ofRank (negative : Bool) (rank : Nat) : Binary64 :=
  if h : rank < magnitudes then finite negative ⟨rank, h⟩ else infinite negative

/-- The double nearest to `num / den` units. -/
def round (negative : Bool) (num den : Nat) : Binary64 :=
  ofRank negative (nearestRank num den)

/-- Zero. -/
def zero : Binary64 := finite false ⟨0, by decide⟩

instance : Inhabited Binary64 := ⟨zero⟩

/-- The double nearest to `digits * 10 ^ exponent`. Powers far outside the range are not computed: a number
above `10 ^ 310` is infinite, one below `10 ^ (-338)` is zero. -/
def ofDecimal (negative : Bool) (digits : Nat) (exponent : Int) : Binary64 :=
  let size : Int := (digits.log2 * 30103 / 100000 : Nat)
  if digits = 0 then ofRank negative 0
  else if 310 < size + exponent then infinite negative
  else if size + exponent < -340 then ofRank negative 0
  else if 0 ≤ exponent then round negative (digits * Nat.pow 10 exponent.toNat * Nat.pow 2 1074) 1
  else round negative (digits * Nat.pow 2 1074) (Nat.pow 10 (-exponent).toNat)

/-- The units of a finite number with its sign. -/
def signedUnits (negative : Bool) (rank : Fin magnitudes) : Int :=
  if negative then -(units rank : Int) else units rank

/-- The opposite number. -/
def neg : Binary64 → Binary64
  | nan => nan
  | infinite s => infinite !s
  | finite s r => finite (!s) r

/-- The sum; a zero that comes of different signs is positive. -/
def add : Binary64 → Binary64 → Binary64
  | nan, _ => nan
  | _, nan => nan
  | infinite s, infinite t => if s = t then infinite s else nan
  | infinite s, finite .. => infinite s
  | finite .., infinite t => infinite t
  | finite s r, finite t q =>
    let sum := signedUnits s r + signedUnits t q
    if sum = 0 then ofRank (s && t) 0 else round (sum < 0) sum.natAbs 1

/-- The difference. -/
def sub (x y : Binary64) : Binary64 := add x (neg y)

/-- The product. -/
def mul : Binary64 → Binary64 → Binary64
  | nan, _ => nan
  | _, nan => nan
  | infinite s, infinite t => infinite (s ^^ t)
  | infinite s, finite t q => if q.val = 0 then nan else infinite (s ^^ t)
  | finite s r, infinite t => if r.val = 0 then nan else infinite (s ^^ t)
  | finite s r, finite t q => round (s ^^ t) (units r * units q) (Nat.pow 2 1074)

/-- The quotient. -/
def div : Binary64 → Binary64 → Binary64
  | nan, _ => nan
  | _, nan => nan
  | infinite _, infinite _ => nan
  | infinite s, finite t _ => infinite (s ^^ t)
  | finite s _, infinite t => ofRank (s ^^ t) 0
  | finite s r, finite t q =>
    if q.val = 0 then if r.val = 0 then nan else infinite (s ^^ t)
    else round (s ^^ t) (units r * Nat.pow 2 1074) (units q)

instance : Neg Binary64 := ⟨neg⟩
instance : Add Binary64 := ⟨add⟩
instance : Sub Binary64 := ⟨sub⟩
instance : Mul Binary64 := ⟨mul⟩
instance : Div Binary64 := ⟨div⟩

/-- The number is greater than zero; a NaN is not. -/
def isPositive : Binary64 → Bool
  | nan => false
  | infinite s => !s
  | finite s r => !s && r.val != 0

/-- The number is less than zero; a NaN is not, nor is the negative zero. -/
def isNegative (x : Binary64) : Bool := (-x).isPositive

end Binary64
end Number
end Calibration
