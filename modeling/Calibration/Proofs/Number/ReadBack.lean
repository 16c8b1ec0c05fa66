/-
# Doubles are read back from their text

The decimal that is written for a double rounds to it, whether it is the shortest one or all of its digits
(`roundsTo_shortest`).  Its positional notation loses the zeros at the end of the fraction and nothing else
(`exists_pieces`), and the reader gets the digits and the number of places (`readMagnitude?_pointed`).  Such a decimal
lies well inside the bounds beyond which the reader does not compute (`size_bounds`), so that it is rounded
(`ofDecimal_of_roundsTo`), to the double that was written (`readChars?_chars`).
-/

import Calibration.Number.Shortest
import Calibration.Proofs.Number.Numerals
import Calibration.Proofs.Number.Rounding
import Mathlib.Data.List.TakeWhile
import Mathlib.Tactic.Ring

namespace Calibration
namespace Number

namespace Decimal

/-- Only zeros are dropped at the end. -/
theorem exists_dropZeros (cs : List Char) : ∃ k, cs = dropZeros cs ++ List.replicate k '0' := by
  have hall : ∀ c ∈ cs.reverse.takeWhile (· == '0'), c = '0' := fun c hc =>
    beq_iff_eq.1 (List.mem_takeWhile_imp (p := (· == '0')) hc)
  refine ⟨(cs.reverse.takeWhile (· == '0')).length, ?_⟩
  have hreverse : cs.reverse = List.replicate (cs.reverse.takeWhile (· == '0')).length '0' ++
      cs.reverse.dropWhile (· == '0') := by
    rw [← List.eq_replicate_of_mem hall, List.takeWhile_append_dropWhile]
  calc cs = cs.reverse.reverse := cs.reverse_reverse.symm
    _ = dropZeros cs ++ List.replicate _ '0' := by
        rw [hreverse, List.reverse_append, List.reverse_replicate, ← hreverse, dropZeros]

/-- What is left when zeros are dropped was there before. -/
theorem mem_of_mem_dropZeros {c : Char} {cs : List Char} (h : c ∈ dropZeros cs) : c ∈ cs := by
  obtain ⟨k, hk⟩ := exists_dropZeros cs
  rw [hk]
  exact List.mem_append_left _ h

/-- What is written of a decimal are digits and a point. -/
theorem isDigit_or_of_mem_chars {c : Char} {d : Decimal} (h : c ∈ d.chars) : c.isDigit ∨ c = '.' := by
  have hpadded : ∀ {k n : Nat}, c ∈ List.replicate k '0' ++ Number.digits n → c.isDigit := fun h =>
    (List.mem_append.1 h).elim isDigit_of_mem_replicate isDigit_of_mem_digits
  unfold chars at h
  simp only at h
  split_ifs at h
  · rw [List.append_nil] at h
    exact .inl (isDigit_of_mem_digits h)
  · exact .inl ((List.mem_append.1 h).elim isDigit_of_mem_digits isDigit_of_mem_replicate)
  · rcases List.mem_append.1 h with h | h
    · exact .inl (hpadded (List.mem_of_mem_take h))
    · unfold pointed at h
      split_ifs at h
      · exact nomatch h
      · rcases List.mem_cons.1 h with h | h
        · exact .inr h
        · exact .inl (hpadded (List.mem_of_mem_drop (mem_of_mem_dropZeros h)))

end Decimal

namespace Binary64

variable {rank : Nat}

/-- **Digits with a point among them** are read as the numeral of all digits, and the number of those behind the
point. -/
theorem readMagnitude?_pointed {whole fraction : List Char} (negative : Bool) (hwhole : ∀ c ∈ whole, c.isDigit)
    (hfraction : ∀ c ∈ fraction, c.isDigit) :
    readMagnitude? negative (whole ++ Decimal.pointed fraction) =
      (readNat? (whole ++ fraction)).map fun n => ofDecimal negative n (-(fraction.length : Int)) := by
  have hread : ∀ x : Option Nat, (do
      let n ← x
      let e ← readExponent? []
      return ofDecimal negative n (e - (fraction.length : Int))) =
      x.map fun n => ofDecimal negative n (-(fraction.length : Int)) := fun x => by
    cases x with
    | none => rfl
    | some n => simp [readExponent?]
  rw [Decimal.pointed]
  cases fraction with
  | nil =>
    rw [show ([] : List Char).isEmpty = true from rfl, if_pos rfl, List.append_nil, readMagnitude?,
      List.takeWhile_eq_self_iff.2 hwhole, List.dropWhile_eq_nil_iff.2 hwhole]
    simpa using hread (readNat? whole)
  | cons c cs =>
    have hpoint : ('.' : Char).isDigit = false := rfl
    rw [if_neg (by simp), readMagnitude?, List.takeWhile_append_of_pos hwhole, List.dropWhile_append_of_pos hwhole,
      List.takeWhile_cons_of_neg (by decide), List.dropWhile_cons_of_neg (by decide)]
    simp only
    rw [List.takeWhile_eq_self_iff.2 hfraction, List.dropWhile_eq_nil_iff.2 hfraction, List.append_nil]
    exact hread _

/-! ### The size of a numeral -/

/-- The number of digits as the reader estimates it, off by no more than two: `2 ^ 196` is a little more than
`10 ^ 59`. -/
theorem ten_pow_size_le {l : Nat} (hl : l ≤ 6000) : 10 ^ (l * 30103 / 100000) ≤ 100 * 2 ^ l := by
  have hsmall : ∀ b, b < 196 → 10 ^ (b * 30103 / 100000) ≤ 10 * 2 ^ b := by decide +kernel
  have hlarge : (10 ^ 59) ^ (l / 196) ≤ (2 ^ 196) ^ (l / 196) := Nat.pow_le_pow_left (by decide) _
  have hsize : l * 30103 / 100000 ≤ 59 * (l / 196) + (l % 196 * 30103 / 100000 + 1) := by omega
  calc 10 ^ (l * 30103 / 100000) ≤ 10 ^ (59 * (l / 196) + (l % 196 * 30103 / 100000 + 1)) :=
        Nat.pow_le_pow_right (by decide) hsize
    _ = (10 ^ 59) ^ (l / 196) * (10 ^ (l % 196 * 30103 / 100000) * 10) := by
        rw [Nat.pow_add, Nat.pow_mul, Nat.pow_add 10 (l % 196 * 30103 / 100000) 1, Nat.pow_one]
    _ ≤ (2 ^ 196) ^ (l / 196) * (10 * 2 ^ (l % 196) * 10) :=
        Nat.mul_le_mul hlarge (Nat.mul_le_mul_right _ (hsmall _ (Nat.mod_lt _ (by decide))))
    _ = 100 * 2 ^ (196 * (l / 196) + l % 196) := by
        rw [Nat.pow_add, Nat.pow_mul]; ring
    _ = 100 * 2 ^ l := by rw [Nat.div_add_mod]

/-- The same from the other side: `2 ^ 93` is a little less than `10 ^ 28`. -/
theorem two_pow_le_size {l : Nat} (hl : l ≤ 6000) : 2 ^ l ≤ 10 ^ (l * 30103 / 100000 + 2) := by
  have hsmall : ∀ b, b < 93 → 2 ^ b ≤ 10 ^ (b * 30103 / 100000 + 1) := by decide +kernel
  have hlarge : (2 ^ 93) ^ (l / 93) ≤ (10 ^ 28) ^ (l / 93) := Nat.pow_le_pow_left (by decide) _
  have hsize : 28 * (l / 93) + (l % 93 * 30103 / 100000 + 1) ≤ l * 30103 / 100000 + 2 := by omega
  calc 2 ^ l = (2 ^ 93) ^ (l / 93) * 2 ^ (l % 93) := by rw [← Nat.pow_mul, ← Nat.pow_add, Nat.div_add_mod]
    _ ≤ (10 ^ 28) ^ (l / 93) * 10 ^ (l % 93 * 30103 / 100000 + 1) :=
        Nat.mul_le_mul hlarge (hsmall _ (Nat.mod_lt _ (by decide)))
    _ = 10 ^ (28 * (l / 93) + (l % 93 * 30103 / 100000 + 1)) := by rw [← Nat.pow_mul, ← Nat.pow_add]
    _ ≤ 10 ^ (l * 30103 / 100000 + 2) := Nat.pow_le_pow_right (by decide) hsize

/-- The units in a one. -/
@[irreducible] def scale : Nat := Nat.pow 2 1074

/-- The units in a one are a power of two, which is kept folded since it is long. -/
theorem two_pow_1074 : Nat.pow 2 1074 = scale := by decide +kernel

/-- So are twice as many. -/
theorem two_pow_1075 : Nat.pow 2 1075 = 2 * scale := by decide +kernel

/-- The power of five that makes a power of ten of the units in a one. -/
theorem five_pow_mul_scale : Nat.pow 5 1074 * scale = Nat.pow 10 1074 := by decide +kernel

/-- Four times the units in a one are less than `10 ^ 324`. -/
theorem scale_le : 4 * scale ≤ 10 ^ 324 := by decide +kernel

/-- The greatest magnitude is less than `10 ^ 309`. -/
theorem units_magnitudes_le : units magnitudes ≤ 10 ^ 309 * scale := by decide +kernel

/-- A numeral with some places that rounds to a positive finite magnitude. -/
theorem bounds_of_roundsTo {digits places : Nat} (hpos : 0 < rank) (hrank : rank < magnitudes)
    (h : roundsTo rank (digits * (2 * scale)) (10 ^ places)) :
    digits < 10 ^ (309 + places) ∧ 10 ^ places ≤ digits * (2 * scale) := by
  obtain ⟨⟨hlow, hhigh⟩, -⟩ := roundsTo_iff.1 h
  constructor
  · have hupper : upperBound rank < 10 ^ 309 * (2 * scale) := by
      have h₁ := units_lt_units hrank
      have h₂ := units_le_units (show rank + 1 ≤ magnitudes from hrank)
      have h₃ := units_magnitudes_le
      unfold upperBound
      omega
    refine Nat.lt_of_mul_lt_mul_right (a := 2 * scale) (Nat.lt_of_le_of_lt hhigh ?_)
    rw [Nat.pow_add 10 309 places, Nat.mul_right_comm]
    exact Nat.mul_lt_mul_of_pos_right hupper (Nat.pow_pos (by decide))
  · have hone : 1 ≤ lowerBound rank := Nat.le_trans (units_pos hpos) (Nat.le_add_left _ _)
    exact Nat.le_trans (Nat.le_mul_of_pos_left _ hone) hlow

/-- **The size that the reader estimates for such a numeral** lies within the bounds in which it computes.  So nothing
that was written is taken for too large or too small unread. -/
theorem size_bounds {digits places : Nat} (hplaces : places ≤ 1074) (hhigh : digits < 10 ^ (309 + places))
    (hlow : 10 ^ places ≤ digits * (2 * scale)) :
    digits ≠ 0 ∧ digits.log2 * 30103 / 100000 ≤ 310 + places ∧ places ≤ digits.log2 * 30103 / 100000 + 326 := by
  have hne : digits ≠ 0 := fun h => by
    rw [h, Nat.zero_mul] at hlow
    exact absurd (Nat.pow_pos (by decide)) (Nat.not_lt.2 hlow)
  have hlog : digits.log2 ≤ 6000 := by
    have hten : 10 ^ (309 + places) ≤ 2 ^ (4 * (309 + places)) := by
      rw [Nat.pow_mul]
      exact Nat.pow_le_pow_left (by decide) _
    have := (Nat.log2_lt hne).2 (Nat.lt_of_lt_of_le hhigh hten)
    omega
  have hself := Nat.log2_self_le hne
  have hnext := Nat.lt_log2_self (n := digits)
  refine ⟨hne, Nat.lt_succ_iff.1 ((Nat.pow_lt_pow_iff_right (a := 10) (by decide)).1 ?_),
    Nat.le_of_lt_succ ((Nat.pow_lt_pow_iff_right (a := 10) (by decide)).1 ?_)⟩
  · calc 10 ^ (digits.log2 * 30103 / 100000) ≤ 100 * 2 ^ digits.log2 := ten_pow_size_le hlog
      _ ≤ 100 * digits := Nat.mul_le_mul_left _ hself
      _ < 100 * 10 ^ (309 + places) := Nat.mul_lt_mul_of_pos_left hhigh (by decide)
      _ = 10 ^ (310 + places).succ := by
        rw [show (310 + places).succ = 2 + (309 + places) by omega, Nat.pow_add 10 2]
  · calc 10 ^ places ≤ digits * (2 * scale) := hlow
      _ ≤ 2 ^ (digits.log2 + 1) * (2 * scale) := Nat.mul_le_mul_right _ (Nat.le_of_lt hnext)
      _ = 2 ^ digits.log2 * (4 * scale) := by rw [Nat.pow_succ]; ring
      _ ≤ 10 ^ (digits.log2 * 30103 / 100000 + 2) * 10 ^ 324 := Nat.mul_le_mul (two_pow_le_size hlog) scale_le
      _ < 10 ^ (digits.log2 * 30103 / 100000 + 326).succ := by
        rw [← Nat.pow_add]
        exact Nat.pow_lt_pow_right (by decide) (by omega)

/-- **A decimal that rounds to a finite magnitude is rounded to it.**  The reader computes with whole numbers, and the
estimate of the size does not cut it off. -/
theorem ofDecimal_of_roundsTo (negative : Bool) {digits places : Nat} (hpos : 0 < rank) (hrank : rank < magnitudes)
    (hplaces : places ≤ 1074) (h : roundsTo rank (digits * (2 * scale)) (10 ^ places)) :
    ofDecimal negative digits (-(places : Int)) = .finite negative ⟨rank, hrank⟩ := by
  obtain ⟨hhigh, hlow⟩ := bounds_of_roundsTo hpos hrank h
  obtain ⟨hne, htop, hbottom⟩ := size_bounds hplaces hhigh hlow
  have hround : ∀ num, 2 * num = digits * (2 * scale) →
      round negative num (10 ^ places) = .finite negative ⟨rank, hrank⟩ := by
    intro num hnum
    rw [round, nearestRank_of_roundsTo hpos (Nat.pow_pos (by decide)) (hnum ▸ h), ofRank, dif_pos hrank]
  unfold ofDecimal
  simp only [two_pow_1074]
  rw [if_neg hne, if_neg (by omega), if_neg (by omega)]
  split_ifs with hzero
  · obtain rfl : places = 0 := by omega
    refine hround _ ?_
    rw [show (-((0 : Nat) : Int)).toNat = 0 from rfl]
    change 2 * (digits * 1 * scale) = _
    ring
  · rw [show (- -(places : Int)).toNat = places by omega]
    exact hround _ (by ring)

/-! ### The decimal that is written -/

/-- A point on the grid that is found rounds to the rank. -/
theorem roundsTo_of_onGrid? {e : Int} {d : Decimal} (h : onGrid? rank e = some d) :
    d.exponent = e ∧ roundsTo rank (d.digits * ((powerOfTen e).1 * (2 * scale))) (powerOfTen e).2 := by
  unfold onGrid? at h
  simp only [two_pow_1075] at h
  split at h
  · next hlow hhigh =>
    obtain rfl := Option.some.inj h
    refine ⟨rfl, ?_⟩
    simp only
    split_ifs
    · exact hlow
    · exact hhigh
  · next hlow _ =>
    obtain rfl := Option.some.inj h
    exact ⟨rfl, hlow⟩
  · next _ hhigh =>
    obtain rfl := Option.some.inj h
    exact ⟨rfl, hhigh⟩
  · exact nomatch h

/-- A power of ten as a fraction. -/
theorem powerOfTen_of_nonneg (e : Nat) : powerOfTen e = (Nat.pow 10 e, 1) := if_pos (Int.natCast_nonneg e)

/-- A negative power of ten as a fraction. -/
theorem powerOfTen_of_neg {e : Nat} (he : 0 < e) : powerOfTen (-(e : Int)) = (1, Nat.pow 10 e) := by
  rw [powerOfTen, if_neg (by omega), show (- -(e : Int)).toNat = e by omega]

/-- No power of ten has a zero below its line. -/
theorem powerOfTen_pos (e : Int) : 0 < (powerOfTen e).2 := by
  unfold powerOfTen
  split_ifs
  · exact Nat.one_pos
  · exact Nat.pow_pos (by decide)

/-- A magnitude with all its digits, `fives` being the power of five that goes with the power of ten. -/
theorem roundsTo_of_fives (hpos : 0 < rank) {e fives : Nat} (he : 0 < e) (hfives : fives * scale = Nat.pow 10 e) :
    roundsTo rank (units rank * fives * ((powerOfTen (-(e : Int))).1 * (2 * scale)))
      (powerOfTen (-(e : Int))).2 := by
  rw [powerOfTen_of_neg he, ← hfives]
  have h := roundsTo_units hpos (show 0 < fives * scale from hfives ▸ Nat.pow_pos (by decide))
  rwa [show units rank * fives * (1 * (2 * scale)) = 2 * units rank * (fives * scale) by ring]

/-- The decimal with all digits of a magnitude has a power of five in it, for the places behind its point. -/
theorem exists_exactDecimal_eq (rank : Nat) : ∃ fives e : Nat, 0 < e ∧ e ≤ 1074 ∧ fives * scale = Nat.pow 10 e ∧
    exactDecimal rank = ⟨units rank * fives, -(e : Int)⟩ := by
  refine ⟨_, _, by decide, by decide, five_pow_mul_scale, ?_⟩
  rw [exactDecimal, show ((1074 : Nat) : Int) = 1074 from rfl]

/-- What is found in a list, or the value in its stead. -/
theorem getD_findSome?_cases {α β : Type} (f : α → Option β) (l : List α) (b : β) :
    (∃ a ∈ l, f a = some ((l.findSome? f).getD b)) ∨ (l.findSome? f).getD b = b := by
  cases h : l.findSome? f with
  | none => exact .inr rfl
  | some c => exact .inl (List.exists_of_findSome?_eq_some h)

/-- The search for the digits of a magnitude begins no further down than at `10 ^ (-400)`. -/
theorem leadingExponent_ge (rank : Nat) : -400 ≤ leadingExponent rank := by
  rw [leadingExponent]
  generalize units rank * Nat.pow 10 400 / Nat.pow 2 1074 = n
  have := List.length_pos_iff.2 (digits_ne_nil n)
  omega

/-- **The decimal that is written rounds to the rank**, and has no more places than the least magnitude.  If no
shorter one is found on the grids that are searched, all digits are written, and these are the magnitude itself. -/
theorem roundsTo_shortest (hpos : 0 < rank) :
    -1074 ≤ (shortest rank).exponent ∧ roundsTo rank
      ((shortest rank).digits * ((powerOfTen (shortest rank).exponent).1 * (2 * scale)))
      (powerOfTen (shortest rank).exponent).2 := by
  have hcases : (∃ n ∈ List.range 17, onGrid? rank (leadingExponent rank - (n : Nat)) = some (shortest rank)) ∨
      shortest rank = exactDecimal rank := getD_findSome?_cases _ _ _
  rcases hcases with ⟨n, hn, hd⟩ | hexact
  · obtain ⟨he, hround⟩ := roundsTo_of_onGrid? hd
    have hlead := leadingExponent_ge rank
    have := List.mem_range.1 hn
    rw [he]
    exact ⟨by omega, he ▸ hround⟩
  · obtain ⟨fives, e, he, hle, hfives, heq⟩ := exists_exactDecimal_eq rank
    rw [hexact, heq]
    exact ⟨by simp only; omega, roundsTo_of_fives hpos he hfives⟩

/-! ### Writing and reading -/

/-- **What is written of a decimal**: digits, a point, and digits, of which only zeros at the end are left out. -/
structure Pieces (d : Decimal) (whole fraction : List Char) (n : Nat) : Prop where
  chars : d.chars = whole ++ Decimal.pointed fraction
  digit_whole : ∀ c ∈ whole, c.isDigit
  digit_fraction : ∀ c ∈ fraction, c.isDigit
  head : ∃ w ∈ whole.head?, w.isDigit
  read : readNat? (whole ++ fraction) = some n
  value : (∃ e : Nat, d.exponent = e ∧ fraction = [] ∧ n = d.digits * 10 ^ e) ∨
    ∃ k : Nat, d.exponent = -((fraction.length + k : Nat) : Int) ∧ 0 < fraction.length + k ∧ n * 10 ^ k = d.digits

/-- A decimal without places behind the point is written with its zeros and no fraction. -/
theorem pieces_of_nonneg {d : Decimal} (hd : d.digits ≠ 0) (hexp : 0 ≤ d.exponent) :
    Pieces d (digits d.digits ++ List.replicate d.exponent.toNat '0') [] (d.digits * 10 ^ d.exponent.toNat) where
  chars := by
    rw [Decimal.chars]
    simp only
    rw [if_pos hexp, if_neg hd, Decimal.pointed]
    exact (List.append_nil _).symm
  digit_whole c hc := (List.mem_append.1 hc).elim isDigit_of_mem_digits isDigit_of_mem_replicate
  digit_fraction := nofun
  head := by
    obtain ⟨w, hw, hhead⟩ := head?_digits d.digits
    exact ⟨digitChar w, by rw [List.head?_append, hhead]; rfl, isDigit_digitChar hw⟩
  read := by
    rw [List.append_nil, readNat?_eq_readFrom (by simp [digits_ne_nil]), readFrom_append, readFrom_digits,
      Option.bind_some, readFrom_zeros]
  value := .inl ⟨d.exponent.toNat, by omega, rfl, rfl⟩

/-- The digits of a numeral with a point some places before its end, and with the zeros at the end left out.  Zeros
are put in front where there are more places than digits. -/
theorem exists_fraction {padded : List Char} {n places : Nat} (hread : readFrom 0 padded = some n)
    (hlength : places + 1 ≤ padded.length) :
    ∃ k m, (Decimal.dropZeros (padded.drop (padded.length - places))).length + k = places ∧ m * 10 ^ k = n ∧
      readFrom 0 (padded.take (padded.length - places) ++ Decimal.dropZeros (padded.drop (padded.length - places))) =
        some m := by
  obtain ⟨k, hk⟩ := Decimal.exists_dropZeros (padded.drop (padded.length - places))
  generalize Decimal.dropZeros (padded.drop (padded.length - places)) = fraction at hk ⊢
  have hsplit : padded.take (padded.length - places) ++ fraction ++ List.replicate k '0' = padded := by
    rw [List.append_assoc, ← hk, List.take_append_drop]
  have hlen := congrArg List.length hk
  rw [List.length_drop, List.length_append, List.length_replicate] at hlen
  rw [← hsplit, readFrom_append] at hread
  obtain ⟨m, hm, he⟩ := Option.bind_eq_some_iff.1 hread
  rw [readFrom_zeros] at he
  exact ⟨k, m, by omega, Option.some.inj he, hm⟩

/-- A decimal with places behind the point is written with a fraction. -/
theorem exists_pieces_of_neg {d : Decimal} (hexp : d.exponent < 0) : ∃ whole fraction n, Pieces d whole fraction n := by
  obtain ⟨places, hplaces⟩ : ∃ places : Nat, d.exponent = -(places : Int) := ⟨d.exponent.natAbs, by omega⟩
  obtain ⟨padded, hpadded⟩ : ∃ padded, padded =
      List.replicate (places + 1 - (digits d.digits).length) '0' ++ digits d.digits := ⟨_, rfl⟩
  have hdigit : ∀ c ∈ padded, c.isDigit := fun c hc => by
    rw [hpadded] at hc
    exact (List.mem_append.1 hc).elim isDigit_of_mem_replicate isDigit_of_mem_digits
  have hlength : places + 1 ≤ padded.length := by
    rw [hpadded, List.length_append, List.length_replicate]
    omega
  obtain ⟨k, n, hlen, hvalue, hread⟩ := exists_fraction (hpadded ▸ readFrom_padded _ _) hlength
  have hhead : ∃ w ∈ (padded.take (padded.length - places)).head?, w.isDigit := by
    cases htake : padded.take (padded.length - places) with
    | nil =>
      have := congrArg List.length htake
      rw [List.length_take, List.length_nil] at this
      omega
    | cons w ws => exact ⟨w, rfl, hdigit w (List.mem_of_mem_take (htake ▸ List.mem_cons_self ..))⟩
  refine ⟨padded.take (padded.length - places), Decimal.dropZeros (padded.drop (padded.length - places)), n, ?_,
    fun c hc => hdigit c (List.mem_of_mem_take hc),
    fun c hc => hdigit c (List.mem_of_mem_drop (Decimal.mem_of_mem_dropZeros hc)), hhead, ?_,
    .inr ⟨k, by omega, by omega, hvalue⟩⟩
  · rw [Decimal.chars]
    simp only
    rw [if_neg (by omega), show (-d.exponent).toNat = places by omega, ← hpadded]
  · rw [readNat?_eq_readFrom, hread]
    intro hnil
    obtain ⟨w, hw, -⟩ := hhead
    rw [(List.append_eq_nil_iff.1 hnil).1] at hw
    cases hw

/-- **Every decimal is written in pieces** that give its digits back.  There is a point in it or not, and zeros fill
up what its exponent leaves open. -/
theorem exists_pieces (d : Decimal) (hd : d.digits ≠ 0) : ∃ whole fraction n, Pieces d whole fraction n := by
  by_cases hexp : 0 ≤ d.exponent
  · exact ⟨_, _, _, pieces_of_nonneg hd hexp⟩
  · exact exists_pieces_of_neg (Int.not_le.1 hexp)

/-- The decimal of a positive magnitude reads back as a decimal that rounds to it. -/
theorem readMagnitude?_shortest (negative : Bool) (hpos : 0 < rank) (hrank : rank < magnitudes) :
    readMagnitude? negative (shortest rank).chars = some (.finite negative ⟨rank, hrank⟩) ∧
      ∃ w ∈ (shortest rank).chars.head?, w.isDigit := by
  obtain ⟨hplaces, hround⟩ := roundsTo_shortest hpos
  have hne : (shortest rank).digits ≠ 0 := fun h => by
    rw [h, Nat.zero_mul] at hround
    obtain ⟨⟨hlow, -⟩, -⟩ := roundsTo_iff.1 hround
    have hbound : 0 < lowerBound rank := Nat.lt_of_lt_of_le (units_pos hpos) (Nat.le_add_left _ _)
    exact absurd hlow (Nat.not_le.2 (Nat.mul_pos hbound (powerOfTen_pos _)))
  obtain ⟨whole, fraction, n, hchars, hwhole, hfraction, ⟨w, hw, hdigit⟩, hread, hvalue⟩ :=
    exists_pieces (shortest rank) hne
  refine ⟨?_, w, ?_, hdigit⟩
  · rw [hchars, readMagnitude?_pointed negative hwhole hfraction, hread, Option.map_some]
    congr 1
    rcases hvalue with ⟨e, he, rfl, rfl⟩ | ⟨k, he, hlen, hvalue⟩
    · rw [he, powerOfTen_of_nonneg, Nat.pow_eq] at hround
      refine ofDecimal_of_roundsTo negative hpos hrank (Nat.zero_le _) ?_
      rwa [← Nat.mul_assoc] at hround
    · rw [he, powerOfTen_of_neg hlen, ← hvalue, Nat.pow_eq, Nat.pow_add] at hround
      refine ofDecimal_of_roundsTo negative hpos hrank (by omega) ?_
      rw [← roundsTo_mul (show 0 < 10 ^ k from Nat.pow_pos (by decide))]
      rwa [show n * (2 * scale) * 10 ^ k = n * 10 ^ k * (1 * (2 * scale)) by ring]
  · rw [hchars, List.head?_append, Option.mem_def.1 hw]
    rfl

/-- A text that begins with a digit is no name of a special number. -/
theorem readUnsigned?_of_isDigit (negative : Bool) {cs : List Char} (h : ∃ w ∈ cs.head?, w.isDigit) :
    readUnsigned? negative cs = readMagnitude? negative cs := by
  obtain ⟨w, hw, hdigit⟩ := h
  obtain ⟨ws, rfl⟩ : ∃ ws, cs = w :: ws := by
    cases cs with
    | nil => cases hw
    | cons v ws => exact ⟨ws, by rw [Option.some.inj hw]⟩
  obtain ⟨d, hd, rfl⟩ := exists_of_isDigit hdigit
  obtain ⟨hn, hi⟩ := toLower_digitChar_ne hd
  unfold readUnsigned?
  simp only [List.map_cons]
  rw [show "nan".toList = ['n', 'a', 'n'] from rfl, show "inf".toList = ['i', 'n', 'f'] from rfl,
    show "infinity".toList = ['i', 'n', 'f', 'i', 'n', 'i', 't', 'y'] from rfl,
    if_neg fun h => hn (List.cons.inj h).1,
    if_neg fun h => h.elim (fun h => hi (List.cons.inj h).1) fun h => hi (List.cons.inj h).1]

/-- What is written of a magnitude is read as the double with the sign that stood in front of it. -/
theorem readUnsigned?_magnitude (negative : Bool) (rank : Fin magnitudes) :
    let cs := if rank.val = 0 then ['0'] else (shortest rank).chars
    readUnsigned? negative cs = some (.finite negative rank) ∧ ∃ w ∈ cs.head?, w.isDigit := by
  intro cs
  by_cases hzero : rank.val = 0
  · have hcs : cs = ['0'] := if_pos hzero
    have hrank : rank = ⟨0, by decide⟩ := Fin.ext hzero
    rw [hcs, readUnsigned?_of_isDigit negative ⟨'0', rfl, rfl⟩, hrank]
    refine ⟨?_, '0', rfl, rfl⟩
    have hread : readMagnitude? negative (['0'] ++ Decimal.pointed []) = _ :=
      readMagnitude?_pointed negative (by simp) nofun
    refine hread.trans ?_
    rw [show readNat? (['0'] ++ []) = some 0 from rfl, Option.map_some, ofDecimal, if_pos rfl, ofRank,
      dif_pos (show 0 < magnitudes by decide)]
  · have hcs : cs = (shortest rank).chars := if_neg hzero
    obtain ⟨hread, hhead⟩ := readMagnitude?_shortest negative (Nat.pos_of_ne_zero hzero) rank.isLt
    rw [hcs, readUnsigned?_of_isDigit negative hhead, hread]
    exact ⟨rfl, hhead⟩

/-- **A double is read back from its text.**  Its sign is read first, then a name or the digits, and the decimal that
these are rounds to the magnitude that was written. -/
theorem readChars?_chars (x : Binary64) : readChars? x.chars = some x := by
  cases x with
  | nan => decide
  | infinite s => cases s <;> decide
  | finite s rank =>
    obtain ⟨hread, w, hw, hdigit⟩ := readUnsigned?_magnitude s rank
    revert hread hw
    change _ → _ → readChars? ((if s then ['-'] else []) ++
      if rank.val = 0 then ['0'] else (shortest rank).chars) = _
    generalize (if rank.val = 0 then ['0'] else (shortest rank).chars) = cs
    intro hread hw
    cases s with
    | true => exact hread
    | false =>
      rw [if_neg Bool.false_ne_true, List.nil_append]
      obtain ⟨d, hd, rfl⟩ := exists_of_isDigit hdigit
      obtain ⟨hminus, hplus⟩ := digitChar_ne_sign hd
      cases cs with
      | nil => exact nomatch hw
      | cons v vs =>
        obtain rfl := Option.some.inj hw
        rw [readChars?]
        · exact hread
        · exact fun _ h => hminus (List.cons.inj h).1
        · exact fun _ h => hplus (List.cons.inj h).1

/-- No character of a double is blank. -/
theorem isBlank_of_mem_chars (x : Binary64) : ∀ c ∈ x.chars, Text.isBlank c = false := by
  have hdecimal : ∀ d : Decimal, ∀ c ∈ d.chars, Text.isBlank c = false := by
    intro d c hc
    rcases Decimal.isDigit_or_of_mem_chars hc with hdigit | rfl
    · exact isBlank_of_isDigit hdigit
    · rfl
  have hname : ∀ cs : List Char, cs.all (!Text.isBlank ·) → ∀ c ∈ cs, Text.isBlank c = false := fun cs hcs c hc =>
    (Bool.not_eq_true' _).mp (List.all_eq_true.1 hcs c hc)
  cases x with
  | nan => exact hname _ (by decide)
  | infinite s => cases s <;> exact hname _ (by decide)
  | finite s rank =>
    intro c hc
    rcases List.mem_append.1 hc with hc | hc
    · cases s with
      | true => rw [List.mem_singleton.1 hc]; rfl
      | false => exact nomatch hc
    · split_ifs at hc
      · rw [List.mem_singleton.1 hc]; rfl
      · exact hdecimal _ c hc

end Binary64
end Number
end Calibration
