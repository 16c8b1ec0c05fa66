/-
# Rounding to the nearest double

The magnitudes grow with their ranks (`units_lt_units`), and `floorRank` finds the greatest one that is not above a
number (`units_floorRank_le`, `lt_units_floorRank_succ`).  So a number strictly between the bounds of a rank, or at a
bound of an even one, is rounded to that rank (`nearestRank_of_roundsTo`).
-/

import Calibration.Number.Shortest
import Mathlib.Tactic.Ring

namespace Calibration
namespace Number
namespace Binary64

variable {rank num den n : Nat}

/-- A significand of 53 bits, or the next power of two, in the binade of a shift. -/
theorem units_of_significand {shift q : Nat} (hlow : 2 ^ 52 ≤ q) (hhigh : q ≤ 2 ^ 53) :
    units (shift * 2 ^ 52 + q) = q * 2 ^ shift := by
  unfold units
  simp only [Nat.pow_eq]
  rw [if_neg (by omega)]
  rcases Nat.lt_or_ge q (2 ^ 53) with hq | hq
  · have hdiv : (shift * 2 ^ 52 + q) / 2 ^ 52 = shift + 1 := by omega
    have hmod : (shift * 2 ^ 52 + q) % 2 ^ 52 = q - 2 ^ 52 := by omega
    rw [hdiv, hmod, Nat.add_sub_cancel, Nat.add_sub_cancel' hlow]
  · obtain rfl : q = 2 ^ 53 := Nat.le_antisymm hhigh hq
    have hdiv : (shift * 2 ^ 52 + 2 ^ 53) / 2 ^ 52 = shift + 2 := by omega
    have hmod : (shift * 2 ^ 52 + 2 ^ 53) % 2 ^ 52 = 0 := by omega
    rw [hdiv, hmod, show shift + 2 - 1 = shift + 1 from rfl, Nat.pow_succ]
    omega

/-- The first magnitudes are as many units as their ranks. -/
theorem units_of_lt (h : rank < 2 ^ 52) : units rank = rank := if_pos h

/-- Every rank from `2 ^ 52` on is a binade and a significand. -/
theorem exists_significand (h : 2 ^ 52 ≤ rank) :
    ∃ shift q, 2 ^ 52 ≤ q ∧ q < 2 ^ 53 ∧ rank = shift * 2 ^ 52 + q :=
  ⟨rank / 2 ^ 52 - 1, rank % 2 ^ 52 + 2 ^ 52, by omega, by omega, by omega⟩

/-- Each magnitude is greater than the one before it, also from one binade to the next. -/
theorem units_lt_succ (rank : Nat) : units rank < units (rank + 1) := by
  rcases Nat.lt_or_ge rank (2 ^ 52) with h | h
  · rw [units_of_lt h]
    rcases Nat.lt_or_ge (rank + 1) (2 ^ 52) with h' | h'
    · rw [units_of_lt h']
      exact Nat.lt_succ_self rank
    · have hone : units (0 * 2 ^ 52 + (rank + 1)) = _ := units_of_significand h' (by omega)
      rw [Nat.zero_mul, Nat.zero_add] at hone
      omega
  · obtain ⟨shift, q, hlow, hhigh, rfl⟩ := exists_significand h
    rw [units_of_significand hlow (by omega), Nat.add_assoc, units_of_significand (by omega) (by omega)]
    exact Nat.mul_lt_mul_of_pos_right (Nat.lt_succ_self q) (Nat.two_pow_pos shift)

/-- **The magnitudes grow with their ranks.**  So a number lies between two of them, and the rank below it is unique.
-/
theorem units_lt_units {r s : Nat} (h : r < s) : units r < units s := by
  induction s with
  | zero => exact absurd h (Nat.not_lt_zero r)
  | succ s ih =>
    rcases Nat.lt_succ_iff_lt_or_eq.1 h with h | rfl
    · exact Nat.lt_trans (ih h) (units_lt_succ s)
    · exact units_lt_succ r

/-- They grow in the weak sense, too. -/
theorem units_le_units {r s : Nat} (h : r ≤ s) : units r ≤ units s := by
  rcases Nat.lt_or_eq_of_le h with h | rfl
  · exact Nat.le_of_lt (units_lt_units h)
  · exact Nat.le_refl _

/-- All magnitudes but the first are positive. -/
theorem units_pos (h : 0 < rank) : 0 < units rank := Nat.lt_of_le_of_lt (Nat.zero_le _) (units_lt_units h)

/-- **The rank that is found stands for a number and is the last one to do so.**  The length of the number in binary
tells the binade, and its first 53 digits the place in it; what is cut off is less than the distance of two magnitudes
there. -/
theorem units_floorRank (n : Nat) : units (floorRank n) ≤ n ∧ n < units (floorRank n + 1) := by
  unfold floorRank
  simp only [Nat.pow_eq]
  rcases Nat.lt_or_ge n (2 ^ 52) with h | h
  · have hlog : n.log2 - 52 = 0 := by
      rcases Nat.eq_zero_or_pos n with rfl | hn
      · rfl
      · have := (Nat.log2_lt (Nat.ne_of_gt hn)).2 h
        omega
    rw [hlog, Nat.zero_mul, Nat.pow_zero, Nat.div_one, Nat.zero_add]
    have hlt := units_lt_succ n
    rw [units_of_lt h] at hlt ⊢
    exact ⟨Nat.le_refl n, hlt⟩
  · have hne : n ≠ 0 := by omega
    have hlog : 52 ≤ n.log2 := (Nat.le_log2 hne).2 h
    have hlow : 2 ^ 52 ≤ n / 2 ^ (n.log2 - 52) := by
      rw [Nat.le_div_iff_mul_le (Nat.two_pow_pos _), ← Nat.pow_add, Nat.add_sub_cancel' hlog]
      exact Nat.log2_self_le hne
    have hhigh : n / 2 ^ (n.log2 - 52) < 2 ^ 53 := by
      rw [Nat.div_lt_iff_lt_mul (Nat.two_pow_pos _), ← Nat.pow_add, show 53 + (n.log2 - 52) = n.log2 + 1 by omega]
      exact Nat.lt_log2_self
    rw [units_of_significand hlow (Nat.le_of_lt hhigh), Nat.add_assoc, units_of_significand (by omega) hhigh]
    refine ⟨Nat.div_mul_le_self n _, ?_⟩
    rw [Nat.mul_comm]
    exact Nat.lt_mul_div_succ n (Nat.two_pow_pos _)

/-- The magnitude of the rank that is found is not above the number. -/
theorem units_floorRank_le (n : Nat) : units (floorRank n) ≤ n := (units_floorRank n).1

/-- The next magnitude is. -/
theorem lt_units_floorRank_succ (n : Nat) : n < units (floorRank n + 1) := (units_floorRank n).2

/-- A number at most a magnitude is found below its rank, a number from a magnitude on from its rank on. -/
theorem le_floorRank_iff : rank ≤ floorRank n ↔ units rank ≤ n := by
  refine ⟨fun h => Nat.le_trans (units_le_units h) (units_floorRank_le n), fun h => Nat.le_of_not_lt fun hlt => ?_⟩
  have hn := lt_units_floorRank_succ n
  have := units_le_units (show floorRank n + 1 ≤ rank from hlt)
  omega

/-- A number rounds to a rank if it lies between its bounds, or on one of them if the rank is even. -/
theorem roundsTo_iff : roundsTo rank num den ↔ (lowerBound rank * den ≤ num ∧ num ≤ upperBound rank * den) ∧
    (rank % 2 = 1 → num ≠ lowerBound rank * den ∧ num ≠ upperBound rank * den) := by
  unfold roundsTo
  simp only
  split_ifs with h <;> rw [Bool.and_eq_true, decide_eq_true_iff, decide_eq_true_iff]
  · exact ⟨fun hb => ⟨hb, fun h' => by omega⟩, fun hb => hb.1⟩
  · refine ⟨fun hb => ⟨⟨by omega, by omega⟩, fun _ => ⟨by omega, by omega⟩⟩, fun hb => ?_⟩
    have := hb.2 (by omega)
    omega

/-- **A number that rounds to a rank is rounded to it.**  It lies next to the magnitude of the rank, below or above;
in either case the comparison with the middle sends it there, and in the middle the even rank does. -/
theorem nearestRank_of_roundsTo (hrank : 0 < rank) (hden : 0 < den) (h : roundsTo rank (2 * num) den) :
    nearestRank num den = rank := by
  obtain ⟨⟨hlow, hhigh⟩, hodd⟩ := roundsTo_iff.1 h
  have hbelow := Nat.mul_lt_mul_of_pos_right (units_lt_units (show rank - 1 < rank by omega)) hden
  have habove := Nat.mul_lt_mul_of_pos_right (units_lt_succ rank) hden
  rw [lowerBound, Nat.add_mul] at hlow hodd
  rw [upperBound, Nat.add_mul] at hhigh hodd
  have hfloor : rank - 1 ≤ floorRank (num / den) :=
    le_floorRank_iff.2 ((Nat.le_div_iff_mul_le hden).2 (by omega))
  have hceil : floorRank (num / den) < rank + 1 := Nat.lt_of_not_le fun hle => by
    have := (Nat.le_div_iff_mul_le hden).1 (le_floorRank_iff.1 hle)
    omega
  unfold nearestRank
  simp only
  rcases Nat.lt_or_ge (floorRank (num / den)) rank with hlt | hge
  · -- The number lies below the magnitude of the rank, and not below the bound.
    have hfl : floorRank (num / den) = rank - 1 := by omega
    rw [hfl, Nat.sub_add_cancel hrank, Nat.add_mul]
    split_ifs <;> omega
  · have hfl : floorRank (num / den) = rank := by omega
    rw [hfl, Nat.add_mul]
    split_ifs <;> omega

/-- A fraction may be expanded. -/
theorem roundsTo_mul {c : Nat} (hc : 0 < c) : roundsTo rank (num * c) (den * c) = roundsTo rank num den := by
  have hle : ∀ a b, decide (a * c ≤ b * c) = decide (a ≤ b) := fun a b =>
    decide_eq_decide.2 (Nat.mul_le_mul_right_iff hc)
  have hlt : ∀ a b, decide (a * c < b * c) = decide (a < b) := fun a b =>
    decide_eq_decide.2 (Nat.mul_lt_mul_right hc)
  unfold roundsTo
  simp only [← Nat.mul_assoc, hle, hlt]

/-- The magnitude itself rounds to its rank. -/
theorem roundsTo_units (hrank : 0 < rank) (hden : 0 < den) : roundsTo rank (2 * units rank * den) den := by
  have hbelow := Nat.mul_lt_mul_of_pos_right (units_lt_units (show rank - 1 < rank by omega)) hden
  have habove := Nat.mul_lt_mul_of_pos_right (units_lt_succ rank) hden
  rw [roundsTo_iff, lowerBound, upperBound, Nat.add_mul, Nat.add_mul, Nat.mul_assoc]
  omega

end Binary64
end Number
end Calibration
