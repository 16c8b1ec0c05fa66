/-
# Digits

A numeral consists of digits (`isDigit_of_mem_digits`), and a digit is no sign, no letter and no blank.  Zeros in
front of a numeral do not matter (`readFrom_padded`), those behind it are powers of ten (`readFrom_zeros`).
-/

import Calibration.Number.Decimal
import Calibration.Text.Blank
import Mathlib.Tactic.Ring

namespace Calibration
namespace Number

/-- The sign of a digit is a digit. -/
theorem isDigit_digitChar {d : Nat} (h : d < 10) : (digitChar d).isDigit := by
  revert d; decide

/-- Every digit is the sign of a number less than ten. -/
theorem exists_of_isDigit {c : Char} (h : c.isDigit) : ∃ d, d < 10 ∧ c = digitChar d := by
  have hc : 48 ≤ c.toNat ∧ c.toNat ≤ 57 := by
    rw [Char.isDigit, Bool.and_eq_true, decide_eq_true_iff, decide_eq_true_iff] at h
    exact ⟨UInt32.le_iff_toNat_le.1 h.1, UInt32.le_iff_toNat_le.1 h.2⟩
  refine ⟨c.toNat - 48, by omega, ?_⟩
  rw [digitChar, show '0'.toNat + (c.toNat - 48) = c.toNat from Nat.add_sub_cancel' hc.1, Char.ofNat_toNat]

/-- No digit begins the name of a special number. -/
theorem toLower_digitChar_ne {d : Nat} (h : d < 10) :
    (digitChar d).toLower ≠ 'n' ∧ (digitChar d).toLower ≠ 'i' := by
  revert d; decide

/-- A written number consists of digits. -/
theorem isDigit_of_mem_digits {n : Nat} {c : Char} (h : c ∈ digits n) : c.isDigit := by
  induction n using Nat.strongRecOn with
  | _ n ih =>
    rw [digits] at h
    split at h
    · next hn => exact List.mem_singleton.1 h ▸ isDigit_digitChar hn
    · next hn =>
      rcases List.mem_append.1 h with h | h
      · exact ih (n / 10) (by omega) h
      · exact List.mem_singleton.1 h ▸ isDigit_digitChar (Nat.mod_lt _ (by decide))

/-- So do rows of zeros. -/
theorem isDigit_of_mem_replicate {k : Nat} {c : Char} (h : c ∈ List.replicate k '0') : c.isDigit := by
  rw [List.eq_of_mem_replicate h]; rfl

/-- Zeros at the end of a numeral, each of which is a factor of ten. -/
theorem readFrom_zeros (value k : Nat) : readFrom value (List.replicate k '0') = some (value * 10 ^ k) := by
  induction k generalizing value with
  | zero => rw [Nat.pow_zero, Nat.mul_one]; rfl
  | succ k ih =>
    rw [List.replicate_succ, readFrom, show digitValue? '0' = some 0 from rfl, Option.bind_some, ih, Nat.pow_succ]
    congr 1
    ring

/-- A numeral is read from zero on. -/
theorem readNat?_eq_readFrom {cs : List Char} (h : cs ≠ []) : readNat? cs = readFrom 0 cs := by
  cases cs with
  | nil => exact absurd rfl h
  | cons c cs => rfl

/-- Zeros in front of a numeral do not matter. -/
theorem readFrom_padded (k n : Nat) : readFrom 0 (List.replicate k '0' ++ digits n) = some n := by
  rw [readFrom_append, readFrom_zeros, Nat.zero_mul, Option.bind_some, readFrom_digits]

/-- The value of a digit is less than ten. -/
theorem digitValue?_lt {c : Char} {d : Nat} (h : digitValue? c = some d) : d < 10 := by
  rw [digitValue?] at h
  split_ifs at h with hc
  have hle : c.toNat ≤ '9'.toNat := UInt32.le_iff_toNat_le.1 hc.2
  obtain rfl := Option.some.inj h
  change c.toNat - 48 < 10
  change c.toNat ≤ 57 at hle
  omega

/-- A numeral with few digits is small: each one more is at most a factor of ten. -/
theorem readFrom_lt {cs : List Char} {value n : Nat} (h : readFrom value cs = some n) :
    n < (value + 1) * 10 ^ cs.length := by
  induction cs generalizing value with
  | nil =>
    obtain rfl := Option.some.inj h
    rw [List.length_nil, Nat.pow_zero, Nat.mul_one]
    exact Nat.lt_succ_self value
  | cons c cs ih =>
    rw [readFrom, Option.bind_eq_some_iff] at h
    obtain ⟨d, hd, h⟩ := h
    have hdigit := digitValue?_lt hd
    calc n < (value * 10 + d + 1) * 10 ^ cs.length := ih h
      _ ≤ (value + 1) * 10 * 10 ^ cs.length := Nat.mul_le_mul_right _ (by omega)
      _ = (value + 1) * 10 ^ (c :: cs).length := by rw [List.length_cons, Nat.pow_succ, Nat.mul_assoc, Nat.mul_comm 10]

/-- So the value of a numeral is bounded by its length. -/
theorem readNat?_lt {cs : List Char} {n : Nat} (h : readNat? cs = some n) : n < 10 ^ cs.length := by
  have hne : cs ≠ [] := by
    rintro rfl
    exact nomatch h
  rw [readNat?_eq_readFrom hne] at h
  simpa using readFrom_lt h

/-- No digit is blank. -/
theorem isBlank_of_isDigit {c : Char} (h : c.isDigit) : Text.isBlank c = false := by
  obtain ⟨d, hd, rfl⟩ := exists_of_isDigit h
  revert d
  decide

end Number
end Calibration
