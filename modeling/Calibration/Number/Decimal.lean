/-
# Decimal numerals

Natural numbers and integers in base ten. A numeral is read digit by digit; a number is written without
leading zeros. Main statement: `readNat?_digits`, what is written is read back.
-/

namespace Calibration
namespace Number

/-- The character of a digit. -/
def digitChar (d : Nat) : Char := Char.ofNat ('0'.toNat + d)

/-- The value of a digit. -/
def digitValue? (c : Char) : Option Nat :=
  if '0' ≤ c ∧ c ≤ '9' then some (c.toNat - '0'.toNat) else none

/-- The numeral of a number. -/
def digits (n : Nat) : List Char :=
  if n < 10 then [digitChar n] else digits (n / 10) ++ [digitChar (n % 10)]
termination_by n
decreasing_by omega

/-- Reads digits behind those that gave `value`. -/
def readFrom (value : Nat) : List Char → Option Nat
  | [] => some value
  | c :: cs => (digitValue? c).bind fun d => readFrom (value * 10 + d) cs

/-- Reads a numeral of one or more digits. -/
def readNat? : List Char → Option Nat
  | [] => none
  | cs => readFrom 0 cs

/-- The numeral of an integer, with a minus sign in front of a negative one. -/
def integerDigits (n : Int) : List Char :=
  if n < 0 then '-' :: digits n.natAbs else digits n.natAbs

/-- Reads an integer: a numeral with at most one sign in front. -/
def readInt? : List Char → Option Int
  | '-' :: cs => (readNat? cs).map fun n : Nat => -(n : Int)
  | '+' :: cs => (readNat? cs).map fun n : Nat => (n : Int)
  | cs => (readNat? cs).map fun n : Nat => (n : Int)

/-- The sign of a digit has the value of the digit. -/
theorem digitValue?_digitChar {d : Nat} (h : d < 10) : digitValue? (digitChar d) = some d := by
  revert d; decide

/-- No digit is taken for a sign, so that a number without a sign is read as one without a sign. -/
theorem digitChar_ne_sign {d : Nat} (h : d < 10) : digitChar d ≠ '-' ∧ digitChar d ≠ '+' := by
  revert d; decide

/-- Digits are read from left to right: the first ones give the value that the others go on from. -/
theorem readFrom_append (value : Nat) (cs ds : List Char) :
    readFrom value (cs ++ ds) = (readFrom value cs).bind (readFrom · ds) := by
  induction cs generalizing value with
  | nil => rfl
  | cons c cs ih =>
    rw [List.cons_append, readFrom, readFrom]
    cases digitValue? c with
    | none => rfl
    | some d => exact ih _

/-- The digits of a number are read as the number; the induction takes off the last digit, as `digits` does. -/
theorem readFrom_digits (n : Nat) : readFrom 0 (digits n) = some n := by
  induction n using Nat.strongRecOn with
  | _ n ih =>
    rw [digits]
    split
    · next h => simp [readFrom, digitValue?_digitChar h]
    · next h =>
      have hm : n % 10 < 10 := Nat.mod_lt _ (by decide)
      rw [readFrom_append, ih (n / 10) (by omega)]
      show readFrom (n / 10) [digitChar (n % 10)] = some n
      rw [readFrom, digitValue?_digitChar hm]
      show some (n / 10 * 10 + n % 10) = some n
      rw [Nat.div_add_mod']

/-- Every number has digits, zero too, so that a written number is never the empty text that no reader takes. -/
theorem digits_ne_nil (n : Nat) : digits n ≠ [] := by
  rw [digits]; split <;> simp

/-- **A written number is read back.** The induction is over the number, digit by digit from the end. -/
theorem readNat?_digits (n : Nat) : readNat? (digits n) = some n := by
  have h := readFrom_digits n
  revert h
  cases hd : digits n with
  | nil => exact absurd hd (digits_ne_nil n)
  | cons c cs => exact id

/-- A written number begins with a digit, and so with no sign. -/
theorem head?_digits (n : Nat) : ∃ d, d < 10 ∧ (digits n).head? = some (digitChar d) := by
  induction n using Nat.strongRecOn with
  | _ n ih =>
    rw [digits]
    split
    · next h => exact ⟨n, h, rfl⟩
    · next h =>
      obtain ⟨d, hd, he⟩ := ih (n / 10) (by omega)
      exact ⟨d, hd, by rw [List.head?_append, he]; rfl⟩

/-- **A written integer is read back.** No digit is taken for a sign. -/
theorem readInt?_integerDigits (n : Int) : readInt? (integerDigits n) = some n := by
  unfold integerDigits
  split
  · next h =>
    rw [readInt?, readNat?_digits, Option.map_some, Option.some.injEq]
    omega
  · next h =>
    obtain ⟨d, hd, he⟩ := head?_digits n.natAbs
    obtain ⟨h₁, h₂⟩ := digitChar_ne_sign hd
    have hr := readNat?_digits n.natAbs
    revert he hr
    cases hc : digits n.natAbs with
    | nil => intro he; cases he
    | cons c cs =>
      intro he hr
      simp only [List.head?_cons, Option.some.injEq] at he
      subst he
      rw [readInt?, hr]
      · rw [Option.map_some, Option.some.injEq]; omega
      · intro cs' h'; simp_all
      · intro cs' h'; simp_all

end Number
end Calibration
