/-
# Scalars are read back from their text

A text without blanks is not changed by trimming (`trimChars_of_not_blank`), so the readers of truth values and
numbers get what was written.
-/

import Calibration.Item.Read
import Calibration.Item.Write
import Calibration.Proofs.Number.ReadBack

namespace Calibration

/-- A text without blanks is not changed by trimming. -/
theorem Text.trimChars_of_not_blank {cs : List Char} (h : ∀ c ∈ cs, Text.isBlank c = false) :
    Text.trimChars cs = cs := by
  have hdrop : ∀ ds : List Char, (∀ c ∈ ds, Text.isBlank c = false) → ds.dropWhile Text.isBlank = ds := by
    intro ds hds
    cases ds with
    | nil => rfl
    | cons d ds => exact List.dropWhile_cons_of_neg (by rw [hds d (List.mem_cons_self ..)]; decide)
  rw [Text.trimChars, hdrop cs h, hdrop cs.reverse fun c hc => h c (List.mem_reverse.1 hc), List.reverse_reverse]

/-- In a written integer there are no blanks. -/
theorem Number.isBlank_of_mem_integerDigits (n : Int) : ∀ c ∈ Number.integerDigits n, Text.isBlank c = false := by
  intro c hc
  unfold Number.integerDigits at hc
  split at hc
  · rcases List.mem_cons.1 hc with rfl | hc
    · rfl
    · exact Number.isBlank_of_isDigit (Number.isDigit_of_mem_digits hc)
  · exact Number.isBlank_of_isDigit (Number.isDigit_of_mem_digits hc)

namespace Scalar

variable {α : Type}

/-- Every value is read back from its written form. -/
def ReadsBack (form : Scalar α) : Prop := ∀ value, form.read? (form.write value) = some value

/-- Truth values are read back. -/
theorem bool_readsBack : bool.ReadsBack := by
  intro value
  cases value <;> decide

/-- An integer of 32 bits is in the range that the reader checks. -/
theorem int32?_toInt (n : Int32) : int32? n.toInt = some n := by
  have hlow := n.le_toInt
  have hhigh := n.toInt_lt
  rw [int32?, if_pos (by omega), Int32.ofInt_toInt]

/-- Integers are read back. -/
theorem int_readsBack : int.ReadsBack := by
  intro n
  simp only [int, String.toList_ofList]
  rw [Text.trimChars_of_not_blank (Number.isBlank_of_mem_integerDigits _), Number.readInt?_integerDigits,
    Option.bind_some, int32?_toInt]

/-- **Doubles are read back**, NaN as the one NaN that there is.  The shortest digits that tell a double from its
neighbours are enough for it. -/
theorem double_readsBack : double.ReadsBack := by
  intro x
  simp only [double, Number.Binary64.text, String.toList_ofList]
  rw [Text.trimChars_of_not_blank (Number.Binary64.isBlank_of_mem_chars x), Number.Binary64.readChars?_chars]

/-- Strings are read back, as they are. -/
theorem string_readsBack : string.ReadsBack := fun _ => rfl

/-- A form that reads back is parsed back, under any type tag. -/
theorem parse_write {form : Scalar α} (h : form.ReadsBack) (tag : String) (value : α) :
    form.parse tag (form.write value) = .ok value := by
  rw [parse, h value]

end Scalar
end Calibration
