/-
# Points in time are read back from their text

Each field of the text has its width in digits (`padded_two`, `padded_four`), the fraction of a second has three, six
or nine (`fractionChars_cases`).  The fields make the point in time again that was written: a leap second is written
as the sixtieth of its minute, and this second is read as a leap second (`readChars?_chars`).
-/

import Calibration.Proofs.Number.Numerals
import Calibration.Proofs.Time.Calendar
import Calibration.Time.Timestamp
import Mathlib.Data.List.TakeWhile
import Mathlib.Tactic.SplitIfs

namespace Calibration
namespace Time
namespace Timestamp

open Number

variable {t : Timestamp} {n w : Nat}

/-- A point in time of the clock: a second of the day, and nanoseconds, more than a second of them only in the last
second of a minute. -/
structure IsValid (t : Timestamp) : Prop where
  second : t.second < 86400
  nano : t.nano < 2 * leap
  leap : leap ≤ t.nano → t.second % 60 = 59

/-- The year has four digits and no sign. -/
def IsWritable (t : Timestamp) : Prop := 0 ≤ (Date.ofDayNumber t.day).year ∧ (Date.ofDayNumber t.day).year ≤ 9999

/-! ### Fields -/

/-- A number below ten is one digit. -/
theorem digits_of_lt (h : n < 10) : digits n = [digitChar n] := by
  rw [digits, if_pos h]

/-- A wider field has one digit more at its end, and the digits in front are those of the tenth part.  The widths that
are used are all reduced to one digit by this. -/
theorem padded_succ (hw : 0 < w) : padded (w + 1) n = padded w (n / 10) ++ [digitChar (n % 10)] := by
  unfold padded
  by_cases hn : n < 10
  · obtain ⟨v, rfl⟩ : ∃ v, w = v + 1 := ⟨w - 1, by omega⟩
    rw [digits_of_lt hn, digits_of_lt (by omega : n / 10 < 10), Nat.div_eq_of_lt hn, Nat.mod_eq_of_lt hn]
    change List.replicate (v + 1) '0' ++ _ = List.replicate v '0' ++ ['0'] ++ _
    rw [List.replicate_succ']
  · rw [digits, if_neg hn]
    simp only
    rw [List.length_append, List.length_singleton, Nat.add_sub_add_right, List.append_assoc]

/-- A field of one digit. -/
theorem padded_one (h : n < 10) : padded 1 n = [digitChar n] := by
  rw [padded, digits_of_lt h]
  rfl

/-- A field of two digits, as for months, days, hours, minutes and seconds. -/
theorem padded_two (h : n < 100) : padded 2 n = [digitChar (n / 10), digitChar (n % 10)] := by
  rw [padded_succ Nat.one_pos, padded_one (by omega)]
  rfl

/-- A field of four digits, as for years. -/
theorem padded_four (h : n < 10000) :
    padded 4 n = [digitChar (n / 100 / 10), digitChar (n / 100 % 10),
      digitChar (n % 100 / 10), digitChar (n % 100 % 10)] := by
  rw [padded_succ (by decide), padded_succ (by decide), padded_two (by omega)]
  rw [show n / 10 / 10 / 10 = n / 100 / 10 by omega, show n / 10 / 10 % 10 = n / 100 % 10 by omega,
    show n / 10 % 10 = n % 100 / 10 by omega, show n % 10 = n % 100 % 10 by omega]
  rfl

/-- A field has its width if the number is not too long for it. -/
theorem length_padded (hw : 0 < w) (h : n < 10 ^ w) : (padded w n).length = w := by
  induction w generalizing n with
  | zero => exact absurd hw (Nat.lt_irrefl 0)
  | succ w ih =>
    rcases Nat.eq_zero_or_pos w with rfl | hpos
    · rw [padded_one h]; rfl
    · rw [padded_succ hpos, List.length_append, ih hpos (by rw [Nat.pow_succ] at h; omega)]
      rfl

/-- There are only digits in a field. -/
theorem isDigit_of_mem_padded {c : Char} (h : c ∈ padded w n) : c.isDigit :=
  (List.mem_append.1 h).elim isDigit_of_mem_replicate isDigit_of_mem_digits

/-- Two digits are read as the number they are the digits of. -/
theorem two?_digitChar {a b : Nat} (ha : a < 10) (hb : b < 10) :
    two? (digitChar a) (digitChar b) = some (a * 10 + b) := by
  rw [two?, digitValue?_digitChar ha, digitValue?_digitChar hb]
  rfl

/-- A field of two digits is read back. -/
theorem two?_padded (h : n < 100) : two? (digitChar (n / 10)) (digitChar (n % 10)) = some n := by
  rw [two?_digitChar (by omega) (by omega), Nat.div_add_mod']

/-! ### The fraction of a second -/

/-- A fraction of some digits counts as that many of its units, whatever the width. -/
theorem nanos_padded (hw : 0 < w) (hle : w ≤ 9) (h : n < 10 ^ w) : nanos (padded w n) = n * 10 ^ (9 - w) := by
  have hlength := length_padded hw h
  have hne : padded w n ≠ [] := List.length_pos_iff.1 (by omega)
  rw [nanos, List.take_append, List.take_of_length_le (by omega), hlength, List.take_replicate,
    Nat.min_eq_left (by omega), readNat?_eq_readFrom (by simp [hne]), readFrom_append, padded, readFrom_padded,
    Option.bind_some, readFrom_zeros]
  rfl

/-- **The fraction of a second** is not written if there is none; else there are digits, and they mean it.  There are
three, six or nine of them, as few as will do. -/
theorem fractionChars_cases (h : n < leap) : (fractionChars n = [] ∧ n = 0) ∨
    ∃ ds, fractionChars n = '.' :: ds ∧ ds ≠ [] ∧ (∀ c ∈ ds, c.isDigit) ∧ nanos ds = n := by
  have hcase : ∀ w k, 0 < w → w ≤ 9 → k < 10 ^ w → k * 10 ^ (9 - w) = n → fractionChars n = '.' :: padded w k →
      ∃ ds, fractionChars n = '.' :: ds ∧ ds ≠ [] ∧ (∀ c ∈ ds, c.isDigit) ∧ nanos ds = n := by
    intro w k hw hle hk hvalue hchars
    have hlength := length_padded hw hk
    exact ⟨padded w k, hchars, List.length_pos_iff.1 (by omega), fun c hc => isDigit_of_mem_padded hc,
      (nanos_padded hw hle hk).trans hvalue⟩
  unfold leap at h
  by_cases hzero : n = 0
  · exact .inl ⟨if_pos hzero, hzero⟩
  · refine .inr ?_
    by_cases hmilli : n % 1000000 = 0
    · exact hcase 3 (n / 1000000) (by decide) (by decide) (by omega) (by omega)
        (by rw [fractionChars, if_neg hzero, if_pos hmilli])
    · by_cases hmicro : n % 1000 = 0
      · exact hcase 6 (n / 1000) (by decide) (by decide) (by omega) (by omega)
          (by rw [fractionChars, if_neg hzero, if_neg hmilli, if_pos hmicro])
      · exact hcase 9 n (by decide) (by decide) (by omega) (by omega)
          (by rw [fractionChars, if_neg hzero, if_neg hmilli, if_neg hmicro])

/-! ### The whole text -/

/-- The fields, as they are read. -/
theorem readChars?_fields {year month day hour minute second nano : Nat} (hyear : year < 10000)
    (hmonth : month < 100) (hday : day < 100) (hhour : hour < 100) (hminute : minute < 100)
    (hsecond : second < 100) (hnano : nano < leap) :
    readChars? (padded 4 year ++ '-' :: padded 2 month ++ '-' :: padded 2 day ++ 'T' :: padded 2 hour ++
      ':' :: padded 2 minute ++ ':' :: padded 2 second ++ fractionChars nano ++ "+00:00".toList) =
      ofParts? ⟨year, month, day⟩ hour minute second nano 0 := by
  rw [padded_four hyear, padded_two hmonth, padded_two hday, padded_two hhour, padded_two hminute,
    padded_two hsecond]
  simp only [List.cons_append, List.nil_append]
  rw [readChars?, two?_padded (by omega), two?_padded (by omega), two?_padded hmonth, two?_padded hday,
    two?_padded hhour, two?_padded hminute, two?_padded hsecond]
  simp only [Option.bind_eq_bind, Option.bind_some]
  rcases fractionChars_cases hnano with ⟨hnone, rfl⟩ | ⟨ds, hsome, hne, hdigits, hvalue⟩
  · rw [hnone, Nat.div_add_mod']
    rfl
  · rw [hsome, Nat.div_add_mod', if_neg (fun h => h.1 rfl), List.cons_append]
    simp only
    rw [List.takeWhile_append_of_pos hdigits, List.dropWhile_append_of_pos hdigits,
      show List.takeWhile Char.isDigit "+00:00".toList = [] by decide, List.append_nil,
      if_neg (by simpa using hne), hvalue]
    rfl

/-- The month and the day of a date that exists have two digits. -/
theorem bounds_of_isValid {date : Date} (h : date.isValid) : date.month ≤ 12 ∧ date.day ≤ 31 := by
  simp only [Date.isValid, Bool.and_eq_true, decide_eq_true_iff] at h
  refine ⟨h.1.1.2, Nat.le_trans h.2 ?_⟩
  unfold Date.monthLength
  split_ifs <;> decide

/-- **The fields make the point in time again.**  A leap second is written as the sixtieth of its minute, and is taken
back from there. -/
theorem ofParts?_parts (h : t.IsValid) :
    ofParts? (Date.ofDayNumber t.day) (t.second / 3600) (t.second / 60 % 60)
      (t.second % 60 + if leap ≤ t.nano then 1 else 0) (t.nano % leap) 0 = some t := by
  obtain ⟨day, second, nano⟩ := t
  obtain ⟨hsecond, hnano, hleap⟩ := h
  simp only at hsecond hnano hleap ⊢
  have htotal : ∀ s, s = second % 60 →
      day * 86400 + ((second / 3600 * 3600 + second / 60 % 60 * 60 + s : Nat) : Int) - 0 =
        day * 86400 + second := by
    omega
  have hday : (day * 86400 + (second : Int)) / 86400 = day := by omega
  have hrest : ((day * 86400 + (second : Int)) % 86400).toNat = second := by omega
  have hfields : ¬(24 ≤ second / 3600 ∨ 60 ≤ second / 60 % 60 ∨
      61 ≤ second % 60 + if leap ≤ nano then 1 else 0) := by
    split_ifs <;> omega
  rw [ofParts?, Date.isValid_ofDayNumber, if_neg (by simpa using hfields), Date.dayNumber_ofDayNumber, Int.zero_mul]
  -- The second that is written is the sixtieth exactly when it is a leap second.
  by_cases hsixty : leap ≤ nano
  · have hlast := hleap hsixty
    rw [if_pos hsixty, if_pos (by omega)]
    simp only
    rw [htotal 59 hlast.symm, hday, hrest, Nat.mod_eq_sub_mod hsixty, Nat.mod_eq_of_lt (by omega),
      Nat.sub_add_cancel hsixty]
  · rw [if_neg hsixty, if_neg (by omega)]
    simp only
    rw [htotal (second % 60 + 0) rfl, hday, hrest, Nat.mod_eq_of_lt (Nat.not_le.1 hsixty)]

/-- **A point in time is read back from its text.**  The year must have four digits, since no others are read. -/
theorem readChars?_chars (hvalid : t.IsValid) (hyear : t.IsWritable) : readChars? t.chars = some t := by
  obtain ⟨hmonth, hday⟩ := bounds_of_isValid (Date.isValid_ofDayNumber t.day)
  have hsecond := hvalid.second
  rw [← ofParts?_parts hvalid, chars]
  unfold IsWritable at hyear
  generalize Date.ofDayNumber t.day = date at *
  obtain ⟨year, month, day⟩ := date
  simp only at hmonth hday hyear ⊢
  obtain ⟨y, rfl⟩ : ∃ y : Nat, year = y := ⟨year.natAbs, by omega⟩
  rw [yearChars, if_pos hyear, Int.natAbs_natCast]
  exact readChars?_fields (by omega) (by omega) (by omega) (by omega) (by omega) (by split <;> omega)
    (Nat.mod_lt _ (by decide))

/-! ### What is read -/

/-- A fraction is less than a second, also if it has more than nine digits. -/
theorem nanos_lt (ds : List Char) : nanos ds < leap := by
  rw [nanos]
  cases h : readNat? ((ds ++ List.replicate 9 '0').take 9) with
  | none => decide
  | some n =>
    have hlength : ((ds ++ List.replicate 9 '0').take 9).length ≤ 9 := List.length_take_le ..
    exact (readNat?_lt h).trans_le (Nat.pow_le_pow_right (by decide) hlength)

/-- **What is made of fields is a point in time of the clock.**  The fraction is added to a leap second only in the
last second of a minute. -/
theorem isValid_of_ofParts? {date : Date} {hour minute second nano : Nat} {offset : Int} (hnano : nano < leap)
    (h : ofParts? date hour minute second nano offset = some t) : t.IsValid := by
  rw [ofParts?] at h
  split_ifs at h with hparts hsixty
  all_goals
    simp only [not_or, Nat.not_le] at hparts
    obtain ⟨-, -, -, hsecond⟩ := hparts
    obtain rfl := Option.some.inj h
  -- Only whole minutes are added to the seconds, whatever the offset is.
  · exact ⟨by simp only; omega, by simp only; omega, fun _ => by simp only; omega⟩
  · exact ⟨by simp only; omega, by simp only; omega, fun hleap => absurd hnano (Nat.not_lt.2 hleap)⟩

/-- **What is read is a point in time of the clock.**  So it is read back from its own text if its year in UTC has
four digits. -/
theorem isValid_of_readChars? {cs : List Char} (h : readChars? cs = some t) : t.IsValid := by
  have hend : ∀ {date hour minute second} (fraction zone : List Char),
      ((offset? zone).bind fun offset => ofParts? date hour minute second (nanos fraction) offset) = some t →
        t.IsValid := by
    intro date hour minute second fraction zone h
    obtain ⟨offset, -, h⟩ := Option.bind_eq_some_iff.1 h
    exact isValid_of_ofParts? (nanos_lt fraction) h
  unfold readChars? at h
  split at h
  · simp only [Option.bind_eq_bind, Option.bind_eq_some_iff] at h
    obtain ⟨_, -, _, -, month, -, day, -, hour, -, minute, -, second, -, h⟩ := h
    split at h
    · exact nomatch h
    · split at h
      · split at h
        · exact nomatch h
        · exact hend _ _ h
      · exact hend _ _ h
  · exact nomatch h

/-- A year that has not four digits has a sign, and is not read. -/
theorem readChars?_chars_of_not_isWritable (h : ¬ t.IsWritable) : readChars? t.chars = none := by
  obtain ⟨sign, cs, hchars, hsign⟩ : ∃ sign cs, t.chars = sign :: cs ∧ digitValue? sign = none := by
    rw [IsWritable] at h
    simp only [chars, yearChars, if_neg h, List.cons_append]
    refine ⟨_, _, rfl, ?_⟩
    split_ifs <;> rfl
  rw [hchars]
  unfold readChars?
  split
  · next y₁ _ _ _ _ _ _ _ _ _ _ _ _ _ _ _ heq =>
    obtain rfl : sign = y₁ := (List.cons.inj heq).1
    rw [two?, hsign]
    rfl
  · rfl

end Timestamp
end Time
end Calibration
