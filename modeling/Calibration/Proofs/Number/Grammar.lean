/-
# The grammar of numbers

What texts of numbers look like, apart from how they are read.  A numeral is a row of digits and denotes its value in
base ten (`IsNumeral`); an integer may have a sign in front (`IsInteger`); a double is a name of a special number, or
digits with at most one point among them and an exponent behind them (`IsUnsigned`, `IsDouble`).  The readers accept
these texts and no others, with the numbers that they denote.
-/

import Calibration.Proofs.Number.Numerals
import Calibration.Proofs.Number.ReadBack
import Mathlib.Data.Nat.Digits.Defs

namespace Calibration
namespace Number

/-! ### Integers -/

/-- The number that a row of digits denotes in base ten. -/
def decimalValue (cs : List Char) : Nat := Nat.ofDigits 10 (cs.reverse.map fun c => c.toNat - '0'.toNat)

/-- One digit or more, which denote the number. -/
structure IsNumeral (cs : List Char) (n : Nat) : Prop where
  ne_nil : cs ≠ []
  digits : ∀ c ∈ cs, c.isDigit
  value : n = decimalValue cs

/-- A numeral with at most one sign in front. -/
inductive IsInteger : List Char → Int → Prop
  | unsigned {cs : List Char} {n : Nat} (h : IsNumeral cs n) : IsInteger cs n
  | plus {cs : List Char} {n : Nat} (h : IsNumeral cs n) : IsInteger ('+' :: cs) n
  | minus {cs : List Char} {n : Nat} (h : IsNumeral cs n) : IsInteger ('-' :: cs) (-n)

/-- A character has a value exactly if it is a digit. -/
theorem digitValue?_eq (c : Char) : digitValue? c = if c.isDigit then some (c.toNat - '0'.toNat) else none := by
  have hdigit : ('0' ≤ c ∧ c ≤ '9') ↔ c.isDigit = true := by
    rw [Char.isDigit, Bool.and_eq_true, decide_eq_true_iff, decide_eq_true_iff]
    rfl
  rw [digitValue?]
  exact if_congr hdigit rfl rfl

/-- The first digit of a numeral counts for as many places as follow. -/
theorem decimalValue_cons (c : Char) (cs : List Char) :
    decimalValue (c :: cs) = (c.toNat - '0'.toNat) * 10 ^ cs.length + decimalValue cs := by
  rw [decimalValue, List.reverse_cons, List.map_append, Nat.ofDigits_append, List.length_map, List.length_reverse,
    decimalValue, List.map_singleton, Nat.ofDigits_singleton, Nat.add_comm, Nat.mul_comm]

/-- Digits are read behind those that gave a value.  The induction is on the digits; the value so far counts for their
number of places. -/
theorem readFrom_eq_some_iff {cs : List Char} {value n : Nat} :
    readFrom value cs = some n ↔ (∀ c ∈ cs, c.isDigit) ∧ n = value * 10 ^ cs.length + decimalValue cs := by
  induction cs generalizing value with
  | nil =>
    rw [readFrom, Option.some.injEq, show decimalValue [] = 0 from rfl, List.length_nil, Nat.pow_zero, Nat.mul_one]
    exact ⟨fun h => ⟨List.forall_mem_nil _, h.symm⟩, fun h => h.2.symm⟩
  | cons c cs ih =>
    rw [readFrom, digitValue?_eq, List.forall_mem_cons, decimalValue_cons, List.length_cons]
    split_ifs with hc
    · have hvalue : (value * 10 + (c.toNat - '0'.toNat)) * 10 ^ cs.length + decimalValue cs =
          value * 10 ^ (cs.length + 1) + ((c.toNat - '0'.toNat) * 10 ^ cs.length + decimalValue cs) := by ring
      rw [Option.bind_some, ih, hvalue]
      exact ⟨fun h => ⟨⟨hc, h.1⟩, h.2⟩, fun h => ⟨h.1.2, h.2⟩⟩
    · exact iff_of_false (Option.some_ne_none n).symm fun h => hc h.1.1

/-- **The reader of numerals** accepts rows of digits, with their values.  Zeros in front are allowed; an empty row is
not. -/
theorem readNat?_eq_some_iff {cs : List Char} {n : Nat} : readNat? cs = some n ↔ IsNumeral cs n := by
  by_cases hcs : cs = []
  · subst hcs
    exact ⟨nofun, fun h => absurd rfl h.ne_nil⟩
  · rw [readNat?_eq_readFrom hcs, readFrom_eq_some_iff, Nat.zero_mul, Nat.zero_add]
    exact ⟨fun h => ⟨hcs, h.1, h.2⟩, fun h => ⟨h.digits, h.value⟩⟩

/-- A numeral begins with no sign. -/
theorem IsNumeral.head_ne {c : Char} {cs : List Char} {n : Nat} (h : IsNumeral (c :: cs) n) : c ≠ '+' ∧ c ≠ '-' := by
  have hc := h.digits c List.mem_cons_self
  constructor <;> rintro rfl <;> exact nomatch hc

/-- **The reader of integers** accepts numerals with at most one sign in front, in any number of digits.  Whether the
value fits is asked afterwards. -/
theorem readInt?_eq_some_iff {cs : List Char} {k : Int} : readInt? cs = some k ↔ IsInteger cs k := by
  constructor
  · intro h
    unfold readInt? at h
    split at h <;> obtain ⟨n, hn, rfl⟩ := Option.map_eq_some_iff.1 h <;> rw [readNat?_eq_some_iff] at hn
    · exact .minus hn
    · exact .plus hn
    · exact .unsigned hn
  · intro h
    cases h with
    | @unsigned _ n h =>
      obtain _ | ⟨c, cs⟩ := cs
      · exact absurd rfl h.ne_nil
      · obtain ⟨hplus, hminus⟩ := h.head_ne
        rw [readInt?, readNat?_eq_some_iff.2 h]
        · rfl
        · exact fun _ he => hminus (List.cons.inj he).1
        · exact fun _ he => hplus (List.cons.inj he).1
    | plus h => rw [readInt?, readNat?_eq_some_iff.2 h]; rfl
    | minus h => rw [readInt?, readNat?_eq_some_iff.2 h]; rfl

/-! ### Doubles -/

namespace Binary64

/-- An exponent behind the digits of a number, or none. -/
inductive IsExponent : List Char → Int → Prop
  | none : IsExponent [] 0
  | some {c : Char} {cs : List Char} {k : Int} (hc : c = 'e' ∨ c = 'E') (h : IsInteger cs k) : IsExponent (c :: cs) k

/-- A fraction behind the digits of a number: a point and the digits behind it, or none. -/
inductive IsFraction : List Char → List Char → Prop
  | none : IsFraction [] []
  | some {fraction : List Char} (h : ∀ c ∈ fraction, c.isDigit) : IsFraction ('.' :: fraction) fraction

/-- Digits, a fraction and an exponent, with one digit at least.  The digits with those of the fraction denote a number,
and the exponent, less the places of the fraction, the power of ten that it is multiplied with. -/
inductive IsMagnitude (negative : Bool) : List Char → Binary64 → Prop
  | decimal {whole pointed fraction power : List Char} {n : Nat} {k : Int} (hfraction : IsFraction pointed fraction)
      (hdigits : IsNumeral (whole ++ fraction) n) (hpower : IsExponent power k) :
      IsMagnitude negative (whole ++ (pointed ++ power)) (ofDecimal negative n (k - fraction.length))

/-- A double without its sign: a special name in any case of letters, or a magnitude. -/
inductive IsUnsigned (negative : Bool) (cs : List Char) : Binary64 → Prop
  | nan (h : cs.map Char.toLower = "nan".toList) : IsUnsigned negative cs nan
  | infinite (h : cs.map Char.toLower = "inf".toList ∨ cs.map Char.toLower = "infinity".toList) :
      IsUnsigned negative cs (infinite negative)
  | magnitude {x : Binary64} (h : IsMagnitude negative cs x) : IsUnsigned negative cs x

/-- A double with at most one sign in front. -/
inductive IsDouble : List Char → Binary64 → Prop
  | unsigned {cs : List Char} {x : Binary64} (h : IsUnsigned false cs x) : IsDouble cs x
  | plus {cs : List Char} {x : Binary64} (h : IsUnsigned false cs x) : IsDouble ('+' :: cs) x
  | minus {cs : List Char} {x : Binary64} (h : IsUnsigned true cs x) : IsDouble ('-' :: cs) x

/-- The reader of exponents accepts what the grammar says, and no exponent is zero. -/
theorem readExponent?_eq_some_iff {cs : List Char} {k : Int} : readExponent? cs = some k ↔ IsExponent cs k := by
  cases cs with
  | nil =>
    refine ⟨fun h => Option.some.inj h ▸ .none, fun h => ?_⟩
    cases h
    rfl
  | cons c cs =>
    rw [readExponent?]
    constructor
    · intro h
      split_ifs at h with hc
      exact .some hc (readInt?_eq_some_iff.1 h)
    · intro h
      cases h with
      | some hc h => rw [if_pos hc, readInt?_eq_some_iff.2 h]

/-- A row of digits before something else is cut off as a whole. -/
theorem span_isDigit (rest : List Char) {whole : List Char} (hwhole : ∀ c ∈ whole, c.isDigit)
    (hrest : ∀ c ∈ rest.head?, c.isDigit = false) :
    (whole ++ rest).takeWhile Char.isDigit = whole ∧ (whole ++ rest).dropWhile Char.isDigit = rest := by
  rw [List.takeWhile_append_of_pos hwhole, List.dropWhile_append_of_pos hwhole]
  cases rest with
  | nil => exact ⟨List.append_nil whole, rfl⟩
  | cons c cs =>
    have hc : ¬ c.isDigit := by rw [hrest c rfl]; decide
    rw [List.takeWhile_cons_of_neg hc, List.dropWhile_cons_of_neg hc, List.append_nil]
    exact ⟨rfl, rfl⟩

/-- A text cut into digits, a fraction and the rest, each as long as can be. -/
structure IsCut (cs whole pointed fraction rest : List Char) : Prop where
  eq : cs = whole ++ (pointed ++ rest)
  whole : ∀ c ∈ whole, c.isDigit
  fraction : IsFraction pointed fraction
  rest : ∀ c ∈ rest.head?, c.isDigit = false ∧ (pointed = [] → c ≠ '.')

/-- **Every text is cut in one way**: digits as far as they go, a point with the digits behind it if there is one, and
the rest. -/
theorem exists_isCut (cs : List Char) : ∃ whole pointed fraction rest, IsCut cs whole pointed fraction rest := by
  have hdigits : ∀ ds : List Char, ∀ c ∈ ds.takeWhile Char.isDigit, c.isDigit :=
    fun _ _ hc => List.mem_takeWhile_imp hc
  have hrest : ∀ ds : List Char, ∀ c ∈ (ds.dropWhile Char.isDigit).head?, c.isDigit = false := by
    intro ds c hc
    have hnot := List.head?_dropWhile_not Char.isDigit ds
    rw [Option.mem_def.1 hc] at hnot
    simpa using hnot
  have hcs := (List.takeWhile_append_dropWhile (p := Char.isDigit) (l := cs)).symm
  by_cases hpoint : ∃ ds, cs.dropWhile Char.isDigit = '.' :: ds
  · obtain ⟨ds, hds⟩ := hpoint
    refine ⟨_, _, _, ds.dropWhile Char.isDigit, ?_, hdigits cs, .some (hdigits ds), fun c hc => ⟨hrest ds c hc, nofun⟩⟩
    rw [List.cons_append, List.takeWhile_append_dropWhile, ← hds]
    exact hcs
  · refine ⟨_, _, _, cs.dropWhile Char.isDigit, ⟨hcs, hdigits cs, .none, fun c hc => ⟨hrest cs c hc, ?_⟩⟩⟩
    rintro - rfl
    exact hpoint (List.head?_eq_some_iff.1 hc)

/-- The reader makes its number of the three pieces of a text. -/
theorem readMagnitude?_of_isCut {cs whole pointed fraction rest : List Char} (negative : Bool)
    (h : IsCut cs whole pointed fraction rest) :
    readMagnitude? negative cs = do
      let n ← readNat? (whole ++ fraction)
      let k ← readExponent? rest
      return ofDecimal negative n (k - fraction.length) := by
  obtain ⟨rfl, hwhole, hfraction, hrest⟩ := h
  cases hfraction with
  | none =>
    obtain ⟨htake, hdrop⟩ := span_isDigit rest hwhole fun c hc => (hrest c hc).1
    rw [List.nil_append, readMagnitude?, htake, hdrop]
    cases rest with
    | nil => rfl
    | cons c cs =>
      split
      next heq =>
      split at heq
      · next hpoint => exact absurd (List.cons.inj hpoint).1 ((hrest c rfl).2 rfl)
      · cases heq
        rfl
  | some hdigits =>
    obtain ⟨htake, hdrop⟩ := span_isDigit ('.' :: (fraction ++ rest)) hwhole fun c hc => by cases hc; rfl
    obtain ⟨htake', hdrop'⟩ := span_isDigit rest hdigits fun c hc => (hrest c hc).1
    rw [List.cons_append, readMagnitude?, htake, hdrop]
    simp only [htake', hdrop']

/-- What follows the digits of a number begins neither with a digit nor with a point. -/
theorem IsExponent.head {cs : List Char} {k : Int} (h : IsExponent cs k) :
    ∀ c ∈ cs.head?, c.isDigit = false ∧ c ≠ '.' := by
  intro c hc
  cases h with
  | none => exact nomatch hc
  | some he _ => cases hc; rcases he with rfl | rfl <;> decide

variable {negative : Bool} {cs : List Char} {x : Binary64}

/-- **The reader of magnitudes** accepts digits with a fraction and an exponent.  A text that the grammar takes apart
is taken apart by the reader at the same places, since what follows digits is neither a digit nor a point. -/
theorem readMagnitude?_eq_some_iff : readMagnitude? negative cs = some x ↔ IsMagnitude negative cs x := by
  constructor
  · intro h
    obtain ⟨whole, pointed, fraction, rest, hcut⟩ := exists_isCut cs
    rw [readMagnitude?_of_isCut negative hcut] at h
    simp only [Option.bind_eq_bind, Option.bind_eq_some_iff] at h
    obtain ⟨n, hn, k, hk, hx⟩ := h
    rw [hcut.eq, ← Option.some.inj hx]
    exact .decimal hcut.fraction (readNat?_eq_some_iff.1 hn) (readExponent?_eq_some_iff.1 hk)
  · intro h
    cases h with
    | decimal hfraction hn hk =>
      rw [readMagnitude?_of_isCut negative ⟨rfl, fun c hc => hn.digits c (List.mem_append_left _ hc), hfraction,
        fun c hc => ⟨(hk.head c hc).1, fun _ => (hk.head c hc).2⟩⟩, readNat?_eq_some_iff.2 hn,
        readExponent?_eq_some_iff.2 hk]
      rfl

/-- A magnitude begins with a digit or a point, and so with no sign and no letter. -/
theorem IsMagnitude.exists_cons (h : IsMagnitude negative cs x) :
    ∃ c rest, cs = c :: rest ∧ c ≠ '+' ∧ c ≠ '-' ∧ c.toLower ≠ 'n' ∧ c.toLower ≠ 'i' := by
  cases h with
  | @decimal whole pointed fraction power _ _ hfraction hn _ =>
    obtain _ | ⟨w, ws⟩ := whole
    · cases hfraction with
      | none => exact absurd rfl hn.ne_nil
      | some _ => exact ⟨'.', _, rfl, by decide⟩
    · obtain ⟨d, hd, rfl⟩ := exists_of_isDigit (hn.digits w List.mem_cons_self)
      exact ⟨_, _, rfl, (digitChar_ne_sign hd).2, (digitChar_ne_sign hd).1, toLower_digitChar_ne hd⟩

/-- A double without its sign begins with something, and not with a sign. -/
theorem IsUnsigned.exists_cons (h : IsUnsigned negative cs x) : ∃ c rest, cs = c :: rest ∧ c ≠ '+' ∧ c ≠ '-' := by
  have hspecial : ∀ {c : Char} {cs ds : List Char}, cs.map Char.toLower = c :: ds → c = 'n' ∨ c = 'i' →
      ∃ c rest, cs = c :: rest ∧ c ≠ '+' ∧ c ≠ '-' := by
    intro c cs ds hcs hc
    obtain ⟨d, rest, rfl, rfl, -⟩ := List.map_eq_cons_iff.1 hcs
    exact ⟨d, rest, rfl, by rintro rfl; exact absurd hc (by decide), by rintro rfl; exact absurd hc (by decide)⟩
  cases h with
  | nan h => exact hspecial h (.inl rfl)
  | infinite h => exact h.elim (hspecial · (.inr rfl)) (hspecial · (.inr rfl))
  | magnitude h =>
    obtain ⟨c, rest, hcs, hplus, hminus, -⟩ := h.exists_cons
    exact ⟨c, rest, hcs, hplus, hminus⟩

/-- The reader of doubles without a sign accepts names of special numbers, and magnitudes. -/
theorem readUnsigned?_eq_some_iff : readUnsigned? negative cs = some x ↔ IsUnsigned negative cs x := by
  constructor
  · intro h
    rw [readUnsigned?] at h
    split_ifs at h with hnan hinf
    · exact Option.some.inj h ▸ .nan hnan
    · exact Option.some.inj h ▸ .infinite hinf
    · exact .magnitude (readMagnitude?_eq_some_iff.1 h)
  · intro h
    cases h with
    | nan h => exact if_pos h
    | infinite h =>
      have hnan : cs.map Char.toLower ≠ "nan".toList := by
        intro hnan
        rw [hnan] at h
        exact absurd h (by decide)
      exact (if_neg hnan).trans (if_pos h)
    | magnitude h =>
      obtain ⟨c, rest, rfl, -, -, hn, hi⟩ := h.exists_cons
      have hnan : (c :: rest).map Char.toLower ≠ "nan".toList := fun he => hn (List.cons.inj he).1
      have hinf : ¬ ((c :: rest).map Char.toLower = "inf".toList ∨ (c :: rest).map Char.toLower = "infinity".toList) :=
        fun he => he.elim (fun he => hi (List.cons.inj he).1) fun he => hi (List.cons.inj he).1
      exact (if_neg hnan).trans ((if_neg hinf).trans (readMagnitude?_eq_some_iff.2 h))

/-- **The reader of doubles** accepts the texts of the grammar, and reads of each the one double that it denotes.  The
words for infinity and for no number are among them, in whatever case. -/
theorem readChars?_eq_some_iff : readChars? cs = some x ↔ IsDouble cs x := by
  constructor
  · intro h
    unfold readChars? at h
    split at h <;> rw [readUnsigned?_eq_some_iff] at h
    · exact .minus h
    · exact .plus h
    · exact .unsigned h
  · intro h
    cases h with
    | unsigned h =>
      obtain ⟨c, rest, rfl, hplus, hminus⟩ := h.exists_cons
      rw [readChars?, readUnsigned?_eq_some_iff.2 h]
      · exact fun _ he => hminus (List.cons.inj he).1
      · exact fun _ he => hplus (List.cons.inj he).1
    | plus h => exact readUnsigned?_eq_some_iff.2 h
    | minus h => exact readUnsigned?_eq_some_iff.2 h

end Binary64
end Number
end Calibration
