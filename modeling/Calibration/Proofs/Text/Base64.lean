/-
# Bytes are read back from Base64

Each group of three bytes is a number of 24 bits, and its four letters are the digits of that number in base 64
(`value?_letter`).  A letter is never the sign of padding, so the reader takes each group for what it is
(`decode_encode`).  No letter is blank (`isBlank_of_mem_encode`).  Since the bits behind the last byte must be zero,
what is read at all is the written form of what it is read as (`encode_of_decode`).
-/

import Calibration.Text.Base64
import Calibration.Text.Blank
import Mathlib.Tactic.SplitIfs

namespace Calibration
namespace Text
namespace Base64

/-- A letter has the value that it is the letter of, so that the reader takes back what the writer put down. -/
theorem value?_letter {n : Nat} (h : n < 64) : value? (letter n) = some n := by
  revert n; decide

/-- No letter is the sign of padding.  The reader tells a whole group from a padded one by this sign alone. -/
theorem letter_ne_padding {n : Nat} (h : n < 64) : letter n ≠ '=' := by
  revert n; decide

/-- No letter is blank, hence nothing of a written text is lost when it is trimmed. -/
theorem isBlank_letter {n : Nat} (h : n < 64) : isBlank (letter n) = false := by
  revert n; decide

/-- A byte is what is left of a number that has the byte at its end. -/
theorem ofNat_eq {a : UInt8} {n : Nat} (h : n % 256 = a.toNat) : UInt8.ofNat n = a :=
  UInt8.toNat_inj.1 ((UInt8.toNat_ofNat').trans h)

/-- A last group of one byte: two letters and two signs of padding.  The four bits behind the byte must be zero. -/
theorem decode_one {x y : Nat} (hx : x < 64) (hy : y < 64) :
    decode [letter x, letter y, '=', '='] =
      if (x * 64 + y) % 16 = 0 then some [UInt8.ofNat ((x * 64 + y) / 16)] else none := by
  rw [decode, value?_letter hx, value?_letter hy]
  rfl

/-- A last group of two bytes: three letters and one sign of padding.  The two bits behind the bytes must be zero. -/
theorem decode_two {x y z : Nat} (hx : x < 64) (hy : y < 64) (hz : z < 64) :
    decode [letter x, letter y, letter z, '='] =
      let n := (x * 64 + y) * 64 + z
      if n % 4 = 0 then some [UInt8.ofNat (n / 1024), UInt8.ofNat (n / 4)] else none := by
  rw [decode, value?_letter hx, value?_letter hy, value?_letter hz]
  · rfl
  · exact letter_ne_padding hz

/-- A whole group: four letters are three bytes, and what follows is read on its own. -/
theorem decode_group {x y z w : Nat} (hx : x < 64) (hy : y < 64) (hz : z < 64) (hw : w < 64) (rest : List Char) :
    decode (letter x :: letter y :: letter z :: letter w :: rest) =
      let n := ((x * 64 + y) * 64 + z) * 64 + w
      (decode rest).map fun bytes => UInt8.ofNat (n / 65536) :: UInt8.ofNat (n / 256) :: UInt8.ofNat n :: bytes := by
  rw [decode, value?_letter hx, value?_letter hy, value?_letter hz, value?_letter hw]
  · cases decode rest <;> rfl
  · exact fun h _ => absurd h (letter_ne_padding hz)
  · exact fun h _ => absurd h (letter_ne_padding hw)

/-- **Bytes are read back from their written form.**  The induction follows the writer, group by group; the last group
is padded if it is not whole. -/
theorem decode_encode (bytes : List UInt8) : decode (encode bytes) = some bytes := by
  fun_induction encode bytes with
  | case1 => rfl
  | case2 a n =>
    have ha := a.toNat_lt
    rw [decode_one (by omega) (by omega), if_pos (by omega), ofNat_eq (a := a) (by omega)]
  | case3 a b n =>
    have ha := a.toNat_lt
    have hb := b.toNat_lt
    rw [decode_two (by omega) (by omega) (by omega)]
    simp only
    rw [if_pos (by omega), ofNat_eq (a := a) (by omega), ofNat_eq (a := b) (by omega)]
  | case4 a b c rest n ih =>
    have ha := a.toNat_lt
    have hb := b.toNat_lt
    have hc := c.toNat_lt
    have hn : ((n / 262144 * 64 + n / 4096 % 64) * 64 + n / 64 % 64) * 64 + n % 64 = n := by omega
    rw [decode_group (by omega) (by omega) (by omega) (by omega), ih]
    simp only
    rw [hn, ofNat_eq (a := a) (by omega), ofNat_eq (a := b) (by omega), ofNat_eq (a := c) (by omega)]
    rfl

/-- The written form has no blank in it, at whatever place.  It is the same once it is trimmed. -/
theorem isBlank_of_mem_encode (bytes : List UInt8) : ∀ c ∈ encode bytes, isBlank c = false := by
  fun_induction encode bytes with
  | case1 => exact nofun
  | case2 a n =>
    have ha := a.toNat_lt
    simp only [List.forall_mem_cons]
    exact ⟨isBlank_letter (by omega), isBlank_letter (by omega), rfl, rfl, nofun⟩
  | case3 a b n =>
    have ha := a.toNat_lt
    have hb := b.toNat_lt
    simp only [List.forall_mem_cons]
    exact ⟨isBlank_letter (by omega), isBlank_letter (by omega), isBlank_letter (by omega), rfl, nofun⟩
  | case4 a b c rest n ih =>
    have ha := a.toNat_lt
    have hb := b.toNat_lt
    have hc := c.toNat_lt
    simp only [List.forall_mem_cons]
    exact ⟨isBlank_letter (by omega), isBlank_letter (by omega), isBlank_letter (by omega),
      isBlank_letter (by omega), ih⟩

/-! ### What is read is the written form -/

/-- A letter of a range is no further from the first of it than the last is. -/
theorem offset_le {a b c : Char} (h : a ≤ c ∧ c ≤ b) : c.toNat - a.toNat ≤ b.toNat - a.toNat :=
  Nat.sub_le_sub_right (UInt32.le_iff_toNat_le.1 h.2) _

/-- A letter is found again by how far it is from the first of its range. -/
theorem ofNat_offset {a c : Char} (h : a ≤ c) : Char.ofNat (a.toNat + (c.toNat - a.toNat)) = c := by
  have hle : a.toNat ≤ c.toNat := UInt32.le_iff_toNat_le.1 h
  rw [Nat.add_sub_cancel' hle, Char.ofNat_toNat]

/-- What has a value is the letter of this value.  This is the converse of `value?_letter`, one range of letters after
the other. -/
theorem letter_of_value? {c : Char} {n : Nat} (h : value? c = some n) : n < 64 ∧ letter n = c := by
  rw [value?] at h
  split_ifs at h with hupper hlower hdigit hplus hslash <;> obtain rfl := Option.some.inj h
  · have hle : c.toNat - 'A'.toNat ≤ 25 := offset_le hupper
    have hc := ofNat_offset hupper.1
    generalize c.toNat - 'A'.toNat = k at hle hc
    exact ⟨by omega, by rw [letter, if_pos (by omega), hc]⟩
  · have hle : c.toNat - 'a'.toNat ≤ 25 := offset_le hlower
    have hc := ofNat_offset hlower.1
    generalize c.toNat - 'a'.toNat = k at hle hc
    exact ⟨by omega, by rw [letter, if_neg (by omega), if_pos (by omega), Nat.add_sub_cancel, hc]⟩
  · have hle : c.toNat - '0'.toNat ≤ 9 := offset_le hdigit
    have hc := ofNat_offset hdigit.1
    generalize c.toNat - '0'.toNat = k at hle hc
    exact ⟨by omega, by rw [letter, if_neg (by omega), if_neg (by omega), if_pos (by omega), Nat.add_sub_cancel, hc]⟩
  · exact ⟨by decide, hplus ▸ rfl⟩
  · exact ⟨by decide, hslash ▸ rfl⟩

/-- A small number is kept as a byte. -/
theorem toNat_ofNat_of_lt {n : Nat} (h : n < 256) : (UInt8.ofNat n).toNat = n :=
  UInt8.toNat_ofNat'.trans (Nat.mod_eq_of_lt h)

/-- A last byte is written as the two letters that it was read from, if the bits behind it were zero. -/
theorem encode_one {x y : Nat} (hx : x < 64) (hy : y < 64) (hzero : (x * 64 + y) % 16 = 0) :
    encode [UInt8.ofNat ((x * 64 + y) / 16)] = [letter x, letter y, '=', '='] := by
  rw [encode, toNat_ofNat_of_lt (by omega)]
  rw [show (x * 64 + y) / 16 / 4 = x by omega, show (x * 64 + y) / 16 % 4 * 16 = y by omega]

/-- Two last bytes are written as the three letters that they were read from, if the bits behind them were zero. -/
theorem encode_two {x y z : Nat} (hx : x < 64) (hy : y < 64) (hz : z < 64)
    (hzero : ((x * 64 + y) * 64 + z) % 4 = 0) :
    encode [UInt8.ofNat (((x * 64 + y) * 64 + z) / 1024), UInt8.ofNat (((x * 64 + y) * 64 + z) / 4)] =
      [letter x, letter y, letter z, '='] := by
  generalize hn : (x * 64 + y) * 64 + z = n at hzero
  rw [encode, toNat_ofNat_of_lt (by omega), UInt8.toNat_ofNat']
  rw [show n / 1024 * 256 + n / 4 % 2 ^ 8 = n / 4 by omega, show n / 4 / 1024 = x by omega,
    show n / 4 / 16 % 64 = y by omega, show n / 4 % 16 * 4 = z by omega]

/-- A whole group is written as the four letters that it was read from. -/
theorem encode_group {x y z w : Nat} (hx : x < 64) (hy : y < 64) (hz : z < 64) (hw : w < 64) (rest : List UInt8) :
    let n := ((x * 64 + y) * 64 + z) * 64 + w
    encode (UInt8.ofNat (n / 65536) :: UInt8.ofNat (n / 256) :: UInt8.ofNat n :: rest) =
      letter x :: letter y :: letter z :: letter w :: encode rest := by
  generalize hn : ((x * 64 + y) * 64 + z) * 64 + w = n
  intro n
  rw [encode, toNat_ofNat_of_lt (by omega), UInt8.toNat_ofNat', UInt8.toNat_ofNat']
  rw [show (n / 65536 * 256 + n / 256 % 2 ^ 8) * 256 + n % 2 ^ 8 = n by omega, show n / 262144 = x by omega,
    show n / 4096 % 64 = y by omega, show n / 64 % 64 = z by omega, show n % 64 = w by omega]

/-- **A text that is read is the written form of its bytes.**  The reader is strict: letters out of place, padding in
the middle and bits behind the last byte are refused. -/
theorem encode_of_decode {cs : List Char} {bytes : List UInt8} (h : decode cs = some bytes) : encode bytes = cs := by
  fun_induction decode cs generalizing bytes with
  | case1 => exact Option.some.inj h ▸ rfl
  | case2 a b =>
    simp only [Option.bind_eq_bind, Option.bind_eq_some_iff] at h
    obtain ⟨x, hx, y, hy, h⟩ := h
    obtain ⟨hxlt, rfl⟩ := letter_of_value? hx
    obtain ⟨hylt, rfl⟩ := letter_of_value? hy
    split_ifs at h with hzero
    exact Option.some.inj h ▸ encode_one hxlt hylt hzero
  | case3 a b c hc =>
    simp only [Option.bind_eq_bind, Option.bind_eq_some_iff] at h
    obtain ⟨x, hx, y, hy, z, hz, h⟩ := h
    obtain ⟨hxlt, rfl⟩ := letter_of_value? hx
    obtain ⟨hylt, rfl⟩ := letter_of_value? hy
    obtain ⟨hzlt, rfl⟩ := letter_of_value? hz
    split_ifs at h with hzero
    exact Option.some.inj h ▸ encode_two hxlt hylt hzlt hzero
  | case4 a b c d rest hone htwo ih =>
    simp only [Option.bind_eq_bind, Option.bind_eq_some_iff] at h
    obtain ⟨x, hx, y, hy, z, hz, w, hw, more, hmore, h⟩ := h
    obtain ⟨hxlt, rfl⟩ := letter_of_value? hx
    obtain ⟨hylt, rfl⟩ := letter_of_value? hy
    obtain ⟨hzlt, rfl⟩ := letter_of_value? hz
    obtain ⟨hwlt, rfl⟩ := letter_of_value? hw
    obtain rfl := Option.some.inj h
    rw [encode_group hxlt hylt hzlt hwlt, ih hmore]
  | case5 => exact nomatch h

/-- **The reader accepts the written forms**, and no other text.  A value has therefore one text only. -/
theorem decode_eq_some_iff {cs : List Char} {bytes : List UInt8} : decode cs = some bytes ↔ cs = encode bytes :=
  ⟨fun h => (encode_of_decode h).symm, fun h => h ▸ decode_encode bytes⟩

end Base64
end Text
end Calibration
