/-
# Bytes shown as text

Bytes are read as UTF-8. What is no character is shown as U+FFFD, one for each longest run of bytes that could
have begun a character, and one for each byte that can begin none.
-/

namespace Calibration
namespace Text

/-- The first byte of a character that takes more than one: how many bytes follow, the bits that it carries, and
the range of the byte behind it. The ranges leave out needlessly long forms, surrogates, and what is beyond
U+10FFFF. -/
structure LeadByte where
  count : Nat
  bits : Nat
  first : UInt8 := 0x80
  last : UInt8 := 0xBF
deriving DecidableEq, Repr

/-- What a byte says as the first of several. -/
def LeadByte.of? (b : UInt8) : Option LeadByte :=
  if b < 0xC2 then none
  else if b < 0xE0 then some { count := 1, bits := b.toNat - 0xC0 }
  else if b < 0xF0 then
    some { count := 2, bits := b.toNat - 0xE0, first := if b = 0xE0 then 0xA0 else 0x80
           last := if b = 0xED then 0x9F else 0xBF }
  else if b < 0xF5 then
    some { count := 3, bits := b.toNat - 0xF0, first := if b = 0xF0 then 0x90 else 0x80
           last := if b = 0xF4 then 0x8F else 0xBF }
  else none

/-- Reads the bytes that follow, the first of them in a range; gives the code point if all are there, and the
unread rest. -/
def readTail (bits : Nat) (first last : UInt8) : Nat → List UInt8 → Option Nat × List UInt8
  | 0, rest => (some bits, rest)
  | _ + 1, [] => (none, [])
  | count + 1, b :: rest =>
    if first ≤ b ∧ b ≤ last then readTail (bits * 64 + b.toNat % 64) 0x80 0xBF count rest
    else (none, b :: rest)

theorem readTail_length_le (bits : Nat) (first last : UInt8) (count : Nat) (bytes : List UInt8) :
    (readTail bits first last count bytes).2.length ≤ bytes.length := by
  fun_induction readTail bits first last count bytes with
  | case1 => exact Nat.le_refl _
  | case2 => exact Nat.le_refl _
  | case3 _ _ _ _ _ _ _ ih => exact Nat.le_succ_of_le ih
  | case4 => exact Nat.le_refl _

/-- Stands for bytes that are no character. -/
def replacement : Char := '\uFFFD'

/-- The characters of some bytes, as they are shown. -/
def shown : List UInt8 → List Char
  | [] => []
  | b :: rest =>
    if b < 0x80 then Char.ofNat b.toNat :: shown rest
    else
      match LeadByte.of? b with
      | none => replacement :: shown rest
      | some lead =>
        let tail := readTail lead.bits lead.first lead.last lead.count rest
        (tail.1.map Char.ofNat).getD replacement :: shown tail.2
termination_by bytes => bytes.length
decreasing_by
  · exact Nat.lt_succ_self _
  · exact Nat.lt_succ_self _
  · exact Nat.lt_succ_of_le (readTail_length_le ..)

/-- A character that is cut short is one mark; a surrogate is none of the characters, and each of its bytes is
a mark. -/
example : shown [0xE2, 0x82, 0x41] = [replacement, 'A'] ∧
    shown [0xED, 0xA0, 0x80] = [replacement, replacement, replacement] ∧
    shown [0xE2, 0x82, 0xAC] = ['\u20AC'] := by
  decide +kernel

end Text
end Calibration
