/-
# References

Five characters have names in markup; every other character may be written by its number. `escape` writes the
five by name, `unescape` reads names and numbers. Main statement: `unescape_escape`, what is written is read
back.
-/

import Calibration.Xml.Error

namespace Calibration
namespace Xml

/-- The written form of one character. -/
def escapeChar (c : Char) : List Char :=
  if c = '<' then "&lt;".toList
  else if c = '>' then "&gt;".toList
  else if c = '&' then "&amp;".toList
  else if c = '\'' then "&apos;".toList
  else if c = '"' then "&quot;".toList
  else [c]

/-- The written form of character data and of attribute values. -/
def escape (cs : List Char) : List Char := cs.flatMap escapeChar

/-- The character with a name. -/
def named? (name : List Char) : Option Char :=
  if name = "lt".toList then some '<'
  else if name = "gt".toList then some '>'
  else if name = "amp".toList then some '&'
  else if name = "apos".toList then some '\''
  else if name = "quot".toList then some '"'
  else none

/-- The value of a digit, both cases of letters allowed. -/
def digit? (base : Nat) (c : Char) : Option Nat :=
  let value? : Option Nat :=
    if '0' ≤ c ∧ c ≤ '9' then some (c.toNat - '0'.toNat)
    else if 'a' ≤ c ∧ c ≤ 'f' then some (c.toNat - 'a'.toNat + 10)
    else if 'A' ≤ c ∧ c ≤ 'F' then some (c.toNat - 'A'.toNat + 10)
    else none
  value?.filter (· < base)

/-- Reads digits from the left after those that gave `value`; a number of more than 32 bits is refused at the
digit that makes it so. -/
def number (base : Nat) (value : Nat) : List Char → Except NumberFault Nat
  | [] => .ok value
  | c :: cs =>
    match digit? base c with
    | none => .error .digit
    | some d =>
      if value * base + d < 4294967296 then number base (value * base + d) cs else .error .tooLarge

/-- The character with a code. -/
def scalar (code : Nat) : Except NumberFault Char :=
  if code = 0 then .error .zero
  else if h : code.isValidChar then .ok (Char.ofNatAux code h)
  else .error (.noScalar code)

/-- The character that a numeric reference names; `x` announces base sixteen. -/
def numbered (body : List Char) : Except NumberFault Char := do
  let (base, digits) := match body with
    | 'x' :: rest => (16, rest)
    | _ => (10, body)
  match digits with
  | [] => .error .empty
  | c :: _ => if c = '+' ∨ c = '-' then .error .sign else scalar (← number base 0 digits)

/-- The character that a reference names, `name` being what stands between `&` and `;`, at offset `start`. -/
def resolve (start : Nat) (name : List Char) : Except ReferenceFault Char :=
  match name with
  | '#' :: body => (numbered body).mapError .number
  | _ => match named? name with
    | some c => .ok c
    | none => .error (.unknown start (start + byteCount name) (String.ofList name))

/-- Ends of a reference: the sign that ends one, and the sign that begins another. -/
def isReferenceSign (c : Char) : Bool := c == '&' || c == ';'

/-- Reads a text from the offset `position` on, `length` being that of the whole text in bytes. -/
def unescapeFrom (length position : Nat) (cs : List Char) : Except ReferenceFault (List Char) :=
  match cs with
  | [] => .ok []
  | c :: rest =>
    if c = '&' then
      let name := rest.takeWhile (!isReferenceSign ·)
      match h : rest.dropWhile (!isReferenceSign ·) with
      | ';' :: rest' => do
        let x ← resolve (position + 1) name
        let xs ← unescapeFrom length (position + 1 + byteCount name + 1) rest'
        return x :: xs
      | _ => .error (.unterminated position length)
    else do
      let xs ← unescapeFrom length (position + c.utf8Size) rest
      return c :: xs
termination_by cs.length
decreasing_by
  · have := (List.dropWhile_suffix (!isReferenceSign ·) (l := rest)).length_le
    rw [h] at this
    simp only [List.length_cons] at this ⊢
    omega
  · simp

/-- Reads character data or an attribute value. -/
def unescape (cs : List Char) : Except ReferenceFault (List Char) :=
  unescapeFrom (byteCount cs) 0 cs

/-- One written character is read back, whatever follows. -/
theorem unescapeFrom_escapeChar (length position : Nat) (c : Char) (cs : List Char) :
    unescapeFrom length position (escapeChar c ++ cs) =
      (unescapeFrom length (position + byteCount (escapeChar c)) cs).map (c :: ·) := by
  have plain : ∀ p (x : Except ReferenceFault (List Char)),
      (do let xs ← x; return p :: xs) = x.map (p :: ·) := by
    intro p x; cases x <;> rfl
  unfold escapeChar
  split
  · next h => subst h; rw [unescapeFrom.eq_def]; simp [isReferenceSign, resolve, named?, byteCount]; rfl
  split
  · next h => subst h; rw [unescapeFrom.eq_def]; simp [isReferenceSign, resolve, named?, byteCount]; rfl
  split
  · next h => subst h; rw [unescapeFrom.eq_def]; simp [isReferenceSign, resolve, named?, byteCount]; rfl
  split
  · next h => subst h; rw [unescapeFrom.eq_def]; simp [isReferenceSign, resolve, named?, byteCount]; rfl
  split
  · next h => subst h; rw [unescapeFrom.eq_def]; simp [isReferenceSign, resolve, named?, byteCount]; rfl
  · next h _ _ =>
    rw [List.singleton_append, unescapeFrom]
    simp [*, byteCount, Except.map]

/-- A row of written characters is read back, at whatever position of a text; positions count for the faults only. -/
theorem unescapeFrom_escape (length position : Nat) (cs : List Char) :
    unescapeFrom length position (escape cs) = .ok cs := by
  induction cs generalizing position with
  | nil => simp [escape, unescapeFrom]
  | cons c cs ih =>
    rw [escape, List.flatMap_cons, unescapeFrom_escapeChar]
    rw [escape] at ih
    rw [ih]
    rfl

/-- **What is written is read back.** Of every character that is escaped the reference is resolved, and no other one
is taken for a reference since `&` is always escaped. -/
theorem unescape_escape (cs : List Char) : unescape (escape cs) = .ok cs :=
  unescapeFrom_escape _ _ _

end Xml
end Calibration
