/-
# Markup events

A document is a row of character data and markup. Each piece of markup runs from `<` to a `>` that ends it;
which `>` that is depends on the kind of markup, and is found by a small automaton (`cut`). The events of a
text are those before the first fault of markup, together with that fault.
-/

import Calibration.Xml.Attribute

namespace Calibration
namespace Xml

/-- One piece of a document. -/
inductive Event where
  | start (tag : Tag)
  | empty (tag : Tag)
  | finish (name : List Char)
  | text (raw : List Char)
  | cdata (cs : List Char)
  | remark
deriving DecidableEq, Repr

/-- Cuts at the first `>` that is read in a final state; the rest begins behind it. -/
def cut {σ : Type} (next : σ → Char → σ) (final : σ → Bool) (s : σ) :
    List Char → Option (List Char × List Char)
  | [] => none
  | c :: cs =>
    if c = '>' ∧ final s then some ([], cs)
    else (cut next final (next s c) cs).map fun (piece, rest) => (c :: piece, rest)

/-- **A cut loses only the closing `>`.** The piece and what is left are the characters as they stand, whatever the
state has to say about quotes, brackets and dashes. -/
theorem cut_eq {σ : Type} {next : σ → Char → σ} {final : σ → Bool} {s : σ} {cs piece rest : List Char}
    (h : cut next final s cs = some (piece, rest)) : cs = piece ++ '>' :: rest := by
  induction cs generalizing s piece with
  | nil => simp [cut] at h
  | cons c cs ih =>
    rw [cut] at h
    split at h
    · next hc => simp only [Option.some.injEq, Prod.mk.injEq] at h; simp [← h.1, ← h.2, hc.1]
    · obtain ⟨⟨p, r⟩, hp, he⟩ := Option.map_eq_some_iff.1 h
      simp only [Prod.mk.injEq] at he
      obtain ⟨rfl, rfl⟩ := he
      rw [ih hp, List.cons_append]

/-- **A cut goes forward**: what is left is shorter, as the sign that ends the piece is gone. -/
theorem cut_length {σ : Type} {next : σ → Char → σ} {final : σ → Bool} {s : σ} {cs piece rest : List Char}
    (h : cut next final s cs = some (piece, rest)) : rest.length < cs.length := by
  rw [cut_eq h]; simp; omega

/-- A tag ends at a `>` outside quotes; the state is the quote that is open. -/
def cutTag : List Char → Option (List Char × List Char) :=
  cut (fun quote c => match quote with
    | none => if c = '"' ∨ c = '\'' then some c else none
    | some q => if c = q then none else some q) Option.isNone none

/-- A document type ends at the `>` that balances; the state is the number of `<` that are open. -/
def cutDoctype : List Char → Option (List Char × List Char) :=
  cut (fun depth c => if c = '<' then depth + 1 else if c = '>' then depth - 1 else depth) (· == 0) 0

/-- A CDATA section ends at a `>` behind two brackets; the state counts the brackets just read. -/
def cutCdata : List Char → Option (List Char × List Char) :=
  cut (fun brackets c => if c = ']' then brackets + 1 else 0) (2 ≤ ·) 0

/-- A comment ends at a `>` behind two dashes that are not those of its opening; the state counts the
characters read and the dashes just read. -/
def cutComment : List Char → Option (List Char × List Char) :=
  cut (fun (read, dashes) c => (read + 1, if c = '-' then dashes + 1 else 0))
    (fun (read, dashes) => 5 ≤ read && 2 ≤ dashes) ((0, 0) : Nat × Nat)

/-- An instruction ends at a `>` behind a question mark; the state tells whether one was just read. -/
def cutInstruction : List Char → Option (List Char × List Char) :=
  cut (fun _ c => c == '?') id false

/-- What an opening sign and a second character announce: the letter case of a document type is free. -/
def isDoctype (piece : List Char) : Bool :=
  (piece.take 8).map Char.toUpper == "!DOCTYPE".toList

/-- A declaration, comment or section, from its `!` on. -/
def declaration (cs : List Char) : Except MarkupFault (Event × List Char) :=
  match cs with
  | _ :: '[' :: _ =>
    match cutCdata cs with
    | some (piece, rest) =>
      if "![CDATA[".toList.isPrefixOf piece then .ok (.cdata ((piece.drop 8).dropLast.dropLast), rest)
      else .error .cdata
    | none => .error .cdata
  | _ :: '-' :: _ =>
    match cutComment cs with
    | some (piece, rest) => if "!--".toList.isPrefixOf piece then .ok (.remark, rest) else .error .comment
    | none => .error .comment
  | _ :: c :: _ =>
    if c = 'D' ∨ c = 'd' then
      match cutDoctype cs with
      | some (piece, rest) =>
        if !isDoctype piece then .error .doctype
        else if (piece.drop 8).all isSpace then .error .namelessDoctype
        else .ok (.remark, rest)
      | none => .error .doctype
    else .error .unknown
  | _ => .error .unknown

/-- The name in an end tag: spaces behind it are dropped unless there is nothing else. -/
def endName (inside : List Char) : List Char :=
  if inside.all isSpace then inside else (inside.reverse.dropWhile isSpace).reverse

/-- A start tag, or an empty element when its inside ends in `/`. -/
def startEvent (inside : List Char) : Event :=
  if inside.getLast? = some '/' then .empty (Tag.ofInside inside.dropLast) else .start (Tag.ofInside inside)

/-- The piece of markup that begins behind a `<`, and what follows it. -/
def markup (cs : List Char) : Except MarkupFault (Event × List Char) :=
  match cs with
  | [] => .error .tag
  | '!' :: _ => declaration cs
  | '?' :: inside =>
    match cutInstruction inside with
    | some (_, rest) => if inside.head? = some '>' then .error .instruction else .ok (.remark, rest)
    | none => .error .instruction
  | '/' :: inside =>
    match cutTag inside with
    | some (piece, rest) => .ok (.finish (endName piece), rest)
    | none => .error .tag
  | _ =>
    match cutTag cs with
    | some (piece, rest) => .ok (startEvent piece, rest)
    | none => .error .tag

/-- Every kind of markup that begins with an exclamation mark is cut off by its own rule, and all of them go forward.
-/
theorem declaration_length {cs rest : List Char} {e : Event} (h : declaration cs = .ok (e, rest)) :
    rest.length < cs.length := by
  unfold declaration at h
  repeat' split at h
  all_goals first
    | (next hc _ => simp only [Except.ok.injEq, Prod.mk.injEq] at h; rw [← h.2]; exact cut_length hc)
    | (next hc _ _ => simp only [Except.ok.injEq, Prod.mk.injEq] at h; rw [← h.2]; exact cut_length hc)
    | simp at h

/-- **Each piece of markup leaves less to read**, which makes the reading of events end. -/
theorem markup_length {cs rest : List Char} {e : Event} (h : markup cs = .ok (e, rest)) :
    rest.length < cs.length := by
  unfold markup at h
  split at h
  · simp at h
  · exact declaration_length h
  · repeat' split at h
    · simp at h
    · next hc _ =>
      simp only [Except.ok.injEq, Prod.mk.injEq] at h
      rw [← h.2]
      exact Nat.lt_succ_of_lt (cut_length hc)
    · simp at h
  · split at h
    · next hc =>
      simp only [Except.ok.injEq, Prod.mk.injEq] at h
      rw [← h.2]
      exact Nat.lt_succ_of_lt (cut_length hc)
    · simp at h
  · split at h
    · next hc =>
      simp only [Except.ok.injEq, Prod.mk.injEq] at h
      rw [← h.2]
      exact cut_length hc
    · simp at h

/-- The events of a text up to its first fault of markup, and that fault. -/
structure Events where
  list : List Event := []
  fault : Option MarkupFault := none
deriving DecidableEq, Repr

/-- The events of a text. -/
def events (cs : List Char) : Events :=
  match cs with
  | [] => {}
  | '<' :: inside =>
    match _h : markup inside with
    | .ok (e, rest) =>
      let more := events rest
      { more with list := e :: more.list }
    | .error fault => { fault }
  | c :: rest =>
    let more := events (rest.dropWhile (· != '<'))
    { more with list := .text (c :: rest.takeWhile (· != '<')) :: more.list }
termination_by cs.length
decreasing_by
  · have := markup_length _h
    simp only [List.length_cons]
    omega
  · have := length_dropWhile_le (· != '<') rest
    simp only [List.length_cons]
    omega

end Xml
end Calibration
