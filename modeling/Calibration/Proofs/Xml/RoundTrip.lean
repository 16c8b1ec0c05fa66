/-
# Written elements are read back in normal form

The writer puts a line break in front of a tag unless text stands right in front of it, and the reader joins all
characters between two tags.  `collect` tells what the reader makes of a written content: the nodes it has complete
and the text it has in hand (`readFrom_chars`).  A line break is thus never joined to a text of the element: it is a
text of its own between two tags, of which one is that of a child element, and goes as layout.  What is left is the
normal form (`dropBlankTexts_collect`, `parse_render`).
-/

import Calibration.Proofs.Xml.Markup
import Calibration.Proofs.Xml.Normal
import Calibration.Xml.Document

namespace Calibration
namespace Xml

variable {cs rest : List Char} {d : Draft} {outer : List Element} {root : Option Element} {p : Element}

/-! ### Reading on from a draft -/

/-- The element that a draft comes to once some characters are read. -/
def readFrom (d : Draft) (cs : List Char) : Except Error Element := do
  let draft ← (events cs).list.foldlM Draft.step d
  match (events cs).fault with
  | some fault => .error (.markup fault)
  | none => draft.finish

/-- At the end of the characters the draft has to be finished. -/
theorem readFrom_nil (d : Draft) : readFrom d [] = d.finish := by
  rw [readFrom, events]
  rfl

/-- The first event is read, and then the rest. -/
theorem readFrom_cons {c : Char} {e : Event}
    (h : events (c :: cs) = { events rest with list := e :: (events rest).list }) :
    readFrom d (c :: cs) = d.step e >>= (readFrom · rest) := by
  simp only [readFrom, h, List.foldlM_cons, bind_assoc]

/-- A piece of markup is one event. -/
theorem readFrom_markup {e : Event} (h : markup cs = .ok (e, rest)) :
    readFrom d ('<' :: cs) = d.step e >>= (readFrom · rest) := by
  refine readFrom_cons ?_
  rw [events]
  split
  · next he => rw [h] at he; cases he; rfl
  · next he => rw [h] at he; cases he

/-- Characters up to the next tag are one event. -/
theorem readFrom_text (hne : cs ≠ []) (h : ∀ c ∈ cs, c ≠ '<') :
    readFrom d (cs ++ '<' :: rest) = d.step (.text cs) >>= (readFrom · ('<' :: rest)) := by
  cases cs with
  | nil => exact absurd rfl hne
  | cons c cs =>
    obtain ⟨hc, hcs⟩ := List.forall_mem_cons.1 h
    refine readFrom_cons ?_
    have hplain : ∀ d ∈ cs, (d != '<') = true := fun d hd => bne_iff_ne.2 (hcs d hd)
    have hstop : (('<' : Char) != '<') = false := rfl
    have hevents := events.eq_3 c (cs ++ '<' :: rest) fun h => hc h
    rwa [takeWhile_append_stop hplain hstop, dropWhile_append_stop hplain hstop] at hevents

/-- Contents are pushed one behind the other. -/
@[simp] theorem Element.push_push (c d : Content) : (p.push c).push d = p.push (c ++ d) := by
  rw [Element.push, Element.push, Element.push, Content.append_assoc]

/-- **A written text is read back** as what it is, up to the next tag.  An empty text is no event at all, and leaves
the draft as it is. -/
theorem readFrom_escape (s : String) :
    readFrom ⟨p :: outer, root⟩ (escape s.toList ++ '<' :: rest) =
      readFrom ⟨p.push (.ofText s) :: outer, root⟩ ('<' :: rest) := by
  by_cases hs : s = ""
  · subst hs
    rw [show p.push (.ofText "") = p from congrArg (Element.mk _ _) (Content.append_nil _)]
    rfl
  · have hne : escape s.toList ≠ [] := fun h => by
      have hread := unescape_escape s.toList
      rw [h, show ([] : List Char) = escape [] from rfl, unescape_escape] at hread
      exact hs (String.toList_eq_nil_iff.1 (Except.ok.inj hread).symm)
    rw [readFrom_text hne fun c hc => (ne_of_mem_escape hc).1]
    simp only [Draft.step, Draft.addText, unescape_escape, Except.mapError]
    simp only [bind, Except.bind, pure, Except.pure, String.ofList_toList]

/-! ### What a written content comes to -/

/-- The line break in front of a tag, as a text. -/
def breakText (level : Nat) (afterText : Bool) : String := String.ofList (lineBreak level afterText)

/-- **A line break is text to the reader**: it is joined to the text in front of it. -/
theorem escape_append_lineBreak (s : String) (level : Nat) (afterText : Bool) (cs : List Char) :
    escape s.toList ++ (lineBreak level afterText ++ cs) = escape (s ++ breakText level afterText).toList ++ cs := by
  rw [String.toList_append, breakText, String.toList_ofList, escape_append, escape_lineBreak, List.append_assoc]

namespace Content

/-- The nodes that a reader has complete once it has read a written content with the text `pre` in hand, and the
text that it has in hand then. -/
def collect (level : Nat) (afterText : Bool) (pre : String) : Content → Content × String
  | nil => (nil, pre)
  | text s rest => rest.collect level true (pre ++ s)
  | element n a b rest =>
    let inner := b.collect (level + 1) false ""
    let body := if b = nil then nil else
      (inner.1 ++ ofText (inner.2 ++ breakText level (b.endsInText false))).dropLayout
    let more := rest.collect level false ""
    (ofText (pre ++ breakText level afterText) ++ element n a body more.1, more.2)

/-- The content of an element as it is read, its end tag being at a level. -/
def reread (level : Nat) (b : Content) : Content :=
  let inner := b.collect (level + 1) false ""
  if b = nil then nil else (inner.1 ++ ofText (inner.2 ++ breakText level (b.endsInText false))).dropLayout

/-- The names of elements and attributes are names, and no attribute stands twice in a tag. -/
def IsNamed : Content → Prop
  | nil => True
  | text _ rest => rest.IsNamed
  | element n a b rest => isName n ∧ (∀ k ∈ a.keys, isName k) ∧ a.keys.Nodup ∧ b.IsNamed ∧ rest.IsNamed

variable {n : String} {a : Assoc String} {b : Content} {level : Nat}

/-- A child element is written behind its line break, and what follows it on its own. -/
theorem chars_element (afterText : Bool) (rest : Content) (tail : List Char) :
    (element n a b rest).chars level afterText tail =
      lineBreak level afterText ++ (element n a b nil).chars level true (rest.chars level false tail) := by
  cases b <;> simp [chars, lineBreak]

/-- **A written element is attached** with its content as it is read, if its content is read so.  The last line break
in it counts as text of its own, in front of the end tag. -/
theorem readFrom_element (hn : isName n) (ha : ∀ k ∈ a.keys, isName k) (hdistinct : a.keys.Nodup)
    (hb : ∀ p outer root tail, readFrom ⟨p :: outer, root⟩ (b.chars (level + 1) false tail) =
      readFrom ⟨p.push (b.collect (level + 1) false "").1 :: outer, root⟩
        (escape (b.collect (level + 1) false "").2.toList ++ tail)) (d : Draft) (tail : List Char) :
    readFrom d ((element n a b nil).chars level true tail) =
      d.attach ⟨n, a, b.reread level⟩ >>= (readFrom · tail) := by
  have helement : Draft.element (Tag.ofInside (tagChars n a)) = .ok { name := n, attributes := a } := by
    rw [Draft.element, attributes_tagChars hn ha hdistinct, ofInside_tagChars hn, String.ofList_toList]
    rfl
  by_cases hnil : b = nil
  · subst hnil
    rw [show (element n a nil nil).chars level true tail = '<' :: (tagChars n a ++ '/' :: '>' :: tail) by
      simp [chars, lineBreak], readFrom_markup (markup_empty hn ha tail), Draft.step, helement]
    rfl
  · have hchars : (element n a b nil).chars level true tail = '<' :: (tagChars n a ++ '>' :: b.chars (level + 1) false
        (lineBreak level (b.endsInText false) ++ '<' :: '/' :: (n.toList ++ '>' :: tail))) := by
      cases b with
      | nil => exact absurd rfl hnil
      | _ => simp [chars, lineBreak]
    rw [hchars, readFrom_markup (markup_start hn ha _), Draft.step, helement]
    simp only [Except.map, bind, Except.bind]
    rw [hb, escape_append_lineBreak, readFrom_escape, readFrom_markup (markup_finish hn tail), Draft.step]
    simp only [Element.push_push]
    rw [if_pos (by rw [String.ofList_toList]; rfl), reread, if_neg hnil]
    rfl

/-- A child element ends the text in hand, together with the line break in front of it. -/
theorem collect_element (afterText : Bool) (pre : String) (rest : Content) :
    (element n a b rest).collect level afterText pre =
      (ofText (pre ++ breakText level afterText) ++ element n a (b.reread level) (rest.collect level false "").1,
        (rest.collect level false "").2) := rfl

/-- **A written content is read back** as `collect` says, whatever follows.  The text in hand has been written, but
not read yet: what follows it may still belong to it. -/
theorem readFrom_chars {c : Content} (hc : c.IsNamed) (level : Nat) (afterText : Bool) (pre : String) (p : Element)
    (outer : List Element) (root : Option Element) (tail : List Char) :
    readFrom ⟨p :: outer, root⟩ (escape pre.toList ++ c.chars level afterText tail) =
      readFrom ⟨p.push (c.collect level afterText pre).1 :: outer, root⟩
        (escape (c.collect level afterText pre).2.toList ++ tail) := by
  induction c generalizing level afterText pre p outer root tail with
  | nil => rw [collect, chars, show p.push nil = p from congrArg (Element.mk _ _) (append_nil _)]
  | text s rest ih =>
    rw [chars, ← List.append_assoc, ← escape_append, ← String.toList_append]
    exact ih hc level true (pre ++ s) p outer root tail
  | element n a b rest ihb ih =>
    obtain ⟨hn, ha, hdistinct, hb, hrest⟩ := hc
    obtain ⟨cs, hcs⟩ : ∃ cs, (element n a b nil).chars level true (rest.chars level false tail) = '<' :: cs := by
      cases b <;> exact ⟨_, by simp [chars, lineBreak]; rfl⟩
    rw [chars_element, hcs, escape_append_lineBreak, readFrom_escape, ← hcs,
      readFrom_element hn ha hdistinct fun p outer root tail => ihb hb (level + 1) false "" p outer root tail]
    simp only [Draft.attach, bind, Except.bind, Element.push_push]
    have hmore := ih hrest level false "" (p.push (ofText (pre ++ breakText level afterText) ++
      ofElement ⟨n, a, b.reread level⟩)) outer root tail
    rw [Element.push_push, append_assoc] at hmore
    exact hmore

/-! ### Layout is not content -/

/-- A line break with its indentation is blank. -/
theorem isBlankText_breakText (level : Nat) (afterText : Bool) : Text.isBlankText (breakText level afterText) := by
  rw [Text.isBlankText, breakText, String.toList_ofList, lineBreak]
  split_ifs
  · rfl
  · rw [List.all_cons, List.all_eq_true.2 fun c hc => List.eq_of_mem_replicate hc ▸ rfl]
    rfl

/-- Blank texts are dropped on both sides of a place. -/
theorem dropBlankTexts_append (c d : Content) : (c ++ d).dropBlankTexts = c.dropBlankTexts ++ d.dropBlankTexts := by
  induction c with
  | nil => rfl
  | text s rest ih =>
    rw [text_append, dropBlankTexts, dropBlankTexts, ih]
    split_ifs <;> rfl
  | element n a b rest _ ih => rw [element_append, dropBlankTexts, dropBlankTexts, ih]; rfl

/-- A blank text is dropped. -/
theorem dropBlankTexts_ofText {s : String} (hs : Text.isBlankText s) : (ofText s).dropBlankTexts = nil := by
  rw [ofText]
  split_ifs
  · rfl
  · rw [dropBlankTexts, if_pos hs]; rfl

/-- There is a child element on one side or on the other. -/
theorem hasElement_append (c d : Content) : (c ++ d).hasElement = (c.hasElement || d.hasElement) := by
  induction c with
  | nil => rfl
  | text s rest ih => exact ih
  | element => rfl

/-- There is a child element in the normal form if there was one. -/
theorem hasElement_joinFrom (c : Content) (pre : String) :
    (c.normalChildren.joinFrom pre).hasElement = c.hasElement := by
  induction c generalizing pre with
  | nil => rw [normalChildren, joinFrom, ofText]; split_ifs <;> rfl
  | text s rest ih => exact ih _
  | element n a b rest =>
    rw [normalChildren, joinFrom, hasElement_append]
    exact Bool.or_true _

/-- There is a child element in what is read if one was written. -/
theorem hasElement_collect (c : Content) (level : Nat) (afterText : Bool) (pre : String) :
    (c.collect level afterText pre).1.hasElement = c.hasElement := by
  induction c generalizing level afterText pre with
  | nil => rfl
  | text s rest ih => exact ih level true (pre ++ s)
  | element n a b rest =>
    rw [collect_element, hasElement_append]
    exact Bool.or_true _

/-- Without child elements the texts are one text in the end. -/
theorem collect_of_hasElement_eq_false {c : Content} (hc : c.hasElement = false) (level : Nat) (afterText : Bool)
    (pre : String) : c.collect level afterText pre = (nil, pre ++ c.texts) ∧
      c.normalChildren.joinFrom pre = ofText (pre ++ c.texts) ∧ (c ≠ nil → c.endsInText afterText = true) := by
  induction c generalizing afterText pre with
  | nil =>
    refine ⟨?_, ?_, fun h => absurd rfl h⟩
    · rw [texts, String.append_empty]; rfl
    · rw [texts, String.append_empty]; rfl
  | text s rest ih =>
    obtain ⟨hcollect, hjoin, hends⟩ := ih hc true (pre ++ s)
    rw [String.append_assoc] at hcollect hjoin
    refine ⟨hcollect, hjoin, fun _ => ?_⟩
    cases rest with
    | nil => rfl
    | text t more => exact hends nofun
    | element => exact nomatch hc
  | element => exact nomatch hc

/-- What is read of an element is its content in normal form, if what is read between its child elements is. -/
theorem reread_eq_normal (level : Nat)
    (hb : ∀ brk, Text.isBlankText brk → (b.endsInText false → brk = "") →
      ((b.collect (level + 1) false "").1 ++ ofText ((b.collect (level + 1) false "").2 ++ brk)).dropBlankTexts =
        (b.normalChildren.joinFrom "").dropBlankTexts) :
    b.reread level = b.normal := by
  have hbreak : b.endsInText false = true → breakText level (b.endsInText false) = "" := fun h => by rw [h]; rfl
  rw [reread, normal, tidy_eq]
  split_ifs with hnil
  · subst hnil; rfl
  cases hel : b.hasElement with
  | true =>
    rw [dropLayout, dropLayout, hasElement_append, hasElement_collect, hasElement_joinFrom, hel]
    exact hb _ (isBlankText_breakText _ _) hbreak
  | false =>
    obtain ⟨hcollect, hjoin, hends⟩ := collect_of_hasElement_eq_false hel (level + 1) false ""
    rw [hcollect, hjoin, hbreak (hends hnil), String.append_empty]
    rfl

/-- **Between child elements the line breaks go**, and with them only texts that are blank.  A line break never joins
a text of the element, so no text of the element turns out different by it. -/
theorem dropBlankTexts_collect (c : Content) (level : Nat) (afterText : Bool) (pre : String)
    (hpre : afterText = false → pre = "") (brk : String) (hblank : Text.isBlankText brk)
    (hbrk : c.endsInText afterText → brk = "") :
    ((c.collect level afterText pre).1 ++ ofText ((c.collect level afterText pre).2 ++ brk)).dropBlankTexts =
      (c.normalChildren.joinFrom pre).dropBlankTexts := by
  -- A text in hand is followed by no line break; a line break follows on no text.
  have hjoined : ∀ brk, Text.isBlankText brk → (afterText = true → brk = "") →
      (ofText (pre ++ brk)).dropBlankTexts = (ofText pre).dropBlankTexts := fun brk hblank hbrk => by
    cases afterText with
    | true => rw [hbrk rfl, String.append_empty]
    | false => rw [hpre rfl, String.empty_append, dropBlankTexts_ofText hblank]; rfl
  induction c generalizing level afterText pre brk with
  | nil => exact hjoined brk hblank hbrk
  | text s rest ih =>
    refine ih level true (pre ++ s) nofun brk hblank hbrk fun brk _ hbrk => ?_
    rw [hbrk rfl, String.append_empty]
  | element n a b rest ihb ih =>
    have hnil : ∀ brk, Text.isBlankText brk → (ofText ("" ++ brk)).dropBlankTexts = (ofText "").dropBlankTexts :=
      fun brk hblank => by rw [String.empty_append, dropBlankTexts_ofText hblank]; rfl
    have hbody := reread_eq_normal level fun brk hblank hbrk =>
      ihb (level + 1) false "" (fun _ => rfl) brk hblank hbrk fun brk hblank _ => hnil brk hblank
    have hrest := ih level false "" (fun _ => rfl) brk hblank hbrk fun brk hblank _ => hnil brk hblank
    rw [collect_element, append_assoc, dropBlankTexts_append,
      hjoined _ (isBlankText_breakText level afterText) (fun h => by rw [h]; rfl), hbody, element_append,
      dropBlankTexts, hrest,
      normalChildren, joinFrom, dropBlankTexts_append, dropBlankTexts]
    rfl

/-- **What is read of an element is its content in normal form.**  The level and the layout have no part in it. -/
theorem reread_eq (b : Content) (level : Nat) : b.reread level = b.normal :=
  reread_eq_normal level fun brk hblank hbrk =>
    dropBlankTexts_collect b (level + 1) false "" (fun _ => rfl) brk hblank hbrk

end Content

/-! ### Whole documents -/

/-- An instruction ends at its first `?>`. -/
theorem cutInstruction_append {ds : List Char} (h : '>' ∉ ds) (cs : List Char) :
    cutInstruction (ds ++ '?' :: '>' :: cs) = some (ds ++ ['?'], cs) := by
  rw [cutInstruction]
  generalize false = s
  induction ds generalizing s with
  | nil => rw [List.nil_append, cut_cons (fun h => absurd h.1 (by decide)), cut, if_pos ⟨rfl, rfl⟩]; rfl
  | cons d ds ih =>
    obtain ⟨hd, hds⟩ := not_or.1 (mt List.mem_cons.2 h)
    rw [List.cons_append, cut_cons fun h => hd h.1.symm, ih hds]
    rfl

namespace Element

/-- All names in the element are names, and no attribute stands twice in a tag. -/
def IsNamed (e : Element) : Prop := (Content.ofElement e).IsNamed

/-- **A written element is read back in normal form.**  In front of it stands the declaration, which is read as a
remark. -/
theorem parse_render {e : Element} (h : e.IsNamed) : parse e.render = .ok e.normal := by
  obtain ⟨hn, ha, hdistinct, hb, -⟩ := h
  let ds := "xml version=\"1.0\" encoding=\"UTF-8\"".toList
  let tag := (Content.element e.name e.attributes e.body .nil).chars 0 true []
  have hchars : e.render.toList = '<' :: '?' :: (ds ++ '?' :: '>' :: ('\n' :: tag)) := by
    rw [render, String.toList_append, String.toList_ofList, Content.ofElement, Content.chars_element]
    rfl
  have hremark : markup ('?' :: (ds ++ '?' :: '>' :: ('\n' :: tag))) = .ok (.remark, '\n' :: tag) := by
    rw [markup, cutInstruction_append (by decide)]
    rfl
  obtain ⟨cs, hcs⟩ : ∃ cs, tag = '<' :: cs := by
    simp only [tag]
    cases e.body <;> exact ⟨_, by simp [Content.chars, lineBreak]; rfl⟩
  have hline : readFrom {} ('\n' :: tag) = readFrom {} tag := by
    rw [hcs]
    exact readFrom_text (List.cons_ne_nil '\n' []) (by simp)
  rw [parse, hchars]
  change readFrom {} ('<' :: _) = _
  rw [readFrom_markup hremark, Draft.step]
  change readFrom {} ('\n' :: tag) = _
  rw [hline, Content.readFrom_element hn ha hdistinct fun p outer root tail =>
    Content.readFrom_chars hb 1 false "" p outer root tail, Content.reread_eq]
  change readFrom { root := some e.normal } [] = _
  rw [readFrom_nil]
  rfl

/-- **The law of writing and reading**: what is read back is the normal form, and so the element itself exactly when
it is in normal form. -/
theorem parse_render_eq_normal (e : Element) (h : e.IsNamed) :
    parse e.render = .ok e.normal ∧ (parse e.render = .ok e ↔ e.body.IsNormal) := by
  have hparse := parse_render h
  refine ⟨hparse, ?_⟩
  rw [hparse, Except.ok.injEq, normal_eq_self_iff]

/-- An element with texts in pieces, a text of signs of markup, and blanks around a child element. -/
def mixed : Element where
  name := "dict"
  attributes := [("key", "a<\"b"), ("xml:lang", "")]
  body := .text "x & " (.text "<y>" (.element "item" [] (.text "" .nil)
    (.text " " (.element "item" [] (.text " " .nil) .nil))))

/-- Pieces are joined, and blanks stay only where there is no child element. -/
theorem parse_render_mixed :
    parse mixed.render = .ok { mixed with
      body := .text "x & <y>" (.element "item" [] .nil (.element "item" [] (.text " " .nil) .nil)) } := by
  obtain ⟨h, -⟩ := parse_render_eq_normal mixed
    ⟨by decide, by decide, by decide,
      ⟨by decide, by decide, by decide, trivial, by decide, by decide, by decide, trivial, trivial⟩, trivial⟩
  rw [h]
  decide

end Element
end Xml
end Calibration
