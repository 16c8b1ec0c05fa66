/-
# Documents are reformatted once

A document that was read is written again as its element, and this is where it comes to rest.  All that the second
reading does not see is where one piece of text ended and the next began: `joined` joins the pieces at every depth, and
keeps names, attributes and the text of every element (`outline_joined`).  The writer does not see it either, since the
escaped pieces stand side by side (`chars_joined`).  That nothing else is lost is due to what was read: no text in it is
empty, and none is blank beside a child element, so that the pieces joined are its normal form (`normal_eq_joined`).
-/

import Calibration.Proofs.Xml.Acceptance
import Mathlib.Data.List.Nodup

namespace Calibration
namespace Xml

namespace Content

variable {c d : Content} {level : Nat} {afterText : Bool}

/-- Adjacent texts joined, at every depth. -/
def joined : Content → Content
  | nil => nil
  | text s rest =>
    match rest.joined with
    | text t more => text (s ++ t) more
    | more => text s more
  | element n a b rest => element n a b.joined rest.joined

/-- The elements in document order, each with its name, its attributes and its text. -/
def outline : Content → List (String × Assoc String × String)
  | nil => []
  | text _ rest => rest.outline
  | element n a b rest => (n, a, b.texts) :: (b.outline ++ rest.outline)

/-- The names of elements and attributes are names. -/
def HasNames : Content → Prop
  | nil => True
  | text _ rest => rest.HasNames
  | element n a b rest => isName n ∧ (∀ k ∈ a.keys, isName k) ∧ b.HasNames ∧ rest.HasNames

/-- No attribute stands twice in a tag. -/
def HasDistinctKeys : Content → Prop
  | nil => True
  | text _ rest => rest.HasDistinctKeys
  | element _ a b rest => a.keys.Nodup ∧ b.HasDistinctKeys ∧ rest.HasDistinctKeys

/-- What has names, and no attribute twice in a tag, can be written and read back. -/
theorem isNamed_of_hasNames (hn : c.HasNames) (hk : c.HasDistinctKeys) : c.IsNamed := by
  induction c with
  | nil => trivial
  | text s rest ih => exact ih hn hk
  | element n a b rest ihb ih => exact ⟨hn.1, hn.2.1, hk.1, ihb hn.2.2.1 hk.2.1, ih hn.2.2.2 hk.2.2⟩

/-- A text in front is joined with the text that the rest begins with. -/
theorem joined_text_cases (s : String) (rest : Content) :
    (∃ t more, rest.joined = text t more ∧ (text s rest).joined = text (s ++ t) more) ∨
      rest.joined.beginsWithText = false ∧ (text s rest).joined = text s rest.joined := by
  rw [joined]
  cases rest.joined with
  | nil => exact .inr ⟨rfl, rfl⟩
  | text t more => exact .inl ⟨t, more, rfl, rfl⟩
  | element => exact .inr ⟨rfl, rfl⟩

/-! ### What joining keeps -/

/-- Joining makes no content empty.  The writer tells an element without content from others, so this is needed for
what it writes. -/
theorem joined_eq_nil_iff : c.joined = nil ↔ c = nil := by
  cases c with
  | nil => exact ⟨fun _ => rfl, fun _ => rfl⟩
  | text s rest =>
    rcases joined_text_cases s rest with ⟨t, more, -, h⟩ | ⟨-, h⟩ <;> rw [h] <;> exact ⟨nofun, nofun⟩
  | element => exact ⟨nofun, nofun⟩

/-- The text of an element is the same once its pieces are joined. -/
theorem texts_joined (c : Content) : c.joined.texts = c.texts := by
  induction c with
  | nil => rfl
  | text s rest ih =>
    rcases joined_text_cases s rest with ⟨t, more, hrest, h⟩ | ⟨-, h⟩
    · rw [h, texts, texts, String.append_assoc, ← ih, hrest, texts]
    · rw [h, texts, texts, ih]
  | element n a b rest _ ih => exact ih

/-- **Joining keeps every element** with its attributes and its text.  Only the borders between pieces of a text are
lost. -/
theorem outline_joined (c : Content) : c.joined.outline = c.outline := by
  induction c with
  | nil => rfl
  | text s rest ih =>
    rcases joined_text_cases s rest with ⟨t, more, hrest, h⟩ | ⟨-, h⟩
    · rw [h, outline, outline, ← ih, hrest, outline]
    · rw [h, outline, outline, ih]
  | element n a b rest ihb ih => rw [joined, outline, outline, texts_joined, ihb, ih]

/-- There are child elements where there were some. -/
theorem hasElement_joined (c : Content) : c.joined.hasElement = c.hasElement := by
  induction c with
  | nil => rfl
  | text s rest ih =>
    rcases joined_text_cases s rest with ⟨t, more, hrest, h⟩ | ⟨-, h⟩
    · rw [h, hasElement, hasElement, ← ih, hrest, hasElement]
    · rw [h, hasElement, hasElement, ih]
  | element => rfl

/-- The last node is a text where it was one.  The writer puts no line break behind it. -/
theorem endsInText_joined (c : Content) (before : Bool) : c.joined.endsInText before = c.endsInText before := by
  induction c generalizing before with
  | nil => rfl
  | text s rest ih =>
    rcases joined_text_cases s rest with ⟨t, more, hrest, h⟩ | ⟨-, h⟩
    · rw [h, endsInText, endsInText, ← ih, hrest, endsInText]
    · rw [h, endsInText, endsInText, ih]
  | element n a b rest _ ih => exact ih false

/-- An element with content is written between two tags. -/
theorem chars_element_of_ne {n : String} {a : Assoc String} {b : Content} (hb : b ≠ nil) (rest : Content)
    (tail : List Char) : (element n a b rest).chars level afterText tail =
      lineBreak level afterText ++ '<' :: tagChars n a ++ '>' :: b.chars (level + 1) false
        (lineBreak level (b.endsInText false) ++ "</".toList ++ n.toList ++ '>' :: rest.chars level false tail) := by
  cases b with
  | nil => exact absurd rfl hb
  | text | element => rfl

/-- **The pieces of a text are written as one.**  The writer escapes them one by one, and puts nothing between them.
-/
theorem chars_joined (c : Content) (level : Nat) (afterText : Bool) (tail : List Char) :
    c.joined.chars level afterText tail = c.chars level afterText tail := by
  induction c generalizing level afterText tail with
  | nil => rfl
  | text s rest ih =>
    rcases joined_text_cases s rest with ⟨t, more, hrest, h⟩ | ⟨-, h⟩
    · rw [h, chars, chars, ← ih, hrest, chars, String.toList_append, escape_append, List.append_assoc]
    · rw [h, chars, chars, ih]
  | element n a b rest ihb ih =>
    rw [joined]
    by_cases hb : b = nil
    · subst hb
      rw [joined, chars, chars, ih]
    · rw [chars_element_of_ne hb, chars_element_of_ne (mt joined_eq_nil_iff.1 hb), ihb, endsInText_joined, ih]

/-! ### The pieces joined are the normal form -/

/-- Joining the pieces first makes no difference to the normal form. -/
theorem joinFrom_joined (c : Content) (pre : String) :
    c.joined.normalChildren.joinFrom pre = c.normalChildren.joinFrom pre := by
  induction c generalizing pre with
  | nil => rfl
  | text s rest ih =>
    rw [normalChildren, joinFrom, ← ih]
    rcases joined_text_cases s rest with ⟨t, more, hrest, h⟩ | ⟨-, h⟩
    · rw [h, hrest, normalChildren, normalChildren, joinFrom, joinFrom, String.append_assoc]
    · rw [h, normalChildren, joinFrom]
  | element n a b rest ihb ih =>
    rw [joined, normalChildren, normalChildren, joinFrom, joinFrom, tidy_eq, tidy_eq, ihb, ih]

/-- Joining the pieces is part of the normal form. -/
theorem normal_joined (c : Content) : c.joined.normal = c.normal := by
  rw [normal, normal, tidy_eq, tidy_eq, joinFrom_joined]

/-- Two pieces are blank together if each is. -/
theorem isBlankText_append (s t : String) : Text.isBlankText (s ++ t) = (Text.isBlankText s && Text.isBlankText t) := by
  rw [Text.isBlankText, String.toList_append, List.all_append]
  rfl

/-- Pieces that are not blank make texts that are not blank. -/
theorem HasNoBlank.joined (hc : c.HasNoBlank) : c.joined.HasNoBlank := by
  induction c with
  | nil => trivial
  | text s rest ih =>
    obtain ⟨hs, hrest⟩ := hc
    have hjoined := ih hrest
    rcases joined_text_cases s rest with ⟨t, more, hmore, h⟩ | ⟨-, h⟩
    · rw [hmore] at hjoined
      rw [h]
      exact ⟨by rw [isBlankText_append, hs]; rfl, hjoined.2⟩
    · rw [h]
      exact ⟨hs, hjoined⟩
  | element n a b rest _ ih => exact ih hc

/-- Since no piece that was read is empty, no text is empty once they are joined. -/
theorem IsTrimmed.isJoined_joined (hc : c.IsTrimmed) : c.joined.IsJoined := by
  induction c with
  | nil => trivial
  | text s rest ih =>
    obtain ⟨hs, hrest⟩ := hc
    have hjoined := ih hrest
    rcases joined_text_cases s rest with ⟨t, more, hmore, h⟩ | ⟨hmore, h⟩
    · rw [hmore] at hjoined
      rw [h]
      exact ⟨fun h => hjoined.1 (String.append_eq_empty_iff.1 h).2, hjoined.2⟩
    · rw [h]
      exact ⟨hs, hmore, hjoined⟩
  | element n a b rest _ ih => exact ih hc.2.2

/-- The content of an element that was read is in order once its pieces are joined. -/
theorem IsTrimmed.isTidy_joined (hc : c.IsTrimmed) (hblank : c.hasElement → c.HasNoBlank) : c.joined.IsTidy :=
  ⟨hc.isJoined_joined, fun h => (hblank (hasElement_joined c ▸ h)).joined⟩

/-- **What was read is in order below** once its pieces are joined, at every depth. -/
theorem IsTrimmed.isTidyBelow_joined (hc : c.IsTrimmed) : c.joined.IsTidyBelow := by
  induction c with
  | nil => trivial
  | text s rest ih =>
    have hjoined := ih hc.2
    rcases joined_text_cases s rest with ⟨t, more, hmore, h⟩ | ⟨-, h⟩
    · rw [hmore] at hjoined
      rw [h]
      exact hjoined
    · rw [h]
      exact hjoined
  | element n a b rest ihb ih => exact ⟨hc.2.1.isTidy_joined hc.1, ihb hc.2.1, ih hc.2.2⟩

/-- **The normal form of what was read** is the pieces joined, and nothing else.  No text is dropped, as the reader
has kept none that the normal form would do without. -/
theorem normal_eq_joined (hc : c.IsTrimmed) (hblank : c.hasElement → c.HasNoBlank) : c.normal = c.joined := by
  rw [← normal_joined, normal_eq_self_iff]
  exact ⟨hc.isTidy_joined hblank, hc.isTidyBelow_joined⟩

/-! ### Attributes that were read -/

/-- Contents side by side have no attribute twice in a tag if neither has. -/
theorem HasDistinctKeys.append (hc : c.HasDistinctKeys) (hd : d.HasDistinctKeys) : (c ++ d).HasDistinctKeys := by
  induction c with
  | nil => exact hd
  | text s rest ih => exact ih hc
  | element n a b rest _ ih => exact ⟨hc.1, hc.2.1, ih hc.2.2⟩

/-- A text has no attributes. -/
theorem hasDistinctKeys_ofText (s : String) : (ofText s).HasDistinctKeys := by
  unfold ofText
  split_ifs <;> trivial

/-- Layout has no attributes. -/
theorem HasDistinctKeys.dropLayout (hc : c.HasDistinctKeys) : c.dropLayout.HasDistinctKeys := by
  have hdrop : c.dropBlankTexts.HasDistinctKeys := by
    induction c with
    | nil => trivial
    | text s rest ih =>
      rw [dropBlankTexts]
      split_ifs <;> exact ih hc
    | element n a b rest _ ih => exact ⟨hc.1, hc.2.1, ih hc.2.2⟩
  unfold Content.dropLayout
  split_ifs
  · exact hdrop
  · exact hc

end Content

/-- **No attribute stands twice in what a tag declares**, since no key does in its row. -/
theorem Tag.Declares.nodup_keys {t : Tag} {a : Assoc String} (h : t.Declares a) : a.keys.Nodup := by
  obtain ⟨row, -, hdistinct, hresolves⟩ := h
  have hkeys : a.keys = (row.map Prod.fst).map String.ofList := by
    clear hdistinct
    induction hresolves with
    | nil => rfl
    | cons hhead _ ih => exact congr (congrArg List.cons hhead.1) ih
  rw [hkeys]
  exact List.Nodup.map (fun _ _ h => String.ofList_injective h) hdistinct

/-- In what the events describe no attribute stands twice in a tag, at any depth. -/
theorem Describes.hasDistinctKeys {es : List Event} {c : Content} (h : Describes es c) : c.HasDistinctKeys := by
  induction h with
  | nil => trivial
  | remark _ ih => exact ih
  | text _ _ ih | cdata _ ih => exact (Content.hasDistinctKeys_ofText _).append ih
  | empty ha _ ih => exact ⟨ha.nodup_keys, trivial, ih⟩
  | element ha _ _ ihb ih => exact ⟨ha.nodup_keys, ihb.dropLayout, ih⟩

/-- The same holds of the top element. -/
theorem DescribesTop.hasDistinctKeys {es : List Event} {root : Element} (h : DescribesTop es root) :
    (Content.ofElement root).HasDistinctKeys := by
  induction h with
  | prose _ _ ih => exact ih
  | empty ha _ => exact ⟨ha.nodup_keys, trivial, trivial⟩
  | element ha hbody _ => exact ⟨ha.nodup_keys, hbody.hasDistinctKeys.dropLayout, trivial⟩

/-- A text is reformatted: read, and written as the element that was read. -/
def reformat (s : String) : Except Error String := (parse s).map Element.render

namespace Element

/-- The names of the element, of those in it, and of all attributes are names. -/
def HasNames (e : Element) : Prop := (Content.ofElement e).HasNames

/-- The element with the pieces of its texts joined. -/
def joined (e : Element) : Element := { e with body := e.body.joined }

/-- An element is written as before once its pieces are joined. -/
theorem render_joined (e : Element) : e.joined.render = e.render := by
  have hchars := Content.chars_joined (Content.ofElement e) 0 false []
  exact congrArg (fun cs => prolog ++ String.ofList cs) hchars

/-- All its elements keep their attributes and their text. -/
theorem outline_joined (e : Element) :
    (Content.ofElement e.joined).outline = (Content.ofElement e).outline :=
  Content.outline_joined (Content.ofElement e)

/-- **Reformatting a document loses only where its pieces of text were divided**, and is done with once.  What is
written is read again as the same element with adjacent texts joined, in which every element has its attributes and its
text, and which is written in the same way. -/
theorem parse_render_of_parse {s : String} {e : Element} (h : parse s = .ok e) (hn : e.HasNames) :
    parse e.render = .ok e.joined ∧
      e.joined.render = e.render ∧
      (Content.ofElement e.joined).outline = (Content.ofElement e).outline ∧
      reformat s = .ok e.render ∧ reformat e.render = .ok e.render := by
  obtain ⟨-, htop⟩ := Events.element_eq_ok_iff.1 (parse_eq s ▸ h)
  obtain ⟨hblank, htrimmed, -⟩ := htop.isTrimmed
  have hnamed : e.IsNamed := Content.isNamed_of_hasNames hn htop.hasDistinctKeys
  have hnormal : e.normal = e.joined := congrArg (Element.mk _ _) (Content.normal_eq_joined htrimmed hblank)
  have hparse : parse e.render = .ok e.joined := hnormal ▸ parse_render hnamed
  refine ⟨hparse, e.render_joined, e.outline_joined, by rw [reformat, h]; rfl, ?_⟩
  have hagain : reformat e.render = .ok e.joined.render := by rw [reformat, hparse]; rfl
  rw [hagain, e.render_joined]

/-- A document whose text is in pieces: references, a section, and a remark between them. -/
def pieces : String :=
  "<!DOCTYPE note><note to='a&amp;b'>\n <i>x<!-- - --> &lt;<![CDATA[]]>y<![CDATA[ <z> ]]></i>\n<j> <?k?> </j></note>"

/-- What is read of it: the layout is gone. -/
def piecesRead : Element :=
  ⟨"note", [("to", "a&b")], .element "i" [] (.text "x" (.text " <" (.text "y" (.text " <z> " .nil))))
    (.element "j" [] (.text " " (.text " " .nil)) .nil)⟩

/-- The pieces are joined when the document is read again. -/
theorem reformat_pieces :
    parse pieces = .ok piecesRead ∧ piecesRead.HasNames ∧
      parse piecesRead.render = .ok ⟨"note", [("to", "a&b")],
        .element "i" [] (.text "x <y <z> " .nil) (.element "j" [] (.text "  " .nil) .nil)⟩ ∧
      reformat pieces = .ok piecesRead.render ∧ reformat piecesRead.render = .ok piecesRead.render := by
  have hparse : parse pieces = .ok piecesRead := by decide +kernel
  have hnames : piecesRead.HasNames :=
    ⟨by decide, by decide, ⟨by decide, by decide, trivial, by decide, by decide, trivial, trivial⟩, trivial⟩
  obtain ⟨hread, -, -, hfirst, hagain⟩ := parse_render_of_parse hparse hnames
  exact ⟨hparse, hnames, hread, hfirst, hagain⟩

end Element
end Xml
end Calibration
