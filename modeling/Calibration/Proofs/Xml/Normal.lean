/-
# The normal form of an element

What a reader cannot tell apart is one in the normal form: adjacent texts are joined, empty texts are dropped, and
beside a child element the texts that hold blanks only are dropped too (`tidy`), in every element of the tree
(`normal`).  `IsNormal` says the same without computing: no text is empty, no text follows on another, none beside a
child element is blank.  Both agree (`normal_eq_self_iff`).  A reader goes through the texts once, with what it has
read of the present text in hand: `joinFrom` is this one pass (`dropEmptyTexts_joinTexts`).
-/

import Calibration.Xml.Element
import Mathlib.Tactic.SplitIfs

namespace Calibration
namespace Xml
namespace Content

variable {n s : String} {a : Assoc String} {b c d rest : Content}

/-- Adjacent texts joined. -/
def joinTexts : Content → Content
  | nil => nil
  | text s rest =>
    match rest.joinTexts with
    | text t more => text (s ++ t) more
    | more => text s more
  | element n a b rest => element n a b rest.joinTexts

/-- Without the empty texts. -/
def dropEmptyTexts : Content → Content
  | nil => nil
  | text s rest => if s = "" then rest.dropEmptyTexts else text s rest.dropEmptyTexts
  | element n a b rest => element n a b rest.dropEmptyTexts

/-- The texts in order: joined, none empty, and none blank beside a child element. -/
def tidy (c : Content) : Content := c.joinTexts.dropEmptyTexts.dropLayout

/-- The child elements in normal form. -/
def normalChildren : Content → Content
  | nil => nil
  | text s rest => text s rest.normalChildren
  | element n a b rest => element n a b.normalChildren.tidy rest.normalChildren

/-- The normal form. -/
def normal (c : Content) : Content := c.normalChildren.tidy

/-- The first node is a text. -/
def beginsWithText : Content → Bool
  | text .. => true
  | _ => false

/-- No text is empty, and none follows on another. -/
def IsJoined : Content → Prop
  | nil => True
  | text s rest => s ≠ "" ∧ rest.beginsWithText = false ∧ rest.IsJoined
  | element _ _ _ rest => rest.IsJoined

/-- No text is blank. -/
def HasNoBlank : Content → Prop
  | nil => True
  | text s rest => Text.isBlankText s = false ∧ rest.HasNoBlank
  | element _ _ _ rest => rest.HasNoBlank

/-- The texts are in order. -/
def IsTidy (c : Content) : Prop := c.IsJoined ∧ (c.hasElement → c.HasNoBlank)

/-- The texts inside the child elements are in order, at every depth. -/
def IsTidyBelow : Content → Prop
  | nil => True
  | text _ rest => rest.IsTidyBelow
  | element _ _ b rest => b.IsTidy ∧ b.IsTidyBelow ∧ rest.IsTidyBelow

/-- The texts are in order everywhere. -/
def IsNormal (c : Content) : Prop := c.IsTidy ∧ c.IsTidyBelow

/-! ### One pass over the texts -/

/-- Joins what follows on the text `pre`, and leaves empty texts out. -/
def joinFrom (pre : String) : Content → Content
  | nil => ofText pre
  | text s rest => rest.joinFrom (pre ++ s)
  | element n a b rest => ofText pre ++ element n a b (rest.joinFrom "")

/-- Two texts in front may be joined first. -/
theorem joinTexts_text_text (s t : String) (c : Content) :
    (text s (text t c)).joinTexts = (text (s ++ t) c).joinTexts := by
  simp only [joinTexts]
  cases c.joinTexts <;> simp [String.append_assoc]

/-- A text in front stays unless it is empty. -/
theorem dropEmptyTexts_text (s : String) (c : Content) :
    (text s c).dropEmptyTexts = ofText s ++ c.dropEmptyTexts := by
  rw [dropEmptyTexts, ofText]
  split_ifs <;> rfl

/-- **Joining and dropping empty texts is one pass.**  A reader makes this pass, with the text in hand as its state;
the normal form is defined by the two steps that make it up. -/
theorem dropEmptyTexts_joinTexts (c : Content) (pre : String) :
    (text pre c).joinTexts.dropEmptyTexts = c.joinFrom pre ∧ c.joinTexts.dropEmptyTexts = c.joinFrom "" := by
  induction c generalizing pre with
  | nil =>
    refine ⟨?_, rfl⟩
    rw [joinTexts, joinTexts]
    exact (dropEmptyTexts_text pre nil).trans (append_nil _)
  | text s rest ih =>
    constructor
    · rw [joinTexts_text_text, joinFrom]
      exact (ih _).1
    · rw [joinFrom, String.empty_append]
      exact (ih s).1
  | element n a b rest _ ih =>
    have hrest : (element n a b rest).joinTexts.dropEmptyTexts = element n a b (rest.joinFrom "") := by
      rw [joinTexts, dropEmptyTexts, (ih "").2]
    refine ⟨?_, hrest⟩
    rw [joinFrom, ← hrest]
    exact dropEmptyTexts_text pre _

/-- The texts are put in order by one pass that joins them, and then the layout goes. -/
theorem tidy_eq (c : Content) : c.tidy = (c.joinFrom "").dropLayout :=
  congrArg dropLayout (dropEmptyTexts_joinTexts c "").2

/-! ### What is in order stays as it is -/

/-- A text that is not empty is a node. -/
theorem ofText_of_ne (h : s ≠ "") : ofText s = text s nil := if_neg h

/-- Where the texts are joined the pass changes nothing.  A text in hand is put in front, unless the content begins
with a text that it would be joined to. -/
theorem joinFrom_of_isJoined (hc : c.IsJoined) :
    c.joinFrom "" = c ∧ (c.beginsWithText = false → ∀ pre, c.joinFrom pre = ofText pre ++ c) := by
  induction c with
  | nil => exact ⟨rfl, fun _ pre => (append_nil _).symm⟩
  | text s rest ih =>
    obtain ⟨hs, hrest, hjoined⟩ := hc
    refine ⟨?_, nofun⟩
    rw [joinFrom, String.empty_append, (ih hjoined).2 hrest, ofText_of_ne hs]
    rfl
  | element n a b rest _ ih =>
    refine ⟨?_, fun _ pre => ?_⟩
    · rw [joinFrom, (ih hc).1]; rfl
    · rw [joinFrom, (ih hc).1]

/-- Where no text is blank none is dropped. -/
theorem dropBlankTexts_of_hasNoBlank (hc : c.HasNoBlank) : c.dropBlankTexts = c := by
  induction c with
  | nil => rfl
  | text s rest ih => rw [dropBlankTexts, hc.1, ih hc.2]; rfl
  | element n a b rest _ ih => rw [dropBlankTexts, ih hc]

/-- What is in order stays as it is. -/
theorem tidy_of_isTidy (hc : c.IsTidy) : c.tidy = c := by
  rw [tidy_eq, (joinFrom_of_isJoined hc.1).1, dropLayout]
  split_ifs with h
  · exact dropBlankTexts_of_hasNoBlank (hc.2 h)
  · rfl

/-- Child elements that are in order stay as they are. -/
theorem normalChildren_of_isTidyBelow (hc : c.IsTidyBelow) : c.normalChildren = c := by
  induction c with
  | nil => rfl
  | text s rest ih => rw [normalChildren, ih hc]
  | element n a b rest ihb ih => rw [normalChildren, ihb hc.2.1, tidy_of_isTidy hc.1, ih hc.2.2]

/-! ### The result is in order -/

/-- The pass leaves the texts joined, whatever text it has in hand. -/
theorem isJoined_joinFrom (c : Content) (pre : String) : (c.joinFrom pre).IsJoined := by
  have hprefix : ∀ s d, IsJoined d → d.beginsWithText = false → (ofText s ++ d).IsJoined := by
    intro s d hd hb
    rw [ofText]
    split_ifs with hs
    · exact hd
    · exact ⟨hs, hb, hd⟩
  induction c generalizing pre with
  | nil => rw [joinFrom, ← append_nil (ofText pre)]; exact hprefix pre nil trivial rfl
  | text s rest ih => exact ih _
  | element n a b rest _ ih => exact hprefix pre (element n a b (rest.joinFrom "")) (ih "") rfl

/-- Dropping blank texts does not bring two others together, since no text stood beside another. -/
theorem isJoined_dropBlankTexts (hc : c.IsJoined) : c.dropBlankTexts.IsJoined := by
  induction c with
  | nil => trivial
  | text s rest ih =>
    obtain ⟨hs, hb, hrest⟩ := hc
    rw [dropBlankTexts]
    split_ifs
    · exact ih hrest
    · refine ⟨hs, ?_, ih hrest⟩
      cases rest with
      | nil => rfl
      | text t more => exact nomatch hb
      | element => rfl
  | element n a b rest _ ih => exact ih hc

/-- Once the blank texts are dropped there are none. -/
theorem hasNoBlank_dropBlankTexts (c : Content) : c.dropBlankTexts.HasNoBlank := by
  induction c with
  | nil => trivial
  | text s rest ih =>
    rw [dropBlankTexts]
    split_ifs with hs
    · exact ih
    · exact ⟨Bool.eq_false_iff.2 hs, ih⟩
  | element n a b rest _ ih => exact ih

/-- **What is put in order is in order.**  The pass leaves the texts joined, and dropping the layout keeps them so. -/
theorem isTidy_tidy (c : Content) : c.tidy.IsTidy := by
  rw [tidy_eq, dropLayout]
  split_ifs with h
  · exact ⟨isJoined_dropBlankTexts (isJoined_joinFrom c ""), fun _ => hasNoBlank_dropBlankTexts _⟩
  · exact ⟨isJoined_joinFrom c "", fun h' => absurd h' h⟩

/-- Putting the texts in order does not touch the child elements. -/
theorem isTidyBelow_tidy (hc : c.IsTidyBelow) : c.tidy.IsTidyBelow := by
  have hprefix : ∀ s d, IsTidyBelow d → (ofText s ++ d).IsTidyBelow := by
    intro s d hd
    rw [ofText]
    split_ifs <;> exact hd
  have hjoin : ∀ c pre, IsTidyBelow c → (c.joinFrom pre).IsTidyBelow := by
    intro c
    induction c with
    | nil => exact fun pre h => by rw [joinFrom, ← append_nil (ofText pre)]; exact hprefix pre nil h
    | text s rest ih => exact fun pre h => ih _ h
    | element n a b rest _ ih => exact fun pre h => hprefix pre _ ⟨h.1, h.2.1, ih "" h.2.2⟩
  have hdrop : ∀ c, IsTidyBelow c → c.dropBlankTexts.IsTidyBelow := by
    intro c
    induction c with
    | nil => exact fun h => h
    | text s rest ih =>
      intro h
      rw [dropBlankTexts]
      split_ifs <;> exact ih h
    | element n a b rest _ ih => exact fun h => ⟨h.1, h.2.1, ih h.2.2⟩
  rw [tidy_eq, dropLayout]
  split_ifs
  · exact hdrop _ (hjoin c "" hc)
  · exact hjoin c "" hc

/-- The child elements in normal form are in order at every depth. -/
theorem isTidyBelow_normalChildren (c : Content) : c.normalChildren.IsTidyBelow := by
  induction c with
  | nil => trivial
  | text s rest ih => exact ih
  | element n a b rest ihb ih => exact ⟨isTidy_tidy _, isTidyBelow_tidy ihb, ih⟩

/-- **The normal form is normal.**  Child elements are put in order first, and this is not undone by what is done
around them. -/
theorem isNormal_normal (c : Content) : c.normal.IsNormal :=
  ⟨isTidy_tidy _, isTidyBelow_tidy (isTidyBelow_normalChildren c)⟩

/-- **The contents in normal form are those whose normal form they are.**  The one side is computed and the other is
not, so each can be used where it is the easier one. -/
theorem normal_eq_self_iff : c.normal = c ↔ c.IsNormal := by
  refine ⟨fun h => h ▸ isNormal_normal c, fun h => ?_⟩
  rw [normal, normalChildren_of_isTidyBelow h.2, tidy_of_isTidy h.1]

end Content

namespace Element

/-- The element with its content in normal form. -/
def normal (e : Element) : Element := { e with body := e.body.normal }

/-- **An element is its own normal form** exactly if its content is normal. -/
theorem normal_eq_self_iff {e : Element} : e.normal = e ↔ e.body.IsNormal := by
  rw [← Content.normal_eq_self_iff]
  exact ⟨fun h => congrArg body h, fun h => by rw [normal, h]⟩

end Element

/-! ### The child elements -/

namespace Content

/-- A text in front is no element. -/
theorem elements_ofText_append (s : String) (c : Content) : (ofText s ++ c).elements = c.elements := by
  rw [ofText]
  split_ifs <;> rfl

/-- Joining the texts keeps the child elements. -/
theorem elements_joinFrom (c : Content) (pre : String) : (c.joinFrom pre).elements = c.elements := by
  induction c generalizing pre with
  | nil => rw [joinFrom, ← append_nil (ofText pre), elements_ofText_append]
  | text s rest ih => exact ih _
  | element n a b rest _ ih => rw [joinFrom, elements_ofText_append, elements, elements, ih]

/-- So does dropping the blank ones. -/
theorem elements_dropBlankTexts (c : Content) : c.dropBlankTexts.elements = c.elements := by
  induction c with
  | nil => rfl
  | text s rest ih =>
    rw [dropBlankTexts]
    split_ifs <;> exact ih
  | element n a b rest _ ih => rw [dropBlankTexts, elements, elements, ih]

/-- Texts are put in order without touching the child elements between them. -/
theorem elements_tidy (c : Content) : c.tidy.elements = c.elements := by
  rw [tidy_eq, dropLayout]
  split_ifs
  · rw [elements_dropBlankTexts, elements_joinFrom]
  · exact elements_joinFrom c ""

/-- **The child elements of the normal form** are those of the content, each in its normal form: a reader that looks for
child elements finds the same ones, in the same order. -/
theorem elements_normal (c : Content) : c.normal.elements = c.elements.map Element.normal := by
  rw [normal, elements_tidy]
  induction c with
  | nil => rfl
  | text s rest ih => exact ih
  | element n a b rest _ ih => rw [normalChildren, elements, elements, ih]; rfl

end Content
end Xml
end Calibration
