/-
# Elements and their content

An element has a name, attributes in order, and a content: character data and child elements in document order.
`Content` is one inductive type, so that a walk through a whole tree is one recursion: its first child, then
what follows.
-/

import Calibration.Assoc
import Calibration.Text.Blank

namespace Calibration
namespace Xml

/-- What stands between the tags of an element, in document order. -/
inductive Content where
  | nil
  | text (s : String) (rest : Content)
  | element (name : String) (attributes : Assoc String) (body rest : Content)
deriving DecidableEq, Repr, Inhabited

/-- An element: its name, its attributes in order, its content. -/
structure Element where
  name : String
  attributes : Assoc String := []
  body : Content := .nil
deriving DecidableEq, Repr, Inhabited

namespace Content

/-- One content after the other. -/
def append : Content → Content → Content
  | nil, d => d
  | text s rest, d => text s (append rest d)
  | element n a b rest, d => element n a b (append rest d)

instance : Append Content := ⟨append⟩

/-- One piece of character data; the empty text is no piece. -/
def ofText (s : String) : Content := if s = "" then nil else text s nil

/-- One child element. -/
def ofElement (e : Element) : Content := element e.name e.attributes e.body nil

/-- The child elements, in order. -/
def elements : Content → List Element
  | nil => []
  | text _ rest => rest.elements
  | element n a b rest => ⟨n, a, b⟩ :: rest.elements

/-- The direct character data, joined. -/
def texts : Content → String
  | nil => ""
  | text s rest => s ++ rest.texts
  | element _ _ _ rest => rest.texts

/-- Some child is an element. -/
def hasElement : Content → Bool
  | nil => false
  | text _ rest => rest.hasElement
  | element .. => true

/-- Without the pieces of direct character data that hold blanks only. -/
def dropBlankTexts : Content → Content
  | nil => nil
  | text s rest => if Text.isBlankText s then rest.dropBlankTexts else text s rest.dropBlankTexts
  | element n a b rest => element n a b rest.dropBlankTexts

/-- Between child elements blanks are layout, not content: they go. -/
def dropLayout (c : Content) : Content := if c.hasElement then c.dropBlankTexts else c

/-- The number of nodes in the whole tree. -/
def size : Content → Nat
  | nil => 0
  | text _ rest => rest.size + 1
  | element _ _ b rest => b.size + rest.size + 1

/-- The first child element with the name. -/
def child? (c : Content) (name : String) : Option Element :=
  c.elements.find? (·.name = name)

@[simp] theorem nil_append (d : Content) : nil ++ d = d := rfl

@[simp] theorem text_append (s : String) (c d : Content) : text s c ++ d = text s (c ++ d) := rfl

@[simp] theorem element_append (n : String) (a : Assoc String) (b c d : Content) :
    element n a b c ++ d = element n a b (c ++ d) := rfl

@[simp] theorem append_nil (c : Content) : c ++ nil = c := by
  induction c with
  | nil => rfl
  | text s rest ih => rw [text_append, ih]
  | element n a b rest _ ih => rw [element_append, ih]

/-- Contents are put in a row in whichever order. -/
theorem append_assoc (c d e : Content) : c ++ d ++ e = c ++ (d ++ e) := by
  induction c with
  | nil => rfl
  | text s rest ih => rw [text_append, text_append, text_append, ih]
  | element n a b rest _ ih => rw [element_append, element_append, element_append, ih]

/-- **A child element is smaller than the content it stands in.** Reading and writing go down the tree, and this is
what makes them end. -/
theorem size_lt_of_mem_elements {c : Content} {e : Element} (h : e ∈ c.elements) :
    e.body.size < c.size := by
  induction c with
  | nil => simp [elements] at h
  | text s rest ih => have := ih h; simp only [size]; omega
  | element n a b rest _ ih =>
    rw [elements, List.mem_cons] at h
    rcases h with rfl | h
    · simp only [size]; omega
    · have := ih h; simp only [size]; omega

/-- A child element that is looked up is smaller than the content it stands in: readers that walk down by name end. -/
theorem size_lt_of_child? {c : Content} {name : String} {e : Element} (h : c.child? name = some e) :
    e.body.size < c.size :=
  size_lt_of_mem_elements (List.mem_of_find?_eq_some h)

end Content

namespace Element

/-- The value of an attribute. -/
def attribute? (e : Element) (key : String) : Option String := e.attributes.find? key

/-- The direct character data, joined. -/
def text (e : Element) : String := e.body.texts

/-- The child elements, in order. -/
def children (e : Element) : List Element := e.body.elements

/-- The element with one more piece of content at the end. -/
def push (e : Element) (c : Content) : Element := { e with body := e.body ++ c }

end Element
end Xml
end Calibration
