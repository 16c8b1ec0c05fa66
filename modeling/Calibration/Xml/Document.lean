/-
# Documents

A document has one element at its top. The reader goes through the events with the elements that are open, the
innermost first; what stands outside every element is not read. Between child elements blanks are layout: they
are dropped when the end tag closes the element.
-/

import Calibration.Xml.Element
import Calibration.Xml.Event

namespace Calibration
namespace Xml

/-- A document under construction: the open elements, innermost first, and the top element if it is complete. -/
structure Draft where
  opened : List Element := []
  root : Option Element := none
deriving DecidableEq, Repr

namespace Draft

/-- A complete element goes to the end of the innermost open one, or becomes the top element. -/
def attach (d : Draft) (e : Element) : Except Error Draft :=
  match d.opened, d.root with
  | parent :: outer, _ => .ok { d with opened := parent.push (.ofElement e) :: outer }
  | [], none => .ok { d with root := some e }
  | [], some _ => .error .secondRoot

/-- Character data goes to the end of the innermost open element; outside every element it is not read. -/
def addText (d : Draft) (read : Except Error (List Char)) : Except Error Draft :=
  match d.opened with
  | [] => .ok d
  | parent :: outer => do
    let cs ← read
    return { d with opened := parent.push (.ofText (String.ofList cs)) :: outer }

/-- The element that a start tag opens. -/
def element (tag : Tag) : Except Error Element :=
  tag.attributes.map fun attributes => { name := String.ofList tag.name, attributes }

/-- One event. -/
def step (d : Draft) : Event → Except Error Draft
  | .start tag => (element tag).map fun e => { d with opened := e :: d.opened }
  | .empty tag => element tag >>= d.attach
  | .finish name =>
    match d.opened with
    | [] => .error (.strayEnd (String.ofList name))
    | e :: outer =>
      if e.name = String.ofList name then
        attach { d with opened := outer } { e with body := e.body.dropLayout }
      else .error (.mismatchedEnd e.name (String.ofList name))
  | .text raw => d.addText ((unescape raw).mapError .badReference)
  | .cdata cs => d.addText (.ok cs)
  | .remark => .ok d

/-- The top element, once every event is read. -/
def finish (d : Draft) : Except Error Element :=
  match d.opened, d.root with
  | _ :: _, _ => .error .unclosedElement
  | [], none => .error .noRoot
  | [], some e => .ok e

end Draft

/-- The element that a row of events describes. -/
def Events.element (es : Events) : Except Error Element := do
  let draft ← es.list.foldlM Draft.step {}
  match es.fault with
  | some fault => .error (.markup fault)
  | none => draft.finish

/-- The top element of a document; a byte order mark in front of it is skipped. -/
def parse (s : String) : Except Error Element :=
  match s.toList with
  | '\uFEFF' :: cs => (events cs).element
  | cs => (events cs).element

end Xml
end Calibration
