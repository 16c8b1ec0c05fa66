/-
# Building an element step by step

A row of steps opens and closes elements and fills the innermost open one. Steps that need an open element do
nothing when there is none; the outermost element is never closed by a step; what is open at the end is closed.
-/

import Calibration.Xml.Element

namespace Calibration
namespace Xml

/-- One step. The `raw` forms write what the checked forms would not: a second attribute of one key, an empty
piece of text. -/
inductive BuildStep where
  | start (name : String)
  | setAttribute (key value : String)
  | rawAttribute (key value : String)
  | text (s : String)
  | rawText (s : String)
  | finish
deriving DecidableEq, Repr

namespace BuildStep

/-- The open elements, innermost first, after one step more. -/
def run (opened : List Element) (step : BuildStep) : List Element :=
  match step, opened with
  | start name, _ => { name } :: opened
  | setAttribute key value, e :: outer => { e with attributes := e.attributes.set key value } :: outer
  | rawAttribute key value, e :: outer => { e with attributes := e.attributes ++ [(key, value)] } :: outer
  | text s, e :: outer => e.push (.ofText s) :: outer
  | rawText s, e :: outer => e.push (.text s .nil) :: outer
  | finish, e :: parent :: outer => parent.push (.ofElement e) :: outer
  | _, _ => opened

/-- Closes every open element; with none there is an element without a name. -/
def close (opened : List Element) : Element :=
  match opened with
  | [] => { name := "" }
  | e :: outer => outer.foldl (fun child parent => parent.push (.ofElement child)) e

end BuildStep

/-- The element that the steps build. -/
def Element.ofSteps (steps : List BuildStep) : Element :=
  BuildStep.close (steps.foldl BuildStep.run [])

end Xml
end Calibration
