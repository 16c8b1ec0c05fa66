/-
# The values that items accept

Which elements hold a value for an item, told by the grammar of its type and not by the reader: truth values and numbers
may stand between blanks, a string is the text as it is, bytes are the written form of some bytes, an array is its
`value` children, a reading its first `x`, `y` and `z` (`Sets`).  The reader accepts these elements and no others
(`read_eq_ok_iff`).

An item is read in place: `unserialize` computes the value first and then stores it, so that an item whose element was
refused is the item that it was.  What is stored does not depend on the value before, nor on whether the item is
transient, which it stays (`determines_of_read`); and what the item then writes is read as the same value
(`read_written`).
-/

import Calibration.Proofs.Item.Reread
import Calibration.Proofs.Number.Grammar
import Mathlib.Data.List.Forall2

namespace Calibration

open Xml (Content Element)

/-! ### Scalars -/

namespace Scalar

variable {α : Type} {form : Scalar α} {grammar : String → α → Prop}

/-- The form reads the texts of a grammar, as the values that they have there. -/
def Accepts (form : Scalar α) (grammar : String → α → Prop) : Prop :=
  ∀ text value, form.read? text = some value ↔ grammar text value

/-- `1` or `0` between blanks. -/
def IsBool (text : String) (value : Bool) : Prop := Text.trim text = if value then "1" else "0"

/-- A decimal integer between blanks, in the range of 32 bits. -/
def IsInt (text : String) (value : Int32) : Prop :=
  ∃ k : Int, Number.IsInteger (Text.trimChars text.toList) k ∧ -2 ^ 31 ≤ k ∧ k ≤ 2 ^ 31 - 1 ∧ value.toInt = k

/-- A double between blanks. -/
def IsDouble (text : String) (value : Number.Binary64) : Prop :=
  Number.Binary64.IsDouble (Text.trimChars text.toList) value

/-- The text itself. -/
def IsString (text value : String) : Prop := text = value

/-- Truth values are read as their grammar says. -/
theorem bool_accepts : bool.Accepts IsBool := by
  intro text value
  simp only [bool, IsBool]
  by_cases htrue : Text.trim text = "1"
  · rw [if_pos htrue, htrue]
    cases value <;> decide
  · rw [if_neg htrue]
    by_cases hfalse : Text.trim text = "0"
    · rw [if_pos hfalse, hfalse]
      cases value <;> decide
    · rw [if_neg hfalse]
      cases value
      · exact ⟨nofun, fun h => absurd h hfalse⟩
      · exact ⟨nofun, fun h => absurd h htrue⟩

/-- The integers of 32 bits, and no others. -/
theorem int32?_eq_some_iff {k : Int} {n : Int32} :
    int32? k = some n ↔ -2 ^ 31 ≤ k ∧ k ≤ 2 ^ 31 - 1 ∧ n.toInt = k := by
  constructor
  · intro h
    rw [int32?] at h
    split_ifs at h with hk
    obtain rfl := Option.some.inj h
    exact ⟨hk.1, hk.2, Int32.toInt_ofInt_of_le hk.1 (by omega)⟩
  · rintro ⟨-, -, rfl⟩
    exact int32?_toInt n

/-- Integers are read as their grammar says: the numeral is told by `Number.IsInteger`, and the range is checked after
it is read. -/
theorem int_accepts : int.Accepts IsInt := by
  intro text value
  simp only [int, Option.bind_eq_some_iff, Number.readInt?_eq_some_iff, int32?_eq_some_iff]
  rfl

/-- Doubles are read as their grammar says. -/
theorem double_accepts : double.Accepts IsDouble := fun _ _ => Number.Binary64.readChars?_eq_some_iff

/-- Every text is a string, as it is. -/
theorem string_accepts : string.Accepts IsString := fun _ _ => ⟨Option.some.inj, congrArg some⟩

/-- A value is read exactly if the grammar gives it. -/
theorem parse_eq_ok_iff (h : form.Accepts grammar) {tag text : String} {value : α} :
    form.parse tag text = .ok value ↔ grammar text value := by
  rw [← h text value, parse]
  cases form.read? text with
  | none => constructor <;> intro h <;> cases h
  | some v => exact ⟨fun he => congrArg some (Except.ok.inj he), fun he => congrArg Except.ok (Option.some.inj he)⟩

/-- The texts of the `value` children. -/
def valueTexts (e : Element) : List String := (e.children.filter (·.name = "value")).map Element.text

/-- **An array is read exactly if each of its `value` children is**, in order; no other child counts, and one that is
no value refuses them all. -/
theorem parseAll_eq_ok_iff (h : form.Accepts grammar) {tag : String} {e : Element} {values : List α} :
    form.parseAll tag e = .ok values ↔ List.Forall₂ grammar (valueTexts e) values := by
  rw [parseAll, valueTexts, List.forall₂_map_left_iff]
  generalize e.children.filter (·.name = "value") = children
  induction children generalizing values with
  | nil =>
    rw [List.mapM_nil, List.forall₂_nil_left_iff]
    exact ⟨fun he => (Except.ok.inj he).symm, fun he => congrArg Except.ok he.symm⟩
  | cons child children ih =>
    rw [List.mapM_cons, bind_eq_ok_iff, List.forall₂_cons_left_iff]
    constructor
    · rintro ⟨v, hv, he⟩
      obtain ⟨vs, hvs, he⟩ := bind_eq_ok_iff.1 he
      exact ⟨v, vs, (parse_eq_ok_iff h).1 hv, ih.1 hvs, (Except.ok.inj he).symm⟩
    · rintro ⟨v, vs, hv, hvs, rfl⟩
      exact ⟨v, (parse_eq_ok_iff h).2 hv, bind_eq_ok_iff.2 ⟨vs, ih.2 hvs, rfl⟩⟩

end Scalar

namespace Item

variable {types : ItemTypes} {item new : Item} {e : Element}

/-! ### The grammar of an item -/

/-- The first child element for an axis holds a double. -/
def HasAxis (e : Element) (axis : String) (value : Number.Binary64) : Prop :=
  ∃ child, e.children.find? (·.name = axis) = some child ∧ Scalar.IsDouble child.text value

/-- The element holds a value for an item of a built-in type, or for a reading; with that value the item is the new
one, and it is transient if it was. -/
inductive Sets (e : Element) : Item → Item → Prop
  | bool {value} (old t) (h : Scalar.IsBool e.text value) : Sets e (bool old t) (bool value t)
  | int {value} (old t) (h : Scalar.IsInt e.text value) : Sets e (int old t) (int value t)
  | double {value} (old t) (h : Scalar.IsDouble e.text value) : Sets e (double old t) (double value t)
  | string (old t) : Sets e (string old t) (string e.text t)
  | blob {bytes} (old) (h : Text.trimChars e.text.toList = Text.Base64.encode bytes) : Sets e (blob old) (blob bytes)
  | intArray {values} (old) (h : List.Forall₂ Scalar.IsInt (Scalar.valueTexts e) values) :
      Sets e (intArray old) (intArray values)
  | doubleArray {values} (old) (h : List.Forall₂ Scalar.IsDouble (Scalar.valueTexts e) values) :
      Sets e (doubleArray old) (doubleArray values)
  | stringArray (old) : Sets e (stringArray old) (stringArray (Scalar.valueTexts e))
  | xyz {x y z} (old) (hx : HasAxis e "x" x) (hy : HasAxis e "y" y) (hz : HasAxis e "z" z) :
      Sets e (xyz old) (xyz ⟨x, y, z⟩)

/-- The item is of a built-in type, or a reading. -/
def IsValue : Item → Prop
  | record .. => False
  | custom _ => False
  | _ => True

/-- Whether an item has a grammar is told without its value. -/
theorem isValue_emptied_iff : item.emptied.IsValue ↔ item.IsValue := by cases item <;> rfl

/-- An axis is read exactly if its first child element holds a double. -/
theorem readAxis_eq_ok_iff {axis : String} {value : Number.Binary64} :
    readAxis e axis = .ok value ↔ HasAxis e axis value := by
  rw [readAxis, HasAxis, Content.child?, Element.children]
  cases e.body.elements.find? (·.name = axis) with
  | none =>
    constructor
    · intro h
      cases h
    · rintro ⟨_, h, -⟩
      cases h
  | some child =>
    simp only [Option.some.injEq, exists_eq_left']
    exact Scalar.parse_eq_ok_iff Scalar.double_accepts

/-- Bytes are read from the texts that they are written as, between blanks. -/
theorem readBlob_eq_ok_iff {bytes : List UInt8} :
    readBlob e = .ok bytes ↔ Text.trimChars e.text.toList = Text.Base64.encode bytes := by
  rw [← Text.Base64.decode_eq_some_iff, readBlob]
  cases Text.Base64.decode (Text.trimChars e.text.toList) with
  | none => constructor <;> intro h <;> cases h
  | some read => exact ⟨fun h => congrArg some (Except.ok.inj h), fun h => congrArg Except.ok (Option.some.inj h)⟩

/-- An item whose value is read in one step, by the grammar of that step. -/
theorem step_eq_ok_iff {α : Type} {step : Except DictError α} {P : α → Prop} {make : α → Item}
    (hstep : ∀ value, step = .ok value ↔ P value) (hsets : ∀ value, P value → Sets e item (make value))
    (honly : ∀ new, Sets e item new → ∃ value, P value ∧ make value = new) :
    (step >>= fun value => pure (make value)) = .ok new ↔ Sets e item new := by
  rw [bind_eq_ok_iff]
  constructor
  · rintro ⟨value, hvalue, hnew⟩
    exact Except.ok.inj hnew ▸ hsets value ((hstep value).1 hvalue)
  · intro h
    obtain ⟨value, hvalue, rfl⟩ := honly new h
    exact ⟨value, (hstep value).2 hvalue, rfl⟩

/-- **The reader accepts the elements that hold a value**, and takes that value.  Each type has its own step, and
`step_eq_ok_iff` says what there is to show of it. -/
theorem read_eq_ok_iff (hitem : item.IsValue) : item.read types e = .ok new ↔ Sets e item new := by
  cases item with
  | bool old t =>
    rw [read]
    exact step_eq_ok_iff (fun _ => Scalar.parse_eq_ok_iff Scalar.bool_accepts) (fun _ h => .bool old t h)
      fun _ h => by cases h with | bool _ _ h => exact ⟨_, h, rfl⟩
  | int old t =>
    rw [read]
    exact step_eq_ok_iff (fun _ => Scalar.parse_eq_ok_iff Scalar.int_accepts) (fun _ h => .int old t h)
      fun _ h => by cases h with | int _ _ h => exact ⟨_, h, rfl⟩
  | double old t =>
    rw [read]
    exact step_eq_ok_iff (fun _ => Scalar.parse_eq_ok_iff Scalar.double_accepts) (fun _ h => .double old t h)
      fun _ h => by cases h with | double _ _ h => exact ⟨_, h, rfl⟩
  | string old t =>
    rw [read]
    exact step_eq_ok_iff (fun _ => Scalar.parse_eq_ok_iff Scalar.string_accepts) (fun _ h => h ▸ .string old t)
      fun _ h => by cases h with | string => exact ⟨_, rfl, rfl⟩
  | blob old =>
    rw [read]
    exact step_eq_ok_iff (fun _ => readBlob_eq_ok_iff) (fun _ h => .blob old h)
      fun _ h => by cases h with | blob _ h => exact ⟨_, h, rfl⟩
  | intArray old =>
    rw [read]
    exact step_eq_ok_iff (fun _ => Scalar.parseAll_eq_ok_iff Scalar.int_accepts) (fun _ h => .intArray old h)
      fun _ h => by cases h with | intArray _ h => exact ⟨_, h, rfl⟩
  | doubleArray old =>
    rw [read]
    exact step_eq_ok_iff (fun _ => Scalar.parseAll_eq_ok_iff Scalar.double_accepts) (fun _ h => .doubleArray old h)
      fun _ h => by cases h with | doubleArray _ h => exact ⟨_, h, rfl⟩
  | stringArray old =>
    have htexts : ∀ values, Scalar.string.parseAll "stringArray" e = .ok values ↔ Scalar.valueTexts e = values := by
      intro values
      rw [Scalar.parseAll_eq_ok_iff Scalar.string_accepts]
      exact iff_of_eq (congrFun (congrFun List.forall₂_eq_eq_eq _) _)
    rw [read]
    exact step_eq_ok_iff htexts (fun _ h => h ▸ .stringArray old)
      fun _ h => by cases h with | stringArray => exact ⟨_, rfl, rfl⟩
  | xyz old =>
    rw [read, bind_eq_ok_iff]
    constructor
    · rintro ⟨x, hx, h⟩
      obtain ⟨y, hy, h⟩ := bind_eq_ok_iff.1 h
      obtain ⟨z, hz, h⟩ := bind_eq_ok_iff.1 h
      exact Except.ok.inj h ▸ .xyz old (readAxis_eq_ok_iff.1 hx) (readAxis_eq_ok_iff.1 hy) (readAxis_eq_ok_iff.1 hz)
    · intro h
      cases h with
      | xyz _ hx hy hz =>
        exact ⟨_, readAxis_eq_ok_iff.2 hx, bind_eq_ok_iff.2 ⟨_, readAxis_eq_ok_iff.2 hy,
          bind_eq_ok_iff.2 ⟨_, readAxis_eq_ok_iff.2 hz, rfl⟩⟩⟩
  | record | custom => exact hitem.elim

/-! ### In place -/

/-- Stores a value that was computed, if there is one. -/
def assign {α : Type} (make : α → Item) (value : Except DictError α) : ExceptT DictError (StateM Item) Unit := do
  let v ← MonadExcept.ofExcept value
  set (make v)

/-- Computes the value that an item takes over and then stores it; a reading computes it axis by axis. -/
def update (types : ItemTypes) (e : Element) : Item → ExceptT DictError (StateM Item) Unit
  | bool _ transient => assign (bool · transient) (Scalar.bool.parse "bool" e.text)
  | int _ transient => assign (int · transient) (Scalar.int.parse "int" e.text)
  | double _ transient => assign (double · transient) (Scalar.double.parse "double" e.text)
  | string _ transient => assign (string · transient) (Scalar.string.parse "string" e.text)
  | blob _ => assign blob (readBlob e)
  | intArray _ => assign intArray (Scalar.int.parseAll "intArray" e)
  | doubleArray _ => assign doubleArray (Scalar.double.parseAll "doubleArray" e)
  | stringArray _ => assign stringArray (Scalar.string.parseAll "stringArray" e)
  | xyz _ => do
    let x ← MonadExcept.ofExcept (readAxis e "x")
    let y ← MonadExcept.ofExcept (readAxis e "y")
    let z ← MonadExcept.ofExcept (readAxis e "z")
    set (xyz ⟨x, y, z⟩)
  | item => assign id (item.read types e)

/-- Reads an item in place. -/
def unserialize (types : ItemTypes) (e : Element) : ExceptT DictError (StateM Item) Unit := do
  update types e (← getThe Item)

/-- A value that was computed is stored; where there is none the item stays. -/
theorem run_assign {α : Type} (make : α → Item) (value : Except DictError α) (item : Item) :
    (assign make value).run.run item =
      match value >>= fun v => pure (make v) with
      | .ok new => (.ok (), new)
      | .error fault => (.error fault, item) := by
  cases value <;> rfl

/-- **Reading in place comes to what `read` gives**, and an item whose element is refused stays as it was.  The new
value is assigned after all of it has been read. -/
theorem run_unserialize (types : ItemTypes) (e : Element) (item : Item) :
    (unserialize types e).run.run item =
      match item.read types e with
      | .ok new => (.ok (), new)
      | .error fault => (.error fault, item) := by
  change (update types e item).run.run item = _
  cases item with
  | record | custom =>
    refine (run_assign id _ _).trans ?_
    rw [show (fun v : Item => (pure (id v) : Except DictError Item)) = pure from rfl, bind_pure]
  | xyz old =>
    rw [read, update]
    cases readAxis e "x" with
    | error fault => rfl
    | ok x =>
      cases readAxis e "y" with
      | error fault => rfl
      | ok y => cases readAxis e "z" <;> rfl
  | bool | int | double | string | blob | intArray | doubleArray | stringArray =>
    rw [read, update, run_assign]

/-! ### What is stored -/

/-- The item with its value, as if it were not transient. -/
def lasting : Item → Item
  | bool value _ => bool value
  | int value _ => int value
  | double value _ => double value
  | string value _ => string value
  | item => item

/-- The blank item of the same type. -/
def blank (item : Item) : Item := item.emptied.lasting

/-- What is done to the item afterwards may be done as it is made. -/
theorem map_step {α : Type} (f : Item → Item) (step : Except DictError α) (make : α → Item) :
    (step >>= fun value => pure (make value)).map f = step >>= fun value => pure (f (make value)) := by
  cases step <;> rfl

/-- A blank item has a grammar exactly if the item has. -/
theorem isValue_blank_iff : item.blank.IsValue ↔ item.IsValue := by cases item <;> rfl

/-- What is read does not depend on the value before, and on the flag only in that it is kept.  So it is with the types
that have a grammar; an item of a plugin's own type may read what it likes from what it was. -/
theorem read_blank (hitem : item.IsValue) (types : ItemTypes) (e : Element) :
    item.blank.read types e = (item.read types e).map lasting := by
  cases item with
  | bool | int | double | blob | intArray | doubleArray | stringArray =>
    dsimp only [blank, emptied, lasting]
    rw [read, read, map_step]
    rfl
  | string old transient =>
    change (string "").read types e = _
    rw [read, read]
    rfl
  | xyz old =>
    change blankXyz.read types e = _
    rw [blankXyz, read, read]
    cases readAxis e "x" with
    | error fault => rfl
    | ok x =>
      cases readAxis e "y" with
      | error fault => rfl
      | ok y => cases readAxis e "z" <;> rfl
  | record | custom => exact hitem.elim

/-- **Every item of the type takes over the value** of the new one, and stays transient if it was. -/
def Determines (types : ItemTypes) (e : Element) (new : Item) : Prop :=
  ∀ item : Item, item.blank = new.blank → ∃ after, (unserialize types e).run.run item = (.ok (), after) ∧
    after.lasting = new.lasting ∧ after.emptied = item.emptied

/-- **A value that one item of a type accepts is taken over by all of them**: they read it by their common blank item.
What an item held before does not show in what it reads. -/
theorem determines_of_read (hitem : item.IsValue) (h : item.read types e = .ok new) : Determines types e new := by
  intro other hblank
  have hother : other.IsValue := by
    rw [← isValue_blank_iff, hblank, isValue_blank_iff, ← isValue_emptied_iff, emptied_of_read h, isValue_emptied_iff]
    exact hitem
  have hsame : (other.read types e).map lasting = .ok new.lasting := by
    rw [← read_blank hother, hblank, blank, emptied_of_read h, ← blank, read_blank hitem, h]
    rfl
  obtain ⟨after, hafter, hvalue⟩ := map_eq_ok_iff.1 hsame
  exact ⟨after, by rw [run_unserialize, hafter], hvalue, emptied_of_read hafter⟩

/-- **What an item writes is read as the same value.**  Each type is read back by the law of its scalars, and none of
them needs the table of types. -/
theorem read_written (hitem : item.IsValue) (types : ItemTypes) (name : String) :
    ∃ written, item.toElement name = .ok written ∧ item.read types written = .ok item := by
  cases item with
  | bool value t =>
    refine ⟨_, rfl, ?_⟩
    rw [read, Scalar.parse_written Scalar.bool_readsBack]
    rfl
  | int value t =>
    refine ⟨_, rfl, ?_⟩
    rw [read, Scalar.parse_written Scalar.int_readsBack]
    rfl
  | double value t =>
    refine ⟨_, rfl, ?_⟩
    rw [read, Scalar.parse_written Scalar.double_readsBack]
    rfl
  | string value t =>
    refine ⟨_, rfl, ?_⟩
    rw [read, Scalar.parse_written Scalar.string_readsBack]
    rfl
  | blob bytes =>
    refine ⟨_, rfl, ?_⟩
    rw [read, readBlob_encode]
    rfl
  | intArray values =>
    refine ⟨_, rfl, ?_⟩
    rw [read, Scalar.parseAll_wrapped Scalar.int_readsBack]
    rfl
  | doubleArray values =>
    refine ⟨_, rfl, ?_⟩
    rw [read, Scalar.parseAll_wrapped Scalar.double_readsBack]
    rfl
  | stringArray values =>
    refine ⟨_, rfl, ?_⟩
    rw [read, Scalar.parseAll_wrapped Scalar.string_readsBack]
    rfl
  | xyz value =>
    obtain ⟨hx, hy, hz⟩ := readAxis_axes name [] value
    refine ⟨_, rfl, ?_⟩
    rw [read, hx, hy, hz]
    rfl
  | record | custom => exact hitem.elim

/-- A written row of bytes is the text that it was read from, without the blanks around it. -/
theorem text_written_blob {bytes : List UInt8} {name : String} {written : Element}
    (h : Text.trimChars e.text.toList = Text.Base64.encode bytes)
    (hwritten : (blob bytes).toElement name = .ok written) :
    written.text = Text.trim e.text := by
  obtain rfl := Except.ok.inj hwritten
  rw [Text.trim, h]
  exact Content.texts_ofText _

/-- **Items accept the values of their grammar and no others.**  For an item of a built-in type, or a reading, and any
element: either the element holds no value for it, and the item stays exactly as it was; or it holds one, which all
items of the type take over, whatever they held.  Written into a new element, that value is read again by all items of
the type; and bytes are written as the text that they were read from, without the blanks around it. -/
theorem unserialize_exact (hitem : item.IsValue) (types : ItemTypes) (e : Element) :
    (∃ fault, (unserialize types e).run.run item = (.error fault, item) ∧ ∀ new, ¬ Sets e item new) ∨
      ∃ new, (unserialize types e).run.run item = (.ok (), new) ∧ (∀ other, Sets e item other ↔ other = new) ∧
        new.emptied = item.emptied ∧ Determines types e new ∧
        ∀ name, ∃ written, new.toElement name = .ok written ∧ Determines types written new ∧
          ∀ bytes, new = blob bytes → written.text = Text.trim e.text := by
  have haccepts : ∀ new, item.read types e = .ok new ↔ Sets e item new := fun _ => read_eq_ok_iff hitem
  rw [run_unserialize]
  cases hread : item.read types e with
  | error fault => exact .inl ⟨fault, rfl, fun new hnew => nomatch hread.symm.trans ((haccepts new).2 hnew)⟩
  | ok new =>
    have hempty := emptied_of_read hread
    have hvalue : new.IsValue := isValue_emptied_iff.1 (hempty ▸ isValue_emptied_iff.2 hitem)
    refine .inr ⟨new, rfl, fun other => ?_, hempty, determines_of_read hitem hread, fun name => ?_⟩
    · rw [← haccepts, hread]
      exact ⟨fun h => (Except.ok.inj h).symm, fun h => congrArg Except.ok h.symm⟩
    · obtain ⟨written, hwritten, hagain⟩ := read_written hvalue types name
      refine ⟨written, hwritten, determines_of_read hvalue hagain, ?_⟩
      rintro bytes rfl
      cases (haccepts _).1 hread with
      | blob _ h => exact text_written_blob h hwritten

/-- A number in pieces, around an element that is none of its business. -/
def fortyTwo : Element :=
  ⟨"item", [("key", "gain")], .text "\n +0" (.element "value" [] (.text "7" .nil) (.text "42 " .nil))⟩

/-- It is taken over by an item, whatever that held and whether it is transient or not. -/
theorem unserialize_fortyTwo :
    (int 7 true).IsValue ∧ (unserialize [] fortyTwo).run.run (int 7 true) = (.ok (), int 42 true) ∧
      Determines [] fortyTwo (int 42 true) := by
  have hvalue : (int 7 true).IsValue := trivial
  have hrun : (unserialize [] fortyTwo).run.run (int 7 true) = (.ok (), int 42 true) := rfl
  refine ⟨hvalue, hrun, ?_⟩
  rcases unserialize_exact hvalue [] fortyTwo with ⟨fault, hfault, -⟩ | ⟨new, hnew, -, -, hdetermines, -⟩
  · rw [hrun] at hfault
    exact nomatch (Prod.mk.inj hfault).1
  · rw [hrun] at hnew
    exact (Prod.mk.inj hnew).2 ▸ hdetermines

end Item
end Calibration
