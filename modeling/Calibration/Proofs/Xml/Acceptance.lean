/-
# Which texts are documents, and what they describe

A text is a document exactly if its markup can be read to the end, every event fits where it stands, no element stays
open, and one element stands at the top (`IsDocument`).  The element it describes is given by recursion on the events
between the tags (`Describes`).  The reader keeps a stack of open elements and a place for the top one; what it
accepts is found by following the names on the stack (`exists_finish_iff`), and what it builds by cutting the events at
the end tag that closes the innermost open element (`exists_close_of_finish`).
-/

import Calibration.Proofs.Xml.Attributes
import Calibration.Proofs.Xml.RoundTrip

namespace Calibration
namespace Xml

namespace Event

/-- The names of the open elements behind an event, innermost first. -/
def opened (names : List String) : Event → List String
  | .start tag => String.ofList tag.name :: names
  | .finish _ => names.tail
  | _ => names

/-- The event may stand where elements with some names are open: a tag has well-formed attributes, an end tag closes
the innermost element, and character data in an element can be unescaped. -/
def Fits (names : List String) : Event → Prop
  | .start tag | .empty tag => tag.IsWellFormed
  | .finish name => names.head? = some (String.ofList name)
  | .text raw => names ≠ [] → ∃ cs, unescape raw = .ok cs
  | .cdata _ | .remark => True

/-- The event begins an element at the top. -/
def isTop (names : List String) : Event → Bool
  | .start _ | .empty _ => names.isEmpty
  | _ => false

/-- The event is no tag. -/
def isProse : Event → Bool
  | .text _ | .cdata _ | .remark => true
  | _ => false

end Event

/-- Every event with the names of the elements that are open in front of it. -/
def placed (names : List String) : List Event → List (List String × Event)
  | [] => []
  | e :: es => (names, e) :: placed (e.opened names) es

/-- The events of a document: the markup has no fault, every event fits where it stands, every element is closed, and
one element stands at the top. -/
structure Events.IsDocument (es : Events) : Prop where
  fault : es.fault = none
  fits : ∀ p ∈ placed [] es.list, p.2.Fits p.1
  closed : es.list.foldl Event.opened [] = []
  single : (placed [] es.list).countP (fun p => p.2.isTop p.1) = 1

/-- The content that the events between two tags describe. -/
inductive Describes : List Event → Content → Prop
  | nil : Describes [] .nil
  | remark {es : List Event} {c : Content} : Describes es c → Describes (.remark :: es) c
  | text {raw cs : List Char} {es : List Event} {c : Content} :
      unescape raw = .ok cs → Describes es c → Describes (.text raw :: es) (.ofText (String.ofList cs) ++ c)
  | cdata {cs : List Char} {es : List Event} {c : Content} :
      Describes es c → Describes (.cdata cs :: es) (.ofText (String.ofList cs) ++ c)
  | empty {tag : Tag} {a : Assoc String} {es : List Event} {c : Content} :
      tag.Declares a → Describes es c → Describes (.empty tag :: es) (.element (String.ofList tag.name) a .nil c)
  | element {tag : Tag} {a : Assoc String} {inner es : List Event} {body c : Content} :
      tag.Declares a → Describes inner body → Describes es c →
      Describes (.start tag :: (inner ++ .finish tag.name :: es))
        (.element (String.ofList tag.name) a body.dropLayout c)

/-- The top element that the events of a document describe.  What stands around it is not read. -/
inductive DescribesTop : List Event → Element → Prop
  | prose {e : Event} {es : List Event} {root : Element} :
      e.isProse → DescribesTop es root → DescribesTop (e :: es) root
  | empty {tag : Tag} {a : Assoc String} {behind : List Event} :
      tag.Declares a → (∀ e ∈ behind, e.isProse) →
      DescribesTop (.empty tag :: behind) { name := String.ofList tag.name, attributes := a }
  | element {tag : Tag} {a : Assoc String} {inner behind : List Event} {body : Content} :
      tag.Declares a → Describes inner body → (∀ e ∈ behind, e.isProse) →
      DescribesTop (.start tag :: (inner ++ .finish tag.name :: behind))
        { name := String.ofList tag.name, attributes := a, body := body.dropLayout }

/-! ### Which events are accepted -/

namespace Draft

variable {d d' : Draft} {e : Event}

/-- The names of the open elements, innermost first. -/
def names (d : Draft) : List String := d.opened.map (·.name)

/-- The number of elements at the top, an open one among them. -/
def tops (d : Draft) : Nat := (if d.opened = [] then 0 else 1) + (if d.root = none then 0 else 1)

/-- An element is opened with the attributes that its tag declares. -/
theorem element_eq_ok_iff {tag : Tag} {p : Element} :
    element tag = .ok p ↔ ∃ a, tag.Declares a ∧ { name := String.ofList tag.name, attributes := a } = p := by
  simp only [element, map_eq_ok_iff, Tag.attributes_eq_ok_iff]

/-- A complete element is one more at the top if nothing is open. -/
theorem attach_spec {p : Element} (h : d.attach p = .ok d') :
    d'.names = d.names ∧ d'.tops = d.names.isEmpty.toNat + d.tops := by
  obtain ⟨_ | ⟨parent, outer⟩, root⟩ := d
  · cases root with
    | none => obtain rfl := Except.ok.inj h; exact ⟨rfl, rfl⟩
    | some root => cases h
  · obtain rfl := Except.ok.inj h
    refine ⟨rfl, ?_⟩
    simp [tops, names]

/-- A text must be readable only inside an element; outside it is passed over.  It changes neither which elements are
open nor how many stand at the top. -/
theorem addText_spec {read : Except Error (List Char)} (h : d.addText read = .ok d') :
    (d.names ≠ [] → ∃ cs, read = .ok cs) ∧ d'.names = d.names ∧ d'.tops = d.tops := by
  obtain ⟨_ | ⟨parent, outer⟩, root⟩ := d
  · obtain rfl := Except.ok.inj h
    exact ⟨fun hne => absurd rfl hne, rfl, rfl⟩
  · obtain ⟨cs, hread, h⟩ := bind_eq_ok_iff.1 h
    obtain rfl := Except.ok.inj h
    exact ⟨fun _ => ⟨cs, hread⟩, rfl, rfl⟩

/-- **An event that is read fits**, and the number of elements at the top is kept.  The names on the stack follow
`opened`, by which the condition is stated without a reader. -/
theorem fits_of_step (h : d.step e = .ok d') :
    e.Fits d.names ∧ d'.names = e.opened d.names ∧ d'.tops = (e.isTop d.names).toNat + d.tops := by
  cases e with
  | start tag =>
    obtain ⟨p, hp, rfl⟩ := map_eq_ok_iff.1 h
    obtain ⟨a, ha, rfl⟩ := element_eq_ok_iff.1 hp
    refine ⟨Tag.isWellFormed_iff.2 ⟨a, Tag.attributes_eq_ok_iff.2 ha⟩, rfl, ?_⟩
    obtain ⟨_ | _, root⟩ := d <;> simp [tops, names, Event.isTop]
  | empty tag =>
    obtain ⟨p, hp, h⟩ := bind_eq_ok_iff.1 h
    obtain ⟨a, ha, rfl⟩ := element_eq_ok_iff.1 hp
    exact ⟨Tag.isWellFormed_iff.2 ⟨a, Tag.attributes_eq_ok_iff.2 ha⟩, attach_spec h⟩
  | finish name =>
    obtain ⟨_ | ⟨p, outer⟩, root⟩ := d
    · cases h
    · rw [step] at h
      split at h
      · cases h
      · next p' outer' hopened =>
        obtain ⟨rfl, rfl⟩ := List.cons.inj hopened
        split_ifs at h with hname
        obtain ⟨hnames, htops⟩ := attach_spec h
        refine ⟨congrArg some hname, hnames, ?_⟩
        rw [htops]
        cases outer <;> simp [tops, names, Event.isTop]
  | text raw =>
    obtain ⟨hread, hnames, htops⟩ := addText_spec h
    refine ⟨fun hne => ?_, hnames, htops.trans (Nat.zero_add _).symm⟩
    obtain ⟨cs, hcs⟩ := hread hne
    exact ⟨cs, mapError_eq_ok_iff.1 hcs⟩
  | cdata cs =>
    obtain ⟨-, hnames, htops⟩ := addText_spec h
    exact ⟨trivial, hnames, htops.trans (Nat.zero_add _).symm⟩
  | remark =>
    obtain rfl := Except.ok.inj h
    exact ⟨trivial, rfl, (Nat.zero_add _).symm⟩

/-- An event that fits is read, unless it completes a second element at the top. -/
theorem exists_step (hfits : e.Fits d.names) (htops : (e.isTop d.names).toNat + d.tops ≤ 1) :
    ∃ d', d.step e = .ok d' := by
  have hattach : ∀ (d : Draft) (p : Element), d.names.isEmpty.toNat + d.tops ≤ 1 → ∃ d', d.attach p = .ok d' := by
    intro d p hd
    obtain ⟨_ | _, _ | root⟩ := d
    · exact ⟨_, rfl⟩
    · simp [names, tops] at hd
    · exact ⟨_, rfl⟩
    · exact ⟨_, rfl⟩
  have haddText : ∀ read : Except Error (List Char), (d.names ≠ [] → ∃ cs, read = .ok cs) →
      ∃ d', d.addText read = .ok d' := by
    intro read hread
    obtain ⟨_ | ⟨parent, outer⟩, root⟩ := d
    · exact ⟨_, rfl⟩
    · obtain ⟨cs, rfl⟩ := hread (List.cons_ne_nil _ _)
      exact ⟨_, rfl⟩
  cases e with
  | start tag =>
    obtain ⟨a, ha⟩ := Tag.isWellFormed_iff.1 hfits
    exact ⟨_, by rw [step, element, ha]; rfl⟩
  | empty tag =>
    obtain ⟨a, ha⟩ := Tag.isWellFormed_iff.1 hfits
    rw [step, element, ha]
    exact hattach d _ htops
  | finish name =>
    obtain ⟨_ | ⟨p, outer⟩, root⟩ := d
    · cases hfits
    · have hname : p.name = String.ofList name := Option.some.inj hfits
      simp only [step, if_pos hname]
      refine hattach _ _ ?_
      cases outer <;> simpa [tops, names, Event.isTop] using htops
  | text raw => exact haddText _ fun hne => (hfits hne).imp fun cs hcs => mapError_eq_ok_iff.2 hcs
  | cdata cs => exact haddText _ fun _ => ⟨cs, rfl⟩
  | remark => exact ⟨d, rfl⟩

/-- **The events that a draft accepts**: each fits, and with what is there one element stands at the top.  The
induction is over the events, with the draft as it stands in front of them. -/
theorem exists_finish_iff (d : Draft) (es : List Event) :
    (∃ root, (es.foldlM step d >>= finish) = .ok root) ↔
      (∀ p ∈ placed d.names es, p.2.Fits p.1) ∧ es.foldl Event.opened d.names = [] ∧
        (placed d.names es).countP (fun p => p.2.isTop p.1) + d.tops = 1 := by
  induction es generalizing d with
  | nil =>
    obtain ⟨_ | _, _ | root⟩ := d <;>
      simp [placed, names, tops, finish, bind, Except.bind, pure, Except.pure]
  | cons e es ih =>
    rw [List.foldlM_cons, bind_assoc, placed, List.forall_mem_cons, List.foldl_cons, List.countP_cons]
    constructor
    · rintro ⟨root, h⟩
      obtain ⟨d', hstep, h⟩ := bind_eq_ok_iff.1 h
      obtain ⟨hfits, hnames, htops⟩ := fits_of_step hstep
      obtain ⟨hrest, hclosed, hcount⟩ := (ih d').1 ⟨root, h⟩
      rw [hnames] at hrest hclosed hcount
      refine ⟨⟨hfits, hrest⟩, hclosed, ?_⟩
      rw [htops] at hcount
      cases htop : e.isTop d.names <;> simp [htop] at hcount ⊢ <;> omega
    · rintro ⟨⟨hfits, hrest⟩, hclosed, hcount⟩
      have hle : (e.isTop d.names).toNat + d.tops ≤ 1 := by
        cases htop : e.isTop d.names <;> simp [htop] at hcount ⊢ <;> omega
      obtain ⟨d', hstep⟩ := exists_step hfits hle
      obtain ⟨-, hnames, htops⟩ := fits_of_step hstep
      obtain ⟨root, h⟩ := (ih d').2 (by
        rw [hnames, htops]
        refine ⟨hrest, hclosed, ?_⟩
        cases htop : e.isTop d.names <;> simp [htop] at hcount ⊢ <;> omega)
      exact ⟨root, bind_eq_ok_iff.2 ⟨d', hstep, h⟩⟩

/-! ### What the events describe -/

variable {p : Element} {outer : List Element} {root : Option Element} {es rest : List Event} {c : Content}

/-- What is no tag leaves a draft without open elements as it is. -/
theorem step_prose (he : e.isProse) : step ⟨[], root⟩ e = .ok ⟨[], root⟩ := by
  cases e with
  | start | empty | finish => cases he
  | text | cdata | remark => rfl

/-- So does a row of such events, as behind the top element. -/
theorem foldlM_prose (hes : ∀ e ∈ es, e.isProse) : es.foldlM step ⟨[], root⟩ = .ok ⟨[], root⟩ := by
  induction es with
  | nil => rfl
  | cons e es ih =>
    obtain ⟨he, hes⟩ := List.forall_mem_cons.1 hes
    rw [List.foldlM_cons, step_prose he]
    exact ih hes

/-- A tag that declares attributes opens an element with them. -/
theorem element_of_declares {tag : Tag} {a : Assoc String} (ha : tag.Declares a) :
    element tag = .ok { name := String.ofList tag.name, attributes := a } :=
  element_eq_ok_iff.2 ⟨a, ha, rfl⟩

/-- An end tag completes the innermost element: its layout is dropped, and it is attached where it belongs. -/
theorem step_finish {name : List Char} (hname : p.name = String.ofList name) :
    step ⟨p :: outer, root⟩ (.finish name) = attach ⟨outer, root⟩ { p with body := p.body.dropLayout } := if_pos hname

/-- **Events inside an open element add what they describe.**  The events of a child element are taken as a whole:
they leave the stack as it was, and the element is attached. -/
theorem foldlM_of_describes (h : Describes es c) (p : Element) (outer : List Element) (root : Option Element)
    (rest : List Event) :
    (es ++ rest).foldlM step ⟨p :: outer, root⟩ = rest.foldlM step ⟨p.push c :: outer, root⟩ := by
  induction h generalizing p outer rest with
  | nil => rw [Element.push, Content.append_nil]; rfl
  | remark _ ih => exact ih p outer rest
  | text hraw _ ih =>
    rw [List.cons_append, List.foldlM_cons, step, hraw, ← Element.push_push, ← ih]
    rfl
  | cdata _ ih =>
    rw [List.cons_append, List.foldlM_cons, ← Element.push_push, ← ih]
    rfl
  | @empty tag a es _ ha _ ih =>
    rw [List.cons_append, List.foldlM_cons, step, element_of_declares ha]
    change (es ++ rest).foldlM step
      ⟨p.push (.ofElement { name := String.ofList tag.name, attributes := a }) :: outer, root⟩ = _
    rw [ih, Element.push_push]
    rfl
  | @element tag a inner es body c ha _ _ ihb ih =>
    rw [List.cons_append, List.foldlM_cons, step, element_of_declares ha, List.append_assoc]
    change (inner ++ (.finish tag.name :: es ++ rest)).foldlM step
      ⟨{ name := String.ofList tag.name, attributes := a } :: p :: outer, root⟩ = _
    rw [ihb, List.cons_append, List.foldlM_cons, step_finish rfl]
    change (es ++ rest).foldlM step
      ⟨p.push (.ofElement { name := String.ofList tag.name, attributes := a, body := body.dropLayout }) :: outer,
        root⟩ = _
    rw [ih, Element.push_push]
    rfl

/-- **What the events describe is built**: the reader comes to the top element, with nothing left open. -/
theorem foldlM_of_describesTop {e : Element} (h : DescribesTop es e) : es.foldlM step {} = .ok ⟨[], some e⟩ := by
  induction h with
  | prose he _ ih =>
    rw [List.foldlM_cons, step_prose he]
    exact ih
  | empty ha hbehind =>
    rw [List.foldlM_cons, step, element_of_declares ha]
    exact foldlM_prose hbehind
  | @element tag a inner behind body ha hinner hbehind =>
    rw [List.foldlM_cons, step, element_of_declares ha]
    change (inner ++ .finish tag.name :: behind).foldlM step
      ⟨[{ name := String.ofList tag.name, attributes := a }], none⟩ = _
    rw [foldlM_of_describes hinner, List.foldlM_cons, step_finish rfl]
    exact foldlM_prose hbehind

/-- **What is open is closed in the end**: the events up to the end tag of the innermost open element describe what
is added to it. -/
theorem exists_close_of_finish {es : List Event} {p : Element} (h : es.foldlM step ⟨p :: outer, root⟩ = .ok d')
    (hd : d'.opened = []) :
    ∃ inner name rest c, es = inner ++ .finish name :: rest ∧ Describes inner c ∧ p.name = String.ofList name ∧
      (attach ⟨outer, root⟩ { p with body := (p.body ++ c).dropLayout } >>= (rest.foldlM step ·)) = .ok d' := by
  -- An element inside takes two turns: the events up to its end tag, then those behind it.
  induction hn : es.length using Nat.strongRecOn generalizing es p outer d' with
  | ind n ih =>
  subst hn
  cases es with
  | nil =>
    obtain rfl := Except.ok.inj h
    cases hd
  | cons e es =>
    rw [List.foldlM_cons] at h
    -- What adds `c₀` to the open element stands in front of the rest.
    have hadd : ∀ c₀, (∀ es c, Describes es c → Describes (e :: es) (c₀ ++ c)) →
        step ⟨p :: outer, root⟩ e = .ok ⟨p.push c₀ :: outer, root⟩ →
        ∃ inner name rest c, e :: es = inner ++ .finish name :: rest ∧ Describes inner c ∧ p.name = String.ofList name ∧
          (attach ⟨outer, root⟩ { p with body := (p.body ++ c).dropLayout } >>= (rest.foldlM step ·)) = .ok d' := by
      intro c₀ hc₀ hstep
      rw [hstep] at h
      obtain ⟨inner, name, rest, c, hes, hc, hname, hrest⟩ := ih es.length (by simp) h hd rfl
      refine ⟨e :: inner, name, rest, c₀ ++ c, by rw [hes]; rfl, hc₀ inner c hc, hname, ?_⟩
      rwa [Element.push, Content.append_assoc] at hrest
    cases e with
    | remark => exact hadd .nil (fun _ _ h => .remark h) (by rw [Element.push, Content.append_nil]; rfl)
    | cdata cs => exact hadd _ (fun _ _ h => .cdata h) rfl
    | text raw =>
      obtain ⟨d₁, hstep, -⟩ := bind_eq_ok_iff.1 h
      obtain ⟨cs, hraw, -⟩ := bind_eq_ok_iff.1 hstep
      have hraw := mapError_eq_ok_iff.1 hraw
      exact hadd _ (fun _ _ h => .text hraw h) (by rw [step, hraw]; rfl)
    | empty tag =>
      obtain ⟨d₁, hstep, -⟩ := bind_eq_ok_iff.1 h
      obtain ⟨q, hq, -⟩ := bind_eq_ok_iff.1 hstep
      obtain ⟨a, ha, rfl⟩ := element_eq_ok_iff.1 hq
      exact hadd (.ofElement { name := String.ofList tag.name, attributes := a }) (fun _ _ h => .empty ha h)
         (by rw [step, element_of_declares ha]; rfl)
    | finish name =>
      obtain ⟨d₁, hstep, -⟩ := bind_eq_ok_iff.1 h
      have hname : p.name = String.ofList name := Option.some.inj (fits_of_step hstep).1
      rw [step_finish hname] at h
      exact ⟨[], name, es, .nil, rfl, .nil, hname, by rwa [Content.append_nil]⟩
    | start tag =>
      obtain ⟨d₁, hstep, h⟩ := bind_eq_ok_iff.1 h
      obtain ⟨q, hq, rfl⟩ := map_eq_ok_iff.1 hstep
      obtain ⟨a, ha, rfl⟩ := element_eq_ok_iff.1 hq
      obtain ⟨inner, name, behind, body, rfl, hbody, hname, hbehind⟩ := ih es.length (by simp) h hd rfl
      obtain rfl : tag.name = name := String.ofList_injective hname
      obtain ⟨inner', name', rest, c, rfl, hc, hname', hrest⟩ :=
        ih behind.length (by simp; omega) hbehind hd rfl
      refine ⟨.start tag :: (inner ++ .finish tag.name :: inner'), name', rest, _, by simp, .element ha hbody hc,
        hname', ?_⟩
      rwa [Element.push, Content.append_assoc] at hrest

/-- Behind the top element there is no other. -/
theorem prose_of_finish {q : Element} (h : es.foldlM step ⟨[], some q⟩ = .ok d') (hd : d'.opened = []) :
    (∀ e ∈ es, e.isProse) ∧ d' = ⟨[], some q⟩ := by
  induction es with
  | nil =>
    obtain rfl := Except.ok.inj h
    exact ⟨nofun, rfl⟩
  | cons e es ih =>
    have hprose : e.isProse → (∀ x ∈ e :: es, x.isProse) ∧ d' = ⟨[], some q⟩ := by
      intro he
      rw [List.foldlM_cons, step_prose he] at h
      obtain ⟨hes, hd'⟩ := ih h
      exact ⟨List.forall_mem_cons.2 ⟨he, hes⟩, hd'⟩
    rw [List.foldlM_cons] at h
    obtain ⟨d₁, hstep, h⟩ := bind_eq_ok_iff.1 h
    cases e with
    | text | cdata | remark => exact hprose rfl
    | finish => cases hstep
    | empty tag =>
      obtain ⟨p, -, hattach⟩ := bind_eq_ok_iff.1 hstep
      cases hattach
    | start tag =>
      obtain ⟨p, -, rfl⟩ := map_eq_ok_iff.1 hstep
      obtain ⟨_, _, _, _, -, -, -, hrest⟩ := exists_close_of_finish h hd
      cases hrest

/-- **What is read describes the top element.**  The events behind its start tag are cut at the end tag that closes
it, and what is left there is prose. -/
theorem describesTop_of_finish {q : Element} (h : es.foldlM step {} = .ok ⟨[], some q⟩) : DescribesTop es q := by
  induction es with
  | nil => cases h
  | cons e es ih =>
    have hprose : e.isProse → DescribesTop (e :: es) q := by
      intro he
      rw [List.foldlM_cons, step_prose he] at h
      exact .prose he (ih h)
    rw [List.foldlM_cons] at h
    obtain ⟨d₁, hstep, h⟩ := bind_eq_ok_iff.1 h
    cases e with
    | text | cdata | remark => exact hprose rfl
    | finish => cases hstep
    | empty tag =>
      obtain ⟨p, hp, hattach⟩ := bind_eq_ok_iff.1 hstep
      obtain ⟨a, ha, rfl⟩ := element_eq_ok_iff.1 hp
      obtain rfl := Except.ok.inj hattach
      obtain ⟨hbehind, hq⟩ := prose_of_finish h rfl
      cases hq
      exact .empty ha hbehind
    | start tag =>
      obtain ⟨p, hp, rfl⟩ := map_eq_ok_iff.1 hstep
      obtain ⟨a, ha, rfl⟩ := element_eq_ok_iff.1 hp
      obtain ⟨inner, name, behind, body, rfl, hbody, hname, hrest⟩ := exists_close_of_finish h rfl
      obtain rfl : tag.name = name := String.ofList_injective hname
      obtain ⟨hbehind, hq⟩ := prose_of_finish hrest rfl
      cases hq
      exact .element ha hbody hbehind

end Draft

/-! ### The texts of a tree that was read -/

namespace Content

variable {c d : Content}

/-- No text is empty, and none is blank beside a child element, at any depth. -/
def IsTrimmed : Content → Prop
  | nil => True
  | text s rest => s ≠ "" ∧ rest.IsTrimmed
  | element _ _ b rest => (b.hasElement → b.HasNoBlank) ∧ b.IsTrimmed ∧ rest.IsTrimmed

/-- Contents side by side are trimmed if both are. -/
theorem IsTrimmed.append (hc : c.IsTrimmed) (hd : d.IsTrimmed) : (c ++ d).IsTrimmed := by
  induction c with
  | nil => exact hd
  | text s rest ih => exact ⟨hc.1, ih hc.2⟩
  | element n a b rest _ ih => exact ⟨hc.1, hc.2.1, ih hc.2.2⟩

/-- One text is trimmed: an empty one is not there at all. -/
theorem isTrimmed_ofText (s : String) : (ofText s).IsTrimmed := by
  unfold ofText
  split_ifs with hs
  · trivial
  · exact ⟨hs, trivial⟩

/-- Blank texts go without harm to the rest. -/
theorem IsTrimmed.dropBlankTexts (hc : c.IsTrimmed) : c.dropBlankTexts.IsTrimmed := by
  induction c with
  | nil => trivial
  | text s rest ih =>
    rw [Content.dropBlankTexts]
    split_ifs
    · exact ih hc.2
    · exact ⟨hc.1, ih hc.2⟩
  | element n a b rest _ ih => exact ⟨hc.1, hc.2.1, ih hc.2.2⟩

/-- A content without its layout can stand in an element. -/
theorem IsTrimmed.dropLayout (hc : c.IsTrimmed) :
    (c.dropLayout.hasElement → c.dropLayout.HasNoBlank) ∧ c.dropLayout.IsTrimmed := by
  unfold Content.dropLayout
  split_ifs with h
  · exact ⟨fun _ => hasNoBlank_dropBlankTexts c, hc.dropBlankTexts⟩
  · exact ⟨fun h' => absurd h' h, hc⟩

end Content

/-- **What the events between two tags describe is trimmed.**  The layout of an element goes when its end tag is read,
so every child element has lost it before it is attached. -/
theorem Describes.isTrimmed {es : List Event} {c : Content} (h : Describes es c) : c.IsTrimmed := by
  induction h with
  | nil => trivial
  | remark _ ih => exact ih
  | text _ _ ih | cdata _ ih => exact (Content.isTrimmed_ofText _).append ih
  | empty _ _ ih => exact ⟨nofun, trivial, ih⟩
  | element _ _ _ ihb ih => exact ⟨ihb.dropLayout.1, ihb.dropLayout.2, ih⟩

/-- The top element is trimmed with everything in it. -/
theorem DescribesTop.isTrimmed {es : List Event} {root : Element} (h : DescribesTop es root) :
    (Content.ofElement root).IsTrimmed := by
  induction h with
  | prose _ _ ih => exact ih
  | empty => exact ⟨nofun, trivial, trivial⟩
  | element _ hbody _ => exact ⟨hbody.isTrimmed.dropLayout.1, hbody.isTrimmed.dropLayout.2, trivial⟩

/-! ### Documents -/

variable {es : Events} {root : Element}

/-- **Which events are accepted**: those of a document.  A fault of the markup counts even if it comes after the top
element is closed. -/
theorem Events.exists_element_iff : (∃ root, es.element = .ok root) ↔ es.IsDocument := by
  have hfinish := Draft.exists_finish_iff {} es.list
  obtain ⟨list, fault⟩ := es
  cases fault with
  | some fault =>
    constructor
    · rintro ⟨root, h⟩
      obtain ⟨d, -, h⟩ := bind_eq_ok_iff.1 h
      cases h
    · intro h
      cases h.fault
  | none =>
    refine hfinish.trans ⟨fun ⟨hfits, hclosed, hcount⟩ => ⟨rfl, hfits, hclosed, hcount⟩, fun h => ?_⟩
    exact ⟨h.fits, h.closed, h.single⟩

/-- **Which element is read**: the one that the events describe, provided that the markup has no fault. -/
theorem Events.element_eq_ok_iff : es.element = .ok root ↔ es.fault = none ∧ DescribesTop es.list root := by
  obtain ⟨list, fault⟩ := es
  constructor
  · intro h
    obtain ⟨d, hd, h⟩ := bind_eq_ok_iff.1 h
    cases fault with
    | some fault => cases h
    | none =>
      obtain ⟨_ | _, _ | q⟩ := d <;> cases h
      exact ⟨rfl, Draft.describesTop_of_finish hd⟩
  · rintro ⟨rfl, h⟩
    rw [element, Draft.foldlM_of_describesTop h]
    rfl

/-- The events of a text; a byte order mark in front of it is skipped. -/
def documentEvents (s : String) : Events :=
  match s.toList with
  | '\uFEFF' :: cs => events cs
  | cs => events cs

/-- A text is read by its events. -/
theorem parse_eq (s : String) : parse s = (documentEvents s).element := by
  unfold parse documentEvents
  generalize s.toList = cs
  split <;> simp_all

/-- **Reading accepts the documents**, gives the element that the events describe, and leaves no empty text in it and
no blank text beside a child element. -/
theorem parse_accepts_documents (s : String) :
    ((∃ root, parse s = .ok root) ↔ (documentEvents s).IsDocument) ∧
    (∀ root, parse s = .ok root ↔ (documentEvents s).fault = none ∧ DescribesTop (documentEvents s).list root) ∧
    ∀ root, parse s = .ok root → (Content.ofElement root).IsTrimmed := by
  rw [parse_eq]
  refine ⟨Events.exists_element_iff, fun root => Events.element_eq_ok_iff, fun root h => ?_⟩
  exact (Events.element_eq_ok_iff.1 h).2.isTrimmed

/-- A document with a byte order mark, prose around its top element, both kinds of tags, layout, and blanks in a
section. -/
def leaflet : String :=
  "\uFEFF<?xml version='1.0'?>\n<a x = \"1\"y='&lt;'>\n <b/> t&amp;<c> </c><![CDATA[]]><!-- d --></a>\n"

/-- The layout goes, and the blank text stays in the element that has no child. -/
theorem leaflet_is_document :
    parse leaflet = .ok ⟨"a", [("x", "1"), ("y", "<")],
      .element "b" [] .nil (.text " t&" (.element "c" [] (.text " " .nil) .nil))⟩ ∧
    (documentEvents leaflet).IsDocument ∧
    Content.IsTrimmed (.element "a" [("x", "1"), ("y", "<")]
      (.element "b" [] .nil (.text " t&" (.element "c" [] (.text " " .nil) .nil))) .nil) := by
  obtain ⟨haccepts, -, htrimmed⟩ := parse_accepts_documents leaflet
  have hparse : parse leaflet = .ok ⟨"a", [("x", "1"), ("y", "<")],
      .element "b" [] .nil (.text " t&" (.element "c" [] (.text " " .nil) .nil))⟩ := by decide +kernel
  exact ⟨hparse, haccepts.1 ⟨_, hparse⟩, htrimmed _ hparse⟩

end Xml
end Calibration
