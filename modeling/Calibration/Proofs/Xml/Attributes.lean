/-
# Which tags have attributes

What stands behind the name in a tag is a row of keys and quoted values (`AttributeRow`).  The attributes of the tag
are read exactly if it is one, no key stands twice in it, and every value can be unescaped (`attributes_eq_ok_iff`).
-/

import Calibration.Proofs.Outcome
import Calibration.Proofs.Xml.Markup
import Mathlib.Data.List.Forall2

namespace Calibration
namespace Xml

/-- The keys and raw values that characters spell, in order.  Blanks may stand before a key and around `=`, and need
not stand behind a value. -/
inductive AttributeRow : List Char → List (List Char × List Char) → Prop
  | nil {blanks : List Char} : (∀ d ∈ blanks, isSpace d) → AttributeRow blanks []
  | cons {blanks key before behind value rest : List Char} {first quote : Char} {row : List (List Char × List Char)} :
      (∀ d ∈ blanks, isSpace d) → isSpace first = false → (∀ d ∈ key, isKeyChar d) →
      (∀ d ∈ before, isSpace d) → (∀ d ∈ behind, isSpace d) → (quote = '"' ∨ quote = '\'') → quote ∉ value →
      AttributeRow rest row →
      AttributeRow (blanks ++ first :: (key ++ (before ++ '=' :: (behind ++ quote :: (value ++ quote :: rest)))))
        ((first :: key, value) :: row)

/-- The attribute that a key and a raw value stand for. -/
def Resolves (raw : List Char × List Char) (pair : String × String) : Prop :=
  pair.1 = String.ofList raw.1 ∧ ∃ text, unescape raw.2 = .ok text ∧ pair.2 = String.ofList text

variable {length position : Nat} {seen : List (List Char × Nat)} {cs : List Char} {a : Assoc String}

/-- A text is what is passed over, then the character that stops it, then the rest. -/
theorem spell_of_dropWhile {p : Char → Bool} {c : Char} {rest : List Char} (h : cs.dropWhile p = c :: rest) :
    cs = cs.takeWhile p ++ c :: rest ∧ (∀ d ∈ cs.takeWhile p, p d) ∧ p c = false := by
  refine ⟨by rw [← h, List.takeWhile_append_dropWhile], fun d => List.mem_takeWhile_imp, ?_⟩
  have hstop := List.head?_dropWhile_not p cs
  rwa [h] at hstop

/-- **Attributes that are read are spelled by a row**, in which no key stands twice or was seen before.  The induction
follows the reader: only one of its ways goes on, and each of the characters it passes over has its place in the row.
-/
theorem exists_row_of_attributesFrom (h : attributesFrom length position seen cs = .ok a) :
    ∃ row, AttributeRow cs row ∧ (row.map Prod.fst).Nodup ∧ (∀ raw ∈ row, ∀ s ∈ seen, s.1 ≠ raw.1) ∧
      List.Forall₂ Resolves row a := by
  fun_induction attributesFrom length position seen cs generalizing a with
  | case1 _ seen cs hblank =>
    obtain rfl := Except.ok.inj h
    exact ⟨[], .nil (List.dropWhile_eq_nil_iff.1 hblank), List.nodup_nil, nofun, .nil⟩
  | case2 | case3 | case4 | case5 | case7 | case8 => cases h
  | case6 _ seen cs _ first afterFirst hfirst _ _ _ afterEquals hequals hnew _ quote body hopening hquote _ close rest
      hclose =>
    rename_i ih
    obtain ⟨text, htext, h⟩ := bind_eq_ok_iff.1 h
    obtain ⟨more, hmore, h⟩ := bind_eq_ok_iff.1 h
    obtain rfl := Except.ok.inj h
    obtain ⟨row, hrow, hdistinct, hseen, hall⟩ := ih hmore
    obtain ⟨hcs, hblanks, hfirst⟩ := spell_of_dropWhile hfirst
    obtain ⟨hbefore, hbefore', -⟩ := spell_of_dropWhile hequals
    obtain ⟨hbehind, hbehind', -⟩ := spell_of_dropWhile hopening
    obtain ⟨hbody, hvalue, hclose⟩ := spell_of_dropWhile hclose
    obtain rfl : close = quote := by simpa using hclose
    have hspell : cs = cs.takeWhile isSpace ++ first :: (afterFirst.takeWhile isKeyChar ++
        ((afterFirst.dropWhile isKeyChar).takeWhile isSpace ++ '=' :: (afterEquals.takeWhile isSpace ++
          close :: (body.takeWhile (· != close) ++ close :: rest)))) := by
      rw [← hbody, ← hbehind, ← hbefore, List.takeWhile_append_dropWhile, ← hcs]
    rw [hspell]
    refine ⟨_, .cons hblanks hfirst (fun d => List.mem_takeWhile_imp) hbefore' hbehind' hquote ?_ hrow, ?_, ?_,
      .cons ⟨rfl, text, mapError_eq_ok_iff.1 htext, rfl⟩ hall⟩
    · exact fun hmem => by simpa using hvalue close hmem
    · refine List.nodup_cons.2 ⟨fun hmem => ?_, hdistinct⟩
      obtain ⟨raw, hraw, heq⟩ := List.mem_map.1 hmem
      exact hseen raw hraw _ (List.mem_cons_self ..) heq.symm
    · refine List.forall_mem_cons.2
        ⟨fun s hs heq => ?_, fun raw hraw s hs => hseen raw hraw s (List.mem_cons_of_mem _ hs)⟩
      exact List.find?_eq_none.1 hnew s hs (decide_eq_true heq)

/-- **A row of attributes is read**, if no key of it stands twice or was seen before and its values can be unescaped.
-/
theorem attributesFrom_of_row {row : List (List Char × List Char)} (hrow : AttributeRow cs row)
    (hdistinct : (row.map Prod.fst).Nodup) (hseen : ∀ raw ∈ row, ∀ s ∈ seen, s.1 ≠ raw.1)
    (ha : List.Forall₂ Resolves row a) : attributesFrom length position seen cs = .ok a := by
  induction hrow generalizing position seen a with
  | nil hblanks =>
    cases ha
    rw [attributesFrom, List.dropWhile_eq_nil_iff.2 hblanks]
  | @cons _ key _ _ value rest first quote row hblanks hfirst hkey hbefore hbehind hquote hvalue _ ih =>
    cases ha with
    | @cons _ pair _ more hhead htail =>
      obtain ⟨name, _⟩ := pair
      obtain ⟨rfl, text, htext, rfl⟩ := hhead
      obtain ⟨hnew, hrest⟩ := List.nodup_cons.1 hdistinct
      obtain ⟨hfresh, hseen'⟩ := List.forall_mem_cons.1 hseen
      have hfound : seen.find? (·.1 = first :: key) = none :=
        List.find?_eq_none.2 fun s hs => by simpa using hfresh s hs
      refine attributesFrom_cons hblanks hfirst hkey hbefore hbehind hquote hvalue hfound htext fun start next => ?_
      refine ih hrest (fun raw hraw => List.forall_mem_cons.2 ⟨?_, hseen' raw hraw⟩) htail
      exact fun heq => hnew (List.mem_map.2 ⟨raw, hraw, heq.symm⟩)

/-- A row stands for attributes exactly if each of its values can be unescaped. -/
theorem forall₂_resolves_iff {row : List (List Char × List Char)} :
    (∃ a, List.Forall₂ Resolves row a) ↔ ∀ raw ∈ row, ∃ text, unescape raw.2 = .ok text := by
  constructor
  · rintro ⟨a, ha⟩
    induction ha with
    | nil => exact nofun
    | cons hhead _ ih => exact List.forall_mem_cons.2 ⟨hhead.2.imp fun _ h => h.1, ih⟩
  · intro h
    induction row with
    | nil => exact ⟨[], .nil⟩
    | cons raw row ih =>
      obtain ⟨⟨text, htext⟩, hrest⟩ := List.forall_mem_cons.1 h
      obtain ⟨a, ha⟩ := ih hrest
      exact ⟨(String.ofList raw.1, String.ofList text) :: a, .cons ⟨rfl, text, htext, rfl⟩ ha⟩

namespace Tag

/-- The attributes that a tag declares: the keys and values behind its name spell them, and no key stands twice. -/
def Declares (t : Tag) (a : Assoc String) : Prop :=
  ∃ row, AttributeRow t.rest row ∧ (row.map Prod.fst).Nodup ∧ List.Forall₂ Resolves row a

/-- A tag with well-formed attributes of different keys whose values can be unescaped. -/
def IsWellFormed (t : Tag) : Prop :=
  ∃ row, AttributeRow t.rest row ∧ (row.map Prod.fst).Nodup ∧ ∀ raw ∈ row, ∃ text, unescape raw.2 = .ok text

/-- **The attributes that are read are those declared.**  So what a tag holds is stated by its characters alone,
without the positions that the reader keeps for its errors. -/
theorem attributes_eq_ok_iff {t : Tag} : t.attributes = .ok a ↔ t.Declares a := by
  constructor
  · intro h
    obtain ⟨row, hrow, hdistinct, -, ha⟩ := exists_row_of_attributesFrom h
    exact ⟨row, hrow, hdistinct, ha⟩
  · rintro ⟨row, hrow, hdistinct, ha⟩
    exact attributesFrom_of_row hrow hdistinct (fun _ _ => nofun) ha

/-- A tag is well-formed exactly if its attributes are read. -/
theorem isWellFormed_iff {t : Tag} : t.IsWellFormed ↔ ∃ a, t.attributes = .ok a := by
  simp only [attributes_eq_ok_iff, Declares, IsWellFormed, ← forall₂_resolves_iff]
  tauto

end Tag
end Xml
end Calibration
