/-
# Written tags are read back

The names of elements and attributes are words without blanks, quotes and signs of markup (`isName`).  Then a
written tag ends at its own `>` (`cutTag_tagChars`), its name ends at the first blank, and its attributes are read
back in order, since an escaped value has no quote in it and no key stands twice (`attributesFrom_attributeChars`).
So each written tag is one event (`markup_start`, `markup_empty`, `markup_finish`).
-/

import Calibration.Xml.Event
import Calibration.Xml.Layout
import Mathlib.Data.List.TakeWhile

namespace Calibration
namespace Xml

variable {c : Char} {cs : List Char} {n : String} {a : Assoc String}

/-! ### Names -/

/-- A character that a name may begin with; every character beyond ASCII counts as a letter. -/
def isNameStart (c : Char) : Bool := c.isAlpha || c == '_' || 128 ≤ c.toNat

/-- A character that a name may go on with. -/
def isNameChar (c : Char) : Bool := isNameStart c || c.isDigit || c == '-' || c == '.' || c == ':'

/-- A name of an element or an attribute. -/
def isName (s : String) : Bool :=
  match s.toList with
  | [] => false
  | c :: cs => isNameStart c && cs.all isNameChar

/-- A name has a first character, and all its characters may stand in a name. -/
theorem exists_of_isName (h : isName n) :
    ∃ c cs, n.toList = c :: cs ∧ isNameStart c ∧ ∀ x ∈ c :: cs, isNameChar x := by
  rw [isName] at h
  split at h
  · cases h
  · next c cs hn =>
    rw [Bool.and_eq_true, List.all_eq_true] at h
    exact ⟨c, cs, hn, h.1, List.forall_mem_cons.2 ⟨by rw [isNameChar, h.1]; rfl, h.2⟩⟩

/-- Each character of a name may stand in a name. -/
theorem isNameChar_of_mem (h : isName n) (hc : c ∈ n.toList) : isNameChar c := by
  obtain ⟨_, _, hn, -, hall⟩ := exists_of_isName h
  exact hall c (hn ▸ hc)

/-- The signs of markup are in no name. -/
theorem ne_of_isNameChar (h : isNameChar c) {d : Char} (hd : isNameChar d = false) : c ≠ d := by
  rintro rfl
  exact absurd h (Bool.eq_false_iff.1 hd)

/-- No character of a name is a blank.  A name in a tag therefore ends at the first blank behind it. -/
theorem isSpace_of_isNameChar (h : isNameChar c) : isSpace c = false := by
  rw [isSpace, beq_eq_false_iff_ne.2 (ne_of_isNameChar h (by decide)),
    beq_eq_false_iff_ne.2 (ne_of_isNameChar h (by decide)), beq_eq_false_iff_ne.2 (ne_of_isNameChar h (by decide)),
    beq_eq_false_iff_ne.2 (ne_of_isNameChar h (by decide))]
  rfl

/-- A character of a name may stand in a key.  Keys are read more freely than names are written. -/
theorem isKeyChar_of_isNameChar (h : isNameChar c) : isKeyChar c := by
  rw [isKeyChar, isSpace_of_isNameChar h, Bool.and_eq_true, bne_iff_ne]
  exact ⟨ne_of_isNameChar h (by decide), rfl⟩

/-! ### Escaped texts -/

/-- Texts are escaped character by character. -/
theorem escape_append (cs ds : List Char) : escape (cs ++ ds) = escape cs ++ escape ds := List.flatMap_append

/-- An escaped text has no sign in it that begins or ends markup or a value. -/
theorem ne_of_mem_escape {d : Char} (h : d ∈ escape cs) : d ≠ '<' ∧ d ≠ '>' ∧ d ≠ '"' := by
  obtain ⟨c, -, hc⟩ := List.mem_flatMap.1 h
  unfold escapeChar at hc
  have hreference : ∀ ds : List Char, ds.all (fun d => d ≠ '<' ∧ d ≠ '>' ∧ d ≠ '"') → d ∈ ds →
      d ≠ '<' ∧ d ≠ '>' ∧ d ≠ '"' := fun ds hds hd => of_decide_eq_true (List.all_eq_true.1 hds d hd)
  split_ifs at hc with hlt hgt _ _ hquote
  · exact hreference _ (by decide) hc
  · exact hreference _ (by decide) hc
  · exact hreference _ (by decide) hc
  · exact hreference _ (by decide) hc
  · exact hreference _ (by decide) hc
  · obtain rfl := List.mem_singleton.1 hc
    exact ⟨hlt, hgt, hquote⟩

/-- The layout in front of a tag needs no escaping. -/
theorem escape_lineBreak (level : Nat) (afterText : Bool) :
    escape (lineBreak level afterText) = lineBreak level afterText := by
  have hblanks : ∀ k, escape (List.replicate k ' ') = List.replicate k ' ' := fun k => by
    induction k with
    | zero => rfl
    | succ k ih => rw [List.replicate_succ, escape, List.flatMap_cons, ← escape, ih]; rfl
  rw [lineBreak]
  split_ifs
  · rfl
  · rw [escape, List.flatMap_cons, ← escape, hblanks]
    rfl

/-! ### Where a tag ends -/

/-- The quote that is open behind a character of a tag. -/
def quoteAfter (quote : Option Char) (c : Char) : Option Char :=
  match quote with
  | none => if c = '"' ∨ c = '\'' then some c else none
  | some q => if c = q then none else some q

/-- A tag is cut at the first `>` that is in no quotes: `cut` with the quote that is open as its state. -/
theorem cutTag_eq : cutTag = cut quoteAfter Option.isNone none := rfl

/-- Characters at which no tag ends are passed over. -/
theorem cut_cons {σ : Type} {next : σ → Char → σ} {final : σ → Bool} {s : σ} (h : ¬ (c = '>' ∧ final s))
    (cs : List Char) :
    cut next final s (c :: cs) = (cut next final (next s c) cs).map fun (piece, rest) => (c :: piece, rest) := by
  rw [cut, if_neg h]

/-- Characters without quotes and without `>` are passed over. -/
theorem cutTag_plain {ds : List Char} (h : ∀ d ∈ ds, d ≠ '>' ∧ d ≠ '"' ∧ d ≠ '\'') (cs : List Char) :
    cutTag (ds ++ cs) = (cutTag cs).map fun (piece, rest) => (ds ++ piece, rest) := by
  induction ds with
  | nil => exact Option.map_id.symm ▸ rfl
  | cons d ds ih =>
    obtain ⟨⟨hgt, hquote, hapos⟩, hds⟩ := List.forall_mem_cons.1 h
    have hnext : quoteAfter none d = none := if_neg (not_or.2 ⟨hquote, hapos⟩)
    rw [List.cons_append, cutTag_eq, cut_cons fun h => hgt h.1, hnext, ← cutTag_eq, ih hds, Option.map_map]
    rfl

/-- **A quoted value is passed over** as far as its closing quote, whatever signs of markup are in it. -/
theorem cut_quoted {ds : List Char} (h : '"' ∉ ds) (cs : List Char) :
    cut quoteAfter Option.isNone (some '"') (ds ++ '"' :: cs) =
      (cutTag cs).map fun (piece, rest) => (ds ++ '"' :: piece, rest) := by
  induction ds with
  | nil => exact cut_cons (fun h => absurd h.2 (by decide)) cs
  | cons d ds ih =>
    obtain ⟨hd, hds⟩ := not_or.1 (mt List.mem_cons.2 h)
    have hnext : quoteAfter (some '"') d = some '"' := if_neg (Ne.symm hd)
    rw [List.cons_append, cut_cons (fun h => absurd h.2 (by decide)), hnext, ih hds, Option.map_map]
    rfl

/-- A quoted value is passed over. -/
theorem cutTag_quoted {ds : List Char} (h : '"' ∉ ds) (cs : List Char) :
    cutTag ('"' :: (ds ++ '"' :: cs)) = (cutTag cs).map fun (piece, rest) => ('"' :: (ds ++ '"' :: piece), rest) := by
  rw [cutTag_eq, cut_cons (by decide), show quoteAfter none '"' = some '"' from rfl, cut_quoted h, Option.map_map]
  rfl

/-- A name is passed over. -/
theorem cutTag_name (h : isName n) (cs : List Char) :
    cutTag (n.toList ++ cs) = (cutTag cs).map fun (piece, rest) => (n.toList ++ piece, rest) :=
  cutTag_plain (fun _ hd =>
    have hd := isNameChar_of_mem h hd
    ⟨ne_of_isNameChar hd (by decide), ne_of_isNameChar hd (by decide), ne_of_isNameChar hd (by decide)⟩) cs

/-- Attributes are passed over. -/
theorem cutTag_attributeChars (h : ∀ k ∈ a.keys, isName k) (cs : List Char) :
    cutTag (attributeChars a ++ cs) = (cutTag cs).map fun (piece, rest) => (attributeChars a ++ piece, rest) := by
  induction a with
  | nil => exact Option.map_id.symm ▸ rfl
  | cons p a ih =>
    obtain ⟨k, v⟩ := p
    obtain ⟨hk, ha⟩ := List.forall_mem_cons.1 h
    have hquote : '"' ∉ escape v.toList := fun h => (ne_of_mem_escape h).2.2 rfl
    have hchars : ∀ ds, attributeChars ((k, v) :: a) ++ ds =
        [' '] ++ (k.toList ++ (['='] ++ ('"' :: (escape v.toList ++ '"' :: (attributeChars a ++ ds))))) := by
      intro ds
      simp [attributeChars]
    rw [hchars, cutTag_plain (by simp), cutTag_name hk, cutTag_plain (by simp), cutTag_quoted hquote, ih ha]
    simp only [Option.map_map]
    exact congrArg (fun f => (cutTag cs).map f)
      (funext fun q : List Char × List Char => Prod.ext (hchars q.1).symm rfl)

/-- **A written tag ends at its own `>`.**  No other one is in it outside of quotes, neither in the name nor in the
keys, and what is quoted is passed over. -/
theorem cutTag_tagChars (hn : isName n) (ha : ∀ k ∈ a.keys, isName k) (cs : List Char) :
    cutTag (tagChars n a ++ cs) = (cutTag cs).map fun (piece, rest) => (tagChars n a ++ piece, rest) := by
  rw [tagChars, List.append_assoc, cutTag_name hn, cutTag_attributeChars ha, Option.map_map]
  simp only [List.append_assoc]
  rfl

/-- The end of a tag without content. -/
theorem cutTag_slash (cs : List Char) : cutTag ('/' :: '>' :: cs) = some (['/'], cs) := by
  rw [cutTag_eq, cut_cons (by decide), show quoteAfter none '/' = none from rfl, cut, if_pos (by decide)]
  rfl

/-- The end of any other tag. -/
theorem cutTag_close (cs : List Char) : cutTag ('>' :: cs) = some ([], cs) := by
  rw [cutTag_eq, cut, if_pos (by decide)]

/-! ### Attributes -/

/-- What is taken ends at the character that stops it. -/
theorem takeWhile_append_stop {p : Char → Bool} {ds : List Char} (h : ∀ d ∈ ds, p d) (hc : p c = false) :
    (ds ++ c :: cs).takeWhile p = ds := by
  rw [List.takeWhile_append_of_pos h, List.takeWhile_cons_of_neg (by rw [hc]; decide), List.append_nil]

/-- What is left begins with the character that stops it. -/
theorem dropWhile_append_stop {p : Char → Bool} {ds : List Char} (h : ∀ d ∈ ds, p d) (hc : p c = false) :
    (ds ++ c :: cs).dropWhile p = c :: cs := by
  rw [List.dropWhile_append_of_pos h, List.dropWhile_cons_of_neg (by rw [hc]; decide)]

/-- One attribute is read, if its key is new and the rest is read.  Blanks may stand before the key and around `=`, and
the value may stand in either kind of quotes. -/
theorem attributesFrom_cons {length position : Nat} {seen : List (List Char × Nat)}
    {blanks key before behind value rest text : List Char} {first quote : Char}
    (hblanks : ∀ d ∈ blanks, isSpace d) (hfirst : isSpace first = false) (hkey : ∀ d ∈ key, isKeyChar d)
    (hbefore : ∀ d ∈ before, isSpace d) (hbehind : ∀ d ∈ behind, isSpace d) (hquote : quote = '"' ∨ quote = '\'')
    (hvalue : quote ∉ value) (hseen : seen.find? (·.1 = first :: key) = none) (htext : unescape value = .ok text)
    (hrest : ∀ start next, attributesFrom length next ((first :: key, start) :: seen) rest = .ok a) :
    attributesFrom length position seen
        (blanks ++ first :: (key ++ (before ++ '=' :: (behind ++ quote :: (value ++ quote :: rest))))) =
      .ok ((String.ofList (first :: key), String.ofList text) :: a) := by
  -- The key ends at the first blank before `=`, or at `=`.
  obtain ⟨stop, tail, hstop, htail⟩ : ∃ stop tail, isKeyChar stop = false ∧
      before ++ '=' :: (behind ++ quote :: (value ++ quote :: rest)) = stop :: tail := by
    cases before with
    | nil => exact ⟨'=', _, by decide, rfl⟩
    | cons d before => exact ⟨d, _, by simp [isKeyChar, hbefore d (List.mem_cons_self ..)], rfl⟩
  have hequals : (before ++ '=' :: (behind ++ quote :: (value ++ quote :: rest))).dropWhile isSpace =
      '=' :: (behind ++ quote :: (value ++ quote :: rest)) := dropWhile_append_stop hbefore (by decide)
  have hspace : isSpace quote = false := by rcases hquote with rfl | rfl <;> decide
  have hopening : (behind ++ quote :: (value ++ quote :: rest)).dropWhile isSpace = quote :: (value ++ quote :: rest) :=
    dropWhile_append_stop hbehind hspace
  have hvalue' : ∀ d ∈ value, (d != quote) = true := fun d hd => bne_iff_ne.2 fun h => hvalue (h ▸ hd)
  have hstopquote : (quote != quote) = false := by simp
  rw [attributesFrom]
  split
  · next h => rw [dropWhile_append_stop hblanks hfirst] at h; cases h
  · next c after h =>
    rw [dropWhile_append_stop hblanks hfirst] at h
    obtain ⟨rfl, rfl⟩ := List.cons.inj h
    have htake :
        (key ++ (before ++ '=' :: (behind ++ quote :: (value ++ quote :: rest)))).takeWhile isKeyChar = key := by
      rw [htail]; exact takeWhile_append_stop hkey hstop
    have hdrop : (key ++ (before ++ '=' :: (behind ++ quote :: (value ++ quote :: rest)))).dropWhile isKeyChar =
        before ++ '=' :: (behind ++ quote :: (value ++ quote :: rest)) := by
      rw [htail]; exact dropWhile_append_stop hkey hstop
    rw [htake, hdrop]
    simp only
    split
    · next h => rw [hequals] at h; cases h
    · next after h =>
      rw [hequals] at h
      obtain rfl := (List.cons.inj h).2
      rw [hseen]
      simp only
      split
      · next h => rw [hopening] at h; cases h
      · next q body h =>
        rw [hopening] at h
        obtain ⟨rfl, rfl⟩ := List.cons.inj h
        rw [if_pos hquote, takeWhile_append_stop hvalue' hstopquote]
        split
        · next h => rw [dropWhile_append_stop hvalue' hstopquote] at h; cases h
        · next h =>
          rw [dropWhile_append_stop hvalue' hstopquote] at h
          obtain rfl := (List.cons.inj h).2
          simp only [htext, hrest]
          rfl
    · next h => exact absurd hequals (h _)

/-- **Written attributes are read back.**  The induction goes along the attributes, with the keys that were seen
before; each new one differs from them. -/
theorem attributesFrom_attributeChars (length position : Nat) {seen : List (List Char × Nat)}
    (hnames : ∀ k ∈ a.keys, isName k) (hdistinct : a.keys.Nodup)
    (hseen : ∀ k ∈ a.keys, ∀ s ∈ seen, s.1 ≠ k.toList) :
    attributesFrom length position seen (attributeChars a) = .ok a := by
  induction a generalizing position seen with
  | nil => rw [attributeChars, List.flatMap_nil, attributesFrom]; rfl
  | cons p a ih =>
    obtain ⟨k, v⟩ := p
    obtain ⟨hk, hks⟩ := List.forall_mem_cons.1 hnames
    obtain ⟨hnew, hrest⟩ := List.nodup_cons.1 hdistinct
    obtain ⟨hks', hseen'⟩ := List.forall_mem_cons.1 hseen
    have hchars : attributeChars ((k, v) :: a) =
        ' ' :: (k.toList ++ '=' :: '"' :: (escape v.toList ++ '"' :: attributeChars a)) := by
      simp [attributeChars]
    obtain ⟨c, key, hkey, -, hall⟩ := exists_of_isName hk
    obtain ⟨hc, hchars'⟩ := List.forall_mem_cons.1 hall
    have hfound : seen.find? (·.1 = c :: key) = none :=
      List.find?_eq_none.2 fun s hs => by simpa [← hkey] using hks' s hs
    have hrest' : ∀ start next, attributesFrom length next ((c :: key, start) :: seen) (attributeChars a) = .ok a := by
      intro start next
      refine ih next hks hrest fun k' hk' => List.forall_mem_cons.2 ⟨?_, hseen' k' hk'⟩
      exact fun h => hnew (String.toList_injective (hkey.trans h) ▸ hk')
    have hread : attributesFrom length position seen
        ([' '] ++ c :: (key ++ ([] ++ '=' :: ([] ++ '"' :: (escape v.toList ++ '"' :: attributeChars a))))) =
          .ok ((String.ofList (c :: key), String.ofList v.toList) :: a) :=
      attributesFrom_cons (by simp [isSpace]) (isSpace_of_isNameChar hc)
        (fun d hd => isKeyChar_of_isNameChar (hchars' d hd)) nofun nofun (.inl rfl)
        (fun h => (ne_of_mem_escape h).2.2 rfl)
        hfound (unescape_escape _) hrest'
    rw [hchars, hkey]
    rwa [← hkey, String.ofList_toList, String.ofList_toList] at hread

/-! ### One event for each tag -/

/-- A written tag is taken apart into its name and its attributes. -/
theorem ofInside_tagChars (hn : isName n) : Tag.ofInside (tagChars n a) = ⟨n.toList, attributeChars a⟩ := by
  have hname : ∀ d ∈ n.toList, !isSpace d := by
    intro d hd
    rw [isSpace_of_isNameChar (isNameChar_of_mem hn hd)]
    rfl
  cases a with
  | nil =>
    rw [Tag.ofInside, tagChars, attributeChars, List.flatMap_nil, List.append_nil, List.takeWhile_eq_self_iff.2 hname,
      List.dropWhile_eq_nil_iff.2 hname]
  | cons p a =>
    obtain ⟨k, v⟩ := p
    have hchars : tagChars n ((k, v) :: a) = n.toList ++ ' ' :: (attributeChars ((k, v) :: a)).tail := by
      simp [tagChars, attributeChars]
    rw [Tag.ofInside, hchars, takeWhile_append_stop hname rfl, dropWhile_append_stop hname rfl]
    simp [attributeChars]

/-- **The tag of an element is read back.**  Its name comes off first, and its attributes are what stands behind. -/
theorem attributes_tagChars (hn : isName n) (ha : ∀ k ∈ a.keys, isName k) (hdistinct : a.keys.Nodup) :
    (Tag.ofInside (tagChars n a)).attributes = .ok a := by
  rw [ofInside_tagChars hn]
  exact attributesFrom_attributeChars _ _ ha hdistinct fun _ _ _ h => nomatch h

/-- The inside of a start tag does not end like that of an empty element. -/
theorem getLast?_tagChars_ne (hn : isName n) : (tagChars n a).getLast? ≠ some '/' := by
  intro h
  rw [tagChars, List.getLast?_append] at h
  cases hlast : (attributeChars a).getLast? with
  | none =>
    rw [hlast, Option.none_or] at h
    exact ne_of_isNameChar (isNameChar_of_mem hn (List.mem_of_getLast? h)) (by decide) rfl
  | some d =>
    rw [hlast, Option.some_or] at h
    obtain rfl := Option.some.inj h
    have hquote : (attributeChars a).getLast? = none ∨ (attributeChars a).getLast? = some '"' := by
      rcases List.eq_nil_or_concat a with rfl | ⟨a, p, rfl⟩
      · exact .inl rfl
      · right
        rw [List.concat_eq_append, attributeChars, List.flatMap_append, List.getLast?_append, List.flatMap_singleton,
          List.getLast?_concat, Option.some_or]
    rcases hquote with h | h <;> rw [h] at hlast <;> exact nomatch hlast

/-- The name in an end tag is all of it, since no blank is in it. -/
theorem endName_of_isName (hn : isName n) : endName n.toList = n.toList := by
  obtain ⟨c, cs, hchars, -, hall⟩ := exists_of_isName hn
  have hlast : ∀ d ∈ n.toList.reverse.head?, isSpace d = false := fun d hd => by
    rw [List.head?_reverse] at hd
    exact isSpace_of_isNameChar (isNameChar_of_mem hn (List.mem_of_getLast? hd))
  have hdrop : n.toList.reverse.dropWhile isSpace = n.toList.reverse := by
    cases hr : n.toList.reverse with
    | nil => rfl
    | cons d ds => exact List.dropWhile_cons_of_neg (by rw [hlast d (by rw [hr]; rfl)]; decide)
  rw [endName, hdrop, List.reverse_reverse, ite_self]

/-- The kind of markup that begins with a name. -/
theorem markup_of_isName (hn : isName n) (cs : List Char) :
    markup (n.toList ++ cs) = match cutTag (n.toList ++ cs) with
      | some (piece, rest) => .ok (startEvent piece, rest)
      | none => .error .tag := by
  obtain ⟨c, ds, hchars, hc, -⟩ := exists_of_isName hn
  have hne : ∀ d, isNameStart d = false → c ≠ d := fun d hd h => absurd (h ▸ hc) (Bool.eq_false_iff.1 hd)
  rw [hchars, List.cons_append, markup.eq_def]
  split
  · next h => exact nomatch h
  · next h => exact absurd (List.cons.inj h).1 (hne '!' rfl)
  · next h => exact absurd (List.cons.inj h).1 (hne '?' rfl)
  · next h => exact absurd (List.cons.inj h).1 (hne '/' rfl)
  · rfl

/-- **A written start tag is one event.**  It does not end in a slash, because the last character of a tag is a quote
or belongs to a name. -/
theorem markup_start (hn : isName n) (ha : ∀ k ∈ a.keys, isName k) (cs : List Char) :
    markup (tagChars n a ++ '>' :: cs) = .ok (.start (Tag.ofInside (tagChars n a)), cs) := by
  have hcut := cutTag_tagChars hn ha ('>' :: cs)
  simp only [cutTag_close, Option.map_some, List.append_nil] at hcut
  rw [tagChars, List.append_assoc] at hcut ⊢
  rw [markup_of_isName hn, hcut]
  simp only
  rw [← tagChars, startEvent, if_neg (getLast?_tagChars_ne hn)]

/-- **A written empty element is one event.**  The slash in front of the `>` is taken off before the tag is taken
apart. -/
theorem markup_empty (hn : isName n) (ha : ∀ k ∈ a.keys, isName k) (cs : List Char) :
    markup (tagChars n a ++ '/' :: '>' :: cs) = .ok (.empty (Tag.ofInside (tagChars n a)), cs) := by
  have hcut := cutTag_tagChars hn ha ('/' :: '>' :: cs)
  simp only [cutTag_slash, Option.map_some] at hcut
  rw [tagChars, List.append_assoc] at hcut ⊢
  rw [markup_of_isName hn, hcut]
  simp only
  rw [← tagChars, startEvent, if_pos List.getLast?_concat, List.dropLast_concat]

/-- **A written end tag is one event.**  It has the name of its element and nothing else. -/
theorem markup_finish (hn : isName n) (cs : List Char) :
    markup ('/' :: (n.toList ++ '>' :: cs)) = .ok (.finish n.toList, cs) := by
  have hcut := cutTag_name hn ('>' :: cs)
  simp only [cutTag_close, Option.map_some, List.append_nil] at hcut
  rw [markup, hcut]
  simp only
  rw [endName_of_isName hn]

end Xml
end Calibration
