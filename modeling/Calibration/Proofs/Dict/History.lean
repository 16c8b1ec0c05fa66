/-
# What a dict remembers

Whatever is done to a dict, it is done by writes of three kinds: an item is put at a key, a key is dropped, all keys
are dropped.  A history is a row of such writes, and says by itself what stands at a key (`standing?`) and when a key
came in (`insertion?`).  A dict that was empty at first agrees with its history at any time (`Follows`): each write
keeps this (`Follows.write`), every command is a row of writes (`Follows.perform_eq_foldl`), and the rest is an
induction over commands.
-/

import Calibration.Proofs.Dict.Merge
import Calibration.Store

namespace Calibration

open Xml (Element)

/-! ### Histories -/

/-- A change of a dict at one key, or at all of them. -/
inductive Write where
  | put (key : String) (item : Item)
  | drop (key : String)
  | clear

/-- The write is about the key. -/
def Write.touches : Write → String → Bool
  | put k _, key => k = key
  | drop k, key => k = key
  | clear, _ => true

/-- The item that is put. -/
def Write.item? : Write → Option Item
  | put _ item => some item
  | _ => none

/-- Writes that were made, the latest first. -/
abbrev History := List Write

namespace History

/-- The item that the last write about a key has put there, if it did not drop the key. -/
def standing? (h : History) (key : String) : Option Item := (h.find? (·.touches key)).bind Write.item?

/-- When a key was last put while it was absent. -/
def insertion? : History → String → Option Nat
  | [], _ => none
  | .put k _ :: past, key =>
    if k = key ∧ (standing? past key).isNone then some past.length else insertion? past key
  | _ :: past, key => insertion? past key

/-- The last write about a key is the one that counts. -/
theorem standing?_cons (w : Write) (h : History) (key : String) :
    standing? (w :: h) key = if w.touches key then w.item? else h.standing? key := by
  rw [standing?, List.find?_cons]
  cases w.touches key <;> rfl

/-- A key came in by one of the writes of the history. -/
theorem insertion?_lt {h : History} {key : String} {n : Nat} (hn : h.insertion? key = some n) : n < h.length := by
  induction h with
  | nil => exact nomatch hn
  | cons w past ih =>
    rw [List.length_cons]
    cases w with
    | put k item =>
      rw [insertion?] at hn
      split_ifs at hn with hput
      · exact Option.some.inj hn ▸ Nat.lt_succ_self _
      · exact Nat.lt_succ_of_lt (ih hn)
    | drop k => exact Nat.lt_succ_of_lt (ih hn)
    | clear => exact Nat.lt_succ_of_lt (ih hn)

/-- A key does not come in by the write of another one. -/
theorem insertion?_put_of_ne {h : History} {key k : String} (hk : key ≠ k) (item : Item) :
    insertion? (.put key item :: h) k = h.insertion? k := if_neg fun hput => hk hput.1

/-- A write of a key that is present lets no key come in. -/
theorem insertion?_put_of_standing {h : History} {key : String} (hs : (h.standing? key).isSome) (item : Item)
    (k : String) : insertion? (.put key item :: h) k = h.insertion? k := by
  refine if_neg fun hput => ?_
  rw [hput.1, Option.isSome_iff_ne_none] at hs
  exact hs (Option.isNone_iff_eq_none.1 hput.2)

/-- A write of a key that is absent lets it come in last of all. -/
theorem insertion?_put_self {h : History} {key : String} (hs : ¬ (h.standing? key).isSome) (item : Item) :
    insertion? (.put key item :: h) key = some h.length :=
  if_pos ⟨rfl, Option.isNone_iff_eq_none.2 (Option.not_isSome_iff_eq_none.1 hs)⟩

end History

namespace Dict

/-- A single write. -/
def write (d : Dict) : Write → Dict
  | .put key item => d.set key item
  | .drop key => d.erase key
  | .clear => d.clear

/-- The dict is what its history says. -/
structure Follows (d : Dict) (h : History) : Prop where
  /-- No key stands twice. -/
  nodup : d.keys.Nodup
  /-- At each key stands the item that was put there last, if the key was not dropped since. -/
  get? : ∀ key, d.get? key = h.standing? key
  /-- Each key that is there came in at some time. -/
  inserted : ∀ key ∈ d.keys, (h.insertion? key).isSome
  /-- The keys stand in the order in which they came in. -/
  ordered : d.keys.Pairwise fun k l => h.insertion? k < h.insertion? l

variable {d : Dict} {h : History}

/-- An empty dict is what the empty history says. -/
theorem follows_nil (scope : TypeScope) : Follows { scope } [] where
  nodup := List.nodup_nil
  get? _ := rfl
  inserted _ := nofun
  ordered := List.Pairwise.nil

/-- A key is there exactly if something stands at it in the history. -/
theorem Follows.mem_keys_iff (hd : d.Follows h) {key : String} : key ∈ d.keys ↔ (h.standing? key).isSome := by
  rw [← hd.get?]
  exact (Assoc.isSome_find?_iff d.entries).symm

/-- A write is seen at the keys that it is about, and nowhere else; for a key that is dropped this needs that it stood
only once. -/
theorem get?_write (hnodup : d.keys.Nodup) (w : Write) (key : String) :
    (d.write w).get? key = if w.touches key then w.item? else d.get? key := by
  cases w with
  | put k item =>
    refine (Assoc.find?_set d.entries k key item).trans ?_
    simp only [Write.touches, decide_eq_true_eq]
    rfl
  | drop k =>
    refine (Assoc.find?_erase d.entries hnodup k key).trans ?_
    simp only [Write.touches, decide_eq_true_eq]
    rfl
  | clear => rfl

/-- So the dict and the history go on to agree on what stands at a key. -/
theorem Follows.get?_write (hd : d.Follows h) (w : Write) (key : String) :
    (d.write w).get? key = History.standing? (w :: h) key := by
  rw [Dict.get?_write hd.nodup, History.standing?_cons, hd.get?]

/-- To put an item keeps the place of its key, or puts the key behind the others. -/
theorem keys_put (d : Dict) (key : String) (item : Item) :
    (d.write (.put key item)).keys = if key ∈ d.keys then d.keys else d.keys ++ [key] :=
  Assoc.keys_set d.entries key item

/-- To drop a key takes it out of the row of keys. -/
theorem keys_drop (d : Dict) (key : String) : (d.write (.drop key)).keys = d.keys.erase key :=
  Assoc.keys_erase d.entries key

/-- Where the key is present, the times do not change, and neither do the places. -/
theorem Follows.put_of_mem (hd : d.Follows h) {key : String} (hkey : key ∈ d.keys) (item : Item) :
    (d.write (.put key item)).Follows (.put key item :: h) := by
  have hkeys : (d.write (.put key item)).keys = d.keys := (keys_put ..).trans (if_pos hkey)
  have htime : ∀ k, History.insertion? (.put key item :: h) k = h.insertion? k :=
    History.insertion?_put_of_standing (hd.mem_keys_iff.1 hkey) item
  exact {
    nodup := hkeys ▸ hd.nodup
    get? := hd.get?_write _
    inserted := fun k hk => htime k ▸ hd.inserted k (hkeys ▸ hk)
    ordered := by simpa only [hkeys, htime] using hd.ordered }

/-- Where the key is absent, it comes in after all keys that are there. -/
theorem Follows.put_of_not_mem (hd : d.Follows h) {key : String} (hkey : key ∉ d.keys) (item : Item) :
    (d.write (.put key item)).Follows (.put key item :: h) := by
  have hkeys : (d.write (.put key item)).keys = d.keys ++ [key] := (keys_put ..).trans (if_neg hkey)
  have hnew : History.insertion? (.put key item :: h) key = some h.length :=
    History.insertion?_put_self (mt hd.mem_keys_iff.2 hkey) item
  have hold : ∀ k ∈ d.keys, History.insertion? (.put key item :: h) k = h.insertion? k :=
    fun k hk => History.insertion?_put_of_ne (fun he : key = k => hkey (he ▸ hk)) item
  refine ⟨?_, hd.get?_write _, ?_, ?_⟩
  · rw [hkeys, List.nodup_append]
    refine ⟨hd.nodup, List.nodup_cons.2 ⟨List.not_mem_nil, List.nodup_nil⟩, fun k hk l hl he => ?_⟩
    exact hkey (List.mem_singleton.1 hl ▸ he ▸ hk)
  · intro k hk
    rcases List.mem_append.1 (hkeys ▸ hk) with hk | hk
    · exact hold k hk ▸ hd.inserted k hk
    · rw [List.mem_singleton.1 hk, hnew]
      rfl
  · rw [hkeys, List.pairwise_append]
    refine ⟨hd.ordered.imp_of_mem fun hk hl hlt => ?_, List.pairwise_singleton .., fun k hk l hl => ?_⟩
    · rwa [hold _ hk, hold _ hl]
    · obtain ⟨n, hn⟩ := Option.isSome_iff_exists.1 (hd.inserted k hk)
      rw [hold k hk, List.mem_singleton.1 hl, hnew, hn]
      exact History.insertion?_lt hn

/-- To drop a key keeps dict and history together: the others stay in the order in which they came in. -/
theorem Follows.drop (hd : d.Follows h) (key : String) : (d.write (.drop key)).Follows (.drop key :: h) := by
  have hsub : (d.write (.drop key)).keys.Sublist d.keys := keys_drop d key ▸ List.erase_sublist
  exact ⟨hd.nodup.sublist hsub, hd.get?_write _, fun k hk => hd.inserted k (hsub.subset hk), hd.ordered.sublist hsub⟩

/-- **A write keeps dict and history together.**  This is the step of the refinement, case by case over the three
kinds of writes. -/
theorem Follows.write (hd : d.Follows h) (w : Write) : (d.write w).Follows (w :: h) := by
  cases w with
  | put key item =>
    by_cases hkey : key ∈ d.keys
    · exact hd.put_of_mem hkey item
    · exact hd.put_of_not_mem hkey item
  | drop key => exact hd.drop key
  | clear => exact ⟨List.nodup_nil, hd.get?_write _, fun _ => nofun, List.Pairwise.nil⟩

/-- So does a row of writes. -/
theorem Follows.foldl (hd : d.Follows h) (writes : List Write) :
    (writes.foldl Dict.write d).Follows (writes.reverse ++ h) := by
  induction writes generalizing d h with
  | nil => exact hd
  | cons w writes ih =>
    rw [List.foldl_cons, List.reverse_cons, List.append_assoc]
    exact ih (hd.write w)

/-! ### What a write leaves alone -/

/-- A write leaves the keys in their order that it is not about. -/
theorem filter_keys_write {w : Write} (hnodup : d.keys.Nodup) {p : String → Bool}
    (hp : ∀ key, p key → w.touches key = false) : (d.write w).keys.filter p = d.keys.filter p := by
  cases w with
  | put k item =>
    have hk : ¬ p k := fun hk => of_decide_eq_false (hp k hk) rfl
    rw [keys_put]
    split_ifs
    · rfl
    · rw [List.filter_append, List.filter_cons_of_neg hk, List.filter_nil, List.append_nil]
  | drop k =>
    have hk : ¬ p k := fun hk => of_decide_eq_false (hp k hk) rfl
    rw [keys_drop, hnodup.erase_eq_filter, List.filter_filter]
    refine List.filter_congr fun l _ => ?_
    rw [Bool.and_eq_left_iff_imp]
    exact fun hl => bne_iff_ne.2 fun he => hk (he ▸ hl)
  | clear => exact (List.filter_eq_nil_iff.2 fun key _ hkey => nomatch hp key hkey).symm

/-- **A row of writes leaves the other keys alone**: their items, and the order in which they stand.  What touches a
key is told by the write, not by the dict. -/
theorem Follows.foldl_untouched (hd : d.Follows h) {writes : List Write} {p : String → Bool}
    (hp : ∀ key, p key → ∀ w ∈ writes, w.touches key = false) :
    (∀ key, p key → (writes.foldl Dict.write d).get? key = d.get? key) ∧
      (writes.foldl Dict.write d).keys.filter p = d.keys.filter p := by
  induction writes generalizing d h with
  | nil => exact ⟨fun _ _ => rfl, rfl⟩
  | cons w writes ih =>
    have hw : ∀ key, p key → w.touches key = false := fun key hkey => hp key hkey w List.mem_cons_self
    obtain ⟨hget, hkeys⟩ := ih (hd.write w) fun key hkey v hv => hp key hkey v (List.mem_cons_of_mem w hv)
    refine ⟨fun key hkey => (hget key hkey).trans ?_, hkeys.trans (filter_keys_write hd.nodup hw)⟩
    rw [Dict.get?_write hd.nodup, hw key hkey]
    rfl

/-! ### Commands -/

/-- Plain values, for which dicts have setters. -/
inductive Plain where
  | bool (value : Bool)
  | int (value : Int32)
  | double (value : Number.Binary64)
  | string (value : String)
  | stringArray (values : List String)

/-- The item that a setter makes of a plain value. -/
def Plain.item : Plain → Item
  | bool value => .bool value
  | int value => .int value
  | double value => .double value
  | string value => .string value
  | stringArray values => .stringArray values

/-- What can be done to a dict. -/
inductive Command where
  | set (key : String) (item : Item)
  | setPlain (key : String) (value : Plain)
  | modify (key : String) (f : Item → Item)
  | remove (key : String)
  | take (key : String)
  | clear
  | unserialize (e : Element)
  | mergeXml (xml : String)
  | copy (source : Dict) (keys : List String)

/-- The dict after a command. -/
def perform (types : ItemTypes) (d : Dict) : Command → Dict
  | .set key item => d.set key item
  | .setPlain key value => d.set key value.item
  | .modify key f => d.modify key f
  | .remove key => (d.remove key).2
  | .take key => (d.take key).2
  | .clear => d.clear
  | .unserialize e =>
    match d.merge types e with
    | .ok merged => merged
    | .error _ => d
  | .mergeXml xml => ((mergeInto types xml).run.run d).2
  | .copy source keys => { d with entries := d.entries.copyFrom source.entries keys }

/-- Copying from a dict of the store into another one is the command to copy. -/
theorem copyInto_eq (types : ItemTypes) (s : Store) (source r : DictRef) (t : TableRef) (target : String)
    (keys : List String) (hr : s.find? t target = some r) (hne : source ≠ r) :
    (s.copyInto source t target keys).2 = s.modifyDict r (perform types · (.copy (s.dict source) keys)) := by
  rw [Store.copyInto, Store.newDict, hr]
  exact congrArg Prod.snd (if_neg hne)

namespace Command

/-- The writes that put a row of items at their keys. -/
def puts (row : List (String × Item)) : List Write := row.map fun p => .put p.1 p.2

/-- The entries of a `dict` element, put one by one; no other element has any. -/
def putsOf (types : ItemTypes) (scope : TypeScope) (e : Element) : List Write :=
  if e.name = "dict" then puts (Item.readables types scope e.body) else []

/-- The writes that a command comes to, in order. -/
def writes (types : ItemTypes) (scope : TypeScope) (h : History) : Command → List Write
  | set key item => [.put key item]
  | setPlain key value => [.put key value.item]
  | modify key f => ((h.standing? key).map fun item => .put key (f item)).toList
  | remove key => [.drop key]
  | take key => [.drop key]
  | clear => [.clear]
  | unserialize e => putsOf types scope e
  | mergeXml xml =>
    match Xml.parse xml with
    | .ok e => putsOf types scope e
    | .error _ => []
  | copy source keys => puts (keys.filterMap fun key => (source.get? key).map (key, ·))

/-- The command writes at the key. -/
def touches (types : ItemTypes) (scope : TypeScope) (h : History) (c : Command) (key : String) : Bool :=
  (c.writes types scope h).any (·.touches key)

end Command

variable {types : ItemTypes}

/-- To put a row of items is to write them one after the other. -/
theorem foldl_write_puts (d : Dict) (row : List (String × Item)) :
    (Command.puts row).foldl write d = { d with entries := d.entries.setAll row } := by
  rw [Command.puts, List.foldl_map]
  induction row generalizing d with
  | nil => rfl
  | cons p row ih => exact ih (d.set p.1 p.2)

/-- To put the entries of an element is to merge it. -/
theorem foldl_write_putsOf (types : ItemTypes) (d : Dict) (e : Element) :
    (Command.putsOf types d.scope e).foldl write d =
      match d.merge types e with
      | .ok merged => merged
      | .error _ => d := by
  rw [Command.putsOf]
  split_ifs with he
  · rw [merge_eq d types he, foldl_write_puts]
  · rw [merge, if_neg he]
    rfl

/-- **A command is a row of writes**, which its history tells.  What a command does may depend on what stands in the
dict, and that is the same in the history. -/
theorem Follows.perform_eq_foldl (hd : d.Follows h) (c : Command) :
    d.perform types c = (c.writes types d.scope h).foldl Dict.write d := by
  cases c with
  | set key item => rfl
  | setPlain key value => rfl
  | modify key f =>
    rw [perform, modify, Command.writes, hd.get?]
    cases h.standing? key <;> rfl
  | remove key => rfl
  | take key => rfl
  | clear => rfl
  | unserialize e => exact (foldl_write_putsOf types d e).symm
  | mergeXml xml =>
    rw [perform, run_mergeInto, mergeXml_eq, Command.writes]
    cases Xml.parse xml with
    | error fault => rfl
    | ok e =>
      simp only [foldl_write_putsOf]
      cases d.merge types e <;> rfl
  | copy source keys =>
    rw [perform, Command.writes, foldl_write_puts, Assoc.copyFrom_eq_setAll]
    rfl

/-- No write changes which types the dict reads. -/
theorem scope_foldl_write (d : Dict) (writes : List Write) : (writes.foldl write d).scope = d.scope := by
  induction writes generalizing d with
  | nil => rfl
  | cons w writes ih => exact (ih (d.write w)).trans (by cases w <;> rfl)

/-- An empty dict after a row of commands. -/
def performAll (types : ItemTypes) (scope : TypeScope) (commands : List Command) : Dict :=
  commands.foldl (perform types) { scope }

/-- The writes of a row of commands. -/
def historyOf (types : ItemTypes) (scope : TypeScope) (commands : List Command) : History :=
  commands.foldl (fun h c => (c.writes types scope h).reverse ++ h) []

/-- Nor does a command. -/
theorem Follows.scope_perform (hd : d.Follows h) (c : Command) : (d.perform types c).scope = d.scope :=
  (congrArg scope (hd.perform_eq_foldl c)).trans (scope_foldl_write ..)

/-- A command leaves the keys alone at which it does not write. -/
theorem Follows.perform_untouched (hd : d.Follows h) (c : Command) :
    (∀ key, c.touches types d.scope h key = false → (d.perform types c).get? key = d.get? key) ∧
      (d.perform types c).keys.filter (!c.touches types d.scope h ·) =
        d.keys.filter (!c.touches types d.scope h ·) := by
  have huntouched : ∀ key, (!c.touches types d.scope h key) = true →
      ∀ w ∈ c.writes types d.scope h, w.touches key = false := by
    intro key hkey w hw
    rw [Bool.not_eq_true', Command.touches, List.any_eq_false] at hkey
    exact Bool.eq_false_iff.2 (hkey w hw)
  obtain ⟨hget, hkeys⟩ := hd.foldl_untouched huntouched
  rw [← hd.perform_eq_foldl] at hkeys
  exact ⟨fun key hkey => hd.perform_eq_foldl c ▸ hget key (by rw [hkey]; rfl), hkeys⟩

/-- **Commands keep dict and history together.**  Each of them adds its writes to the history, and what these are is
known from the history itself. -/
theorem Follows.performAll (hd : d.Follows h) (commands : List Command) :
    (commands.foldl (perform types) d).Follows
        (commands.foldl (fun h c => (c.writes types d.scope h).reverse ++ h) h) ∧
      (commands.foldl (perform types) d).scope = d.scope := by
  induction commands generalizing d h with
  | nil => exact ⟨hd, rfl⟩
  | cons c commands ih =>
    have hnext : (d.perform types c).Follows ((c.writes types d.scope h).reverse ++ h) :=
      hd.perform_eq_foldl c ▸ hd.foldl _
    have hrest := ih hnext
    rwa [hd.scope_perform] at hrest

/-- **A dict is a map in the order of insertion.**  Whatever was done to a dict that was empty at first, no key stands
twice, at each key stands the last write that was not undone, and the keys stand in the order in which they last came
in.  To remove a key or to take its item tells what stood there; and each further command leaves the keys alone that it
does not write at, both their items and their order. -/
theorem performAll_refines_history (types : ItemTypes) (scope : TypeScope) (commands : List Command) :
    let d := performAll types scope commands
    let h := historyOf types scope commands
    d.Follows h ∧
      (∀ key, d.entries.has key = (h.standing? key).isSome ∧ (key ∈ d.keys ↔ (h.standing? key).isSome) ∧
        (d.remove key).1 = (h.standing? key).isSome ∧ (d.take key).1 = h.standing? key) ∧
      ∀ c : Command,
        (∀ key, c.touches types scope h key = false → (d.perform types c).get? key = d.get? key) ∧
          (d.perform types c).keys.filter (!c.touches types scope h ·) =
            d.keys.filter (!c.touches types scope h ·) := by
  intro d h
  obtain ⟨hd, hscope⟩ : d.Follows h ∧ d.scope = scope := (follows_nil scope).performAll commands
  have hhas : ∀ key, d.entries.has key = (h.standing? key).isSome := fun key => congrArg Option.isSome (hd.get? key)
  exact ⟨hd, fun key => ⟨hhas key, hd.mem_keys_iff, hhas key, hd.get? key⟩,
    fun c => hscope ▸ hd.perform_untouched c⟩

/-- A key that is written again keeps its place; one that was removed comes in at the end. -/
example : (performAll [] .builtin [.setPlain "a" (.int 1), .setPlain "b" (.bool true), .set "a" (.blob []), .take "a",
    .modify "a" id, .setPlain "c" (.string ""), .setPlain "a" (.int 2), .remove "d"]).keys = ["b", "c", "a"] := rfl

end Dict
end Calibration
