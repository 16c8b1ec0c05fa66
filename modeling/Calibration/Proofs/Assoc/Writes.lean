/-
# Rows of writes

A row of writes to an insertion-ordered list of pairs has a law of its own: at each key stands the last write to it,
or else what stood there before (`find?_setAll`); new keys follow the old ones in the order of their first writes
(`keys_setAll`); and the same row written once more changes nothing (`setAll_setAll`).  The last is seen pair by pair:
the writes to the key of the first pair change that pair only, and the others never reach it (`setAll_pair`).

Copying is a row of writes too (`copyFrom_eq_setAll`).  A key is taken out for good only where it stands once
(`find?_erase`).
-/

import Calibration.Assoc
import Mathlib.Tactic.SplitIfs

namespace Calibration
namespace Assoc

variable {α : Type} (m : Assoc α)

/-- Writes a row of pairs, one after the other. -/
def setAll (writes : List (String × α)) : Assoc α := writes.foldl (fun m p => m.set p.1 p.2) m

/-- The value of the last write to a key. -/
def lastWrite? (writes : List (String × α)) (key : String) : Option α := find? writes.reverse key

theorem keys_cons (p : String × α) : keys (p :: m) = p.1 :: keys m := rfl

/-- The first write is made first. -/
theorem setAll_cons (p : String × α) (writes : List (String × α)) :
    m.setAll (p :: writes) = (m.set p.1 p.2).setAll writes := rfl

/-- Of two lists in a row, what is found first counts: the second list is asked only for keys that are not in the
first. -/
theorem find?_append (m m' : Assoc α) (key : String) : find? (m ++ m') key = (m.find? key).or (m'.find? key) := by
  induction m with
  | nil => rfl
  | cons p m ih =>
    simp only [List.cons_append, find?, ih]
    split_ifs <;> rfl

/-- The first write of a row is the last one to its key only if no other one follows. -/
theorem lastWrite?_cons (p : String × α) (writes : List (String × α)) (key : String) :
    lastWrite? (p :: writes) key = (lastWrite? writes key).or (if p.1 = key then some p.2 else none) := by
  rw [lastWrite?, List.reverse_cons, find?_append]
  rfl

/-- **At each key stands the last write to it**, or what stood there before.  The order of the writes to other keys
does not matter for it. -/
theorem find?_setAll (writes : List (String × α)) (key : String) :
    (m.setAll writes).find? key = (lastWrite? writes key).or (m.find? key) := by
  induction writes generalizing m with
  | nil => rfl
  | cons p writes ih =>
    rw [setAll_cons, ih, find?_set, lastWrite?_cons, Option.or_assoc]
    split_ifs <;> rfl

/-- **New keys follow the old ones**, in the order of their first writes.  Later writes to a key leave it at its
place. -/
theorem keys_setAll (writes : List (String × α)) :
    (m.setAll writes).keys = m.keys ++ ((writes.map Prod.fst).filter (· ∉ m.keys)).eraseDups := by
  induction writes generalizing m with
  | nil => exact (List.append_nil _).symm
  | cons p writes ih =>
    rw [setAll_cons, ih, keys_set, List.map_cons]
    split_ifs with hp
    · rw [List.filter_cons_of_neg (by simp [hp])]
    · rw [List.filter_cons_of_pos (by simp [hp]), List.eraseDups_cons, List.filter_filter, List.append_assoc,
        List.singleton_append]
      refine congrArg (m.keys ++ p.1 :: List.eraseDups ·) (List.filter_congr fun k _ => ?_)
      simp only [List.mem_append, List.mem_singleton, not_or, and_comm, Bool.decide_and, decide_not]
      rfl

/-- Old keys keep their places, and a key that is written twice stands where it was written first. -/
example : setAll [("a", 1), ("b", 2)] [("c", 3), ("b", 4), ("d", 5), ("c", 6)] =
    [("a", 1), ("b", 4), ("c", 6), ("d", 5)] := rfl

/-- What a row of writes makes of the first pair, and of the rest, which the writes to that key do not reach. -/
theorem setAll_pair (key : String) (value : α) (writes : List (String × α)) :
    setAll ((key, value) :: m) writes =
      (key, (lastWrite? writes key).getD value) :: m.setAll (writes.filter (·.1 ≠ key)) := by
  induction writes generalizing m value with
  | nil => rfl
  | cons p writes ih =>
    rw [setAll_cons, lastWrite?_cons]
    by_cases hp : p.1 = key
    · rw [set, if_pos hp.symm, ih, if_pos hp, List.filter_cons_of_neg (by simp [hp])]
      cases lastWrite? writes key <;> rfl
    · rw [set, if_neg (Ne.symm hp), ih, if_neg hp, List.filter_cons_of_pos (by simp [hp]), setAll_cons, Option.or_none]

/-- A row of writes to an empty list, once more.  The first write makes a pair, and the induction goes on with the
writes to other keys, which are fewer. -/
theorem setAll_setAll_nil (writes : List (String × α)) :
    (setAll [] writes).setAll writes = setAll [] writes := by
  induction h : writes.length using Nat.strongRecOn generalizing writes with
  | ind n ih =>
    cases writes with
    | nil => rfl
    | cons p writes =>
      have hlt : (writes.filter (·.1 ≠ p.1)).length < n := by
        have := List.length_filter_le (fun q => decide (q.1 ≠ p.1)) writes
        rw [← h, List.length_cons]
        omega
      rw [show setAll [] (p :: writes) = setAll [(p.1, p.2)] writes from rfl, setAll_pair, setAll_pair,
        List.filter_cons_of_neg (by simp), ih _ hlt _ rfl, lastWrite?_cons, if_pos rfl]
      cases lastWrite? writes p.1 <;> rfl

/-- **The same row written once more changes nothing.**  All its keys have their places by then, and each last write
stands. -/
theorem setAll_setAll (writes : List (String × α)) : (m.setAll writes).setAll writes = m.setAll writes := by
  induction m generalizing writes with
  | nil => exact setAll_setAll_nil writes
  | cons p m ih =>
    obtain ⟨key, value⟩ := p
    rw [setAll_pair, setAll_pair, ih]
    cases lastWrite? writes key <;> rfl

/-! ### Keys that stand once -/

/-- A key that is not there yet is written at the end. -/
theorem set_of_not_mem {key : String} (h : key ∉ m.keys) (value : α) : m.set key value = m ++ [(key, value)] := by
  induction m with
  | nil => rfl
  | cons p m ih =>
    obtain ⟨hne, hrest⟩ := not_or.1 (mt List.mem_cons.2 h)
    rw [set, if_neg (Ne.symm hne), ih hrest]
    rfl

/-- Nothing is found at a key that is not there. -/
theorem find?_of_not_mem {key : String} (h : key ∉ m.keys) : m.find? key = none := by
  induction m with
  | nil => rfl
  | cons p m ih =>
    obtain ⟨hne, hrest⟩ := not_or.1 (mt List.mem_cons.2 h)
    rw [find?, if_neg (Ne.symm hne), ih hrest]

/-- What is found stands in the list.  The converse needs keys that differ, and is not true in general. -/
theorem mem_of_find? {key : String} {value : α} (h : m.find? key = some value) : (key, value) ∈ m := by
  induction m with
  | nil => exact nomatch h
  | cons p m ih =>
    rw [find?] at h
    split_ifs at h with hp
    · obtain rfl := Option.some.inj h
      exact hp ▸ List.mem_cons_self ..
    · exact List.mem_cons_of_mem _ (ih h)

/-- **A row of writes to keys that differ is put behind what was there.**  This is how a written dict is read: entry
by entry, into a dict in which none of the keys stands. -/
theorem setAll_of_nodup {writes : List (String × α)} (h : (m ++ writes).keys.Nodup) :
    m.setAll writes = m ++ writes := by
  induction writes generalizing m with
  | nil => exact (List.append_nil m).symm
  | cons p writes ih =>
    have hmiddle : (m.keys ++ p.1 :: Assoc.keys writes).Nodup := by simpa [keys] using h
    have hkey : p.1 ∉ m.keys :=
      fun hm => (List.nodup_cons.1 (List.perm_middle.nodup_iff.1 hmiddle)).1 (List.mem_append_left _ hm)
    have hnext : (m ++ [p] ++ writes).keys.Nodup := by simpa [keys] using h
    rw [setAll_cons, set_of_not_mem m hkey, ih _ hnext, List.append_assoc]
    rfl

/-- **No row of writes makes a key stand twice**, as one write keeps the place of a key that is there.  Maps that are
written to from empty have this invariant for good. -/
theorem nodup_keys_setAll (h : m.keys.Nodup) (writes : List (String × α)) : (m.setAll writes).keys.Nodup := by
  induction writes generalizing m with
  | nil => exact h
  | cons p writes ih =>
    refine ih _ ?_
    rw [keys_set]
    split_ifs with hp
    · exact h
    · refine List.nodup_append.2 ⟨h, List.nodup_cons.2 ⟨List.not_mem_nil, List.nodup_nil⟩, ?_⟩
      intro k hk k' hk' he
      exact hp (List.mem_singleton.1 hk' ▸ he ▸ hk)

/-- Something is found at the keys that are there, and at no others. -/
theorem isSome_find?_iff {key : String} : (m.find? key).isSome ↔ key ∈ m.keys := by
  induction m with
  | nil => simp [find?, keys]
  | cons p m ih =>
    rw [find?, keys_cons, List.mem_cons, ← ih]
    split_ifs with hp
    · simp [hp]
    · simp [Ne.symm hp]

/-- What stands in the list after a row of writes stood there before or was written. -/
theorem mem_of_mem_setAll {p : String × α} {writes : List (String × α)} (h : p ∈ m.setAll writes) :
    p ∈ m ∨ p ∈ writes := by
  have hset : ∀ (m : Assoc α) (q : String × α), p ∈ m.set q.1 q.2 → p ∈ m ∨ p = q := by
    intro m q
    induction m with
    | nil => exact fun h => .inr (List.mem_singleton.1 h)
    | cons r m ih =>
      rw [set]
      split_ifs with hr
      · intro h
        rcases List.mem_cons.1 h with h | h
        · exact .inr (by rw [h, hr])
        · exact .inl (List.mem_cons_of_mem _ h)
      · intro h
        rcases List.mem_cons.1 h with h | h
        · exact .inl (h ▸ List.mem_cons_self ..)
        · exact (ih h).imp_left (List.mem_cons_of_mem _)
  induction writes generalizing m with
  | nil => exact .inl h
  | cons q writes ih =>
    rcases ih _ h with h | h
    · rcases hset m q h with h | rfl
      · exact .inl h
      · exact .inr (List.mem_cons_self ..)
    · exact .inr (List.mem_cons_of_mem _ h)

/-! ### Copies -/

/-- **Copying is writing** the pairs that the source has, in the order in which they are asked for.  A key that it
lacks is passed over. -/
theorem copyFrom_eq_setAll (source : Assoc α) (asked : List String) :
    m.copyFrom source asked = m.setAll (asked.filterMap fun key => (source.find? key).map (key, ·)) := by
  induction asked generalizing m with
  | nil => rfl
  | cons key asked ih =>
    rw [copyFrom, List.foldl_cons, List.filterMap_cons]
    cases source.find? key with
    | none => exact ih m
    | some value => exact ih (m.set key value)

/-- What is copied is there, if the source has it; the rest is as it was. -/
theorem find?_copyFrom (source : Assoc α) (asked : List String) (key : String) :
    (m.copyFrom source asked).find? key = (if key ∈ asked then source.find? key else none).or (m.find? key) := by
  rw [copyFrom_eq_setAll, find?_setAll]
  refine congrArg (Option.or · (m.find? key)) ?_
  induction asked with
  | nil => rfl
  | cons k asked ih =>
    rw [List.filterMap_cons]
    cases hk : source.find? k with
    | none =>
      refine ih.trans ?_
      by_cases hkey : key = k
      · rw [hkey, hk, ite_self, ite_self]
      · simp only [List.mem_cons, hkey, false_or]
    | some value =>
      rw [Option.map_some, lastWrite?_cons, ih]
      by_cases hkey : key = k
      · rw [hkey, hk, if_pos rfl, if_pos List.mem_cons_self]
        split_ifs <;> rfl
      · rw [if_neg (Ne.symm hkey), Option.or_none]
        simp only [List.mem_cons, hkey, false_or]

/-- **New keys follow the old ones**: those that the source has, each once, in the order in which they are asked for.
-/
theorem keys_copyFrom (source : Assoc α) (asked : List String) :
    (m.copyFrom source asked).keys =
      m.keys ++ ((asked.filter (· ∈ source.keys)).filter (· ∉ m.keys)).eraseDups := by
  have hkeys : (asked.filterMap fun key => (source.find? key).map (key, ·)).map Prod.fst =
      asked.filter (· ∈ source.keys) := by
    induction asked with
    | nil => rfl
    | cons k asked ih =>
      rw [List.filterMap_cons, List.filter_cons]
      cases hk : source.find? k with
      | none =>
        have hmem : k ∉ source.keys := fun h => by simpa [hk] using source.isSome_find?_iff.2 h
        rw [if_neg (by simpa using hmem)]
        exact ih
      | some value =>
        have hmem : k ∈ source.keys := source.isSome_find?_iff.1 (by rw [hk]; rfl)
        rw [if_pos (by simpa using hmem)]
        exact congrArg (k :: ·) ih
  rw [copyFrom_eq_setAll, keys_setAll, hkeys]

/-! ### A key taken out -/

/-- A key taken out goes from the row of keys where it stands first. -/
theorem keys_erase (key : String) : (m.erase key).keys = m.keys.erase key := by
  induction m with
  | nil => rfl
  | cons p m ih =>
    rw [erase, keys_cons, List.erase_cons]
    split_ifs with hp hp' hp'
    · rfl
    · exact absurd (beq_iff_eq.2 hp) hp'
    · exact absurd (beq_iff_eq.1 hp') hp
    · exact congrArg (p.1 :: ·) ih

/-- **A key taken out is gone** and the others stay, if no key stands twice; else the next pair of the key would come
to light. -/
theorem find?_erase (h : m.keys.Nodup) (key other : String) :
    (m.erase key).find? other = if key = other then none else m.find? other := by
  induction m with
  | nil => rw [erase, find?, ite_self]
  | cons p m ih =>
    rw [keys_cons] at h
    obtain ⟨hp, hrest⟩ := List.nodup_cons.1 h
    by_cases hkey : p.1 = key
    · subst hkey
      rw [erase, if_pos rfl, find?]
      split_ifs with hother
      · exact find?_of_not_mem m (hother ▸ hp)
      · rfl
    · rw [erase, if_neg hkey, find?, find?, ih hrest]
      split_ifs with hother hboth
      · exact absurd (hother.trans hboth.symm) hkey
      · rfl
      · rfl
      · rfl

end Assoc

end Calibration
