/-
# Insertion-ordered association lists

Attributes of an element, entries of a dict and names of a dict table are all lists of pairs in which a key
stands at most once: a write to a present key keeps its place, a write to an absent key goes to the end.
The operations keep the keys apart, and each is described by what it does to `find?` and to `keys`.
-/

namespace Calibration

/-- Pairs of a key and a value, in order of insertion. -/
abbrev Assoc (α : Type) := List (String × α)

namespace Assoc

variable {α β : Type}

/-- The keys in order. -/
def keys (m : Assoc α) : List String := m.map Prod.fst

/-- The value at the first pair with the key. -/
def find? (m : Assoc α) (key : String) : Option α :=
  match m with
  | [] => none
  | (k, v) :: rest => if k = key then some v else find? rest key

/-- The key is present. -/
def has (m : Assoc α) (key : String) : Bool := (m.find? key).isSome

/-- Writes in place at a present key, else at the end. -/
def set (m : Assoc α) (key : String) (value : α) : Assoc α :=
  match m with
  | [] => [(key, value)]
  | (k, v) :: rest => if k = key then (k, value) :: rest else (k, v) :: set rest key value

/-- Without the first pair that has the key. -/
def erase (m : Assoc α) (key : String) : Assoc α :=
  match m with
  | [] => []
  | (k, v) :: rest => if k = key then rest else (k, v) :: erase rest key

/-- The pairs of `source` at those of `keys` that it has, written into `m` in the order of `keys`. -/
def copyFrom (m source : Assoc α) (keys : List String) : Assoc α :=
  keys.foldl (fun m key => match source.find? key with
    | some value => m.set key value
    | none => m) m

/-- **A write is found at its key and changes nothing elsewhere.** With `keys_set` this is all that users of the list
need to know of `set`. -/
theorem find?_set (m : Assoc α) (key other : String) (value : α) :
    (m.set key value).find? other = if key = other then some value else m.find? other := by
  induction m with
  | nil => rfl
  | cons p m ih =>
    obtain ⟨k, v⟩ := p
    by_cases hk : k = key
    · subst hk; by_cases ho : k = other <;> simp [set, find?, ho]
    · by_cases ho : k = other
      · subst ho; simp [set, find?, hk, Ne.symm hk]
      · simp [set, find?, hk, ho, ih]

/-- **A write keeps the place of a key that is there** and puts a new key at the end, so that no key comes to stand
twice. -/
theorem keys_set (m : Assoc α) (key : String) (value : α) :
    (m.set key value).keys = if key ∈ m.keys then m.keys else m.keys ++ [key] := by
  induction m with
  | nil => rfl
  | cons p m ih =>
    obtain ⟨k, v⟩ := p
    by_cases hk : k = key
    · simp [set, keys, hk]
    · have hk' : key ≠ k := Ne.symm hk
      have : keys ((k, v) :: m) = k :: keys m := rfl
      rw [this]
      by_cases hm : key ∈ keys m
      · rw [if_pos (List.mem_cons_of_mem _ hm)]
        rw [if_pos hm] at ih
        simp only [set, if_neg hk]
        exact congrArg (k :: ·) ih
      · rw [if_neg (by simp [hk', hm])]
        rw [if_neg hm] at ih
        simp only [set, if_neg hk, List.cons_append]
        exact congrArg (k :: ·) ih

end Assoc
end Calibration
