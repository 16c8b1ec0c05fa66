/-
# Settled rejections

`settle` takes plugins down until no plugin that is up has a failed group.  What a strike can do is said once, in
`Falls`: each plugin stays as it is, or it was up and goes down because one of its groups has failed.  A fact that
every strike keeps, the whole closure keeps (`settle_induction`).  From that come the two halves of the closure:
plugins that support one another are never taken down (`not_isDown_settle`), and in the end a plugin that is up has
no failed group (`hasFailed_settle`).
-/

import Calibration.BringUp.Settle
import Mathlib.Logic.Basic
import Mathlib.Tactic.SplitIfs

namespace Calibration
namespace BringUp

/-- The plugins after some strikes: each is as it was, or it was up and a failed group took it down. -/
structure Falls (before after : List Stake) : Prop where
  length : after.length = before.length
  place : ∀ k : Nat, after[k]? = before[k]? ∨
    ∃ (s : Stake) (group : List Nat), before[k]? = some s ∧ s.standing = .up ∧ group ∈ s.groups ∧
    hasFailed after group ∧ after[k]? = some { s with standing := .down, cause := some group }

variable {a b c : List Stake} {i k : Nat}

namespace Falls

/-- No strike, no change. -/
theorem refl (a : List Stake) : Falls a a := ⟨rfl, fun _ => .inl rfl⟩

/-- Who is down stays down. -/
theorem isDown (h : Falls a b) (hk : BringUp.isDown a k) : BringUp.isDown b k := by
  rcases h.place k with h | ⟨_, _, _, _, _, _, h⟩ <;> rw [BringUp.isDown, h]
  · exact hk
  · rfl

/-- A group that has failed stays failed, as nobody in it gets up again. -/
theorem hasFailed (h : Falls a b) {group : List Nat} (hg : BringUp.hasFailed a group) :
    BringUp.hasFailed b group := by
  rw [BringUp.hasFailed, Bool.and_eq_true, List.all_eq_true] at hg ⊢
  exact ⟨hg.1, fun j hj => h.isDown (hg.2 j hj)⟩

/-- Strikes may be made one after the other; the cause of a fall is a group that had failed by then. -/
theorem trans (hab : Falls a b) (hbc : Falls b c) : Falls a c := by
  refine ⟨hbc.length.trans hab.length, fun k => ?_⟩
  rcases hbc.place k with hc | ⟨s, group, hs, hup, hg, hf, hc⟩
  · rcases hab.place k with hb | ⟨s, group, hs, hup, hg, hf, hb⟩
    · exact .inl (hc.trans hb)
    · exact .inr ⟨s, group, hs, hup, hg, hbc.hasFailed hf, hc.trans hb⟩
  · rcases hab.place k with hb | ⟨t, _, _, _, _, _, hb⟩
    · exact .inr ⟨s, group, hb ▸ hs, hup, hg, hf, hc⟩
    · -- Who is down already is not taken down again.
      obtain rfl := Option.some.inj (hs.symm.trans hb)
      exact nomatch hup

end Falls

/-! ### One strike -/

/-- **What a strike does**: it takes the plugin down if it is up and has a failed group, and else changes nothing.
Nothing else about strikes is unfolded in what follows. -/
theorem strike_cases (a : List Stake) (i : Nat) :
    (strike a i = a ∧ ∀ s, a[i]? = some s → s.standing = .up → failedGroup? a s = none) ∨
      ∃ s group, a[i]? = some s ∧ s.standing = .up ∧ failedGroup? a s = some group ∧
        strike a i = a.set i { s with standing := .down, cause := some group } := by
  unfold strike
  split
  · next s hs =>
    split_ifs with hup
    · split
      · next group hg => exact .inr ⟨s, group, hs, hup, hg, rfl⟩
      · next hg => exact .inl ⟨rfl, fun t ht _ => Option.some.inj (ht.symm.trans hs) ▸ hg⟩
    · exact .inl ⟨rfl, fun t ht h => absurd (Option.some.inj (ht.symm.trans hs) ▸ h) hup⟩
  · next hs => exact .inl ⟨rfl, fun t ht => nomatch ht.symm.trans hs⟩

/-- Taking down a plugin that is up for a group that has failed is a fall. -/
theorem falls_set {s : Stake} {group : List Nat} (hs : a[i]? = some s) (hup : s.standing = .up)
    (hg : failedGroup? a s = some group) :
    Falls a (a.set i { s with standing := .down, cause := some group }) := by
  have hi : i < a.length := (List.getElem?_eq_some_iff.1 hs).1
  have hself : (a.set i { s with standing := .down, cause := some group })[i]? =
      some { s with standing := .down, cause := some group } := by rw [List.getElem?_set_self hi]
  refine ⟨List.length_set .., fun k => ?_⟩
  rcases eq_or_ne i k with rfl | hk
  · refine .inr ⟨s, group, hs, hup, List.mem_of_find?_eq_some hg, ?_, hself⟩
    have hf := List.find?_some hg
    rw [hasFailed, Bool.and_eq_true, List.all_eq_true] at hf ⊢
    refine ⟨hf.1, fun j hj => ?_⟩
    rcases eq_or_ne i j with rfl | hij
    · rw [isDown, hself]; rfl
    · rw [isDown, List.getElem?_set_ne hij]; exact hf.2 j hj
  · exact .inl (List.getElem?_set_ne hk)

/-- Each strike is a fall of at most one plugin. -/
theorem falls_strike (a : List Stake) (i : Nat) : Falls a (strike a i) := by
  rcases strike_cases a i with ⟨h, -⟩ | ⟨s, group, hs, hup, hg, h⟩ <;> rw [h]
  · exact .refl a
  · exact falls_set hs hup hg

/-- A strike that changes something leaves fewer plugins up, which is why the rounds of strikes end. -/
theorem upCount_strike (a : List Stake) (i : Nat) : strike a i = a ∨ upCount (strike a i) < upCount a := by
  rcases strike_cases a i with ⟨h, -⟩ | ⟨s, group, hs, hup, hg, h⟩
  · exact .inl h
  · refine .inr ?_
    obtain ⟨hi, rfl⟩ := List.getElem?_eq_some_iff.1 hs
    have hpos : 0 < upCount a := List.countP_pos_iff.2 ⟨a[i], List.getElem_mem hi, by simp [hup]⟩
    rw [h, upCount, List.countP_set hi]
    simp only [hup, decide_true, if_true, reduceCtorEq, decide_false, Bool.false_eq_true, if_false]
    rw [upCount] at hpos ⊢
    omega

/-! ### The closure -/

/-- What each strike keeps, a round of strikes keeps. -/
theorem foldl_strike_induction {P : List Stake → Prop} (hstrike : ∀ a i, P a → P (strike a i)) (l : List Nat)
    {a : List Stake} (h : P a) : P (l.foldl strike a) := by
  induction l generalizing a with
  | nil => exact h
  | cons i l ih => exact ih (hstrike a i h)

/-- **What every strike keeps, the closure keeps.**  The closure goes round after round; here is its only induction on
rounds, and the facts below are read off it. -/
theorem settle_induction {P : List Stake → Prop} (hstrike : ∀ a i, P a → P (strike a i)) {a : List Stake} (h : P a) :
    P (settle a) := by
  fun_induction settle a with
  | case1 a _ _ ih => exact ih (foldl_strike_induction hstrike _ h)
  | case2 a => exact foldl_strike_induction hstrike _ h

/-- **The closure is a fall**: nobody gets up, and whoever goes down has a group that failed.  It is the case of a
whole closure of `falls_strike`, by induction over the strikes that it is made of. -/
theorem falls_settle (a : List Stake) : Falls a (settle a) :=
  settle_induction (P := Falls a) (fun b i h => h.trans (falls_strike b i)) (.refl a)

/-- **Plugins that support one another stay.**  None of them is down at first, and each group of one that is up has
one of them as a member. -/
theorem not_isDown_settle {U : Nat → Prop} (hdown : ∀ k, U k → ¬ isDown a k)
    (hgroups : ∀ k s, U k → a[k]? = some s → s.standing = .up → ∀ g ∈ s.groups, ∃ j ∈ g, U j) :
    ∀ k, U k → ¬ isDown (settle a) k := by
  refine (settle_induction (P := fun b => Falls a b ∧ ∀ k, U k → ¬ isDown b k) (fun b i h => ?_)
    ⟨.refl a, hdown⟩).2
  refine ⟨h.1.trans (falls_strike b i), fun k hk hd => ?_⟩
  rcases (falls_strike b i).place k with he | ⟨s, g, hs, hup, hg, hf, _⟩
  · rw [isDown, he] at hd
    exact h.2 k hk hd
  · rcases strike_cases b i with ⟨he, -⟩ | ⟨t, g', ht, _, hg', he⟩
    · rw [he] at hd; exact h.2 k hk hd
    · -- The plugin struck is the one at `k`: all members of its failed group are down before the strike.
      rcases eq_or_ne i k with rfl | hne
      · obtain rfl := Option.some.inj (ht.symm.trans hs)
        have hs₀ : a[i]? = some t := by
          rcases h.1.place i with h₀ | ⟨_, _, _, _, _, _, h₀⟩
          · exact h₀ ▸ ht
          · obtain rfl := Option.some.inj (ht.symm.trans h₀)
            exact nomatch hup
        obtain ⟨j, hj, hU⟩ := hgroups i t hk hs₀ hup g' (List.mem_of_find?_eq_some hg')
        have hf' := List.find?_some hg'
        rw [hasFailed, Bool.and_eq_true, List.all_eq_true] at hf'
        exact h.2 j hU (hf'.2 j hj)
      · rw [isDown, he, List.getElem?_set_ne hne] at hd
        exact h.2 k hk hd

/-- A round of strikes never leaves more plugins up, and a round that leaves as many has changed nothing at all. -/
theorem upCount_foldl_strike (l : List Nat) (a : List Stake) :
    upCount (l.foldl strike a) ≤ upCount a ∧
      (upCount (l.foldl strike a) = upCount a → ∀ i ∈ l, strike a i = a) := by
  induction l generalizing a with
  | nil => exact ⟨Nat.le_refl _, fun _ _ h => nomatch h⟩
  | cons i l ih =>
    rw [List.foldl_cons]
    obtain ⟨hle, heq⟩ := ih (strike a i)
    rcases upCount_strike a i with h | h
    · rw [h] at hle heq ⊢
      exact ⟨hle, fun he j hj => (List.mem_cons.1 hj).elim (fun hji => hji ▸ h) (heq he j)⟩
    · exact ⟨by omega, fun he => by omega⟩

/-- A round of strikes that change nothing changes nothing. -/
theorem foldl_strike_eq {l : List Nat} (h : ∀ i ∈ l, strike a i = a) : l.foldl strike a = a := by
  induction l with
  | nil => rfl
  | cons i l ih =>
    rw [List.foldl_cons, h i (List.mem_cons_self ..)]
    exact ih fun j hj => h j (List.mem_cons_of_mem _ hj)

/-- In the end no strike changes anything: there are as many rounds as plugins, and each but the last takes one down.
-/
theorem strike_settle (a : List Stake) (hi : i < a.length) : strike (settle a) i = settle a := by
  fun_induction settle a with
  | case1 a swept _ ih =>
    refine ih (Nat.lt_of_lt_of_eq hi ?_)
    exact (foldl_strike_induction (P := Falls a) (fun b i h => h.trans (falls_strike b i)) _ (.refl a)).length.symm
  | case2 a swept hlt =>
    obtain ⟨hle, heq⟩ := upCount_foldl_strike (List.range a.length) a
    have hstop := heq (Nat.le_antisymm hle (Nat.not_lt.1 hlt))
    rw [show swept = a from foldl_strike_eq hstop]
    exact hstop i (List.mem_range.2 hi)

/-- **In the end a plugin that is up has no failed group.**  This is the other half of the closure, beside
`not_isDown_settle`. -/
theorem hasFailed_settle {s : Stake} (hs : (settle a)[k]? = some s) (hup : s.standing = .up) :
    ∀ g ∈ s.groups, hasFailed (settle a) g = false := by
  have hk : k < a.length := (falls_settle a).length ▸ (List.getElem?_eq_some_iff.1 hs).1
  rcases strike_cases (settle a) k with ⟨-, h⟩ | ⟨t, g, ht, hup, hg, h⟩
  · intro g hg
    exact Bool.eq_false_iff.2 (List.find?_eq_none.1 (h s hs hup) g hg)
  · -- The strike would change the standing at `k`, but in the end no strike changes anything.
    have hself := (strike_settle a hk).symm.trans h
    rw [hself, List.getElem?_set_self ((falls_settle a).length ▸ hk)] at ht
    rw [← Option.some.inj ht] at hup
    exact nomatch hup

end BringUp
end Calibration
