/-
# Rejections as a least closed set

A set of plugins is closed if it has each plugin with a failed group, that is, with a group that has members and has
all of them in the set (`ClosedUnder`).  Whatever is taken down for a failed group stays within every closed set that
has those who were down before, and a loop that ends has left nothing to take down, so that its end is closed: it is
the least closed set over the plugins that were down at first (`Loop.TakesDown.run_isLeast`).  That says nothing of
the order in which the places are visited, of who was down already when a plugin came to be looked at, or of the
rounds that were made; hence all of these lead to the same set, and so do the loop over marks (`takesDown_withdraw`)
and the one over states (`takesDown_withdrawLate`), whose steps are otherwise different.
-/

import Calibration.Proofs.BringUp.Loops
import Mathlib.Data.Finset.Card
import Mathlib.Order.Bounds.Basic

namespace Calibration
namespace BringUp

/-! ### Closed sets -/

/-- A group has members, and a set has all of them. -/
def Fails (S : Set Nat) (group : List Nat) : Prop := group ≠ [] ∧ ∀ j ∈ group, j ∈ S

/-- A set that has the plugins rejected at first, and each plugin with a failed group. -/
structure ClosedUnder (groups : Nat → List (List Nat)) (first S : Set Nat) : Prop where
  first : first ⊆ S
  failed : ∀ k, ∀ group ∈ groups k, Fails S group → k ∈ S

/-- A group that fails with fewer plugins down fails with more. -/
theorem Fails.mono {S T : Set Nat} {group : List Nat} (h : S ⊆ T) (hg : Fails S group) : Fails T group :=
  ⟨hg.1, fun j hj => h (hg.2 j hj)⟩

/-- The first failed group as the loops look for it: they find one exactly if the plugin has a group that fails. -/
theorem find?_fails {S : Set Nat} {rejected : Nat → Bool} (hS : ∀ j, j ∈ S ↔ rejected j) {groups : List (List Nat)} :
    (∀ group, (groups.find? fun group => !group.isEmpty && group.all rejected) = some group →
      group ∈ groups ∧ Fails S group) ∧
    ((groups.find? fun group => !group.isEmpty && group.all rejected) = none →
      ∀ group ∈ groups, ¬ Fails S group) := by
  have hfails : ∀ group : List Nat, (!group.isEmpty && group.all rejected) = true ↔ Fails S group := by
    intro group
    rw [Bool.and_eq_true, Bool.not_eq_true', List.isEmpty_eq_false_iff, List.all_eq_true]
    exact and_congr_right' (forall₂_congr fun j _ => (hS j).symm)
  constructor
  · intro group h
    have hgroup := List.find?_some h
    exact ⟨List.mem_of_find?_eq_some h, (hfails group).1 hgroup⟩
  · intro h group hg hf
    exact List.find?_eq_none.1 h group hg ((hfails group).2 hf)

/-! ### Loops that take plugins down -/

namespace Loop

variable {σ : Type} {step : σ → Nat → Option σ} {n : Nat} {groups : Nat → List (List Nat)} {valid : σ → Prop}
  {down : σ → Set Nat} {s s' : σ} {places : List Nat}

/-- A step over `n` places takes a plugin down that was not, for a group of it that has failed; it does so whenever
there is such a group. -/
structure TakesDown (step : σ → Nat → Option σ) (n : Nat) (groups : Nat → List (List Nat)) (valid : σ → Prop)
    (down : σ → Set Nat) : Prop where
  takes : ∀ {s i s'}, valid s → step s i = some s' →
    valid s' ∧ i < n ∧ i ∉ down s ∧ (∃ group ∈ groups i, Fails (down s) group) ∧ down s' = insert i (down s)
  leaves : ∀ {s i}, valid s → step s i = none → ∀ group ∈ groups i, Fails (down s) group → i ∈ down s

/-- Places where nothing is to be done are passed over, and the round reports no change. -/
theorem round_of_none (hnone : ∀ i ∈ places, step s i = none) : round step places s = (false, s) := by
  induction places with
  | nil => rfl
  | cons i rest ih =>
    obtain ⟨hi, hrest⟩ := List.forall_mem_cons.1 hnone
    rw [round, hi]
    exact ih hrest

/-- The loop over `n` places ends with a set of plugins down, in whatever order it visits them, and if it is made once
more, in this or another order, it changes nothing. -/
def EndsAlways (step : σ → Nat → Option σ) (n : Nat) (down : σ → Set Nat) (s : σ) (S : Set Nat) : Prop :=
  ∀ places, (∀ i, i ∈ places ↔ i < n) →
    ∃ s', run step places (n + 1) s = some s' ∧ down s' = S ∧ ∀ again, round step again s' = (false, s')

/-- A later state: who was down stays down, and who is down has to be. -/
structure Sinks (groups : Nat → List (List Nat)) (valid : σ → Prop) (down : σ → Set Nat) (s s' : σ) : Prop where
  valid : valid s'
  grows : down s ⊆ down s'
  within : ∀ S, ClosedUnder groups (down s) S → down s' ⊆ S

/-- A state is a later one of itself. -/
theorem Sinks.refl (h : valid s) : Sinks groups valid down s s := ⟨h, fun _ hk => hk, fun _ hS => hS.first⟩

/-- Of a later state a later one is a later one: who has to be down stays the same on the way. -/
theorem Sinks.trans {t : σ} (hs : Sinks groups valid down s s') (ht : Sinks groups valid down s' t) :
    Sinks groups valid down s t :=
  ⟨ht.valid, hs.grows.trans ht.grows, fun S hS => ht.within S ⟨hs.within S hS, hS.failed⟩⟩

open Classical in
/-- Once a place has gone down, fewer are left, which bounds the number of rounds. -/
theorem Sinks.card_lt (h : Sinks groups valid down s s') {i : Nat} (hi : i < n) (hnot : i ∉ down s)
    (hnow : i ∈ down s') :
    ((Finset.range n).filter (· ∉ down s')).card < ((Finset.range n).filter (· ∉ down s)).card := by
  refine Finset.card_lt_card (Finset.ssubset_iff_subset_ne.2 ⟨fun j hj => ?_, fun he => ?_⟩)
  · rw [Finset.mem_filter] at hj ⊢
    exact ⟨hj.1, fun hd => hj.2 (h.grows hd)⟩
  · have hmem : i ∈ (Finset.range n).filter (· ∉ down s) := Finset.mem_filter.2 ⟨Finset.mem_range.2 hi, hnot⟩
    rw [← he, Finset.mem_filter] at hmem
    exact hmem.2 hnow

namespace TakesDown

variable (h : TakesDown step n groups valid down)

include h

/-- **A step leads to a later state**: whoever it takes down has a failed group, and so is in every closed set.  This
is the half of leastness that one step has to show. -/
theorem sinks {i : Nat} (hs : valid s) (hstep : step s i = some s') : Sinks groups valid down s s' := by
  obtain ⟨hs', -, -, ⟨group, hg, hfails⟩, hdown⟩ := h.takes hs hstep
  refine ⟨hs', hdown ▸ Set.subset_insert i _, fun S hS => hdown ▸ Set.insert_subset ?_ hS.first⟩
  exact hS.failed i group hg (hfails.mono hS.first)

/-- A round takes somebody down and says so, or finds nothing to do. -/
theorem round_sinks (places : List Nat) (hs : valid s) :
    Sinks groups valid down s (round step places s).2 ∧
      ((round step places s).1 = true ∧ (∃ i < n, i ∉ down s ∧ i ∈ down (round step places s).2) ∨
        round step places s = (false, s) ∧ ∀ i ∈ places, step s i = none) := by
  induction places generalizing s with
  | nil => exact ⟨.refl hs, .inr ⟨rfl, fun _ hi => nomatch hi⟩⟩
  | cons i rest ih =>
    rw [round]
    cases hstep : step s i with
    | none =>
      obtain ⟨hsinks, hcases⟩ := ih hs
      refine ⟨hsinks, hcases.imp_right (And.imp_right fun hnone => ?_)⟩
      exact List.forall_mem_cons.2 ⟨hstep, hnone⟩
    | some s' =>
      obtain ⟨hs', hi, hnot, -, hdown⟩ := h.takes hs hstep
      have hrest := (ih hs').1
      refine ⟨(h.sinks hs hstep).trans hrest, .inl ⟨rfl, i, hi, hnot, hrest.grows ?_⟩⟩
      exact hdown ▸ Set.mem_insert i _

open Classical in
/-- Rounds come to an end, at the latest when all places are down. -/
theorem run_sinks (places : List Nat) {k : Nat} (hs : valid s) (hk : ((Finset.range n).filter (· ∉ down s)).card < k) :
    ∃ s', run step places k s = some s' ∧ Sinks groups valid down s s' ∧ ∀ i ∈ places, step s' i = none := by
  induction k generalizing s with
  | zero => exact absurd hk (Nat.not_lt_zero _)
  | succ k ih =>
    obtain ⟨hsinks, ⟨hflag, i, hi, hnot, hnow⟩ | ⟨hsame, hnone⟩⟩ := h.round_sinks places hs
    · have hfewer := hsinks.card_lt hi hnot hnow
      obtain ⟨s', hrun, hlater, hnone⟩ := ih hsinks.valid (Nat.lt_of_lt_of_le hfewer (Nat.le_of_lt_succ hk))
      refine ⟨s', ?_, hsinks.trans hlater, hnone⟩
      rw [run, show round step places s = (true, (round step places s).2) from Prod.ext hflag rfl]
      exact hrun
    · exact ⟨s, by rw [run, hsame], .refl hs, hnone⟩

/-- Where nothing is left to do, the plugins that are down are a closed set. -/
theorem closedUnder_of_none {first : Set Nat} (hfirst : first ⊆ down s) (hs : valid s) (hnone : ∀ i, step s i = none) :
    ClosedUnder groups first (down s) :=
  ⟨hfirst, fun k group hg hfails => h.leaves hs (hnone k) group hg hfails⟩

/-- **A loop ends with the least closed set**, in whatever order it visits the places, and finds nothing to do from
then on.  It never leaves the closed sets, and where it ends nothing is left to do, so that its end is closed itself.
-/
theorem run_isLeast (places : List Nat) (hs : valid s) (hplaces : ∀ i < n, i ∈ places) :
    ∃ s', run step places (n + 1) s = some s' ∧ valid s' ∧ (∀ i, step s' i = none) ∧
      IsLeast {S | ClosedUnder groups (down s) S} (down s') := by
  classical
  have hk : ((Finset.range n).filter (· ∉ down s)).card < n + 1 := by
    refine Nat.lt_succ_of_le ((Finset.card_filter_le _ _).trans_eq ?_)
    exact Finset.card_range n
  obtain ⟨s', hrun, hsinks, hnone⟩ := h.run_sinks places hs hk
  have hnone : ∀ i, step s' i = none := by
    intro i
    cases hstep : step s' i with
    | none => rfl
    | some t => exact (hnone i (hplaces i (h.takes hsinks.valid hstep).2.1)).symm.trans hstep ▸ rfl
  exact ⟨s', hrun, hsinks.valid, hnone, h.closedUnder_of_none hsinks.grows hsinks.valid hnone, hsinks.within⟩

/-- **The order and the rounds make no difference**: the loop ends with the least closed set, and made again it
changes nothing. -/
theorem endsAlways (hs : valid s) {S : Set Nat} (hS : IsLeast {S | ClosedUnder groups (down s) S} S) :
    EndsAlways step n down s S := by
  intro places hplaces
  obtain ⟨s', hrun, -, hnone, hleast⟩ := h.run_isLeast places hs fun i hi => (hplaces i).2 hi
  exact ⟨s', hrun, hleast.unique hS, fun again => round_of_none fun i _ => hnone i⟩

end TakesDown

/-- A place where a round of its own changes nothing has nothing to be done. -/
theorem step_of_round {i : Nat} (h : round step [i] s = (false, s)) : step s i = none := by
  cases hstep : step s i with
  | none => rfl
  | some s' =>
    rw [round, hstep] at h
    cases h

/-- A state where a round changes nothing is where the loop ends. -/
theorem run_of_round {k : Nat} (h : round step places s = (false, s)) : run step places (k + 1) s = some s := by
  rw [run, h]

end Loop

end BringUp

/-- Who needs somebody has a place. -/
theorem Roster.lt_size_of_mem_needs {r : Roster} {k : Nat} {group : List Nat} (h : group ∈ (r.entry k).needs) :
    k < r.size := by
  by_contra hk
  rw [show (r.entry k).needs = (default : Entry).outline.needs from
    congrArg Outline.needs (r.outline_of_size_le k (Nat.not_lt.1 hk))] at h
  cases h

/-! ### The loop over marks -/

namespace BringUp

open Loop

namespace Check

/-- The plugins that are rejected. -/
def rejects (c : Check) : Set Nat := {k | (c.mark k).isRejected}

/-- Every plugin was asked, and none is being asked: each is accepted or rejected. -/
structure IsDecided (c : Check) : Prop where
  length : c.marks.length = c.roster.size
  mark : ∀ k < c.roster.size, c.mark k = .accepted ∨ (c.mark k).isRejected

variable {c : Check}

/-- Who is rejected is told by its mark. -/
theorem mem_rejects {k : Nat} : k ∈ c.rejects ↔ (c.mark k).isRejected := Iff.rfl

/-- A rejection adds one plugin to those that are rejected. -/
theorem rejects_setMark {i : Nat} (hi : i < c.marks.length) (reason : String) :
    (c.setMark i (.rejected reason)).rejects = insert i c.rejects := by
  ext k
  rw [Set.mem_insert_iff, mem_rejects, mem_rejects, mark_setMark _ hi]
  split_ifs with hk
  · exact iff_of_true rfl (.inl hk)
  · exact (or_iff_right hk).symm

/-- Marks that are decided stay so when one of them becomes a rejection. -/
theorem IsDecided.setMark {i : Nat} (h : c.IsDecided) (hi : i < c.marks.length) (reason : String) :
    (c.setMark i (.rejected reason)).IsDecided := by
  refine ⟨(List.length_set ..).trans h.length, fun k hk => ?_⟩
  rw [mark_setMark _ hi]
  split_ifs
  · exact .inr rfl
  · exact h.mark k hk

/-- **The loop over marks takes down who is accepted and has a failed group**, and nobody else; so it ends with the
least closed set. -/
theorem takesDown_withdraw (r : Roster) :
    TakesDown withdraw? r.size (fun k => (r.entry k).needs) (fun c => c.roster = r ∧ c.IsDecided) rejects := by
  constructor
  case takes =>
    rintro c i c' ⟨rfl, hc⟩ hstep
    rw [withdraw?] at hstep
    split_ifs at hstep with hm
    obtain ⟨group, hgroup, rfl⟩ := Option.map_eq_some_iff.1 hstep
    obtain ⟨hg, hfails⟩ := (find?_fails (S := c.rejects) fun _ => Iff.rfl).1 group hgroup
    have hi : i < c.roster.size := Roster.lt_size_of_mem_needs hg
    refine ⟨⟨rfl, hc.setMark (hc.length ▸ hi) _⟩, hi, fun hr => ?_, ⟨group, hg, hfails⟩,
      rejects_setMark (hc.length ▸ hi) _⟩
    rw [mem_rejects, hm] at hr
    cases hr
  case leaves =>
    rintro c i ⟨rfl, hc⟩ hstep group hg hfails
    refine (hc.mark i (Roster.lt_size_of_mem_needs hg)).resolve_left fun hm => ?_
    rw [withdraw?, if_pos hm, Option.map_eq_none_iff] at hstep
    exact (find?_fails (S := c.rejects) fun _ => Iff.rfl).2 hstep group hg hfails

/-- The settled marks are those that the loop ends with, and settling them once more changes nothing. -/
theorem settled_of_endsAlways (h : c.marks.length = c.roster.size) {S : Set Nat}
    (hS : EndsAlways withdraw? c.roster.size rejects c S) :
    run withdraw? (List.range c.roster.size) (c.roster.size + 1) c = some c.settled ∧ c.settled.rejects = S ∧
      c.settled.settled = c.settled := by
  obtain ⟨c', hrun, hdown, hagain⟩ := hS (List.range c.roster.size) fun _ => List.mem_range
  obtain ⟨_, hfirst, rfl⟩ := (ends_withdraw h).stops
  obtain rfl := Option.some.inj (hfirst.symm.trans hrun)
  obtain ⟨_, hsecond, rfl⟩ := (ends_withdraw (c := c.settled) (length_settled h)).stops
  refine ⟨hrun, hdown, ?_⟩
  exact Option.some.inj (hsecond.symm.trans (run_of_round (hagain _)))

end Check
end BringUp

/-! ### The loop over states -/

namespace Roster

open BringUp BringUp.Loop

/-- The plugins that are rejected. -/
def rejects (r : Roster) : Set Nat := {k | (r.handle k).state.isRejected}

/-- Every plugin was through the late check: each has passed all phases or is rejected. -/
def IsDecided (r : Roster) : Prop := ∀ k < r.size, (r.handle k).state = .depsFinalized ∨ (r.handle k).state.isRejected

variable {r : Roster}

/-- Who is rejected is told by its state. -/
theorem mem_rejects {k : Nat} : k ∈ r.rejects ↔ (r.handle k).state.isRejected := Iff.rfl

/-- A plugin that has passed all phases may be rejected, and its rejection changes no other state. -/
theorem state_move_rejected {i : Nat} (hi : i < r.size) (hs : (r.handle i).state = .depsFinalized)
    (stage : BringUpStage) (reason : String) (k : Nat) :
    ((r.move i (.rejected stage reason)).handle k).state =
      if k = i then .rejected stage reason else (r.handle k).state := by
  rw [state_handle, state_handle]
  by_cases hk : k = i
  · subst hk
    rw [outline_move_self r k hi (by rw [← state_handle, hs]; rfl), if_pos rfl]
  · rw [outline_move_of_ne _ _ _ _ hk, if_neg hk]

/-- **Nothing is to be done for a plugin** exactly if it has not passed all phases or none of its groups has failed.
-/
theorem withdrawLate?_eq_none {i : Nat} :
    r.withdrawLate? i = none ↔ ((r.handle i).state = .depsFinalized →
      ((r.entry i).needs.find? fun group => !group.isEmpty && group.all fun j => (r.handle j).state.isRejected) =
        none) := by
  rw [withdrawLate?]
  split_ifs with hs
  · rw [Option.map_eq_none_iff, forall_prop_of_true hs]
  · exact iff_of_true rfl fun h => absurd h hs

/-- **The loop over states takes down who has passed all phases and has a failed group**, and nobody else.  With this
the results on loops that take down hold of it. -/
theorem takesDown_withdrawLate (r : Roster) :
    TakesDown withdrawLate? r.size (fun k => (r.entry k).needs)
      (fun r' => r'.size = r.size ∧ (∀ k, (r'.entry k).needs = (r.entry k).needs) ∧ r'.IsDecided) rejects := by
  constructor
  case takes =>
    rintro r' i r'' ⟨hsize, hneeds, hr⟩ hstep
    rw [withdrawLate?] at hstep
    split_ifs at hstep with hs
    obtain ⟨group, hgroup, rfl⟩ := Option.map_eq_some_iff.1 hstep
    obtain ⟨hg, hfails⟩ := (find?_fails (S := r'.rejects) fun _ => Iff.rfl).1 group hgroup
    have hi : i < r'.size := lt_size_of_mem_needs hg
    have hstate := state_move_rejected hi hs .postCheckDeps (dependencyReason r' group)
    refine ⟨⟨(size_move ..).trans hsize, fun k => ?_, fun k hk => ?_⟩, hsize ▸ hi, fun hd => ?_,
      ⟨group, hneeds i ▸ hg, hfails⟩, ?_⟩
    · rw [← hneeds k, entry_move]
      split_ifs <;> rfl
    · rw [hstate]
      split_ifs
      · exact .inr rfl
      · exact hr k (size_move .. ▸ hk)
    · rw [mem_rejects, hs] at hd
      cases hd
    · ext k
      rw [Set.mem_insert_iff, mem_rejects, mem_rejects, hstate]
      split_ifs with hk
      · exact iff_of_true rfl (.inl hk)
      · exact (or_iff_right hk).symm
  case leaves =>
    rintro r' i ⟨hsize, hneeds, hr⟩ hstep group hg hfails
    rw [← hneeds i] at hg
    refine (hr i (lt_size_of_mem_needs hg)).resolve_left fun hs => ?_
    exact (find?_fails (S := r'.rejects) fun _ => Iff.rfl).2 (withdrawLate?_eq_none.1 hstep hs) group hg hfails

/-- What is to be done, and who is rejected, is read off the entries; the journal has no part in it. -/
theorem of_entries_eq {r' : Roster} (h : r'.entries = r.entries) :
    r'.rejects = r.rejects ∧ ∀ i, r'.withdrawLate? i = none ↔ r.withdrawLate? i = none := by
  obtain ⟨entries, journal⟩ := r
  obtain ⟨_, journal'⟩ := r'
  obtain rfl := h
  refine ⟨rfl, fun i => ?_⟩
  rw [withdrawLate?_eq_none, withdrawLate?_eq_none]
  exact Iff.rfl

/-- The plugins that the late rejections leave are those that the loop ends with, and settling these once more changes
no plugin. -/
theorem settleLate_of_endsAlways {S : Set Nat} (hS : EndsAlways withdrawLate? r.size rejects r S) :
    (∃ r', run withdrawLate? (List.range r.size) (r.size + 1) r = some r' ∧ r'.entries = r.settleLate.entries) ∧
      r.settleLate.rejects = S ∧ r.settleLate.settleLate.entries = r.settleLate.entries := by
  obtain ⟨r', hrun, rfl, hagain⟩ := hS (List.range r.size) fun _ => List.mem_range
  obtain ⟨_, hfirst, hentries⟩ := (ends_withdrawLate r).stops
  obtain rfl := Option.some.inj (hfirst.symm.trans hrun)
  obtain ⟨hrejects, hnone⟩ := of_entries_eq hentries
  refine ⟨⟨_, hrun, hentries⟩, hrejects.symm, ?_⟩
  have hstill : ∀ i, r.settleLate.withdrawLate? i = none := by
    intro i
    exact (hnone i).1 (step_of_round (hagain [i]))
  obtain ⟨_, hsecond, hsame⟩ := (ends_withdrawLate r.settleLate).stops
  obtain rfl := Option.some.inj (hsecond.symm.trans (run_of_round (round_of_none fun i _ => hstill i)))
  exact hsame.symm

/-! ### Both loops -/

/-- A roster late in bring-up has the task of a check: as many plugins, with the same groups, and the same ones rejected
at first. -/
structure SharesTask (r : Roster) (c : Check) : Prop where
  size : r.size = c.roster.size
  needs : ∀ k < r.size, (r.entry k).needs = (c.roster.entry k).needs
  rejected : ∀ k < r.size, (r.handle k).state.isRejected = (c.mark k).isRejected

/-- No groups are recorded where no plugin is. -/
theorem needs_of_size_le {k : Nat} (h : r.size ≤ k) : (r.entry k).needs = [] :=
  congrArg Outline.needs (r.outline_of_size_le k h)

/-- Both loops look at the same groups. -/
theorem SharesTask.needs_eq {c : Check} (h : r.SharesTask c) (k : Nat) :
    (r.entry k).needs = (c.roster.entry k).needs := by
  by_cases hk : k < r.size
  · exact h.needs k hk
  · rw [needs_of_size_le (Nat.not_lt.1 hk), needs_of_size_le (h.size ▸ Nat.not_lt.1 hk)]

/-- Both loops begin with the same plugins down. -/
theorem SharesTask.rejects_eq {c : Check} (h : r.SharesTask c) (hlength : c.marks.length = c.roster.size) :
    r.rejects = c.rejects := by
  ext k
  rw [mem_rejects, Check.mem_rejects]
  by_cases hk : k < r.size
  · rw [h.rejected k hk]
  · have hk := Nat.not_lt.1 hk
    rw [state_handle, r.outline_of_size_le k hk, Check.mark,
      List.getElem?_eq_none (hlength.trans_le (h.size ▸ hk))]
    rfl

end Roster

open BringUp BringUp.Loop Roster in
/-- **Both loops come to the least closed set**: of the plugins rejected at first, those with a failed group, and no
others.  They do so in whatever order they visit the plugins, and change nothing when they are made once more; the
settled marks and the settled states are what they come to in load order. -/
theorem BringUp.exists_isLeast_closedUnder {c : Check} {r : Roster} (hc : c.IsDecided) (hr : r.IsDecided)
    (h : r.SharesTask c) :
    ∃ S, IsLeast {S | ClosedUnder (fun k => (c.roster.entry k).needs) c.rejects S} S ∧
      (EndsAlways Check.withdraw? c.roster.size Check.rejects c S ∧
        run Check.withdraw? (List.range c.roster.size) (c.roster.size + 1) c = some c.settled ∧
        c.settled.rejects = S ∧ c.settled.settled = c.settled) ∧
      EndsAlways withdrawLate? r.size Roster.rejects r S ∧
        (∃ r', run withdrawLate? (List.range r.size) (r.size + 1) r = some r' ∧ r'.entries = r.settleLate.entries) ∧
        r.settleLate.rejects = S ∧ r.settleLate.settleLate.entries = r.settleLate.entries := by
  have hmarks := Check.takesDown_withdraw c.roster
  have hstates := takesDown_withdrawLate r
  obtain ⟨c', -, -, -, hleast⟩ := hmarks.run_isLeast (List.range c.roster.size) ⟨rfl, hc⟩ fun i hi =>
    List.mem_range.2 hi
  have hmarksEnd := hmarks.endsAlways ⟨rfl, hc⟩ hleast
  have hstatesEnd : EndsAlways withdrawLate? r.size Roster.rejects r c'.rejects := by
    refine hstates.endsAlways ⟨rfl, fun _ => rfl, hr⟩ ?_
    rw [h.rejects_eq hc.length, funext h.needs_eq]
    exact hleast
  exact ⟨c'.rejects, hleast, ⟨hmarksEnd, Check.settled_of_endsAlways hc.length hmarksEnd⟩, hstatesEnd,
    settleLate_of_endsAlways hstatesEnd⟩

namespace BringUp

/-- Five plugins, of which the fourth is rejected: it takes the third down, that one the second, and that one the first,
against the order in which they stand; the last needs itself, and nobody in particular. -/
def fallingRow (up : Lifecycle) : Roster where
  entries := [(up, [[1]]), (up, [[2], []]), (up, [[0, 1, 4], [3]]), (.rejected .postLoad "no device", []),
    (up, [[], [4]])].map fun (state, needs) =>
      { handle := { Handle.ofPlugin { name := "part" } with state }, origin := .static, needs : Entry }

/-- The marks of the row. -/
def fallingCheck : Check where
  roster := fallingRow .postLoaded
  marks := [.accepted, .accepted, .accepted, .rejected "no device", .accepted]

/-- Marks and states of the row come to the same set, though its plugins go down against the order in which they are
visited. -/
theorem fallingRow_isLeast :
    fallingCheck.IsDecided ∧ (fallingRow .depsFinalized).IsDecided ∧
      (fallingRow .depsFinalized).SharesTask fallingCheck ∧
      ∃ S, IsLeast {S | ClosedUnder (fun k => (fallingCheck.roster.entry k).needs) fallingCheck.rejects S} S ∧
        fallingCheck.settled.rejects = S ∧ (fallingRow .depsFinalized).settleLate.rejects = S := by
  have hcheck : fallingCheck.IsDecided := ⟨rfl, by decide⟩
  have hrow : (fallingRow .depsFinalized).IsDecided := by
    unfold Roster.IsDecided
    decide
  have hshares : (fallingRow .depsFinalized).SharesTask fallingCheck := ⟨rfl, by decide, by decide⟩
  obtain ⟨S, hleast, ⟨-, -, hmarks, -⟩, -, -, hstates, -⟩ := exists_isLeast_closedUnder hcheck hrow hshares
  exact ⟨hcheck, hrow, hshares, S, hleast, hmarks, hstates⟩

end BringUp
end Calibration
