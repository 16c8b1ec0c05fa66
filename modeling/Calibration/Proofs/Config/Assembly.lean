/-
# A chain from its plan

A chain is put together name by name.  The look-up gives the first runnable plugin of a name, and if there is none, the
first plugin of that name (`runnableByName_cases`); the chain takes the former and refuses the latter
(`appendNamed_cases`).  So a plan comes to a chain exactly when each of its names has a runnable plugin, and else the
first name that has none is reported (`ChainPlan.builds`).  The dict of the chain is asked for in any case, and nothing
else of the host changes.
-/

import Calibration.Config.Chains
import Calibration.Proofs.Roster.Outline
import Calibration.Proofs.Store.Tables
import Mathlib.Data.List.Forall2

namespace Calibration

/-- The plugin has the name and is runnable. -/
def Handle.Carries (name : String) (h : Handle) : Prop := h.name = name ∧ h.state = .runnable

namespace Roster

/-- The first place whose handle has a property. -/
structure IsFirst (r : Roster) (p : Handle → Prop) (k : Nat) : Prop where
  lt : k < r.size
  holds : p (r.handle k)
  before : ∀ j < k, ¬ p (r.handle j)

/-- Some plugin has the name and is runnable. -/
def Carries (r : Roster) (name : String) : Prop := ∃ k < r.size, (r.handle k).Carries name

/-- What is reported of a name that no runnable plugin has: that nobody has it, or how far the first plugin of that name
has come. -/
def Reports (r : Roster) (name : String) (e : RegistryError) : Prop :=
  (∀ k < r.size, (r.handle k).name ≠ name) ∧ e = .notFound name ∨
    ∃ k, r.IsFirst (·.name = name) k ∧ e = .chain (.notRunnable name (r.handle k).state.text)

/-- The first of some names that no runnable plugin has, and what is reported of it. -/
def Misses (r : Roster) (names : List String) (e : RegistryError) : Prop :=
  ∃ before name after, names = before ++ name :: after ∧ (∀ n ∈ before, r.Carries n) ∧ ¬ r.Carries name ∧
    r.Reports name e

variable {r : Roster} {p : Handle → Prop} {b : Nat → Bool} {name : String} {k : Nat}

/-- A look-up in load order finds the first place with the property. -/
theorem find?_range_eq_some_iff (hb : ∀ i, b i = true ↔ p (r.handle i)) :
    (List.range r.size).find? b = some k ↔ r.IsFirst p k := by
  rw [List.find?_range_eq_some]
  constructor
  · rintro ⟨hk, hlt, hbefore⟩
    refine ⟨List.mem_range.1 hlt, (hb k).1 hk, fun j hj hp => ?_⟩
    have hnot := hbefore j hj
    rw [(hb j).2 hp] at hnot
    exact Bool.false_ne_true hnot
  · rintro ⟨hlt, hk, hbefore⟩
    refine ⟨(hb k).2 hk, List.mem_range.2 hlt, fun j hj => ?_⟩
    rw [Bool.eq_false_iff.2 fun h => hbefore j hj ((hb j).1 h)]
    rfl

/-- It finds nothing if no place has it. -/
theorem find?_range_eq_none_iff (hb : ∀ i, b i = true ↔ p (r.handle i)) :
    (List.range r.size).find? b = none ↔ ∀ k < r.size, ¬ p (r.handle k) := by
  rw [List.find?_eq_none]
  exact forall_congr' fun k => imp_congr List.mem_range (not_congr (hb k))

/-- A first plugin that carries a name is one that does. -/
theorem IsFirst.carries (h : r.IsFirst (·.Carries name) k) : r.Carries name := ⟨k, h.lt, h.holds⟩

/-- What a row of names misses is still missed with a name before it that is carried. -/
theorem Misses.cons {names : List String} {e : RegistryError} (h : r.Misses names e) (hname : r.Carries name) :
    r.Misses (name :: names) e := by
  obtain ⟨before, missing, after, rfl, hbefore, hmissing, he⟩ := h
  exact ⟨name :: before, missing, after, rfl, List.forall_mem_cons.2 ⟨hname, hbefore⟩, hmissing, he⟩

end Roster

namespace Host

variable {h : Host} {name : String}

/-- **The look-up by a name** gives the first runnable plugin of the name, or else the first plugin of the name.  In
the second case the plugin is not runnable, which whoever builds a chain has to check. -/
theorem runnableByName_cases (h : Host) (name : String) :
    (∃ k, h.runnableByName name = .ok k ∧ h.roster.IsFirst (·.Carries name) k) ∨
      ¬ h.roster.Carries name ∧
        ((∃ k, h.runnableByName name = .ok k ∧ h.roster.IsFirst (·.name = name) k) ∨
          (∀ k < h.roster.size, (h.roster.handle k).name ≠ name) ∧
            h.runnableByName name = .error (.notFound name)) := by
  let named (i : Nat) : Bool := decide ((h.roster.handle i).name = name)
  let runnable (i : Nat) : Bool := (h.roster.handle i).view.isRunnable
  have hnamed : ∀ i, named i = true ↔ (h.roster.handle i).name = name := fun i => decide_eq_true_iff
  have hboth : ∀ i, decide (named i = true ∧ runnable i = true) = true ↔ (h.roster.handle i).Carries name := by
    intro i
    rw [decide_eq_true_iff]
    exact and_congr (hnamed i) decide_eq_true_iff
  have hhead : ((List.range h.roster.size).filter named).head? = (List.range h.roster.size).find? named :=
    List.head?_filter ..
  have hfind : ((List.range h.roster.size).filter named).find? runnable =
      (List.range h.roster.size).find? fun i => decide (named i = true ∧ runnable i = true) := List.find?_filter ..
  cases hfilter : (List.range h.roster.size).filter named with
  | nil =>
    have hlookup : h.runnableByName name = .error (.notFound name) := by rw [runnableByName, hfilter]
    rw [hfilter] at hhead
    have hnobody := (Roster.find?_range_eq_none_iff (p := (·.name = name)) hnamed).1 hhead.symm
    refine .inr ⟨?_, .inr ⟨hnobody, hlookup⟩⟩
    rintro ⟨k, hk, hname, -⟩
    exact hnobody k hk hname
  | cons first rest =>
    have hlookup : h.runnableByName name = .ok (((first :: rest).find? runnable).getD first) := by
      rw [runnableByName, hfilter]
    rw [hfilter] at hhead hfind
    have hfirst := (Roster.find?_range_eq_some_iff (p := (·.name = name)) hnamed).1 hhead.symm
    cases hfound : (first :: rest).find? runnable with
    | some k =>
      rw [hfound] at hlookup
      exact .inl ⟨k, hlookup, (Roster.find?_range_eq_some_iff hboth).1 (hfind.symm.trans hfound)⟩
    | none =>
      rw [hfound] at hlookup
      have hnobody := (Roster.find?_range_eq_none_iff hboth).1 (hfind.symm.trans hfound)
      refine .inr ⟨?_, .inl ⟨first, hlookup, hfirst⟩⟩
      rintro ⟨k, hk, hcarries⟩
      exact hnobody k hk hcarries

end Host

namespace Chain

variable {h : Host} {r : Roster} {c : Chain} {name : String} {k : Nat}

/-- A runnable plugin is taken into the chain, behind the others. -/
theorem append_of_carries (hk : (r.handle k).Carries name) :
    c.append r k = .ok { c with members := c.members ++ [k] } :=
  if_pos (decide_eq_true hk.2)

/-- A plugin that is not runnable is refused, with the state that it is in. -/
theorem append_of_not_carries (hname : (r.handle k).name = name) (hk : ¬ (r.handle k).Carries name) :
    c.append r k = .error (.notRunnable name (r.handle k).state.text) := by
  have hrun : ¬ (r.handle k).view.isRunnable = true := fun hrun => hk ⟨hname, of_decide_eq_true hrun⟩
  rw [append, if_neg hrun, hname]

/-- **Names are put to a chain one by one**, up to the first that no runnable plugin has.  Either all of them are
carried and the chain has the first runnable plugin of each, or the first one that is missed is reported. -/
theorem appendNamed_cases (h : Host) (c : Chain) (names : List String) :
    (∃ members, c.appendNamed h names = .ok { c with members := c.members ++ members } ∧
        List.Forall₂ (fun name k => h.roster.IsFirst (·.Carries name) k) names members) ∨
      ∃ e, c.appendNamed h names = .error e ∧ h.roster.Misses names e := by
  induction names generalizing c with
  | nil => exact .inl ⟨[], by rw [appendNamed, List.append_nil], .nil⟩
  | cons name names ih =>
    rw [appendNamed]
    rcases h.runnableByName_cases name with ⟨k, hlookup, hfirst⟩ | ⟨hnone, ⟨k, hlookup, hfirst⟩ | ⟨hnobody, hlookup⟩⟩
    · -- The name has a runnable plugin, and the others follow.
      simp only [hlookup, append_of_carries hfirst.holds]
      rcases ih { c with members := c.members ++ [k] } with ⟨members, hmembers, hrow⟩ | ⟨e, he, hmisses⟩
      · refine .inl ⟨k :: members, hmembers.trans ?_, .cons hfirst hrow⟩
        simp only [List.append_assoc, List.singleton_append]
      · exact .inr ⟨e, he, hmisses.cons hfirst.carries⟩
    · have hrefused := append_of_not_carries (c := c) hfirst.holds fun hk => hnone ⟨k, hfirst.lt, hk⟩
      simp only [hlookup, hrefused]
      exact .inr ⟨_, rfl, [], name, names, rfl, nofun, hnone, .inr ⟨k, hfirst, rfl⟩⟩
    · simp only [hlookup]
      exact .inr ⟨_, rfl, [], name, names, rfl, nofun, hnone, .inl ⟨hnobody, rfl⟩⟩

/-- The store has no part in it. -/
theorem appendNamed_withStore (h : Host) (s : Store) (c : Chain) (names : List String) :
    c.appendNamed { h with store := s } names = c.appendNamed h names := by
  induction names generalizing c with
  | nil => rfl
  | cons name names ih =>
    simp only [appendNamed, ih]
    rfl

end Chain

namespace ChainPlan

/-- A chain is what its plan says: its plugins are, name by name, the first that are runnable. -/
structure Assembles (p : ChainPlan) (r : Roster) (c : Chain) : Prop where
  members : List.Forall₂ (fun name k => r.IsFirst (·.Carries name) k) p.plugins c.members
  settings : c =
    { name := p.name, dictName := p.dict, table := Host.mainTable, isBound := true, members := c.members,
      period := p.period, isHidden := p.isHidden, policy := p.policy }

/-- What becomes of a plan, and of the host: plugins stay as they are, and the dict of the plan is provided. -/
structure Builds (p : ChainPlan) (h : Host) (result : Except RegistryError Chain) (h' : Host) : Prop where
  isOk_iff : (∃ c, result = .ok c) ↔ ∀ name ∈ p.plugins, h.roster.Carries name
  assembled : ∀ c, result = .ok c → p.Assembles h.roster c
  missed : ∀ e, result = .error e → h.roster.Misses p.plugins e
  host : h' = { h with store := (h.store.newDict Host.mainTable p.dict).2 }
  dict : Host.mainTable < h.store.tables.length →
    Store.Provides Host.mainTable p.dict h.store (h.store.newDict Host.mainTable p.dict).1 h'.store

variable {p : ChainPlan} {h : Host} {r : Roster} {c : Chain}

/-- A plan that is assembled has only names that are carried. -/
theorem Assembles.carries (hc : p.Assembles r c) : ∀ name ∈ p.plugins, r.Carries name :=
  ((List.forall₂_and_left ..).1 (hc.members.imp fun _ _ h => ⟨h.carries, h⟩)).1

/-- The plugins of an assembled chain are runnable. -/
theorem Assembles.runnable (hc : p.Assembles r c) : ∀ k ∈ c.members, (r.handle k).state = .runnable :=
  ((List.forall₂_and_left ..).1 (hc.members.flip.imp fun _ _ h => ⟨h.holds.2, h⟩)).1

/-- What a plan comes to hangs on the roster of the host only. -/
theorem build_eq (p : ChainPlan) (h : Host) :
    (p.build h).1 = ((h.newChain p.name p.dict).1.appendNamed h p.plugins).map fun c =>
      { c with period := p.period, isHidden := p.isHidden, policy := p.policy } :=
  congrArg (Except.map _) (Chain.appendNamed_withStore ..)

/-- What a plan comes to does not depend on the store. -/
theorem build_withStore (p : ChainPlan) (h : Host) (s : Store) :
    (p.build { h with store := s }).1 = (p.build h).1 := by
  rw [build_eq, build_eq, Chain.appendNamed_withStore]
  rfl

/-- **A plan is built exactly if each of its names has a runnable plugin**, and else the first that has none is told.
Its dict is provided in either case, and the plugins stay as they are. -/
theorem builds (p : ChainPlan) (h : Host) : p.Builds h (p.build h).1 (p.build h).2 := by
  have hhost : (p.build h).2 = { h with store := (h.store.newDict Host.mainTable p.dict).2 } := rfl
  have hdict := fun hmain => Store.provides_newDict (s := h.store) (t := Host.mainTable) hmain p.dict
  rw [build_eq, hhost]
  rcases Chain.appendNamed_cases h (h.newChain p.name p.dict).1 p.plugins with
    ⟨members, hmembers, hrow⟩ | ⟨e, he, hmisses⟩
  · rw [hmembers]
    have hassembles : p.Assembles h.roster
        { name := p.name, dictName := p.dict, table := Host.mainTable, isBound := true, members := members,
          period := p.period, isHidden := p.isHidden, policy := p.policy } := ⟨hrow, rfl⟩
    refine ⟨iff_of_true ⟨_, rfl⟩ hassembles.carries, ?_, nofun, rfl, hdict⟩
    intro c hc
    exact Except.ok.inj hc ▸ hassembles
  · rw [he]
    refine ⟨iff_of_false nofun fun hall => ?_, nofun, ?_, rfl, hdict⟩
    · obtain ⟨before, name, after, hnames, -, hnone, -⟩ := hmisses
      exact hnone (hall name (hnames ▸ List.mem_append_right before List.mem_cons_self))
    · intro e' he'
      exact Except.error.inj he' ▸ hmisses

end ChainPlan
end Calibration
