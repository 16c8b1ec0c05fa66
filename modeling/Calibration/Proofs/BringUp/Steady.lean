/-
# Plugins with fixed needs

A steady plugin asks for the same needs in the same order in every dependency check, fails as soon as one of them
is not met, and else ends in the same way; its late check always ends in the same way too.  The order of its
requests is that of its program (`Asks`), not of one run.  A set of plugins is self-supporting when all of them end
well and each need of each of them is met by another one of them.
-/

import Calibration.Proofs.BringUp.Phases
import Mathlib.Data.Set.Function
import Mathlib.Order.Bounds.Basic

namespace Calibration

/-- The plugin is one of those that a request asks for. -/
def Plugin.Meets (p : Plugin) : NeedRequest → Prop
  | .require name => p.name = name
  | .requireAttributes attributes => ∀ a ∈ attributes, a ∈ p.attributes

/-- The reply to a request grants it. -/
def NeedRequest.isGranted : (q : NeedRequest) → needSignature.Reply q → Bool
  | .require _, reply => Except.isOk reply
  | .requireAttributes _, reply => Except.isOk reply

/-- The program of a dependency check, begun with a memory. -/
abbrev NeedTask := Task needSignature.noting (Except Halt Unit × Dict)

/-- Asks for needs in order and fails at the first that is not met; then comes to an end. -/
def NeedCode.requireAll (outcome : Except Halt Unit) : List NeedRequest → NeedCode Unit
  | [] => ExceptT.mk (pure outcome)
  | .require name :: needs => do
    match ← NeedCode.require name with
    | .ok _ => requireAll outcome needs
    | .error e => Code.fail e
  | .requireAttributes attributes :: needs => do
    match ← NeedCode.requireAttributes attributes with
    | .ok _ => requireAll outcome needs
    | .error e => Code.fail e

namespace NeedTask

/-- The program asks for nothing more and fails. -/
inductive Fails : NeedTask → Prop where
  | done (halt : Halt) (memory : Dict) : Fails (.done (.error halt, memory))
  | note {line : String} {next : Unit → NeedTask} (h : Fails (next ())) : Fails (.ask (.note line) next)

/-- The program asks for the needs in order, fails at the first that is not met, and else ends well or not as
`passes` says. -/
inductive Asks (passes : Bool) : List NeedRequest → NeedTask → Prop where
  | done {result : Except Halt Unit} {memory : Dict} (h : result.isOk = passes) :
    Asks passes [] (.done (result, memory))
  | note {needs : List NeedRequest} {line : String} {next : Unit → NeedTask} (h : Asks passes needs (next ())) :
      Asks passes needs (.ask (.note line) next)
  | ask {q : NeedRequest} {needs : List NeedRequest} {next : needSignature.Reply q → NeedTask}
      (granted : ∀ reply, q.isGranted reply = true → Asks passes needs (next reply))
      (refused : ∀ reply, q.isGranted reply = false → Fails (next reply)) :
      Asks passes (q :: needs) (.ask (.other q) next)

/-- **A program that asks for needs one after the other** asks for them in this order, as `Asks` says.  The first need
that is refused ends it. -/
theorem asks_requireAll (outcome : Except Halt Unit) (needs : List NeedRequest) (memory : Dict) :
    NeedTask.Asks outcome.isOk needs ((NeedCode.requireAll outcome needs).run.run memory) := by
  induction needs with
  | nil => exact .done rfl
  | cons q needs ih =>
    cases q with
    | require name =>
      refine .ask (fun reply h => ?_) (fun reply h => ?_)
      · cases reply with
        | ok _ => exact ih
        | error _ => exact nomatch h
      · cases reply with
        | ok _ => exact nomatch h
        | error e => exact .done (.failed e) memory
    | requireAttributes attributes =>
      refine .ask (fun reply h => ?_) (fun reply h => ?_)
      · cases reply with
        | ok _ => exact ih
        | error _ => exact nomatch h
      · cases reply with
        | ok _ => exact nomatch h
        | error e => exact .done (.failed e) memory

end NeedTask

/-- A plugin whose bring-up always takes the same course. -/
structure SteadyPlugin where
  plugin : Plugin
  /-- What the dependency check asks for. -/
  needs : List NeedRequest
  /-- How the dependency check ends once all needs are met. -/
  checks : Bool
  /-- How the late check ends. -/
  stays : Bool
  asks : ∀ views memory, NeedTask.Asks checks needs ((plugin.checkDeps views).run.run memory)
  late : ∀ views memory, (plugin.postCheckDeps views).succeeds memory = stays

namespace SteadyPlugin

/-- The steady plugin of a name, some attributes and some needs. -/
def ofNeeds (name : String) (attributes : List String) (needs : List NeedRequest) : SteadyPlugin where
  plugin := { name, attributes, checkDeps := fun _ => .requireAll (.ok ()) needs }
  needs := needs
  checks := true
  stays := true
  asks _ memory := NeedTask.asks_requireAll (.ok ()) needs memory
  late _ _ := rfl
/-- How the plugin ends tending itself on loading. -/
def loads (p : SteadyPlugin) : Bool := p.plugin.postLoad.succeeds p.plugin.memory

/-- All that the plugin does on its own ends well. -/
def IsSound (p : SteadyPlugin) : Prop := p.loads ∧ p.checks ∧ p.stays

/-- Each of some plugins ends well, and each of its needs is met by another one of them. -/
def SelfSupporting {ι : Type} (p : ι → SteadyPlugin) (A : Set ι) : Prop :=
  ∀ i ∈ A, (p i).IsSound ∧ ∀ q ∈ (p i).needs, ∃ j ∈ A, j ≠ i ∧ (p j).plugin.Meets q

/-- The union of all self-supporting sets is the greatest of them. -/
theorem isGreatest_selfSupporting {ι : Type} (p : ι → SteadyPlugin) :
    IsGreatest {A | SelfSupporting p A} {i | ∃ A, SelfSupporting p A ∧ i ∈ A} := by
  refine ⟨fun i hi => ?_, fun A hA i hi => ⟨A, hA, hi⟩⟩
  obtain ⟨A, hA, hi⟩ := hi
  obtain ⟨hsound, hmet⟩ := hA i hi
  refine ⟨hsound, fun q hq => ?_⟩
  obtain ⟨j, hj, hne, hm⟩ := hmet q hq
  exact ⟨j, ⟨A, hA, hj⟩, hne, hm⟩

section Renaming

variable {ι κ : Type} {p : ι → SteadyPlugin} {f : κ → ι} {s : Set κ}

/-- Under other names for all plugins a self-supporting set stays one. -/
theorem SelfSupporting.preimage {A : Set ι} (hA : SelfSupporting p A) (hf : Set.BijOn f s Set.univ) :
    SelfSupporting (fun k => p (f k)) {k | k ∈ s ∧ f k ∈ A} := by
  rintro k ⟨-, hk⟩
  obtain ⟨hsound, hmet⟩ := hA (f k) hk
  refine ⟨hsound, fun q hq => ?_⟩
  obtain ⟨j, hj, hne, hmeets⟩ := hmet q hq
  obtain ⟨m, hm, rfl⟩ := hf.surjOn (Set.mem_univ j)
  exact ⟨m, ⟨hm, hj⟩, fun h => hne (h ▸ rfl), hmeets⟩

/-- Under new names that tell the plugins apart a self-supporting set stays one. -/
theorem SelfSupporting.image {B : Set κ} (hB : SelfSupporting (fun k => p (f k)) B) (hf : Set.InjOn f B) :
    SelfSupporting p (f '' B) := by
  rintro _ ⟨k, hk, rfl⟩
  obtain ⟨hsound, hmet⟩ := hB k hk
  refine ⟨hsound, fun q hq => ?_⟩
  obtain ⟨j, hj, hne, hmeets⟩ := hmet q hq
  exact ⟨f j, ⟨j, hj, rfl⟩, fun h => hne (hf hj hk h), hmeets⟩

end Renaming

end SteadyPlugin

namespace BringUp
namespace Check

open NeedTask

variable {c : Check} {ask : Nat → Check → Bool × Check} {asker : Nat}

/-- A request that is granted. -/
def grants (ask : Nat → Check → Bool × Check) (asker : Nat) (q : NeedRequest) (c : Check) : Bool :=
  q.isGranted (serve ask asker (.other q) c).1

/-- The candidates for a name are the others that meet the request for it. -/
theorem mem_candidates_iff_meets {j : Nat} (name : String) :
    j ∈ c.candidates asker (fun p => p.name = name) ↔
      j < c.roster.size ∧ j ≠ asker ∧ (c.roster.outline j).plugin.Meets (.require name) := by
  rw [mem_candidates, decide_eq_true_iff]
  exact Iff.rfl

/-- The candidates for some attributes are the others that meet the request for them. -/
theorem mem_candidates_iff_meets_attributes {j : Nat} (attributes : List String) :
    j ∈ c.candidates asker (·.hasAttributes attributes) ↔
      j < c.roster.size ∧ j ≠ asker ∧ (c.roster.outline j).plugin.Meets (.requireAttributes attributes) := by
  rw [mem_candidates, PluginView.hasAttributes, List.all_eq_true]
  simp only [PluginView.hasAttribute, List.contains_iff_mem]
  exact Iff.rfl

/-- A group is recorded of others that meet a need. -/
def Vouched (c : Check) (asker : Nat) (q : NeedRequest) : Prop :=
  ∃ g ∈ (c.roster.outline asker).needs, g ≠ [] ∧
    ∀ j ∈ g, j < c.roster.size ∧ j ≠ asker ∧ (c.roster.outline j).plugin.Meets q

/-- What is vouched for stays so. -/
theorem Vouched.progress {c' : Check} {q : NeedRequest} (h : c.Vouched asker q) (hc : c.Progress c') :
    c'.Vouched asker q := by
  obtain ⟨g, hg, hne, hj⟩ := h
  refine ⟨g, hc.mem_needs hg, hne, fun j hm => ?_⟩
  rw [hc.size, hc.plugin]
  exact hj j hm

/-- A group of others that meet a need vouches for it once it is recorded. -/
theorem vouched_addNeed {g : List Nat} {q : NeedRequest} (hi : asker < c.roster.size) (hne : g ≠ [])
    (hg : ∀ j ∈ g, j < c.roster.size ∧ j ≠ asker ∧ (c.roster.outline j).plugin.Meets q) :
    (c.addNeed asker g).Vouched asker q := by
  refine ⟨g, ?_, hne, fun j hj => ?_⟩
  · rw [outline_addNeed, if_pos ⟨rfl, hi⟩]
    exact List.mem_append_right _ (List.mem_singleton.2 rfl)
  · obtain ⟨hlt, hja, hm⟩ := hg j hj
    refine ⟨by rw [addNeed, Roster.size_modify]; exact hlt, hja, ?_⟩
    rw [outline_addNeed, if_neg fun h => hja h.1]
    exact hm

/-- **A need that is granted is recorded.**  The group on record has members, and all of them are others that meet the
need, so that the closure has something to hold the plugin to. -/
theorem vouched_serve (hask : ∀ j (c : Check), c.Progress (ask j c).2) (hi : asker < c.roster.size) {q : NeedRequest}
    (h : grants ask asker q c) : (serve ask asker (.other q) c).2.Vouched asker q := by
  revert h
  rcases q with name | attributes
  · obtain ⟨hc, hj⟩ := progress_firstPassing hask (c.candidates asker fun p => p.name = name) c
    simp only [grants, serve]
    split
    · next j c' heq =>
      intro _
      rw [heq] at hc hj
      refine vouched_addNeed (by rw [hc.size]; exact hi) (List.cons_ne_nil _ _) fun k hk => ?_
      rw [List.mem_singleton.1 hk, hc.size, hc.plugin]
      exact (mem_candidates_iff_meets name).1 (hj j rfl)
    · intro h; cases h
  · obtain ⟨hc, hj⟩ := progress_allPassing hask (c.candidates asker (·.hasAttributes attributes)) c
    simp only [grants, serve]
    split_ifs with hempty
    · intro h; cases h
    · intro _
      refine vouched_addNeed (by rw [hc.size]; exact hi) (fun h => hempty (List.isEmpty_iff.2 h)) fun k hk => ?_
      rw [hc.size, hc.plugin]
      exact (mem_candidates_iff_meets_attributes attributes).1 (hj k hk)

/-- A program that asks for nothing more and fails ends in failure, whatever its host does. -/
theorem isOk_run_of_fails (ask : Nat → Check → Bool × Check) (asker : Nat) {t : NeedTask} (h : t.Fails) (c : Check) :
    (t.run (serve ask asker) c).1.1.isOk = false := by
  induction h generalizing c with
  | done halt memory => rfl
  | note _ ih => exact ih _

/-- **A dependency check that ends well has recorded every need.**  The induction follows the needs of the program: it
goes on only where a request was granted, and a granted request is on record. -/
theorem vouched_run (hask : ∀ j (c : Check), c.Progress (ask j c).2) {passes : Bool} {needs : List NeedRequest}
    {t : NeedTask} (h : t.Asks passes needs) (hm : c.mark asker = .inProgress) (hi : asker < c.roster.size)
    (hok : (t.run (serve ask asker) c).1.1.isOk) :
    passes = true ∧ ∀ q ∈ needs, (t.run (serve ask asker) c).2.Vouched asker q := by
  induction h generalizing c with
  | done h => exact ⟨h ▸ hok, nofun⟩
  | note _ ih => exact ih (c := (serve ask asker (.note _) c).2) hm hi hok
  | @ask q needs next _ refused ih =>
    have hp := progress_serve hask hm (.other q)
    have hg : grants ask asker q c := by
      by_contra hg
      have hf := isOk_run_of_fails ask asker (refused _ (Bool.eq_false_iff.2 hg)) (serve ask asker (.other q) c).2
      exact absurd hok (Bool.eq_false_iff.1 hf)
    obtain ⟨hpass, hneeds⟩ := ih _ hg (hp.mark_of_inProgress hm) (hp.size ▸ hi) hok
    refine ⟨hpass, fun q' hq => ?_⟩
    rcases List.mem_cons.1 hq with rfl | hq
    · exact (vouched_serve hask hi hg).progress (progress_run hask (hp.mark_of_inProgress hm) _)
    · exact hneeds q' hq

end Check
end BringUp
end Calibration
