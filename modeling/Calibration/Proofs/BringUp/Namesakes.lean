/-
# The walk among plugins that share names

A need for a name is met by the first plugin of the name that passes, and no other one is put on record for it.  A
plugin that is being checked already passes as well, although its check may still fail; that happens only when the
walk has come back to it in a circle.  So the plugins that share a required name must not lead into a circle: then
the one that is put on record can be relied on.

`Reliable` is the invariant of the walk.  It speaks of the greatest set `S` of plugins that end well and meet one
another's needs: no member of `S` is rejected, each group on record for a member has a member, and a group on record
for a plugin that leads into no circle has members only.  When a plugin is asked, all plugins that are being checked
lead to it (`Waits`), so that one that leads into no circle passes only if it is a member (`answers_pass`).
-/

import Calibration.Proofs.BringUp.Bounds
import Mathlib.Logic.Relation

namespace Calibration

open Relation

/-- A plugin that asks for the same needs in the same order in every dependency check. -/
structure NeedyPlugin where
  plugin : Plugin
  /-- What the dependency check asks for. -/
  needs : List NeedRequest
  /-- How the dependency check ends once all needs are met. -/
  checks : Bool
  asks : ∀ views memory, NeedTask.Asks checks needs ((plugin.checkDeps views).run.run memory)

namespace NeedyPlugin

/-- Asking for needs one after the other is what it says. -/
theorem asks_needs (needs : List NeedRequest) (_ : List PluginView) (memory : Dict) :
    NeedTask.Asks true needs ((NeedCode.requireAll (.ok ()) needs).run.run memory) :=
  NeedTask.asks_requireAll (.ok ()) needs memory

/-- The plugin of a name with some needs, whose check ends well once they are met. -/
def ofNeeds (name : String) (needs : List NeedRequest) : NeedyPlugin where
  plugin := { name, checkDeps := fun _ => .requireAll (.ok ()) needs }
  needs := needs
  checks := true
  asks := asks_needs needs

/-- How the plugin ends tending itself on loading. -/
def loads (p : NeedyPlugin) : Bool := p.plugin.postLoad.succeeds p.plugin.memory

variable {ι : Type} (p : ι → NeedyPlugin)

/-- Another plugin meets a need of the first. -/
def Leads (i j : ι) : Prop := j ≠ i ∧ ∃ q ∈ (p i).needs, (p j).plugin.Meets q

/-- From the plugin the needs lead into a circle. -/
def Entangled (i : ι) : Prop := ∃ m, ReflTransGen (Leads p) i m ∧ TransGen (Leads p) m m

/-- Each of some plugins is loaded and ends its dependency check well, and each of its needs is met by another one
of them. -/
def SelfChecking (A : Set ι) : Prop :=
  ∀ i ∈ A, (p i).loads ∧ (p i).checks ∧ ∀ q ∈ (p i).needs, ∃ j ∈ A, j ≠ i ∧ (p j).plugin.Meets q

/-- All plugins that share a required name are the same one, or lead into no circle. -/
def Untangled : Prop :=
  ∀ i name, .require name ∈ (p i).needs → ∀ j k, j ≠ i → k ≠ i → (p j).plugin.name = name →
    (p k).plugin.name = name → j = k ∨ ¬ Entangled p j

variable {p} {S : Set ι} {i j : ι}

/-- The union of all self-checking sets is the greatest of them. -/
theorem isGreatest_selfChecking (p : ι → NeedyPlugin) :
    IsGreatest {A | SelfChecking p A} {i | ∃ A, SelfChecking p A ∧ i ∈ A} := by
  constructor
  · rintro i ⟨A, hA, hi⟩
    obtain ⟨hloads, hchecks, hmet⟩ := hA i hi
    refine ⟨hloads, hchecks, ?_⟩
    intro q hq
    obtain ⟨j, hj, hne, hm⟩ := hmet q hq
    exact ⟨j, ⟨A, hA, hj⟩, hne, hm⟩
  · intro A hA i hi
    exact ⟨A, hA, hi⟩

/-- A plugin that ends well and whose needs are met in the greatest self-checking set is in it. -/
theorem mem_of_met (hS : IsGreatest {A | SelfChecking p A} S) (hloads : (p i).loads) (hchecks : (p i).checks)
    (hmet : ∀ q ∈ (p i).needs, ∃ j ∈ S, j ≠ i ∧ (p j).plugin.Meets q) : i ∈ S := by
  have hinsert : SelfChecking p (insert i S) := by
    rintro k (rfl | hk)
    · refine ⟨hloads, hchecks, ?_⟩
      intro q hq
      obtain ⟨j, hj, hne, hm⟩ := hmet q hq
      exact ⟨j, Set.mem_insert_of_mem _ hj, hne, hm⟩
    · obtain ⟨hl, hc, hneeds⟩ := hS.1 k hk
      refine ⟨hl, hc, ?_⟩
      intro q hq
      obtain ⟨j, hj, hne, hm⟩ := hneeds q hq
      exact ⟨j, Set.mem_insert_of_mem _ hj, hne, hm⟩
  exact hS.2 hinsert (Set.mem_insert i S)

/-- Who leads into a plugin that leads into a circle leads into that circle. -/
theorem Entangled.of_leads (h : Leads p i j) (hj : Entangled p j) : Entangled p i := by
  obtain ⟨m, hjm, hm⟩ := hj
  exact ⟨m, hjm.head h, hm⟩

/-- Who leads nowhere leads into no circle. -/
theorem not_entangled_of_not_leads (h : ∀ j, ¬ Leads p i j) : ¬ Entangled p i := by
  rintro ⟨m, him, hm⟩
  rcases ReflTransGen.cases_head him with rfl | ⟨j, hj, -⟩
  · obtain ⟨j, hj, -⟩ := TransGen.head'_iff.1 hm
    exact h j hj
  · exact h j hj

/-- Who leads back to itself is in a circle. -/
theorem entangled_of_transGen (h : TransGen (Leads p) i i) : Entangled p i := ⟨i, .refl, h⟩

end NeedyPlugin

namespace BringUp
namespace Check

open NeedTask NeedyPlugin

variable {ι : Type} {p : ι → NeedyPlugin} {who : Nat → ι} {S : Set ι} {n d i asker : Nat} {c c' : Check}
  {q : NeedRequest} {ask : Nat → Check → Bool × Check}

/-- There are `n` places with the plugins of a family, and at most `d` of them were not asked yet; what is recorded
can be relied on for the members of a set. -/
structure Reliable (p : ι → NeedyPlugin) (who : Nat → ι) (S : Set ι) (n d : Nat) (c : Check) : Prop where
  size : c.roster.size = n
  length : c.marks.length = n
  plugin : ∀ k, k < n → (c.roster.outline k).plugin = (p (who k)).plugin
  /-- Who is not rejected was loaded well. -/
  loads : ∀ k, k < n → (c.mark k).isRejected = false → (p (who k)).loads
  /-- Who is accepted ends its check well and has a group of others on record for each need. -/
  vouched : ∀ k, k < n → c.mark k = .accepted → (p (who k)).checks ∧ ∀ q ∈ (p (who k)).needs, c.Vouched k q
  /-- Members are not rejected. -/
  mark : ∀ k, k < n → who k ∈ S → (c.mark k).isRejected = false
  /-- Each group of a member has a member. -/
  group : ∀ k, k < n → who k ∈ S → ∀ g ∈ (c.roster.outline k).needs, ∃ j ∈ g, j < n ∧ who j ∈ S
  /-- Who leads into no circle has groups of members only. -/
  straight : ∀ k, k < n → ¬ Entangled p (who k) → ∀ g ∈ (c.roster.outline k).needs, ∀ j ∈ g, who j ∈ S
  depth : c.pendingCount ≤ d

namespace Reliable

/-- What can be relied on is told by the marks and the outlines. -/
theorem of_outlines_eq (h : c.Reliable p who S n d) (hm : c'.marks = c.marks)
    (ho : c'.roster.outlines = c.roster.outlines) : c'.Reliable p who S n d := by
  have hout := Roster.outline_of_outlines_eq ho
  have hmark : ∀ k, c'.mark k = c.mark k := by
    intro k
    rw [Check.mark, Check.mark, hm]
  constructor
  case size => exact (Roster.size_of_outlines_eq ho).trans h.size
  case length => exact hm ▸ h.length
  case plugin => simpa only [hout] using h.plugin
  case loads => simpa only [hmark] using h.loads
  case vouched =>
    intro k hk ha
    obtain ⟨hc, hv⟩ := h.vouched k hk (hmark k ▸ ha)
    exact ⟨hc, fun q hq => (hv q hq).of_outlines_eq ho⟩
  case mark => simpa only [hmark] using h.mark
  case group => simpa only [hout] using h.group
  case straight => simpa only [hout] using h.straight
  case depth => rw [pendingCount, hm]; exact h.depth

/-- **A group may be put on record** if it has a member, should the asker be one, and has members only, should the
asker lead into no circle. -/
theorem addNeed (h : c.Reliable p who S n d) {g : List Nat} (hmember : who asker ∈ S → ∃ j ∈ g, j < n ∧ who j ∈ S)
    (hstraight : ¬ Entangled p (who asker) → ∀ j ∈ g, who j ∈ S) : (c.addNeed asker g).Reliable p who S n d := by
  have hneeds : ∀ k, ∀ g' ∈ ((c.addNeed asker g).roster.outline k).needs,
      g' ∈ (c.roster.outline k).needs ∨ k = asker ∧ g' = g := by
    intro k g' hg'
    rw [outline_addNeed] at hg'
    split_ifs at hg' with hk
    · rcases List.mem_append.1 hg' with hg' | hg'
      · exact .inl hg'
      · exact .inr ⟨hk.1, List.mem_singleton.1 hg'⟩
    · exact .inl hg'
  constructor
  case size => exact (Roster.size_modify ..).trans h.size
  case length => exact h.length
  case plugin =>
    intro k hk
    rw [outline_addNeed]
    split_ifs <;> exact h.plugin k hk
  case loads => exact h.loads
  case vouched =>
    intro k hk ha
    obtain ⟨hc, hv⟩ := h.vouched k hk ha
    exact ⟨hc, fun q hq => (hv q hq).addNeed g⟩
  case mark => exact h.mark
  case group =>
    intro k hk hkS g' hg'
    rcases hneeds k g' hg' with hg' | ⟨rfl, rfl⟩
    · exact h.group k hk hkS g' hg'
    · exact hmember hkS
  case straight =>
    intro k hk hno g' hg'
    rcases hneeds k g' hg' with hg' | ⟨rfl, rfl⟩
    · exact h.straight k hk hno g' hg'
    · exact hstraight hno
  case depth => exact h.depth

/-- A mark that was pending or under way is set. -/
theorem setMark (h : c.Reliable p who S n d) {m : Mark} (hm : m ≠ .pending) (hi : (c.mark i).isRejected = false)
    (hvouched : m = .accepted → (p (who i)).checks ∧ ∀ q ∈ (p (who i)).needs, c.Vouched i q)
    (hmember : who i ∈ S → m.isRejected = false) : (c.setMark i m).Reliable p who S n d := by
  have hmark : ∀ k, k < n → (c.setMark i m).mark k = if k = i then m else c.mark k := by
    intro k hk
    by_cases hki : k = i
    · exact mark_setMark m (h.length ▸ hki ▸ hk)
    · rw [if_neg hki, Check.mark, Check.setMark, List.getElem?_set_ne (Ne.symm hki), Check.mark]
  constructor
  case size => exact h.size
  case length => exact (List.length_set ..).trans h.length
  case plugin => exact h.plugin
  case loads =>
    intro k hk hrej
    rw [hmark k hk] at hrej
    split_ifs at hrej with hki
    · exact h.loads k hk (hki ▸ hi)
    · exact h.loads k hk hrej
  case vouched =>
    intro k hk ha
    rw [hmark k hk] at ha
    split_ifs at ha with hki
    · exact hki ▸ hvouched ha
    · exact h.vouched k hk ha
  case mark =>
    intro k hk hkS
    rw [hmark k hk]
    split_ifs with hki
    · exact hmember (hki ▸ hkS)
    · exact h.mark k hk hkS
  case group => exact h.group
  case straight => exact h.straight
  case depth => exact Nat.le_trans (pendingCount_setMark_le hm) h.depth

/-- A bound on the plugins that were not asked yet may be taken larger. -/
theorem mono {d' : Nat} (h : c.Reliable p who S n d) (hd : d ≤ d') : c.Reliable p who S n d' :=
  { h with depth := Nat.le_trans h.depth hd }

/-- The program of a check asks for the needs of its plugin, in order. -/
theorem asks_program (h : c.Reliable p who S n d) (hi : i < n) :
    Asks (p (who i)).checks (p (who i)).needs (c.program i) := by
  have hp : (c.roster.handle i).plugin = (p (who i)).plugin := h.plugin i hi
  rw [program, hp]
  exact (p (who i)).asks _ _

/-- The candidates for a need are the others of the family that meet it. -/
theorem mem_candidates_iff {property : PluginView → Bool} {j : Nat} (h : c.Reliable p who S n d)
    (hproperty : j ∈ c.candidates asker property ↔
      j < c.roster.size ∧ j ≠ asker ∧ (c.roster.outline j).plugin.Meets q) :
    j ∈ c.candidates asker property ↔ j < n ∧ j ≠ asker ∧ (p (who j)).plugin.Meets q := by
  rw [hproperty, h.size]
  refine and_congr_right fun hj => ?_
  rw [h.plugin j hj]

end Reliable

/-- The plugins of a family that is not entangled have their places, and the set is the greatest self-checking one. -/
structure Numbered (p : ι → NeedyPlugin) (who : Nat → ι) (S : Set ι) (n : Nat) : Prop where
  places : Set.BijOn who (Set.Iio n) Set.univ
  greatest : IsGreatest {A | SelfChecking p A} S
  untangled : Untangled p

namespace Numbered

/-- Two places have two plugins. -/
theorem who_ne (hn : Numbered p who S n) {j : Nat} (hj : j < n) (hi : i < n) (hne : j ≠ i) : who j ≠ who i :=
  fun h => hne (hn.places.injOn hj hi h)

/-- A need of a member is met by another member, which has a place. -/
theorem exists_place (hn : Numbered p who S n) (hmem : who asker ∈ S) (hq : q ∈ (p (who asker)).needs) :
    ∃ j, j < n ∧ who j ∈ S ∧ j ≠ asker ∧ (p (who j)).plugin.Meets q := by
  obtain ⟨i, hi, hne, hm⟩ := (hn.greatest.1 _ hmem).2.2 q hq
  obtain ⟨j, hj, rfl⟩ := hn.places.surjOn (Set.mem_univ i)
  exact ⟨j, hj, hi, fun h => hne (h ▸ rfl), hm⟩

end Numbered

/-- From every plugin that is being checked the needs lead to the asker. -/
def Waits (p : ι → NeedyPlugin) (who : Nat → ι) (asker : Nat) (c : Check) : Prop :=
  ∀ m, c.mark m = .inProgress → ReflTransGen (Leads p) (who m) (who asker)

/-- Who leads to the asker still does, as the checks that go on meanwhile leave no plugin under way that was not. -/
theorem Waits.progress (h : c.Waits p who asker) (hc : c.Progress c') : c'.Waits p who asker := by
  intro m hm
  rcases hc.mark m with he | ⟨-, hd⟩
  · exact h m (he ▸ hm)
  · rw [hm] at hd
    exact nomatch hd

/-- Answers keep the record reliable, members pass, and of those that lead into no circle members only. -/
def Answers (p : ι → NeedyPlugin) (who : Nat → ι) (S : Set ι) (n d : Nat) (ask : Nat → Check → Bool × Check) : Prop :=
  ∀ j c, j < n → c.Reliable p who S n d →
    (∀ m, c.mark m = .inProgress → TransGen (Leads p) (who m) (who j)) →
      (ask j c).2.Reliable p who S n d ∧ (who j ∈ S → (ask j c).1) ∧
        (¬ Entangled p (who j) → (ask j c).1 → who j ∈ S)

/-- A program that asks for nothing and fails leaves the record as it was. -/
theorem reliable_run_of_fails (ask : Nat → Check → Bool × Check) (asker : Nat) {t : NeedTask} (ht : t.Fails)
    (h : c.Reliable p who S n d) : (t.run (serve ask asker) c).2.Reliable p who S n d := by
  induction ht generalizing c with
  | done halt memory => exact h
  | note _ ih => exact ih (h.of_outlines_eq rfl rfl)

section Walk

variable (hprogress : ∀ j (c : Check), c.Progress (ask j c).2) (hask : Answers p who S n d ask)
include hprogress hask

/-- The first that passes among plugins that meet a need of the asker.  It is a member, unless the asker leads into a
circle. -/
theorem firstPassing_answers {js : List Nat} (h : c.Reliable p who S n d) (hw : c.Waits p who asker)
    (hjs : ∀ j ∈ js, j < n ∧ Leads p (who asker) (who j)) :
    (firstPassing ask js c).2.Reliable p who S n d ∧
      (∀ j, (firstPassing ask js c).1 = some j → j ∈ js ∧ (¬ Entangled p (who j) → who j ∈ S)) ∧
        ((firstPassing ask js c).1 = none → ∀ j ∈ js, who j ∉ S) := by
  induction js generalizing c with
  | nil => simp [firstPassing, h]
  | cons j js ih =>
    obtain ⟨hj, hjs⟩ := List.forall_mem_cons.1 hjs
    obtain ⟨hc, hmem, hpass⟩ := hask j c hj.1 h fun m hm => .tail' (hw m hm) hj.2
    have hp := hprogress j c
    rw [firstPassing]
    split
    · next c₁ heq =>
      rw [heq] at hc hpass
      refine ⟨hc, ?_, fun hk => absurd hk (Option.some_ne_none j)⟩
      rintro _ ⟨⟩
      exact ⟨List.mem_cons_self, fun hno => hpass hno rfl⟩
    · next c₁ heq =>
      rw [heq] at hc hmem hp
      obtain ⟨hc₂, hsome, hnone⟩ := ih hc (hw.progress hp) hjs
      refine ⟨hc₂, ?_, ?_⟩
      · intro k hk
        exact ⟨List.mem_cons_of_mem _ (hsome k hk).1, (hsome k hk).2⟩
      · intro hk
        exact List.forall_mem_cons.2 ⟨fun hS => absurd (hmem hS) Bool.false_ne_true, hnone hk⟩

/-- Those that pass among plugins that meet a need of the asker. -/
theorem allPassing_answers {js : List Nat} (h : c.Reliable p who S n d) (hw : c.Waits p who asker)
    (hjs : ∀ j ∈ js, j < n ∧ Leads p (who asker) (who j)) :
    (allPassing ask js c).2.Reliable p who S n d ∧
      (∀ j ∈ (allPassing ask js c).1, ¬ Entangled p (who j) → who j ∈ S) ∧
        ∀ j ∈ js, who j ∈ S → j ∈ (allPassing ask js c).1 := by
  induction js generalizing c with
  | nil => simp [allPassing, h]
  | cons j js ih =>
    obtain ⟨hj, hjs⟩ := List.forall_mem_cons.1 hjs
    obtain ⟨hc, hmem, hpass⟩ := hask j c hj.1 h fun m hm => .tail' (hw m hm) hj.2
    obtain ⟨hc₂, hstraight, hmembers⟩ := ih hc (hw.progress (hprogress j c)) hjs
    simp only [allPassing]
    refine ⟨hc₂, ?_, ?_⟩
    · intro k hk hno
      split_ifs at hk with hp
      · rcases List.mem_cons.1 hk with rfl | hk
        · exact hpass hno hp
        · exact hstraight k hk hno
      · exact hstraight k hk hno
    · intro k hk hS
      rcases List.mem_cons.1 hk with rfl | hk
      · rw [if_pos (hmem hS)]
        exact List.mem_cons_self
      · split_ifs
        · exact List.mem_cons_of_mem _ (hmembers k hk hS)
        · exact hmembers k hk hS

variable (hn : Numbered p who S n)
include hn

/-- **A reply to a member grants its need**, and what it puts on record can be relied on.  A plugin that is in the
middle of its own check counts as passed, and is held to it later. -/
theorem reliable_serve (h : c.Reliable p who S n d) (hw : c.Waits p who asker) (hi : asker < n)
    (hq : q ∈ (p (who asker)).needs) :
    (serve ask asker (.other q) c).2.Reliable p who S n d ∧ (who asker ∈ S → grants ask asker q c) := by
  rcases q with name | attributes
  · let js := c.candidates asker fun p => p.name = name
    have hjs : ∀ j, j ∈ js ↔ j < n ∧ j ≠ asker ∧ (p (who j)).plugin.name = name :=
      fun j => h.mem_candidates_iff (mem_candidates_iff_meets name)
    have hleads : ∀ j ∈ js, j < n ∧ Leads p (who asker) (who j) := by
      intro j hj
      obtain ⟨hlt, hne, hm⟩ := (hjs j).1 hj
      exact ⟨hlt, hn.who_ne hlt hi hne, _, hq, hm⟩
    obtain ⟨hc, hsome, hnone⟩ := firstPassing_answers hprogress hask h hw hleads
    have hmember : who asker ∈ S → ∃ j ∈ js, who j ∈ S := by
      intro hmem
      obtain ⟨j, hj, hjS, hne, hm⟩ := hn.exists_place hmem hq
      exact ⟨j, (hjs j).2 ⟨hj, hne, hm⟩, hjS⟩
    simp only [grants, serve]
    split
    · next j c₁ heq =>
      rw [show firstPassing ask js c = _ from heq] at hc hsome
      obtain ⟨hj, hstraight⟩ := hsome j rfl
      refine ⟨hc.addNeed ?_ ?_, fun _ => rfl⟩
      · intro hmem
        -- The plugin that passed is the member itself, or shares its name with it and can be relied on.
        obtain ⟨k, hk, hkS⟩ := hmember hmem
        refine ⟨j, List.mem_singleton_self j, (hleads j hj).1, ?_⟩
        rcases hn.untangled _ name hq (who j) (who k) (hleads j hj).2.1 (hleads k hk).2.1 ((hjs j).1 hj).2.2
          ((hjs k).1 hk).2.2 with he | hno
        · exact he ▸ hkS
        · exact hstraight hno
      · intro hno k hk
        rw [List.mem_singleton.1 hk]
        exact hstraight fun he => hno (he.of_leads (hleads j hj).2)
    · next c₁ heq =>
      rw [show firstPassing ask js c = _ from heq] at hc hnone
      refine ⟨hc, ?_⟩
      intro hmem
      obtain ⟨k, hk, hkS⟩ := hmember hmem
      exact absurd hkS (hnone rfl k hk)
  · let js := c.candidates asker (·.hasAttributes attributes)
    have hjs : ∀ j, j ∈ js ↔ j < n ∧ j ≠ asker ∧ (p (who j)).plugin.Meets (.requireAttributes attributes) :=
      fun j => h.mem_candidates_iff (mem_candidates_iff_meets_attributes attributes)
    have hleads : ∀ j ∈ js, j < n ∧ Leads p (who asker) (who j) := by
      intro j hj
      obtain ⟨hlt, hne, hm⟩ := (hjs j).1 hj
      exact ⟨hlt, hn.who_ne hlt hi hne, _, hq, hm⟩
    obtain ⟨hc, hstraight, hmembers⟩ := allPassing_answers hprogress hask h hw hleads
    have hmember : who asker ∈ S → ∃ j ∈ (allPassing ask js c).1, j < n ∧ who j ∈ S := by
      intro hmem
      obtain ⟨j, hj, hjS, hne, hm⟩ := hn.exists_place hmem hq
      exact ⟨j, hmembers j ((hjs j).2 ⟨hj, hne, hm⟩) hjS, hj, hjS⟩
    simp only [grants, serve]
    split_ifs with hempty
    · refine ⟨hc, ?_⟩
      intro hmem
      obtain ⟨j, hj, -⟩ := hmember hmem
      rw [List.isEmpty_iff.1 hempty] at hj
      exact absurd hj List.not_mem_nil
    · refine ⟨hc.addNeed hmember ?_, fun _ => rfl⟩
      intro hno j hj
      have hjs : j ∈ js := (progress_allPassing hprogress js c).2 j hj
      exact hstraight j hj fun he => hno (he.of_leads (hleads j hjs).2)

/-- **The program of a member's check** ends as the member does, since all its needs are granted.  Each request goes
on with the rest of the needs, so the induction follows `Asks`. -/
theorem reliable_run {passes : Bool} {needs : List NeedRequest} {t : NeedTask} (ht : t.Asks passes needs)
    (h : c.Reliable p who S n d) (hw : c.Waits p who asker) (hi : asker < n) (hm : c.mark asker = .inProgress)
    (hneeds : ∀ q ∈ needs, q ∈ (p (who asker)).needs) :
    (t.run (serve ask asker) c).2.Reliable p who S n d ∧
      (who asker ∈ S → (t.run (serve ask asker) c).1.1.isOk = passes) := by
  induction ht generalizing c with
  | done hp => exact ⟨h, fun _ => hp⟩
  | note _ ih => exact ih (h.of_outlines_eq rfl rfl) hw hm hneeds
  | @ask q needs next _ refused ih =>
    obtain ⟨hq, hneeds⟩ := List.forall_mem_cons.1 hneeds
    obtain ⟨hc, hg⟩ := reliable_serve hprogress hask hn h hw hi hq
    have hp := progress_serve hprogress hm (.other q)
    cases hgr : grants ask asker q c with
    | true => exact ih _ hgr hc (hw.progress hp) (hp.mark_of_inProgress hm) hneeds
    | false =>
      have hfails := reliable_run_of_fails ask asker (refused _ hgr) hc
      refine ⟨hfails, ?_⟩
      intro hmem
      rw [hg hmem] at hgr
      exact nomatch hgr

end Walk

/-- Who leads into no circle and has met all its needs is a member. -/
theorem Reliable.mem_of_vouched (h : c.Reliable p who S n d) (hn : Numbered p who S n) (hi : i < n)
    (hno : ¬ Entangled p (who i)) (hloads : (p (who i)).loads) (hchecks : (p (who i)).checks)
    (hvouched : ∀ q ∈ (p (who i)).needs, c.Vouched i q) : who i ∈ S := by
  refine mem_of_met hn.greatest hloads hchecks ?_
  intro q hq
  obtain ⟨g, hg, hne, hgroup⟩ := hvouched q hq
  obtain ⟨j, hj⟩ := List.exists_mem_of_ne_nil g hne
  obtain ⟨hlt, hji, hm⟩ := hgroup j hj
  rw [h.size] at hlt
  rw [h.plugin j hlt] at hm
  exact ⟨who j, h.straight i hi hno g hg j hj, hn.who_ne hlt hi hji, hm⟩

/-- Who passes without being called and leads into no circle is a member: it is not being checked, as the needs would
lead back to it. -/
theorem Reliable.mem_of_passed (h : c.Reliable p who S n d) (hn : Numbered p who S n) (hi : i < n)
    (hw : ∀ m, c.mark m = .inProgress → TransGen (Leads p) (who m) (who i))
    (hm : c.mark i = .accepted ∨ c.mark i = .inProgress) (hno : ¬ Entangled p (who i)) : who i ∈ S := by
  rcases hm with hm | hm
  · obtain ⟨hchecks, hvouched⟩ := h.vouched i hi hm
    exact h.mem_of_vouched hn hi hno (h.loads i hi (by rw [hm]; rfl)) hchecks hvouched
  · exact absurd (entangled_of_transGen (hw i hm)) hno

/-- **A check keeps the record reliable**: members pass, and of those that lead into no circle members only.  The
induction is on the depth of nesting; while a plugin is asked, the asker waits, and so the needs lead from whoever is
being checked to the one that is asked. -/
theorem answers_pass (hn : Numbered p who S n) (d : Nat) : Answers p who S n d (pass d) := by
  induction d with
  | zero =>
    intro i c hi h hw
    rcases pass_cases 0 i c with ⟨hm, he⟩ | ⟨hm, he⟩ | ⟨hm, -, -⟩ | ⟨d, hd, -⟩
    · rw [he]
      exact ⟨h, fun _ => rfl, fun hno _ => h.mem_of_passed hn hi hw hm hno⟩
    · rw [he]
      exact ⟨h, fun hmem => absurd hm (by rw [h.mark i hi hmem]; decide), nofun⟩
    · exact absurd (pendingCount_pos hm) (Nat.not_lt.2 h.depth)
    · exact nomatch hd
  | succ d ih =>
    intro i c hi h hw
    rcases pass_cases (d + 1) i c with ⟨hm, he⟩ | ⟨hm, he⟩ | ⟨-, hd, -⟩ | ⟨d', hd, hm, hcall⟩
    · rw [he]
      exact ⟨h, fun _ => rfl, fun hno _ => h.mem_of_passed hn hi hw hm hno⟩
    · rw [he]
      exact ⟨h, fun hmem => absurd hm (by rw [h.mark i hi hmem]; decide), nofun⟩
    · exact nomatch hd
    · obtain rfl : d = d' := Nat.succ.inj hd
      have hlt := lt_length_of_mark_eq_pending hm
      have hrej : (c.mark i).isRejected = false := by rw [hm]; rfl
      let begun := c.setMark i .inProgress
      have hbegun : begun.Reliable p who S n d := by
        refine { h.setMark (m := .inProgress) (by decide) hrej nofun fun _ => rfl with depth := ?_ }
        have hcount : begun.pendingCount + 1 = c.pendingCount := pendingCount_setMark_inProgress hm
        have hdepth := h.depth
        omega
      have hentered : (begun.entered i).Reliable p who S n d := hbegun.of_outlines_eq rfl (Roster.outlines_enter ..)
      have hmark : ∀ k, (begun.entered i).mark k = if k = i then .inProgress else c.mark k :=
        fun k => mark_setMark _ hlt
      have hwaits : (begun.entered i).Waits p who i := by
        intro m hm
        rw [hmark] at hm
        split_ifs at hm with hmi
        · exact hmi ▸ .refl
        · exact (hw m hm).to_reflTransGen
      have hown : (begun.entered i).mark i = .inProgress := (hmark i).trans (if_pos rfl)
      have hasks := hbegun.asks_program hi
      obtain ⟨hrun, hends⟩ := reliable_run (progress_pass d) ih hn hasks hentered hwaits hi hown fun _ hq => hq
      have hvouched := vouched_run (progress_pass d) hasks hown (hentered.size.symm ▸ hi)
      obtain ⟨hok, hmarks, houts⟩ := callCheck_eq (pass d) i begun
      have hprogress := progress_callCheck (progress_pass d) (show begun.mark i = .inProgress from hown)
      have hleft := (hrun.of_outlines_eq hmarks houts).mono (Nat.le_succ d)
      rcases hcall with ⟨c', heq, he⟩ | ⟨e, c', heq, he⟩ <;> rw [he] <;>
        rw [heq] at hok hmarks houts hleft hprogress
      · obtain ⟨hchecks, hvouched⟩ := hvouched hok.symm
        have hvouched : ∀ q ∈ (p (who i)).needs, c'.Vouched i q := fun q hq => (hvouched q hq).of_outlines_eq houts
        have hc' : (c'.mark i).isRejected = false := by rw [hprogress.mark_of_inProgress hown]; rfl
        refine ⟨hleft.setMark nofun hc' (fun _ => ⟨hchecks, hvouched⟩) fun _ => rfl, fun _ => rfl, ?_⟩
        intro hno _
        exact hleft.mem_of_vouched hn hi hno (hleft.loads i hi hc') hchecks hvouched
      · have hc' : (c'.mark i).isRejected = false := by rw [hprogress.mark_of_inProgress hown]; rfl
        have hnot : who i ∉ S := by
          intro hmem
          rw [hends hmem, (hn.greatest.1 _ hmem).2.1] at hok
          exact nomatch hok
        exact ⟨hleft.setMark nofun hc' nofun fun hmem => absurd hmem hnot, fun hmem => absurd hmem hnot, nofun⟩

end Check
end BringUp
end Calibration
