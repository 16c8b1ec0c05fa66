/-
# Bring-up finds the greatest self-supporting set

The plugins of a fresh roster are steady, and no requester has two others of a name that it requires.  Whoever is
accepted by the walk has a group of others on record for each of its needs, and no member of a self-supporting set is
rejected (`Bounds`).  The closure of rejections turns the first into support by accepted plugins and keeps the
second, and the late check repeats this for the late rejections.  So the plugins that become runnable are a
self-supporting set (`selfSupporting_runnable`) that holds every other one (`runnable_of_selfSupporting`), whatever
the order in which they were loaded (`isGreatest_runnable`).
-/

import Calibration.Proofs.BringUp.Bounds
import Mathlib.Data.List.Induction

namespace Calibration

open BringUp BringUp.Check SteadyPlugin

namespace Roster

/-- Every plugin is the one of its profile, was just loaded and needs nobody yet. -/
structure Fresh (prof : Nat → SteadyPlugin) (r : Roster) : Prop where
  outline : ∀ k, k < r.size → ∃ state : Lifecycle, (state = .postLoaded ∨ state.isRejected) ∧
    (state = .postLoaded ↔ (prof k).loads) ∧ r.outline k = ⟨(prof k).plugin, state, []⟩

variable {prof : Nat → SteadyPlugin} {A : Set Nat} {r : Roster} {k : Nat}

namespace Fresh

/-- A loaded plugin waits for the dependency check, or its loading has failed. -/
theorem resting (h : r.Fresh prof) (hk : k < r.size) :
    (r.outline k).state = .postLoaded ∨ (r.outline k).state.isRejected := by
  obtain ⟨state, hs, -, ho⟩ := h.outline k hk
  exact ho ▸ hs

/-- It waits exactly if its profile says that loading ends well. -/
theorem loads_iff (h : r.Fresh prof) (hk : k < r.size) : (r.outline k).state = .postLoaded ↔ (prof k).loads := by
  obtain ⟨state, -, hs, ho⟩ := h.outline k hk
  exact ho ▸ hs

/-- The walk begins with the plugins of the profiles. -/
theorem fits (h : r.Fresh prof) : (start r).Fits prof r.size where
  size := rfl
  length := length_start r
  plugin k hk := by
    obtain ⟨state, -, -, ho⟩ := h.outline k hk
    exact (congrArg Outline.plugin ho)

/-- Nobody is accepted at the start. -/
theorem grounded (h : r.Fresh prof) : (start r).Grounded prof r.size where
  fits := h.fits
  accepted k hk ha := by
    rw [mark_start hk] at ha
    rcases h.resting hk with hs | hs
    · rw [hs] at ha; exact nomatch ha
    · obtain ⟨stage, reason, hstate⟩ := Lifecycle.exists_of_isRejected hs
      rw [hstate] at ha
      exact nomatch ha

/-- Nobody who ends loading well is rejected at the start, and no groups are recorded.  So every self-supporting set
is within the bound from below when the walk begins. -/
theorem upholds (h : r.Fresh prof) (hA : SelfSupporting prof A) (hlt : ∀ k ∈ A, k < r.size) :
    (start r).Upholds prof A r.size (start r).pendingCount where
  fits := h.fits
  lt := hlt
  mark k hk := by
    rw [mark_start (hlt k hk), (h.loads_iff (hlt k hk)).2 (hA k hk).1.1]
    rfl
  group k hk g hg := by
    obtain ⟨state, -, -, ho⟩ := h.outline k (hlt k hk)
    rw [show (start r).roster.outline k = _ from ho] at hg
    exact nomatch hg
  depth := Nat.le_refl _

/-- **After the dependency check everyone is past it or rejected**: the marks are decided, and each state follows its
mark. -/
theorem state_checkDeps (h : r.Fresh prof) (hk : k < r.size) :
    (r.checkDeps.outline k).state = .depsChecked ∧ (r.outline k).state = .postLoaded ∧
        (asked r).settled.mark k = .accepted ∨
      (r.checkDeps.outline k).state.isRejected := by
  rw [r.state_checkDeps hk]
  split_ifs with hs
  · cases hm : (asked r).settled.mark k with
    | accepted => exact .inl ⟨rfl, hs, rfl⟩
    | _ => exact .inr rfl
  · exact .inr ((h.resting hk).resolve_left hs)

/-- After bring-up everyone is runnable or rejected. -/
theorem state_bringUp (h : r.Fresh prof) (hk : k < r.size) :
    (r.bringUp.outline k).state = .runnable ∧ (r.checkDeps.outline k).state = .depsChecked ∧
        (r.checkDeps.lateChecked.settleLate.outline k).state = .depsFinalized ∨
      (r.bringUp.outline k).state.isRejected ∧ (r.checkDeps.lateChecked.settleLate.outline k).state.isRejected := by
  have hk' : k < r.checkDeps.size := r.size_checkDeps.symm ▸ hk
  have hne : (r.checkDeps.outline k).state ≠ .depsFinalized := by
    rcases h.state_checkDeps hk with ⟨hs, -⟩ | hs
    · rw [hs]; exact nofun
    · exact fun he => by rw [he] at hs; exact nomatch hs
  rcases r.checkDeps.state_postCheckDeps hk' hne with ⟨hs, ⟨hrun, hfin⟩ | hrej⟩ | ⟨hs, he, he'⟩
  · exact .inl ⟨hrun, hs, hfin⟩
  · exact .inr hrej
  · have hrej := (h.state_checkDeps hk).resolve_left fun h => hs h.1
    rw [← he] at hrej
    exact .inr ⟨hrej, by rwa [he', ← he]⟩

/-- The late check of a plugin that is past the dependency check ends as its profile says. -/
theorem state_lateChecked (h : r.Fresh prof) (hk : k < r.size) (hs : (r.checkDeps.outline k).state = .depsChecked) :
    (r.checkDeps.lateChecked.outline k).state = .depsFinalized ↔ (prof k).stays := by
  obtain ⟨views, memory, state, ho, -, hstays⟩ :=
    r.checkDeps.outline_lateChecked (r.size_checkDeps.symm ▸ hk) hs
  have hplugin : (r.checkDeps.outline k).plugin = (prof k).plugin := by
    rw [r.plugin_checkDeps hk]
    exact h.fits.plugin k hk
  rw [ho, hstays, hplugin, (prof k).late]

/-- **The runnable plugins support one another.**  Each of them has on record a group for each need, and both closures
leave it a runnable plugin in each group; that plugin is another one and meets the need. -/
theorem selfSupporting_runnable (h : r.Fresh prof) :
    SelfSupporting prof {k | k < r.size ∧ (r.bringUp.outline k).state = .runnable} := by
  rintro k ⟨hk, hrun⟩
  rcases h.state_bringUp hk with ⟨-, hchecked, hfin⟩ | ⟨hrej, -⟩
  case inr => rw [hrun] at hrej; exact nomatch hrej
  rcases h.state_checkDeps hk with ⟨-, hloaded, hacc⟩ | hrej
  case inr => rw [hchecked] at hrej; exact nomatch hrej
  have hk' : k < r.checkDeps.size := r.size_checkDeps.symm ▸ hk
  have hk'' : k < r.checkDeps.lateChecked.size := r.checkDeps.size_lateChecked.symm ▸ hk'
  have hlate : (r.checkDeps.lateChecked.outline k).state = .depsFinalized := by
    rcases r.checkDeps.lateChecked.settleLate_cases hk'' with ⟨ho, -⟩ | ⟨_, hs, -⟩
    · rwa [ho] at hfin
    · exact hs
  obtain ⟨hmark, -⟩ := exists_accepted_of_settled (length_asked r) ((size_asked r).symm ▸ hk) hacc
  have hground : (asked r).Grounded prof r.size := grounded_askAll h.grounded
  obtain ⟨hchecks, hvouched⟩ := hground.accepted k hk hmark
  refine ⟨⟨(h.loads_iff hk).1 hloaded, hchecks, (h.state_lateChecked hk hchecked).1 hlate⟩, fun q hq => ?_⟩
  -- The group on record for the need has a member that no late rejection took down.
  obtain ⟨g, hg, hne, hgroup⟩ := hvouched q hq
  rw [← r.needs_checkDeps hk, ← r.checkDeps.needs_lateChecked hk'] at hg
  obtain ⟨j, hj, hstands⟩ := r.checkDeps.lateChecked.exists_standing_of_settleLate hk'' hfin g hg hne
  obtain ⟨hjlt, hjk, hmeets⟩ := hgroup j hj
  rw [size_asked] at hjlt
  rw [hground.fits.plugin j hjlt] at hmeets
  rcases h.state_bringUp hjlt with ⟨hjrun, -⟩ | ⟨-, hrej⟩
  · exact ⟨j, ⟨hjlt, hjrun⟩, hjk, hmeets⟩
  · rw [hstands] at hrej; exact nomatch hrej

/-- **Plugins that support one another become runnable.**  The walk rejects none of them, and neither closure can take
down the first of them. -/
theorem runnable_of_selfSupporting (h : r.Fresh prof) (hA : Decisive prof r.size A) (hlt : ∀ k ∈ A, k < r.size)
    {k : Nat} (hkA : k ∈ A) : (r.bringUp.outline k).state = .runnable := by
  have hup : (asked r).Upholds prof A r.size (start r).pendingCount :=
    upholds_askAll hA (h.upholds hA.selfSupporting hlt)
  have hacc : ∀ k ∈ A, (asked r).mark k = .accepted := fun k hk =>
    Mark.eq_accepted_of_isDecided (isDecided_asked (hlt k hk)) (hup.mark k hk)
  have hchecked : ∀ k ∈ A, (r.checkDeps.outline k).state = .depsChecked := fun k hk => by
    rw [Roster.state_checkDeps r (hlt k hk), if_pos ((h.loads_iff (hlt k hk)).2 (hA.selfSupporting k hk).1.1),
      settled_of_supported (length_asked r) hacc hup.group hk]
    rfl
  have hlate : ∀ k ∈ A, (r.checkDeps.lateChecked.outline k).state = .depsFinalized := fun k hk =>
    (h.state_lateChecked (hlt k hk) (hchecked k hk)).2 (hA.selfSupporting k hk).1.2.2
  have hneeds : ∀ k ∈ A,
      (r.checkDeps.lateChecked.outline k).needs = ((asked r).roster.outline k).needs := fun k hk => by
    rw [r.checkDeps.needs_lateChecked (r.size_checkDeps.symm ▸ hlt k hk), r.needs_checkDeps (hlt k hk)]
  have hsize : k < r.checkDeps.lateChecked.size := by
    rw [size_lateChecked, size_checkDeps]
    exact hlt k hkA
  have hsettled := r.checkDeps.lateChecked.settleLate_of_supported (U := (· ∈ A))
    (fun k hk => by rw [hlate k hk]; rfl) (fun k hk g hg => hup.group k hk g (hneeds k hk ▸ hg)) hsize hkA
  rw [bringUp, postCheckDeps_eq, outline_release _ (by rw [size_settleLate]; exact hsize), hsettled, hlate k hkA]
  rfl

/-- One more plugin is loaded into a fresh roster, which stays fresh. -/
theorem add (h : r.Fresh prof) (origin : Origin) (version? : Option (Nat × Nat)) :
    (r.add (prof r.size).plugin origin version?).Fresh prof := by
  obtain ⟨state, hstate, hloads, ho⟩ := r.outline_add (prof r.size).plugin origin version?
  refine ⟨fun k hk => ?_⟩
  rw [size_add] at hk
  rcases Nat.lt_succ_iff_lt_or_eq.1 hk with hk | rfl
  · rw [ho, if_neg (Nat.ne_of_lt hk)]
    exact h.outline k hk
  · exact ⟨state, hstate, hloads, by rw [ho, if_pos rfl]⟩

end Fresh

variable {ι : Type} (p : ι → SteadyPlugin) (origin : ι → Origin) (version? : ι → Option (Nat × Nat))

/-- The roster once plugins are loaded in an order. -/
def loadedIn (order : List ι) : Roster :=
  order.foldl (fun r i => r.add (p i).plugin (origin i) (version? i)) {}

/-- Loading plugins in an order gives a fresh roster of them. -/
theorem fresh_loadedIn (prof : Nat → SteadyPlugin) (order : List ι)
    (hprof : ∀ k i, order[k]? = some i → prof k = p i) : (loadedIn p origin version? order).size = order.length ∧
      (loadedIn p origin version? order).Fresh prof := by
  induction order using List.reverseRecOn with
  | nil => exact ⟨rfl, ⟨fun k hk => absurd hk (Nat.not_lt_zero k)⟩⟩
  | append_singleton order i ih =>
    obtain ⟨hsize, hfresh⟩ := ih fun k j hk =>
      hprof k j (by rw [List.getElem?_append_left (List.getElem?_eq_some_iff.1 hk).1, hk])
    have hlast : prof order.length = p i :=
      hprof _ _ (by rw [List.getElem?_append_right (Nat.le_refl _), Nat.sub_self]; rfl)
    rw [loadedIn, List.foldl_append, List.foldl_cons, List.foldl_nil, List.length_append, List.length_singleton]
    refine ⟨(size_add ..).trans (by rw [← hsize]; rfl), ?_⟩
    rw [← hlast, ← hsize]
    exact hfresh.add (origin i) (version? i)

/-- An order of all plugins without repetition numbers them. -/
theorem bijOn_getD {order : List ι} (hnodup : order.Nodup) (hall : ∀ i, i ∈ order) (i : ι) :
    Set.BijOn (fun k => order[k]?.getD i) (Set.Iio order.length) Set.univ := by
  have hget : ∀ m, m < order.length → order[m]? = some (order[m]?.getD i) := fun m hm => by
    rw [List.getElem?_eq_getElem hm, Option.getD_some]
  refine ⟨Set.mapsTo_univ _ _, fun m hm m' hm' he => ?_, fun j _ => ?_⟩
  · exact (List.getElem?_inj hm hnodup).1 (by rw [hget m hm, hget m' hm']; exact congrArg some he)
  · obtain ⟨m, hm, he⟩ := List.getElem_of_mem (hall j)
    exact ⟨m, hm, by simp only [List.getElem?_eq_getElem hm, Option.getD_some, he]⟩

/-- **The runnable plugins are the greatest self-supporting set, in whatever order they are loaded.**  All other
plugins are rejected. -/
theorem isGreatest_runnable
    (unique : ∀ i name, .require name ∈ (p i).needs → ∀ j k, j ≠ i → k ≠ i →
      (p j).plugin.name = name → (p k).plugin.name = name → j = k) :
    ∃ S, IsGreatest {A | SelfSupporting p A} S ∧
      ∀ order : List ι, order.Nodup → (∀ i, i ∈ order) → ∀ k i, order[k]? = some i →
        let state := ((loadedIn p origin version? order).bringUp.handle k).state
        (i ∈ S ↔ state = .runnable) ∧ (i ∉ S → state.isRejected) := by
  refine ⟨_, isGreatest_selfSupporting p, fun order hnodup hall k i hk => ?_⟩
  -- The plugin at each place; `i` stands in beyond the last one.
  let who (k : Nat) : ι := order[k]?.getD i
  have hwho : ∀ k j, order[k]? = some j → who k = j := fun k j hj => by simp only [who, hj, Option.getD_some]
  obtain ⟨hsize, hfresh⟩ := fresh_loadedIn p origin version? (fun k => p (who k)) order
    fun k j hj => congrArg p (hwho k j hj)
  revert hsize hfresh
  generalize loadedIn p origin version? order = r
  intro hsize hfresh
  have hbij : Set.BijOn who (Set.Iio r.size) Set.univ := hsize ▸ bijOn_getD hnodup hall i
  have hlt : k < r.size := hsize ▸ (List.getElem?_eq_some_iff.1 hk).1
  have hiff : (∃ A, SelfSupporting p A ∧ i ∈ A) ↔ (r.bringUp.outline k).state = .runnable := by
    constructor
    · rintro ⟨A, hA, hi⟩
      refine hfresh.runnable_of_selfSupporting ⟨hA.preimage hbij, ?_⟩ (fun _ hm => hm.1)
        ⟨hlt, show who k ∈ A from (hwho k i hk).symm ▸ hi⟩
      intro m hm name hname j j' hj hj' hjm hj'm hn hn'
      exact hbij.injOn hj hj' (unique _ name hname _ _ (fun h => hjm (hbij.injOn hj hm h))
        (fun h => hj'm (hbij.injOn hj' hm h)) hn hn')
    · exact fun hrun => ⟨_, hfresh.selfSupporting_runnable.image (hbij.injOn.mono fun _ hm => hm.1),
        k, ⟨hlt, hrun⟩, hwho k i hk⟩
  rw [state_handle]
  refine ⟨hiff, fun hno => ?_⟩
  rcases hfresh.state_bringUp hlt with ⟨hrun, -⟩ | ⟨hrej, -⟩
  · exact absurd (hiff.2 hrun) hno
  · exact hrej

/-- Two plugins that need each other, and one that needs what nobody has. -/
def circle : Fin 3 → SteadyPlugin
  | 0 => .ofNeeds "Screen" [] [.requireAttributes ["Light"]]
  | 1 => .ofNeeds "Lamp" ["Light"] [.require "Screen"]
  | 2 => .ofNeeds "Printer" [] [.require "Lamp", .requireAttributes ["Paper"]]

/-- The circle of two becomes runnable, also when the third plugin comes first. -/
theorem circle_bringUp :
    let r := (loadedIn circle (fun _ => .static) (fun _ => none) [2, 0, 1]).bringUp
    (r.handle 0).state.isRejected ∧ (r.handle 1).state = .runnable ∧ (r.handle 2).state = .runnable := by
  have hname : ∀ j k, (circle j).plugin.name = (circle k).plugin.name → j = k := by decide
  obtain ⟨S, hS, h⟩ := isGreatest_runnable circle (fun _ => .static) (fun _ => none)
    fun _ _ _ j k _ _ hj hk => hname j k (hj.trans hk.symm)
  have hpair : SelfSupporting circle {0, 1} := by
    rintro i (rfl | rfl)
    · refine ⟨⟨rfl, rfl, rfl⟩, fun q hq => ⟨1, .inr rfl, by decide, ?_⟩⟩
      obtain rfl := List.mem_singleton.1 hq
      exact fun a ha => ha
    · refine ⟨⟨rfl, rfl, rfl⟩, fun q hq => ⟨0, .inl rfl, by decide, ?_⟩⟩
      obtain rfl := List.mem_singleton.1 hq
      rfl
  have hno : 2 ∉ S := fun h2 => by
    obtain ⟨j, -, -, hj⟩ := (hS.1 2 h2).2 (.requireAttributes ["Paper"]) (.tail _ (.head _))
    have hpaper : ∀ j, "Paper" ∉ (circle j).plugin.attributes := by decide
    exact hpaper j (hj "Paper" (.head _))
  have h := h [2, 0, 1] (by decide) (by decide)
  exact ⟨(h 0 2 rfl).2 hno, (h 1 0 rfl).1.1 (hS.2 hpair (.inl rfl)), (h 2 1 rfl).1.1 (hS.2 hpair (.inr rfl))⟩

end Roster
end Calibration
