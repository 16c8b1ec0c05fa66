/-
# Who is accepted by the dependency check

Plugins with fixed needs are loaded, in some order, and then checked.  If those that share a required name lead into
no circle, the accepted plugins are the greatest self-checking set, whatever the order (`isGreatest_depsChecked`): a
plugin that ends well itself is rejected only if one of its needs is met by no other accepted plugin.

The restriction is needed.  A plugin may require a name that two others carry, and the first of them may require the
plugin in turn.  Whether the second one comes into play then depends on which of the circle is asked first
(`namesakes_rejected`).
-/

import Calibration.Proofs.BringUp.Exactness
import Calibration.Proofs.BringUp.Namesakes

namespace Calibration

open BringUp BringUp.Check NeedyPlugin

namespace Roster

/-- The roster once plugins are loaded one after the other. -/
def loadAll (row : List (Plugin × Origin × Option (Nat × Nat))) : Roster :=
  row.foldl (fun r p => r.add p.1 p.2.1 p.2.2) {}

/-- **Loaded plugins stand in the order of loading.**  Each has tended itself or is rejected, as its code ends, and
needs nobody yet. -/
theorem outline_loadAll (row : List (Plugin × Origin × Option (Nat × Nat))) :
    (loadAll row).size = row.length ∧ ∀ k plugin origin version?, row[k]? = some (plugin, origin, version?) →
      ∃ state : Lifecycle, (state = .postLoaded ∨ state.isRejected) ∧
        (state = .postLoaded ↔ plugin.postLoad.succeeds plugin.memory) ∧
          (loadAll row).outline k = ⟨plugin, state, []⟩ := by
  induction row using List.reverseRecOn with
  | nil => exact ⟨rfl, nofun⟩
  | append_singleton row last ih =>
    obtain ⟨hsize, houtline⟩ := ih
    obtain ⟨plugin, origin, version?⟩ := last
    rw [loadAll, List.foldl_append, List.foldl_cons, List.foldl_nil, List.length_append, List.length_singleton]
    change ((loadAll row).add plugin origin version?).size = _ ∧ _
    obtain ⟨state, hstate, hloads, ho⟩ := (loadAll row).outline_add plugin origin version?
    constructor
    · rw [size_add, hsize]
    · intro k plugin' origin' version' hk
      change ∃ state, _ ∧ _ ∧ ((loadAll row).add plugin origin version?).outline k = _
      rw [ho, hsize]
      rcases Nat.lt_trichotomy k row.length with hlt | rfl | hlt
      · rw [List.getElem?_append_left hlt] at hk
        rw [if_neg (Nat.ne_of_lt hlt)]
        exact houtline k _ _ _ hk
      · rw [List.getElem?_append_right (Nat.le_refl _), Nat.sub_self] at hk
        obtain ⟨⟩ := hk
        exact ⟨state, hstate, hloads, if_pos rfl⟩
      · rw [List.getElem?_eq_none (by rw [List.length_append, List.length_singleton]; omega)] at hk
        exact nomatch hk

/-- The plugins of a family at their places were just loaded and need nobody yet. -/
structure Assembled {ι : Type} (p : ι → NeedyPlugin) (who : Nat → ι) (r : Roster) : Prop where
  outline : ∀ k, k < r.size → ∃ state : Lifecycle, (state = .postLoaded ∨ state.isRejected) ∧
    (state = .postLoaded ↔ (p (who k)).loads) ∧ r.outline k = ⟨(p (who k)).plugin, state, []⟩

namespace Assembled

variable {ι : Type} {p : ι → NeedyPlugin} {who : Nat → ι} {S : Set ι} {r : Roster} {k : Nat}

/-- Before anyone is asked nobody is accepted, and who was not loaded well is rejected. -/
theorem mark_start (h : r.Assembled p who) (hk : k < r.size) :
    (start r).mark k = .pending ∧ (p (who k)).loads ∨ ((start r).mark k).isRejected ∧ ¬ (p (who k)).loads := by
  obtain ⟨state, hstate, hloads, ho⟩ := h.outline k hk
  rw [Check.mark_start hk, ho]
  rcases hstate with rfl | hrej
  · exact .inl ⟨rfl, hloads.1 rfl⟩
  · refine .inr ⟨?_, ?_⟩
    · obtain ⟨stage, reason, rfl⟩ := Lifecycle.exists_of_isRejected hrej
      rfl
    · intro hl
      rw [hloads.2 hl] at hrej
      exact nomatch hrej

/-- At the start nothing is recorded that could not be relied on. -/
theorem reliable (h : r.Assembled p who) (hS : IsGreatest {A | SelfChecking p A} S) :
    (start r).Reliable p who S r.size (start r).pendingCount := by
  have hnone : ∀ k, k < r.size → ((start r).roster.outline k).needs = [] := by
    intro k hk
    obtain ⟨state, -, -, ho⟩ := h.outline k hk
    exact congrArg Outline.needs ho
  constructor
  case size => rfl
  case length => exact length_start r
  case plugin =>
    intro k hk
    obtain ⟨state, -, -, ho⟩ := h.outline k hk
    exact congrArg Outline.plugin ho
  case loads =>
    intro k hk hrej
    rcases h.mark_start hk with ⟨-, hl⟩ | ⟨hm, -⟩
    · exact hl
    · rw [hrej] at hm
      exact nomatch hm
  case vouched =>
    intro k hk ha
    rcases h.mark_start hk with ⟨hm, -⟩ | ⟨hm, -⟩
    · exact nomatch hm.symm.trans ha
    · rw [ha] at hm
      exact nomatch hm
  case mark =>
    intro k hk hmem
    rcases h.mark_start hk with ⟨hm, -⟩ | ⟨-, hl⟩
    · rw [hm]
      rfl
    · exact absurd (hS.1 _ hmem).1 hl
  case group =>
    intro k hk _ g hg
    rw [hnone k hk] at hg
    exact nomatch hg
  case straight =>
    intro k hk _ g hg
    rw [hnone k hk] at hg
    exact nomatch hg
  case depth => exact Nat.le_refl _

/-- The whole walk keeps the record reliable. -/
theorem reliable_asked (h : r.Assembled p who) (hn : Numbered p who S r.size) :
    (asked r).Reliable p who S r.size (start r).pendingCount := by
  have hidle : ∀ m, (start r).mark m ≠ .inProgress := by
    intro m hm
    have hlt : m < r.size := by
      by_contra hlt
      rw [mark, List.getElem?_eq_none ((length_start r).symm ▸ Nat.not_lt.1 hlt)] at hm
      exact absurd hm (by decide)
    rcases h.mark_start hlt with ⟨hp, -⟩ | ⟨hr, -⟩
    · rw [hp] at hm
      exact absurd hm (by decide)
    · rw [hm] at hr
      exact absurd hr (by decide)
  -- Between two checks at the top nobody is being checked.
  have hwalk : ∀ (js : List Nat) (c : Check), (∀ j ∈ js, j < r.size) → (start r).Progress c →
      c.Reliable p who S r.size (start r).pendingCount →
        (js.foldl (fun c i => (pass c.pendingCount i c).2) c).Reliable p who S r.size (start r).pendingCount := by
    intro js
    induction js with
    | nil => exact fun c _ _ hc => hc
    | cons j js ih =>
      intro c hjs hp hc
      obtain ⟨hj, hjs⟩ := List.forall_mem_cons.1 hjs
      have hown : c.Reliable p who S r.size c.pendingCount := { hc with depth := Nat.le_refl _ }
      have hnext := (answers_pass hn _ j c hj hown fun m hm => ?_).1.mono hc.depth
      · exact ih _ hjs (hp.trans (progress_pass _ _ _)) hnext
      · rcases hp.mark m with he | ⟨-, hd⟩
        · exact absurd (he ▸ hm) (hidle m)
        · rw [hm] at hd
          exact absurd hd (by decide)
  exact hwalk (List.range r.size) (start r) (fun j hj => List.mem_range.1 hj) (.refl _) (h.reliable hn.greatest)

/-- **The accepted plugins are the members of the greatest self-checking set.**  Members are accepted because their
needs are granted all along the walk; whoever is accepted has its needs on record, with groups that have accepted
members, so that the accepted ones are a self-checking set themselves. -/
theorem mem_iff_accepted (h : r.Assembled p who) (hn : Numbered p who S r.size) (hk : k < r.size) :
    who k ∈ S ↔ (asked r).settled.mark k = .accepted := by
  have hreliable := h.reliable_asked hn
  constructor
  · intro hmem
    refine settled_of_supported (length_asked r) (U := fun k => k < r.size ∧ who k ∈ S) ?_ ?_ ⟨hk, hmem⟩
    · rintro j ⟨hj, hjS⟩
      exact Mark.eq_accepted_of_isDecided (isDecided_asked hj) (hreliable.mark j hj hjS)
    · rintro j ⟨hj, hjS⟩
      exact hreliable.group j hj hjS
  · intro hacc
    have hself : SelfChecking p {i | ∃ j, j < r.size ∧ (asked r).settled.mark j = .accepted ∧ who j = i} := by
      rintro _ ⟨j, hj, hjacc, rfl⟩
      obtain ⟨hmark, hgroups⟩ := exists_accepted_of_settled (length_asked r) ((size_asked r).symm ▸ hj) hjacc
      obtain ⟨hchecks, hvouched⟩ := hreliable.vouched j hj hmark
      refine ⟨hreliable.loads j hj (by rw [hmark]; rfl), hchecks, ?_⟩
      intro q hq
      obtain ⟨g, hg, hne, hgroup⟩ := hvouched q hq
      obtain ⟨m, hm, hrej⟩ := hgroups g hg hne
      obtain ⟨hlt, hmj, hmeets⟩ := hgroup m hm
      rw [size_asked] at hlt
      rw [hreliable.plugin m hlt] at hmeets
      have hmacc := Mark.eq_accepted_of_isDecided (r.isDecided_settled hlt) hrej
      exact ⟨who m, ⟨m, hlt, hmacc, rfl⟩, hn.who_ne hlt hj hmj, hmeets⟩
    exact hn.greatest.2 hself ⟨k, hk, hacc, rfl⟩

/-- After the check a plugin is past it as a member, or else rejected. -/
theorem state_checkDeps (h : r.Assembled p who) (hn : Numbered p who S r.size) (hk : k < r.size) :
    who k ∈ S ∧ (r.checkDeps.outline k).state = .depsChecked ∨
      who k ∉ S ∧ (r.checkDeps.outline k).state.isRejected := by
  obtain ⟨state, hstate, hloads, ho⟩ := h.outline k hk
  rw [r.state_checkDeps hk, ho, h.mem_iff_accepted hn hk]
  rcases hstate with rfl | hrej
  · rw [if_pos rfl]
    by_cases hacc : (asked r).settled.mark k = .accepted
    · exact .inl ⟨hacc, verdict_eq_depsChecked.2 hacc⟩
    · refine .inr ⟨hacc, ?_⟩
      cases hm : (asked r).settled.mark k with
      | accepted => exact absurd hm hacc
      | _ => rfl
  · have hne : state ≠ .postLoaded := by
      rintro rfl
      exact nomatch hrej
    rw [if_neg hne]
    refine .inr ⟨?_, hrej⟩
    rw [← h.mem_iff_accepted hn hk]
    exact fun hmem => hne (hloads.2 (hn.greatest.1 _ hmem).1)

end Assembled

variable {ι : Type} (p : ι → NeedyPlugin) (origin : ι → Origin) (version? : ι → Option (Nat × Nat))

/-- The roster once a family of plugins is loaded in an order. -/
def assembled (order : List ι) : Roster := loadAll (order.map fun i => ((p i).plugin, origin i, version? i))

/-- **The accepted plugins are the greatest self-checking set, in whatever order they are loaded**, provided that
plugins that share a required name lead into no circle.  All others are rejected; one of these that ends well itself
has a need that no other accepted plugin meets. -/
theorem isGreatest_depsChecked (hp : Untangled p) :
    ∃ S, IsGreatest {A | SelfChecking p A} S ∧
      ∀ order : List ι, order.Nodup → (∀ i, i ∈ order) → ∀ k i, order[k]? = some i →
        let state := ((assembled p origin version? order).checkDeps.handle k).state
        (i ∈ S ↔ state = .depsChecked) ∧ (i ∉ S ↔ state.isRejected) ∧
          (state.isRejected → (p i).loads → (p i).checks →
            ∃ q ∈ (p i).needs, ∀ j ∈ S, j ≠ i → ¬ (p j).plugin.Meets q) := by
  refine ⟨_, isGreatest_selfChecking p, ?_⟩
  intro order hnodup hall k i hk
  generalize hS : {i | ∃ A, SelfChecking p A ∧ i ∈ A} = S
  have hgreatest : IsGreatest {A | SelfChecking p A} S := hS ▸ isGreatest_selfChecking p
  -- The plugin at each place; `i` stands in beyond the last one.
  let who (k : Nat) : ι := order[k]?.getD i
  have hwho : who k = i := by simp only [who, hk, Option.getD_some]
  obtain ⟨hsize, houtline⟩ := outline_loadAll (order.map fun i => ((p i).plugin, origin i, version? i))
  have hassembled : (assembled p origin version? order).Assembled p who := by
    constructor
    intro m hm
    rw [assembled, hsize, List.length_map] at hm
    have hget : order[m]? = some (who m) := by simp only [who, List.getElem?_eq_getElem hm, Option.getD_some]
    exact houtline m _ _ _ (by rw [List.getElem?_map, hget]; rfl)
  have hlength : (assembled p origin version? order).size = order.length := hsize.trans (List.length_map ..)
  have hn : Numbered p who S (assembled p origin version? order).size :=
    ⟨hlength ▸ bijOn_getD hnodup hall i, hgreatest, hp⟩
  have hlt : k < (assembled p origin version? order).size := hlength ▸ (List.getElem?_eq_some_iff.1 hk).1
  have hcases := hassembled.state_checkDeps hn hlt
  rw [hwho] at hcases
  intro state
  change i ∈ S ∧ state = .depsChecked ∨ i ∉ S ∧ state.isRejected at hcases
  have hnot : state.isRejected → i ∉ S := by
    intro hrej hmem
    rcases hcases with ⟨-, hs⟩ | ⟨hno, -⟩
    · rw [hs] at hrej
      exact nomatch hrej
    · exact hno hmem
  refine ⟨⟨?_, ?_⟩, ⟨?_, hnot⟩, ?_⟩
  · intro hmem
    exact (hcases.resolve_right fun h => h.1 hmem).2
  · intro hs
    refine (hcases.resolve_right ?_).1
    rintro ⟨-, hrej⟩
    rw [hs] at hrej
    exact nomatch hrej
  · intro hno
    exact (hcases.resolve_left fun h => hno h.1).2
  · intro hrej hloads hchecks
    by_contra hnone
    refine hnot hrej (mem_of_met hgreatest hloads hchecks fun q hq => ?_)
    by_contra hmet
    exact hnone ⟨q, hq, fun j hj hne hm => hmet ⟨j, hj, hne, hm⟩⟩

/-- A printer and a tray that need each other, and two lamps of one name, of which the first needs what nobody has. -/
def workshop : Fin 4 → NeedyPlugin
  | 0 => .ofNeeds "Printer" [.require "Lamp", .require "Tray"]
  | 1 => .ofNeeds "Lamp" [.require "Cable"]
  | 2 => .ofNeeds "Tray" [.require "Printer"]
  | 3 => .ofNeeds "Lamp" []

/-- The circle is accepted with the second lamp, also when the first lamp comes before it. -/
theorem workshop_checkDeps :
    let r := (assembled workshop (fun _ => .static) (fun _ => none) [2, 1, 0, 3]).checkDeps
    Untangled workshop ∧ (r.handle 0).state = .depsChecked ∧ (r.handle 1).state.isRejected ∧
      (r.handle 2).state = .depsChecked ∧ (r.handle 3).state = .depsChecked := by
  have hcable : ∀ j, (workshop j).plugin.name ≠ "Cable" := by decide
  have hlamp : ∀ j, ¬ Leads workshop 1 j := by
    rintro j ⟨-, q, hq, hm⟩
    obtain rfl := List.mem_singleton.1 hq
    exact hcable j hm
  have hspare : ∀ j, ¬ Leads workshop 3 j := by
    rintro j ⟨-, q, hq, -⟩
    exact nomatch hq
  have hshared : ∀ j k, (workshop j).plugin.name = (workshop k).plugin.name → j = k ∨ j = 1 ∨ j = 3 := by decide
  have hp : Untangled workshop := by
    intro i name _ j k _ _ hj hk
    rcases hshared j k (hj.trans hk.symm) with he | rfl | rfl
    · exact .inl he
    · exact .inr (not_entangled_of_not_leads hlamp)
    · exact .inr (not_entangled_of_not_leads hspare)
  obtain ⟨S, hS, h⟩ := isGreatest_depsChecked workshop (fun _ => .static) (fun _ => none) hp
  have hself : SelfChecking workshop {0, 2, 3} := by
    rintro i (rfl | rfl | rfl)
    · refine ⟨rfl, rfl, ?_⟩
      intro q hq
      rcases List.mem_cons.1 hq with rfl | hq
      · exact ⟨3, .inr (.inr rfl), by decide, rfl⟩
      · obtain rfl := List.mem_singleton.1 hq
        exact ⟨2, .inr (.inl rfl), by decide, rfl⟩
    · refine ⟨rfl, rfl, ?_⟩
      intro q hq
      obtain rfl := List.mem_singleton.1 hq
      exact ⟨0, .inl rfl, by decide, rfl⟩
    · exact ⟨rfl, rfl, nofun⟩
  have hno : (1 : Fin 4) ∉ S := by
    intro hmem
    obtain ⟨j, -, -, hm⟩ := (hS.1 1 hmem).2.2 (.require "Cable") (List.mem_singleton_self _)
    exact hcable j hm
  have h := h [2, 1, 0, 3] (by decide) (by decide)
  exact ⟨hp, (h 0 2 rfl).1.1 (hS.2 hself (.inr (.inl rfl))), (h 1 1 rfl).2.1.1 hno,
    (h 2 0 rfl).1.1 (hS.2 hself (.inl rfl)), (h 3 3 rfl).1.1 (hS.2 hself (.inr (.inr rfl)))⟩

/-- A lamp and a screen that need each other, where the lamp also needs what nobody has, and a lamp without needs. -/
def namesakes : Fin 3 → NeedyPlugin
  | 0 => .ofNeeds "Lamp" [.require "Screen", .require "Cable"]
  | 1 => .ofNeeds "Screen" [.require "Lamp"]
  | 2 => .ofNeeds "Lamp" []

/-- **The order matters to plugins that share a name and lead into a circle.**  Asked by the first lamp, the screen
takes that lamp for its need and goes down with it, although the other lamp is accepted; asked first, it takes the
other lamp. -/
theorem namesakes_rejected :
    let lampFirst := (assembled namesakes (fun _ => .static) (fun _ => none) [0, 1, 2]).checkDeps
    let screenFirst := (assembled namesakes (fun _ => .static) (fun _ => none) [1, 0, 2]).checkDeps
    (namesakes 1).loads ∧ (namesakes 1).checks ∧ (lampFirst.handle 1).state.isRejected ∧
      (∀ q ∈ (namesakes 1).needs, ∃ k ≠ 1, (lampFirst.handle k).state = .depsChecked ∧
        (lampFirst.handle k).plugin.Meets q) ∧
      (screenFirst.handle 0).name = "Screen" ∧ (screenFirst.handle 0).state = .depsChecked := by
  intro lampFirst screenFirst
  have hrejected : (lampFirst.handle 1).state.isRejected := by decide +kernel
  have hlamp : (lampFirst.handle 2).state = .depsChecked ∧ (lampFirst.handle 2).plugin.name = "Lamp" := by
    decide +kernel
  have hscreen : (screenFirst.handle 0).name = "Screen" ∧ (screenFirst.handle 0).state = .depsChecked := by
    decide +kernel
  refine ⟨rfl, rfl, hrejected, ?_, hscreen⟩
  intro q hq
  obtain rfl := List.mem_singleton.1 hq
  exact ⟨2, by decide, hlamp⟩

end Roster
end Calibration
