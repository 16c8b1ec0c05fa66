/-
# Two bounds on who is accepted

Two invariants of the walk through the dependency checks of steady plugins.  From below, no member of a
self-supporting set is ever rejected, and each group recorded for a member has a member (`Upholds`): a member's
requests find other members, which are pending, under way or accepted, and whoever fails is no member.  From above,
who is accepted has a group of others on record for each of its needs (`Grounded`).  Both are kept by a reply, by the
program of a check, by a check (`upholds_pass`, `grounded_pass`) and so by the whole walk.
-/

import Calibration.Proofs.BringUp.Steady

namespace Calibration
namespace BringUp
namespace Check

open NeedTask SteadyPlugin

variable {prof : Nat → SteadyPlugin} {A : Set Nat} {n d i asker : Nat} {c c' : Check} {q : NeedRequest}
  {ask : Nat → Check → Bool × Check} {P : Check → Prop}

/-! ### Calls -/

/-- The dependency check of a plugin as a program. -/
def program (c : Check) (i : Nat) : NeedTask :=
  ((c.roster.handle i).plugin.checkDeps c.roster.views).run.run (c.roster.handle i).memory

/-- The check at the moment when the plugin's code begins. -/
def entered (c : Check) (i : Nat) : Check := { c with roster := c.roster.enter i (.bringUp .checkDeps) }

/-- **A call comes to what its program comes to**, and leaves the check as the program does.  Steady plugins are
judged by their programs from here on, and the locking and logging around a call is out of the way. -/
theorem callCheck_eq (ask : Nat → Check → Bool × Check) (i : Nat) (c : Check) :
    let result := (c.program i).run (serve ask i) (c.entered i)
    (callCheck ask i c).1.isOk = result.1.1.isOk ∧ (callCheck ask i c).2.marks = result.2.marks ∧
      (callCheck ask i c).2.roster.outlines = result.2.roster.outlines := by
  intro result
  have hleave : ∀ (r : Roster) step memory (reply : Except Halt Unit),
      (r.leave i step memory reply).1.isOk = reply.isOk := by
    intro r step memory reply
    cases reply <;> rfl
  exact ⟨hleave result.2.roster (.bringUp .checkDeps) result.1.2 result.1.1, rfl, Roster.outlines_leave ..⟩

/-- There are `n` places, and the plugin at each is the one of its profile. -/
structure Fits (prof : Nat → SteadyPlugin) (n : Nat) (c : Check) : Prop where
  size : c.roster.size = n
  length : c.marks.length = n
  plugin : ∀ k, k < n → (c.roster.outline k).plugin = (prof k).plugin

namespace Fits

/-- Who the plugins are is told by the outlines: what is logged or locked meanwhile makes no difference. -/
theorem of_outlines_eq (h : c.Fits prof n) (hm : c'.marks = c.marks) (ho : c'.roster.outlines = c.roster.outlines) :
    c'.Fits prof n where
  size := (Roster.size_of_outlines_eq ho).trans h.size
  length := hm ▸ h.length
  plugin k hk := by rw [Roster.outline_of_outlines_eq ho]; exact h.plugin k hk

/-- Recording a group changes no plugin. -/
theorem addNeed (h : c.Fits prof n) (asker : Nat) (g : List Nat) : (c.addNeed asker g).Fits prof n where
  size := (Roster.size_modify ..).trans h.size
  length := h.length
  plugin k hk := by
    rw [outline_addNeed]
    split_ifs <;> exact h.plugin k hk

/-- A mark says nothing of who the plugins are. -/
theorem setMark (h : c.Fits prof n) (i : Nat) (m : Mark) : (c.setMark i m).Fits prof n :=
  ⟨h.size, (List.length_set ..).trans h.length, h.plugin⟩

/-- **The program of a check is the one of its profile**: it asks for the needs there, in order, and ends as the
profile says if all of them are granted. -/
theorem asks_program (h : c.Fits prof n) (hi : i < n) : Asks (prof i).checks (prof i).needs (c.program i) := by
  have hp : (c.roster.handle i).plugin = (prof i).plugin := h.plugin i hi
  rw [program, hp]
  exact (prof i).asks _ _

end Fits

/-- What asking one plugin keeps, asking some for the first that passes keeps.  The bounds from both sides go through
the replies with this lemma and the next two. -/
theorem firstPassing_preserves (hask : ∀ j c, P c → P (ask j c).2) (js : List Nat) (h : P c) :
    P (firstPassing ask js c).2 := by
  induction js generalizing c with
  | nil => exact h
  | cons j js ih =>
    have hj := hask j c h
    rw [firstPassing]
    split
    · next heq => rw [heq] at hj; exact hj
    · next heq => rw [heq] at hj; exact ih hj

/-- What asking one plugin keeps, asking all of some keeps. -/
theorem allPassing_preserves (hask : ∀ j c, P c → P (ask j c).2) (js : List Nat) (h : P c) :
    P (allPassing ask js c).2 := by
  induction js generalizing c with
  | nil => exact h
  | cons j js ih => exact ih (hask j c h)

/-- What asking one plugin and recording a group keep, a reply keeps. -/
theorem serve_preserves (hask : ∀ j c, P c → P (ask j c).2) (hadd : ∀ g c, P c → P (c.addNeed asker g))
    (hnote : ∀ line c, P c → P { c with roster := c.roster.log (.noted line) }) (h : P c)
    (q : needSignature.noting.Request) : P (serve ask asker q c).2 := by
  rcases q with line | name | attributes
  · exact hnote line c h
  · have hp := firstPassing_preserves hask (c.candidates asker fun p => p.name = name) h
    simp only [serve]
    split
    · next heq => rw [heq] at hp; exact hadd _ _ hp
    · next heq => rw [heq] at hp; exact hp
  · have hp := allPassing_preserves hask (c.candidates asker (·.hasAttributes attributes)) h
    simp only [serve]
    split_ifs
    · exact hp
    · exact hadd _ _ hp

/-! ### From above -/

/-- Who is accepted ends its check well, and a group of others is recorded for each of its needs. -/
structure Grounded (prof : Nat → SteadyPlugin) (n : Nat) (c : Check) : Prop where
  fits : c.Fits prof n
  accepted : ∀ k, k < n → c.mark k = .accepted → (prof k).checks ∧ ∀ q ∈ (prof k).needs, c.Vouched k q

/-- A need stays vouched for when another group is recorded. -/
theorem Vouched.addNeed (h : c.Vouched i q) (g : List Nat) : (c.addNeed asker g).Vouched i q := by
  obtain ⟨g', hg', hne, hj⟩ := h
  have hplugin : ∀ k, ((c.addNeed asker g).roster.outline k).plugin = (c.roster.outline k).plugin := fun k => by
    rw [outline_addNeed]; split_ifs <;> rfl
  refine ⟨g', ?_, hne, fun j hm => ?_⟩
  · rw [outline_addNeed]
    split_ifs
    · exact List.mem_append_left _ hg'
    · exact hg'
  · rw [hplugin, Check.addNeed, Roster.size_modify]
    exact hj j hm

/-- Who vouches for a need is told by the outlines. -/
theorem Vouched.of_outlines_eq (h : c.Vouched i q) (ho : c'.roster.outlines = c.roster.outlines) :
    c'.Vouched i q := by
  obtain ⟨g, hg, hne, hj⟩ := h
  refine ⟨g, by rw [Roster.outline_of_outlines_eq ho]; exact hg, hne, fun j hm => ?_⟩
  rw [Roster.size_of_outlines_eq ho, Roster.outline_of_outlines_eq ho]
  exact hj j hm

namespace Grounded

/-- The bound from above is told by the marks and the outlines. -/
theorem of_outlines_eq (h : c.Grounded prof n) (hm : c'.marks = c.marks)
    (ho : c'.roster.outlines = c.roster.outlines) : c'.Grounded prof n where
  fits := h.fits.of_outlines_eq hm ho
  accepted k hk ha := by
    rw [Check.mark, hm] at ha
    obtain ⟨hc, hv⟩ := h.accepted k hk ha
    exact ⟨hc, fun q hq => (hv q hq).of_outlines_eq ho⟩

/-- Recording one more group keeps the bound from above: it asks only for groups that are there. -/
theorem addNeed (h : c.Grounded prof n) (asker : Nat) (g : List Nat) : (c.addNeed asker g).Grounded prof n where
  fits := h.fits.addNeed asker g
  accepted k hk ha := by
    obtain ⟨hc, hv⟩ := h.accepted k hk ha
    exact ⟨hc, fun q hq => (hv q hq).addNeed g⟩

/-- A mark keeps the bound from above, if it is not the one of an accepted plugin or the plugin has all its groups on
record. -/
theorem setMark (h : c.Grounded prof n) (i : Nat) {m : Mark}
    (hi : m = .accepted → (prof i).checks ∧ ∀ q ∈ (prof i).needs, c.Vouched i q) :
    (c.setMark i m).Grounded prof n where
  fits := h.fits.setMark i m
  accepted k hk ha := by
    by_cases hki : k = i
    · rw [mark_setMark m (h.fits.length ▸ hki ▸ hk), if_pos hki] at ha
      exact hki ▸ hi ha
    · refine h.accepted k hk ?_
      rwa [Check.mark, Check.setMark, List.getElem?_set_ne (Ne.symm hki)] at ha

/-- Whatever a program asks for, its replies keep the bound from above, if checks do. -/
theorem run (h : c.Grounded prof n) (asker : Nat) (hask : ∀ j c, Grounded prof n c → (ask j c).2.Grounded prof n)
    (t : NeedTask) :
    (t.run (serve ask asker) c).2.Grounded prof n :=
  Task.run_preserves (P := Grounded prof n)
    (fun q _ hc => serve_preserves hask (fun g _ h => h.addNeed asker g) (fun _ _ h => h.of_outlines_eq rfl rfl) hc q)
    t h

end Grounded

/-- **A check keeps the bound from above**: a plugin is accepted only once it has recorded all that it needs.  The
induction is on the depth of nesting; whoever is asked on the way is asked one level deeper. -/
theorem grounded_pass (d i : Nat) (h : c.Grounded prof n) : (pass d i c).2.Grounded prof n := by
  refine pass_preserves (P := Grounded prof n) (fun d i c ih h hm result c' heq => ?_) d i h
  have hlt := lt_length_of_mark_eq_pending hm
  have hi : i < n := h.fits.length ▸ hlt
  let begun := c.setMark i .inProgress
  have hbegun : begun.Grounded prof n := h.setMark i nofun
  have hentered : (begun.entered i).Grounded prof n := hbegun.of_outlines_eq rfl (Roster.outlines_enter ..)
  obtain ⟨hok, hmarks, houts⟩ := callCheck_eq (pass d) i begun
  have hleft := (hentered.run i ih (begun.program i)).of_outlines_eq hmarks houts
  rw [heq] at hok hmarks houts hleft
  refine hleft.setMark i fun ha => ?_
  cases result with
  | ok =>
    have hmark : (begun.entered i).mark i = .inProgress := (mark_setMark _ hlt).trans (if_pos rfl)
    obtain ⟨hc, hv⟩ := vouched_run (progress_pass d) (hbegun.fits.asks_program hi) hmark
      (hentered.fits.size.symm ▸ hi) hok.symm
    exact ⟨hc, fun q hq => (hv q hq).of_outlines_eq houts⟩
  | error e => cases ha

/-! ### From below -/

/-- Whoever is asked is pending no more: the number that bounds the depth of nesting goes down by one. -/
theorem pendingCount_setMark_inProgress (h : c.mark i = .pending) :
    (c.setMark i .inProgress).pendingCount + 1 = c.pendingCount := by
  have hi := lt_length_of_mark_eq_pending h
  have hpos := pendingCount_pos h
  have hget : c.marks[i] = .pending := by rwa [mark, List.getElem?_eq_getElem hi] at h
  rw [pendingCount] at hpos
  rw [pendingCount, pendingCount, setMark, List.count_set hi, if_pos (beq_iff_eq.2 hget), if_neg (by decide)]
  omega

/-- No mark that is given to a plugin makes another one pending. -/
theorem pendingCount_setMark_le {m : Mark} (hm : m ≠ .pending) : (c.setMark i m).pendingCount ≤ c.pendingCount := by
  by_cases hi : i < c.marks.length
  · rw [pendingCount, pendingCount, setMark, List.count_set hi, if_neg (mt beq_iff_eq.1 hm)]
    omega
  · rw [pendingCount, setMark, List.set_eq_of_length_le (Nat.not_lt.1 hi)]
    exact Nat.le_refl _

/-- No member of the set is rejected, each group recorded for a member has a member, and at most `d` plugins were
not asked yet. -/
structure Upholds (prof : Nat → SteadyPlugin) (A : Set Nat) (n d : Nat) (c : Check) : Prop where
  fits : c.Fits prof n
  lt : ∀ k ∈ A, k < n
  mark : ∀ k ∈ A, (c.mark k).isRejected = false
  group : ∀ k ∈ A, ∀ g ∈ (c.roster.outline k).needs, ∃ j ∈ g, j ∈ A
  depth : c.pendingCount ≤ d

/-- The set is self-supporting, and no requester has two others of a name that it requires. -/
structure Decisive (prof : Nat → SteadyPlugin) (n : Nat) (A : Set Nat) : Prop where
  selfSupporting : SelfSupporting prof A
  unique : ∀ i, i < n → ∀ name, .require name ∈ (prof i).needs → ∀ j k, j < n → k < n → j ≠ i → k ≠ i →
    (prof j).plugin.name = name → (prof k).plugin.name = name → j = k

namespace Upholds

/-- The bound from below is told by the marks and the outlines. -/
theorem of_outlines_eq (h : c.Upholds prof A n d) (hm : c'.marks = c.marks)
    (ho : c'.roster.outlines = c.roster.outlines) : c'.Upholds prof A n d where
  fits := h.fits.of_outlines_eq hm ho
  lt := h.lt
  mark k hk := by rw [Check.mark, hm]; exact h.mark k hk
  group k hk := by rw [Roster.outline_of_outlines_eq ho]; exact h.group k hk
  depth := by rw [pendingCount, hm]; exact h.depth

/-- Recording a group keeps the bound from below, if a member of the set that asks has a member in it. -/
theorem addNeed (h : c.Upholds prof A n d) {g : List Nat} (hg : asker ∈ A → ∃ j ∈ g, j ∈ A) :
    (c.addNeed asker g).Upholds prof A n d where
  fits := h.fits.addNeed asker g
  lt := h.lt
  mark := h.mark
  group k hk g' hg' := by
    rw [outline_addNeed] at hg'
    split_ifs at hg' with hka
    · rcases List.mem_append.1 hg' with hg' | hg'
      · exact h.group k hk g' hg'
      · exact List.mem_singleton.1 hg' ▸ hg (hka.1 ▸ hk)
    · exact h.group k hk g' hg'
  depth := h.depth

/-- A mark keeps the bound from below, if it rejects no member. -/
theorem setMark {m : Mark} (h : c.Upholds prof A n d) (hm : m ≠ .pending) (hi : i ∈ A → m.isRejected = false) :
    (c.setMark i m).Upholds prof A n d where
  fits := h.fits.setMark i m
  lt := h.lt
  mark k hk := by
    by_cases hki : k = i
    · rw [mark_setMark m (h.fits.length ▸ hki ▸ h.lt k hk), if_pos hki]
      exact hi (hki ▸ hk)
    · rw [Check.mark, Check.setMark, List.getElem?_set_ne (Ne.symm hki)]
      exact h.mark k hk
  group := h.group
  depth := Nat.le_trans (pendingCount_setMark_le hm) h.depth

/-- A bound on the plugins that were not asked yet may be taken larger. -/
theorem mono {d' : Nat} (h : c.Upholds prof A n d) (hd : d ≤ d') : c.Upholds prof A n d' :=
  ⟨h.fits, h.lt, h.mark, h.group, Nat.le_trans h.depth hd⟩

end Upholds

/-- Checks keep the bound from below, and members pass. -/
def UpholdsAll (prof : Nat → SteadyPlugin) (A : Set Nat) (n d : Nat) (ask : Nat → Check → Bool × Check) : Prop :=
  ∀ j c, Upholds prof A n d c → (ask j c).2.Upholds prof A n d ∧ (j ∈ A → (ask j c).1 = true)

/-- A program that asks for nothing and fails leaves the check as it was. -/
theorem upholds_run_of_fails (ask : Nat → Check → Bool × Check) (asker : Nat) {t : NeedTask} (ht : t.Fails)
    (h : c.Upholds prof A n d) : (t.run (serve ask asker) c).2.Upholds prof A n d := by
  induction ht generalizing c with
  | done halt memory => exact h
  | note _ ih => exact ih (h.of_outlines_eq rfl rfl)

section Walk

variable (hask : UpholdsAll prof A n d ask)
include hask

/-- Among some plugins of which the first is a member, it is the first that passes. -/
theorem firstPassing_of_mem {j : Nat} {js : List Nat} (h : c.Upholds prof A n d) (hj : j ∈ A) :
    (firstPassing ask (j :: js) c).1 = some j := by
  have hp := (hask j c h).2 hj
  rw [firstPassing]
  split
  · rfl
  · next heq => rw [heq] at hp; cases hp

/-- All members among some plugins pass, as whoever is asked is no member if it fails. -/
theorem mem_allPassing {j : Nat} {js : List Nat} (h : c.Upholds prof A n d) (hj : j ∈ A) (hjs : j ∈ js) :
    j ∈ (allPassing ask js c).1 := by
  induction js generalizing c with
  | nil => exact hjs
  | cons i js ih =>
    obtain ⟨hc, hp⟩ := hask i c h
    simp only [allPassing]
    rcases List.mem_cons.1 hjs with rfl | hjs
    · rw [if_pos (hp hj)]
      exact List.mem_cons_self ..
    · split_ifs
      · exact List.mem_cons_of_mem _ (ih hc hjs)
      · exact ih hc hjs

/-- The only candidate for the name that a member requires is itself a member, and passes. -/
theorem exists_firstPassing (hA : Decisive prof n A) (h : c.Upholds prof A n d) (hi : asker ∈ A) {name : String}
    (hq : .require name ∈ (prof asker).needs) :
    ∃ j ∈ A, (firstPassing ask (c.candidates asker fun p => p.name = name) c).1 = some j := by
  obtain ⟨j, hj, hne, hmeets⟩ := (hA.selfSupporting asker hi).2 _ hq
  have hlt := h.lt j hj
  have hmem : j ∈ c.candidates asker fun p => p.name = name :=
    (mem_candidates_iff_meets name).2 ⟨h.fits.size.symm ▸ hlt, hne, (h.fits.plugin j hlt).symm ▸ hmeets⟩
  have hsame : ∀ k ∈ c.candidates asker fun p => p.name = name, k = j := by
    intro k hk
    obtain ⟨hk, hka, hm⟩ := (mem_candidates_iff_meets name).1 hk
    rw [h.fits.size] at hk
    rw [h.fits.plugin k hk] at hm
    exact hA.unique asker (h.lt asker hi) name hq k j hk hlt hka hne hm hmeets
  refine ⟨j, hj, ?_⟩
  cases hjs : c.candidates asker fun p => p.name = name with
  | nil => rw [hjs] at hmem; cases hmem
  | cons k ks =>
    obtain rfl := hsame k (by rw [hjs]; exact List.mem_cons_self ..)
    exact firstPassing_of_mem hask h hj

/-- Among the candidates for the attributes that a member requires is a member that passes. -/
theorem exists_mem_allPassing (hA : Decisive prof n A) (h : c.Upholds prof A n d) (hi : asker ∈ A)
    {attributes : List String} (hq : .requireAttributes attributes ∈ (prof asker).needs) :
    ∃ j ∈ (allPassing ask (c.candidates asker (·.hasAttributes attributes)) c).1, j ∈ A := by
  obtain ⟨j, hj, hne, hmeets⟩ := (hA.selfSupporting asker hi).2 _ hq
  have hlt := h.lt j hj
  exact ⟨j, mem_allPassing hask h hj ((mem_candidates_iff_meets_attributes attributes).2
    ⟨h.fits.size.symm ▸ hlt, hne, (h.fits.plugin j hlt).symm ▸ hmeets⟩), hj⟩

/-- **A reply to a member grants its need**, and records a member.  Members are found among the candidates, and the
depth that is left covers all that are still to be asked, so that none of them is refused for lack of depth. -/
theorem upholds_serve (hA : Decisive prof n A) (h : c.Upholds prof A n d)
    (hq : asker ∈ A → q ∈ (prof asker).needs) :
    (serve ask asker (.other q) c).2.Upholds prof A n d ∧ (asker ∈ A → grants ask asker q c) := by
  have hstep : ∀ j c, Upholds prof A n d c → (ask j c).2.Upholds prof A n d := fun j c h => (hask j c h).1
  rcases q with name | attributes
  · have hfirst := fun hi => exists_firstPassing hask hA h hi (hq hi)
    have hc := firstPassing_preserves hstep (c.candidates asker fun p => p.name = name) h
    simp only [grants, serve]
    split
    · next heq =>
      rw [heq] at hfirst hc
      refine ⟨hc.addNeed fun hi => ?_, fun _ => rfl⟩
      obtain ⟨k, hk, he⟩ := hfirst hi
      exact ⟨k, List.mem_singleton.2 (Option.some.inj he).symm, hk⟩
    · next heq =>
      rw [heq] at hfirst hc
      refine ⟨hc, fun hi => ?_⟩
      obtain ⟨k, -, he⟩ := hfirst hi
      cases he
  · have hall := fun hi => exists_mem_allPassing hask hA h hi (hq hi)
    have hc := allPassing_preserves hstep (c.candidates asker (·.hasAttributes attributes)) h
    simp only [grants, serve]
    split_ifs with hempty
    · refine ⟨hc, fun hi => ?_⟩
      obtain ⟨k, hk, -⟩ := hall hi
      rw [List.isEmpty_iff.1 hempty] at hk
      cases hk
    · exact ⟨hc.addNeed hall, fun _ => rfl⟩

/-- **The program of a member's check** ends as its profile says, since all its needs are granted.  The induction
follows the needs in the order in which the program asks for them. -/
theorem upholds_run (hA : Decisive prof n A) {passes : Bool} {needs : List NeedRequest} {t : NeedTask}
    (ht : t.Asks passes needs) (h : c.Upholds prof A n d)
    (hneeds : asker ∈ A → ∀ q ∈ needs, q ∈ (prof asker).needs) :
    (t.run (serve ask asker) c).2.Upholds prof A n d ∧
      (asker ∈ A → (t.run (serve ask asker) c).1.1.isOk = passes) := by
  induction ht generalizing c with
  | done hp => exact ⟨h, fun _ => hp⟩
  | note _ ih => exact ih (h.of_outlines_eq rfl rfl) hneeds
  | @ask q needs next _ refused ih =>
    obtain ⟨hc, hg⟩ := upholds_serve hask hA h fun hi => hneeds hi q (List.mem_cons_self ..)
    cases hgr : grants ask asker q c with
    | true => exact ih _ hgr hc fun hi q' hq' => hneeds hi q' (List.mem_cons_of_mem _ hq')
    | false =>
      have hfails := upholds_run_of_fails ask asker (refused _ hgr) hc
      refine ⟨hfails, fun hi => ?_⟩
      rw [hg hi] at hgr
      exact nomatch hgr

end Walk

/-- **A check keeps the bound from below**, and members pass.  The induction is on the depth, which is enough for all
plugins that were not asked yet; a member that is under way counts as passed, so that circles of members hold. -/
theorem upholdsAll_pass (hA : Decisive prof n A) (d : Nat) : UpholdsAll prof A n d (pass d) := by
  induction d with
  | zero =>
    intro i c h
    rcases pass_cases 0 i c with ⟨-, he⟩ | ⟨hm, he⟩ | ⟨hm, -, -⟩ | ⟨d, hd, -⟩
    · exact he ▸ ⟨h, fun _ => rfl⟩
    · exact he ▸ ⟨h, fun hi => absurd hm (by rw [h.mark i hi]; decide)⟩
    · exact absurd (pendingCount_pos hm) (Nat.not_lt.2 h.depth)
    · exact nomatch hd
  | succ d ih =>
    intro i c h
    rcases pass_cases (d + 1) i c with ⟨-, he⟩ | ⟨hm, he⟩ | ⟨-, hd, -⟩ | ⟨d', hd, hm, hcall⟩
    · exact he ▸ ⟨h, fun _ => rfl⟩
    · exact he ▸ ⟨h, fun hi => absurd hm (by rw [h.mark i hi]; decide)⟩
    · exact nomatch hd
    · obtain rfl : d = d' := Nat.succ.inj hd
      have hi : i < n := h.fits.length ▸ lt_length_of_mark_eq_pending hm
      let begun := c.setMark i .inProgress
      have hbegun : begun.Upholds prof A n d := by
        refine { h.setMark (by decide) (fun _ => rfl) with depth := ?_ }
        have hcount : begun.pendingCount + 1 = c.pendingCount := pendingCount_setMark_inProgress hm
        have hdepth := h.depth
        omega
      have hentered : (begun.entered i).Upholds prof A n d := hbegun.of_outlines_eq rfl (Roster.outlines_enter ..)
      obtain ⟨hrun, hends⟩ := upholds_run ih hA (hbegun.fits.asks_program hi) hentered fun _ _ hq => hq
      obtain ⟨hok, hmarks, houts⟩ := callCheck_eq (pass d) i begun
      have hleft := (hrun.of_outlines_eq hmarks houts).mono (Nat.le_succ d)
      rcases hcall with ⟨c', heq, he⟩ | ⟨e, c', heq, he⟩ <;> rw [he] <;> rw [heq] at hok hleft
      · exact ⟨hleft.setMark nofun fun _ => rfl, fun _ => rfl⟩
      · -- A member's check does not fail.
        have hno : i ∉ A := fun hi => by
          rw [hends hi, (hA.selfSupporting i hi).1.2.1] at hok
          exact nomatch hok
        exact ⟨hleft.setMark nofun fun hi => absurd hi hno, fun hi => absurd hi hno⟩

/-! ### The whole walk -/

/-- The whole walk keeps the bound from above, whoever it begins with. -/
theorem grounded_askAll (h : c.Grounded prof n) : c.askAll.Grounded prof n :=
  List.foldlRecOn (motive := Grounded prof n) _ _ h fun c hc i _ => grounded_pass c.pendingCount i hc

/-- The whole walk keeps the bound from below: in the end no member of the set is rejected. -/
theorem upholds_askAll (hA : Decisive prof n A) (h : c.Upholds prof A n c.pendingCount) :
    c.askAll.Upholds prof A n c.pendingCount := by
  refine List.foldlRecOn (motive := Upholds prof A n c.pendingCount) _ _ h fun c' hc i _ => ?_
  have hown : c'.Upholds prof A n c'.pendingCount := { hc with depth := Nat.le_refl _ }
  exact (upholdsAll_pass hA _ i c' hown).1.mono hc.depth

end Check
end BringUp
end Calibration
