/-
# Rounds of rejections

Rejections are passed on in rounds: a round goes through the plugins in load order and takes down each one that has a
failed group, and rounds are made until one changes nothing.  `settle` says the same by the number of plugins that are
up; here the loops are told as they are made, with a flag for a change.  Each round that reports a change takes a plugin
down that was up, and nobody gets up again, so that a loop over `n` plugins ends within `n + 1` rounds (`Loop.Ends`).

That is proved once, for the stakes of the plugins (`ends_of_stakes`).  The loop of the dependency check works on marks,
where a rejection is one assignment (`ends_withdraw`); that of the late check moves plugins in their lifecycle, and
reports a change whether the move was allowed or not: it ends because a plugin that is past all phases may still be
rejected (`ends_withdrawLate`).
-/

import Calibration.Proofs.BringUp.Phases
import Mathlib.Logic.Function.Iterate

namespace Calibration
namespace BringUp

/-! ### Loops -/

namespace Loop

variable {σ τ : Type}

/-- One round over some places, one after the other; tells whether anything has changed. -/
def round (step : σ → Nat → Option σ) : List Nat → σ → Bool × σ
  | [], s => (false, s)
  | i :: rest, s =>
    match step s i with
    | some s' => (true, (round step rest s').2)
    | none => round step rest s

/-- Rounds until one changes nothing; no result if these are more than so many. -/
def run (step : σ → Nat → Option σ) (places : List Nat) : Nat → σ → Option σ
  | 0, _ => none
  | k + 1, s =>
    match round step places s with
    | (true, s') => run step places k s'
    | (false, s') => some s'

/-- A loop over `n` places ends within `n + 1` rounds, since each round that reports a change takes some place down that
was live, and what is down stays down. -/
structure Ends (step : σ → Nat → Option σ) (n : Nat) (live down : σ → Nat → Prop) (s : σ) (Q : σ → Prop) : Prop where
  stops : ∃ s', run step (List.range n) (n + 1) s = some s' ∧ Q s'
  falls : ∀ j, let t := (fun s => (round step (List.range n) s).2)^[j] s
    (round step (List.range n) t).1 = true →
      ∃ k < n, live t k ∧ down ((fun s => (round step (List.range n) s).2)^[j + 1] s) k
  stays : ∀ j k, down ((fun s => (round step (List.range n) s).2)^[j] s) k →
    down ((fun s => (round step (List.range n) s).2)^[j + 1] s) k

/-- Two steps do the same on related states. -/
def Alike (R : σ → τ → Prop) (s? : Option σ) (t? : Option τ) : Prop :=
  s? = none ∧ t? = none ∨ ∃ s t, s? = some s ∧ t? = some t ∧ R s t

variable {R : σ → τ → Prop} {step : σ → Nat → Option σ} {step' : τ → Nat → Option τ} {places : List Nat}

/-- Two steps that go on under the same condition do the same if what they make is related. -/
theorem alike_map {α : Type} {x? : Option α} {f : α → σ} {g : α → τ} (h : ∀ x, R (f x) (g x)) :
    Alike R (x?.map f) (x?.map g) := by
  cases x? with
  | none => exact .inl ⟨rfl, rfl⟩
  | some x => exact .inr ⟨f x, g x, rfl, rfl, h x⟩

/-- **Steps that do the same on related states make rounds that do**, and the rounds report the same.  The induction
is over the places that are still to be visited. -/
theorem round_alike (hstep : ∀ i ∈ places, ∀ s t, R s t → Alike R (step s i) (step' t i)) {s : σ} {t : τ} (h : R s t) :
    (round step places s).1 = (round step' places t).1 ∧ R (round step places s).2 (round step' places t).2 := by
  induction places generalizing s t with
  | nil => exact ⟨rfl, h⟩
  | cons i rest ih =>
    obtain ⟨hi, hrest⟩ := List.forall_mem_cons.1 hstep
    rw [round, round]
    rcases hi s t h with ⟨hs, ht⟩ | ⟨s', t', hs, ht, h'⟩ <;> rw [hs, ht]
    · exact ih hrest h
    · exact ⟨rfl, (ih hrest h').2⟩

/-- So do the loops made of them: they end in the same round, in related states. -/
theorem run_alike (hstep : ∀ i ∈ places, ∀ s t, R s t → Alike R (step s i) (step' t i)) (k : Nat) {s : σ} {t : τ}
    (h : R s t) : Alike R (run step places k s) (run step' places k t) := by
  induction k generalizing s t with
  | zero => exact .inl ⟨rfl, rfl⟩
  | succ k ih =>
    obtain ⟨hflag, h'⟩ := round_alike hstep h
    rw [run, run]
    rcases hs : round step places s with ⟨_ | _, s'⟩ <;> rcases ht : round step' places t with ⟨_ | _, t'⟩ <;>
      rw [hs, ht] at hflag h'
    · exact .inr ⟨s', t', rfl, rfl, h'⟩
    · exact nomatch hflag
    · exact nomatch hflag
    · exact ih h'

/-- So do any number of rounds. -/
theorem iterate_alike (hstep : ∀ i ∈ places, ∀ s t, R s t → Alike R (step s i) (step' t i)) (j : Nat) {s : σ} {t : τ}
    (h : R s t) :
    R ((fun s => (round step places s).2)^[j] s) ((fun t => (round step' places t).2)^[j] t) := by
  induction j generalizing s t with
  | zero => exact h
  | succ j ih => exact ih (round_alike hstep h).2

end Loop

open Loop

/-! ### The loop over stakes -/

variable {a b : List Stake} {i k : Nat}

/-- The stakes once the plugin at a place goes down, if it has to. -/
def struck? (a : List Stake) (i : Nat) : Option (List Stake) :=
  match a[i]? with
  | some s =>
    if s.standing = .up then
      (failedGroup? a s).map fun group => a.set i { s with standing := .down, cause := some group }
    else none
  | none => none

/-- A strike is a step that says whether it has changed anything. -/
theorem strike_eq (a : List Stake) (i : Nat) : strike a i = (struck? a i).getD a := by
  unfold strike struck?
  cases a[i]? with
  | none => rfl
  | some s =>
    simp only
    split_ifs
    · cases failedGroup? a s <;> rfl
    · rfl

/-- Who is struck was up and goes down, and nobody else does. -/
theorem falls_of_struck (h : struck? a i = some b) :
    Falls a b ∧ upCount b < upCount a ∧ (∃ s, a[i]? = some s ∧ s.standing = .up) ∧ isDown b i := by
  have hstrike : strike a i = b := by rw [strike_eq, h]; rfl
  have hfalls := falls_strike a i
  rw [hstrike] at hfalls
  unfold struck? at h
  split at h
  · next s hs =>
    split_ifs at h with hup
    obtain ⟨group, -, rfl⟩ := Option.map_eq_some_iff.1 h
    have hdown : isDown (a.set i { s with standing := .down, cause := some group }) i := by
      rw [isDown, List.getElem?_set_self (List.getElem?_eq_some_iff.1 hs).1]
      rfl
    refine ⟨hfalls, ?_, ⟨s, hs, hup⟩, hdown⟩
    refine (upCount_strike a i).elim (fun hsame => ?_) fun hlt => hstrike ▸ hlt
    rw [← hstrike, hsame, isDown, hs, Option.map_some, hup] at hdown
    exact absurd hdown (by decide)
  · cases h

/-- **A round of strikes takes somebody down and says so**, or changes nothing and says that; it comes to what the
strikes do one after the other. -/
theorem round_struck (places : List Nat) (a : List Stake) :
    Falls a (Loop.round struck? places a).2 ∧ (Loop.round struck? places a).2 = places.foldl strike a ∧
      (((Loop.round struck? places a).1 = true ∧ upCount (Loop.round struck? places a).2 < upCount a ∧
          ∃ k ∈ places, (∃ s, a[k]? = some s ∧ s.standing = .up) ∧ isDown (Loop.round struck? places a).2 k) ∨
        ((Loop.round struck? places a).1 = false ∧ (Loop.round struck? places a).2 = a)) := by
  induction places generalizing a with
  | nil => exact ⟨.refl a, rfl, .inr ⟨rfl, rfl⟩⟩
  | cons i rest ih =>
    rw [Loop.round, List.foldl_cons, strike_eq]
    cases hstruck : struck? a i with
    | none =>
      obtain ⟨hfalls, hfold, hcases⟩ := ih a
      refine ⟨hfalls, hfold, hcases.imp_left ?_⟩
      rintro ⟨hflag, hlt, k, hk, hup⟩
      exact ⟨hflag, hlt, k, List.mem_cons_of_mem i hk, hup⟩
    | some b =>
      obtain ⟨hfirst, hlt, hup, hdown⟩ := falls_of_struck hstruck
      obtain ⟨hfalls, hfold, hcases⟩ := ih b
      have hle : upCount (Loop.round struck? rest b).2 ≤ upCount b := by
        rcases hcases with ⟨-, hlt, -⟩ | ⟨-, he⟩
        · exact Nat.le_of_lt hlt
        · exact Nat.le_of_eq (by rw [he])
      exact ⟨hfirst.trans hfalls, hfold,
        .inl ⟨rfl, Nat.lt_of_le_of_lt hle hlt, i, List.mem_cons_self, hup, hfalls.isDown hdown⟩⟩

/-- **The loop over stakes ends where `settle` does**, within as many rounds as there are plugins up, and one more:
each round that reports a change leaves fewer plugins up. -/
theorem run_struck {n : Nat} (hlength : a.length = n) (hk : upCount a < k) :
    run struck? (List.range n) k a = some (settle a) := by
  induction k generalizing a with
  | zero => exact absurd hk (Nat.not_lt_zero _)
  | succ k ih =>
    obtain ⟨hfalls, hfold, hcases⟩ := round_struck (List.range n) a
    have hsweep : sweep a = (Loop.round struck? (List.range n) a).2 := by rw [hfold, sweep, hlength]
    rw [run, settle]
    simp only [hsweep]
    rcases hround : Loop.round struck? (List.range n) a with ⟨flag, b⟩
    rw [hround] at hfalls hcases
    rcases hcases with ⟨hflag, hlt, -⟩ | ⟨hflag, he⟩
    · obtain rfl : flag = true := hflag
      rw [if_pos hlt]
      exact ih (hfalls.length.trans hlength) (Nat.lt_of_lt_of_le hlt (Nat.le_of_lt_succ hk))
    · obtain rfl : flag = false := hflag
      obtain rfl : b = a := he
      rw [if_neg (Nat.lt_irrefl _)]

/-- **A loop that does to its states what strikes do to stakes ends**, and comes to what `settle` comes to.  Both
loops of bring-up are seen to end by it. -/
theorem ends_of_stakes {σ : Type} {step : σ → Nat → Option σ} {n : Nat} {live down : σ → Nat → Prop}
    {R : σ → List Stake → Prop} (hlength : ∀ s a, R s a → a.length = n)
    (hlive : ∀ s a k t, R s a → a[k]? = some t → t.standing = .up → live s k)
    (hdown : ∀ s a k, R s a → (isDown a k ↔ down s k))
    (hstep : ∀ i ∈ List.range n, ∀ s a, R s a → Alike R (step s i) (struck? a i)) {s : σ} (h : R s a) :
    Ends step n live down s (R · (settle a)) := by
  have hround := fun {s a} (h : R s a) => round_alike hstep h
  have hiterate := fun j => iterate_alike hstep j h
  constructor
  case stops =>
    have hup : upCount a < n + 1 := Nat.lt_succ_of_le (hlength s a h ▸ List.countP_le_length)
    have hrun := run_alike hstep (n + 1) h
    rw [run_struck (hlength s a h) hup] at hrun
    rcases hrun with ⟨-, hnone⟩ | ⟨s', b, hs', hb, h'⟩
    · exact nomatch hnone
    · exact ⟨s', hs', Option.some.inj hb ▸ h'⟩
  case falls =>
    intro j t hflag
    obtain ⟨hsame, h'⟩ := hround (hiterate j)
    rw [Function.iterate_succ_apply']
    rcases (round_struck (List.range n) ((fun a => (Loop.round struck? (List.range n) a).2)^[j] a)).2.2 with
      ⟨-, -, k, hk, ⟨s, hs, hup⟩, hd⟩ | ⟨hno, -⟩
    · exact ⟨k, List.mem_range.1 hk, hlive _ _ k s (hiterate j) hs hup, (hdown _ _ k h').1 hd⟩
    · exact nomatch (hsame.symm.trans hflag).symm.trans hno
  case stays =>
    intro j k hd
    rw [Function.iterate_succ_apply']
    refine (hdown _ _ k (hround (hiterate j)).2).1 ?_
    exact (round_struck _ _).1.isDown ((hdown _ _ k (hiterate j)).2 hd)

/-! ### Stakes without causes -/

/-- The stake without the group that took its plugin down. -/
def Stake.plain (s : Stake) : Stake := { s with cause := none }

section Plain

variable {view : List Stake} {s : Stake}

/-- Who is down is told without the causes. -/
theorem isDown_of_plain (h : a.map Stake.plain = view) (j : Nat) : isDown a j = isDown view j := by
  rw [isDown, isDown, ← h, List.getElem?_map, Option.map_map]
  rfl

/-- What becomes of a plugin does not hang on the causes that are known. -/
theorem struck?_of_plain (h : a.map Stake.plain = view) (hs : view[i]? = some s) :
    struck? a i =
      if s.standing = .up then (failedGroup? view s).map fun group => a.set i ⟨.down, s.groups, some group⟩
      else none := by
  rw [← h, List.getElem?_map, Option.map_eq_some_iff] at hs
  obtain ⟨t, ht, rfl⟩ := hs
  have hfailed : hasFailed a = hasFailed view := by
    funext group
    rw [hasFailed, hasFailed, funext (isDown_of_plain h)]
  simp only [struck?, ht, failedGroup?, hfailed]
  rfl

/-- A strike written without its cause. -/
theorem plain_set (h : a.map Stake.plain = view) (groups : List (List Nat)) (group : List Nat) :
    (a.set i ⟨.down, groups, some group⟩).map Stake.plain = view.set i ⟨.down, groups, none⟩ := by
  rw [List.map_set, h]
  rfl

end Plain

/-! ### The loop over marks -/

namespace Check

/-- The check once the plugin at a place is rejected, if it is accepted and all members of one of its groups are
rejected. -/
def withdraw? (c : Check) (i : Nat) : Option Check :=
  if c.mark i = .accepted then
    ((c.roster.entry i).needs.find? fun group => !group.isEmpty && group.all fun j => (c.mark j).isRejected).map
      fun group => c.setMark i (.rejected (dependencyReason c.roster group))
  else none

/-- A check after some rejections, and the stakes after the strikes that go with them. -/
structure Withdrawn (c c' : Check) (a : List Stake) : Prop where
  roster : c'.roster = c.roster
  length : c'.marks.length = c.roster.size
  plain : a.map Stake.plain = c'.stakes
  mark : ∀ k s, a[k]? = some s →
    c'.mark k = (s.cause.map fun group => .rejected (dependencyReason c.roster group)).getD (c.mark k)

variable {c c' : Check}

/-- Each plugin has a stake. -/
theorem length_stakes (h : c.marks.length = c.roster.size) : c.stakes.length = c.roster.size := by
  rw [stakes, List.length_zipWith, h]
  exact Nat.min_self _

/-- A mark is written into one stake. -/
theorem stakes_setMark (h : c.marks.length = c.roster.size) (i : Nat) (m : Mark) :
    (c.setMark i m).stakes = c.stakes.set i (stake m (c.roster.outline i).needs) := by
  have h' : (c.setMark i m).marks.length = (c.setMark i m).roster.size := (List.length_set ..).trans h
  refine List.ext_getElem? fun k => ?_
  rw [stakes_getElem? h']
  change (if k < c.roster.size then some (stake ((c.setMark i m).mark k) (c.roster.outline k).needs) else none) = _
  by_cases hki : i = k
  · subst hki
    by_cases hi : i < c.roster.size
    · rw [if_pos hi, mark_setMark m (h ▸ hi), if_pos rfl, List.getElem?_set_self (length_stakes h ▸ hi)]
    · rw [if_neg hi, List.getElem?_eq_none]
      rw [List.length_set, length_stakes h]
      exact Nat.not_lt.1 hi
  · rw [List.getElem?_set_ne hki, stakes_getElem? h, mark, setMark, List.getElem?_set_ne hki]
    rfl

/-- After rejections there are as many stakes as plugins. -/
theorem Withdrawn.length_eq (h : c.Withdrawn c' a) : a.length = c.roster.size := by
  rw [← List.length_map (f := Stake.plain), h.plain, length_stakes (h.roster.symm ▸ h.length), h.roster]

/-- A plugin is up exactly if it is accepted. -/
theorem standing_stake (m : Mark) (needs : List (List Nat)) : (stake m needs).standing = .up ↔ m = .accepted := by
  cases m <;> simp [stake]

/-- **A rejection of a mark is a strike**: the loop over marks does to the check what the strike does to the stakes,
and does nothing where that does nothing. -/
theorem Withdrawn.step (h : c.Withdrawn c' a) (hi : i < c.roster.size) :
    Alike c.Withdrawn (c'.withdraw? i) (struck? a i) := by
  have hlength : c'.marks.length = c'.roster.size := h.roster.symm ▸ h.length
  have hstake := stakes_getElem? hlength i
  rw [h.roster, if_pos hi] at hstake
  have hneeds : (c'.roster.entry i).needs = (c.roster.outline i).needs := by rw [h.roster]; rfl
  have hfailed : hasFailed c'.stakes = fun group => !group.isEmpty && group.all fun j => (c'.mark j).isRejected := by
    funext group
    rw [hasFailed, funext (isDown_stakes hlength)]
  rw [struck?_of_plain h.plain hstake, withdraw?, failedGroup?, hfailed, hneeds]
  by_cases hm : c'.mark i = .accepted
  · rw [if_pos hm, if_pos ((standing_stake ..).2 hm)]
    refine alike_map fun group => ⟨h.roster, (List.length_set ..).trans h.length, ?_, fun k s hs => ?_⟩
    · rw [plain_set h.plain, stakes_setMark hlength, h.roster]
      rfl
    · rw [h.roster]
      by_cases hk : i = k
      · subst hk
        rw [mark_setMark _ (h.length ▸ hi), if_pos rfl]
        rw [List.getElem?_set_self (h.length_eq ▸ hi)] at hs
        obtain rfl := Option.some.inj hs
        rfl
      · rw [List.getElem?_set_ne hk] at hs
        rw [Check.mark, setMark, List.getElem?_set_ne hk]
        exact h.mark k s hs
  · rw [if_neg hm, if_neg (mt (standing_stake ..).1 hm)]
    exact .inl ⟨rfl, rfl⟩

/-- Before the first rejection the stakes are those of the marks. -/
theorem withdrawn_stakes (h : c.marks.length = c.roster.size) : c.Withdrawn c c.stakes := by
  have hcause : ∀ (k : Nat) s, c.stakes[k]? = some s → s.cause = none := by
    intro k s hs
    rw [stakes_getElem? h] at hs
    split_ifs at hs
    exact Option.some.inj hs ▸ rfl
  refine ⟨rfl, h, List.ext_getElem? fun k => ?_, fun k s hs => ?_⟩
  · rw [List.getElem?_map]
    cases hs : c.stakes[k]? with
    | none => rfl
    | some s =>
      obtain ⟨standing, groups, cause⟩ := s
      obtain rfl : cause = none := hcause k _ hs
      rfl
  · rw [hcause k s hs]
    rfl

/-- Who is down is rejected, and the other way round. -/
theorem Withdrawn.isDown_iff (h : c.Withdrawn c' a) (k : Nat) : isDown a k ↔ (c'.mark k).isRejected := by
  rw [isDown_of_plain h.plain, isDown_stakes (h.roster.symm ▸ h.length)]

/-- Who is up is accepted by now. -/
theorem Withdrawn.mark_of_up (h : c.Withdrawn c' a) {s : Stake} (hs : a[k]? = some s) (hup : s.standing = .up) :
    c'.mark k = .accepted := by
  have hplain : c'.stakes[k]? = some s.plain := by rw [← h.plain, List.getElem?_map, hs]; rfl
  rw [stakes_getElem? (h.roster.symm ▸ h.length)] at hplain
  split_ifs at hplain
  exact (standing_stake _ _).1 ((congrArg Stake.standing (Option.some.inj hplain)).trans hup)

/-- A check is told by its roster and its marks. -/
theorem eq_of_mark_eq (hroster : c'.roster = c.roster) (hlength : c'.marks.length = c.marks.length)
    (h : ∀ k < c.marks.length, c'.mark k = c.mark k) : c' = c := by
  obtain ⟨roster, marks⟩ := c
  obtain ⟨roster', marks'⟩ := c'
  obtain rfl : roster' = roster := hroster
  refine congrArg (Check.mk roster') (List.ext_getElem hlength fun k hk' hk => ?_)
  have hmark := h k hk
  rw [Check.mark, Check.mark, List.getElem?_eq_getElem hk, List.getElem?_eq_getElem hk'] at hmark
  exact hmark

/-- The check that goes with the settled stakes is the one with the settled marks. -/
theorem Withdrawn.eq_settled (h : c.Withdrawn c' (settle c.stakes)) (hlength : c.marks.length = c.roster.size) :
    c' = c.settled := by
  refine eq_of_mark_eq h.roster (h.length.trans (length_settled hlength).symm) fun k hk => ?_
  have hlt : k < (settle c.stakes).length := by rw [h.length_eq, ← length_settled hlength]; exact hk
  have hstake := List.getElem?_eq_getElem hlt
  exact (h.mark k _ hstake).trans (mark_settled hlength hstake).symm

/-- **The loop over marks ends** with the settled marks, within one round more than there are plugins.  The last round
is the one that reports no change. -/
theorem ends_withdraw (h : c.marks.length = c.roster.size) :
    Ends withdraw? c.roster.size (fun c k => c.mark k = .accepted) (fun c k => (c.mark k).isRejected) c
      (· = c.settled) := by
  obtain ⟨⟨c', hrun, h'⟩, hfalls, hstays⟩ := ends_of_stakes (R := c.Withdrawn) (fun _ _ h => h.length_eq)
    (fun _ _ _ _ h hs hup => h.mark_of_up hs hup) (fun _ _ k h => h.isDown_iff k)
    (fun i hi _ _ h => h.step (List.mem_range.1 hi)) (withdrawn_stakes h)
  exact ⟨⟨c', hrun, h'.eq_settled h⟩, hfalls, hstays⟩

end Check

end BringUp

/-! ### The loop over states -/

namespace Roster

open BringUp BringUp.Loop

/-- The roster once the plugin at a place is rejected, if it has passed all phases and all members of one of its groups
are rejected. -/
def withdrawLate? (r : Roster) (i : Nat) : Option Roster :=
  if (r.handle i).state = .depsFinalized then
    ((r.entry i).needs.find? fun group => !group.isEmpty && group.all fun j => (r.handle j).state.isRejected).map
      fun group => r.move i (.rejected .postCheckDeps (dependencyReason r group))
  else none

/-- The entry of a plugin that a failed group has taken down late. -/
def takenDown (r : Roster) (k : Nat) (group : List Nat) : Entry :=
  { r.entry k with handle := (r.handle k).moved (.rejected .postCheckDeps (dependencyReason r group)) }

/-- A roster after some late rejections, and the stakes after the strikes that go with them. -/
structure WithdrawnLate (r r' : Roster) (a : List Stake) : Prop where
  size : r'.size = r.size
  name : ∀ k, (r'.handle k).name = (r.handle k).name
  plain : a.map Stake.plain = r'.lateStakes
  untouched : ∀ (k : Nat) s, a[k]? = some s → s.standing = .up → s.cause = none
  entry : ∀ (k : Nat) s, a[k]? = some s → r'.entry k = (s.cause.map (r.takenDown k)).getD (r.entry k)

variable {r r' : Roster} {a : List Stake} {i k : Nat}

/-- The reason of a rejection names the plugins of the group, and nothing else of the roster. -/
theorem dependencyReason_congr (h : ∀ k, (r'.handle k).name = (r.handle k).name) (group : List Nat) :
    dependencyReason r' group = dependencyReason r group :=
  congrArg (fun names => "Dependency rejected: " ++ String.intercalate ", " names) (List.map_congr_left fun j _ => h j)

/-- Each plugin has a late stake. -/
theorem length_lateStakes : r.lateStakes.length = r.size := List.length_map ..

/-- A late rejection that is allowed is written into one stake. -/
theorem lateStakes_move {next : Lifecycle} (hs : (r.handle i).state.canEnter next) (hrej : next.isRejected) :
    (r.move i next).lateStakes = r.lateStakes.set i ⟨.down, (r.entry i).needs, none⟩ := by
  obtain ⟨stage, reason, rfl⟩ := Lifecycle.exists_of_isRejected hrej
  refine List.ext_getElem? fun k => ?_
  rw [lateStakes_getElem?, size_move]
  by_cases hki : i = k
  · subst hki
    by_cases hi : i < r.size
    · rw [if_pos hi, List.getElem?_set_self (length_lateStakes ▸ hi), entry_move, if_pos ⟨rfl, hi⟩]
      simp only [lateStake, Handle.state_moved, if_pos hs]
    · rw [if_neg hi, List.getElem?_eq_none]
      rw [List.length_set, length_lateStakes]
      exact Nat.not_lt.1 hi
  · have hentry : (r.move i (.rejected stage reason)).entry k = r.entry k :=
      (entry_move ..).trans (if_neg fun h => hki h.1.symm)
    rw [List.getElem?_set_ne hki, lateStakes_getElem?, hentry]

namespace WithdrawnLate

/-- After late rejections there are as many stakes as plugins. -/
theorem length_eq (h : r.WithdrawnLate r' a) : a.length = r.size := by
  rw [← List.length_map (f := Stake.plain), h.plain, length_lateStakes, h.size]

/-- Who is down is rejected, and the other way round. -/
theorem isDown_iff (h : r.WithdrawnLate r' a) (k : Nat) : isDown a k ↔ (r'.handle k).state.isRejected := by
  rw [isDown_of_plain h.plain, isDown_lateStakes, state_handle]

/-- Who is up has passed all phases by now. -/
theorem standing_iff (h : r.WithdrawnLate r' a) {s : Stake} (hs : a[k]? = some s) :
    s.standing = .up ↔ (r'.handle k).state = .depsFinalized := by
  have hplain : r'.lateStakes[k]? = some s.plain := by rw [← h.plain, List.getElem?_map, hs]; rfl
  rw [lateStakes_getElem?] at hplain
  split_ifs at hplain
  have hsame : lateStake (r'.entry k) = s.plain := Option.some.inj hplain
  have hup : s.standing = .up ↔ (lateStake (r'.entry k)).standing = .up := by rw [hsame]; rfl
  exact hup.trans (standing_lateStake _)

/-- Who is up is the plugin that it was. -/
theorem entry_of_up (h : r.WithdrawnLate r' a) {s : Stake} (hs : a[k]? = some s) (hup : s.standing = .up) :
    r'.entry k = r.entry k := by
  rw [h.entry k s hs, h.untouched k s hs hup]
  rfl

/-- A rejection of a plugin that has passed all phases. -/
theorem move (h : r.WithdrawnLate r' a) (hi : i < r.size) (hs : (r'.handle i).state = .depsFinalized)
    {group : List Nat} {groups : List (List Nat)} (hgroups : groups = (r'.entry i).needs) :
    r.WithdrawnLate (r'.move i (.rejected .postCheckDeps (dependencyReason r' group)))
      (a.set i ⟨.down, groups, some group⟩) := by
  obtain ⟨s, hstake⟩ : ∃ s, a[i]? = some s := ⟨_, List.getElem?_eq_getElem (h.length_eq ▸ hi)⟩
  have hup := (h.standing_iff hstake).2 hs
  have hmove : (r'.handle i).state.canEnter (.rejected .postCheckDeps (dependencyReason r' group)) := by
    rw [hs]
    rfl
  refine ⟨(size_move ..).trans h.size, fun k => ?_, ?_, fun k t ht htup => ?_, fun k t ht => ?_⟩
  · rw [← h.name k, handle, entry_move]
    split_ifs
    · exact congrArg Plugin.name (Handle.plugin_moved ..)
    · rfl
  · rw [plain_set h.plain, lateStakes_move hmove rfl, hgroups]
  · by_cases hk : i = k
    · subst hk
      rw [List.getElem?_set_self (h.length_eq ▸ hi)] at ht
      obtain rfl := Option.some.inj ht
      cases htup
    · rw [List.getElem?_set_ne hk] at ht
      exact h.untouched k t ht htup
  · rw [entry_move]
    by_cases hk : i = k
    · subst hk
      rw [List.getElem?_set_self (h.length_eq ▸ hi)] at ht
      obtain rfl := Option.some.inj ht
      rw [if_pos ⟨rfl, h.size.symm ▸ hi⟩, dependencyReason_congr h.name, handle, h.entry_of_up hstake hup]
      rfl
    · rw [List.getElem?_set_ne hk] at ht
      rw [if_neg fun hki => hk hki.1.symm]
      exact h.entry k t ht

/-- A late rejection is a strike: a plugin that has passed all phases may still be rejected. -/
theorem step (h : r.WithdrawnLate r' a) (hi : i < r.size) :
    Alike r.WithdrawnLate (r'.withdrawLate? i) (struck? a i) := by
  have hstake := r'.lateStakes_getElem? i
  rw [h.size, if_pos hi] at hstake
  have hfailed : hasFailed r'.lateStakes =
      fun group => !group.isEmpty && group.all fun j => (r'.handle j).state.isRejected := by
    funext group
    rw [hasFailed, funext r'.isDown_lateStakes]
    rfl
  rw [struck?_of_plain h.plain hstake, withdrawLate?, failedGroup?, hfailed]
  by_cases hs : (r'.handle i).state = .depsFinalized
  · have hup := (standing_lateStake (r'.entry i)).2 hs
    rw [if_pos hs, if_pos hup]
    exact alike_map fun group => h.move hi hs rfl
  · rw [if_neg hs, if_neg (mt (standing_lateStake _).1 hs)]
    exact .inl ⟨rfl, rfl⟩

end WithdrawnLate

/-- Before the first late rejection the stakes are those of the states. -/
theorem withdrawnLate_stakes (r : Roster) : r.WithdrawnLate r r.lateStakes := by
  have hcause : ∀ (k : Nat) s, r.lateStakes[k]? = some s → s.cause = none := by
    intro k s hs
    rw [lateStakes_getElem?] at hs
    split_ifs at hs
    exact Option.some.inj hs ▸ rfl
  refine ⟨rfl, fun _ => rfl, ?_, fun k s hs _ => hcause k s hs, fun k s hs => ?_⟩
  · rw [lateStakes, List.map_map]
    rfl
  · rw [hcause k s hs]
    rfl

/-- **A late rejection is written into the entry of the plugin that is taken down**, with the group that has failed;
all other entries stay. -/
theorem entry_settleLate {s : Stake} (hs : (settle r.lateStakes)[k]? = some s) :
    r.settleLate.entry k = (s.cause.map (r.takenDown k)).getD (r.entry k) := by
  have hk : k < r.size := by
    rw [← length_lateStakes, ← (falls_settle _).length]
    exact (List.getElem?_eq_some_iff.1 hs).1
  obtain ⟨r', hsize, hentry, hstep⟩ := r.settleLate_walk.2 k hk
  rw [hstep, lateStep, hs, Option.bind_some]
  cases s.cause with
  | none => exact hentry
  | some group =>
    refine (entry_move ..).trans ((if_pos ⟨rfl, hsize.symm ▸ hk⟩).trans ?_)
    rw [handle, hentry]
    rfl

/-- The entries are told place by place. -/
theorem entries_eq_of_entry_eq (hsize : r'.size = r.size) (h : ∀ k < r.size, r'.entry k = r.entry k) :
    r'.entries = r.entries := by
  refine List.ext_getElem hsize fun k hk' hk => ?_
  have hentry := h k hk
  rw [entry, entry, List.getElem?_eq_getElem hk', List.getElem?_eq_getElem hk] at hentry
  exact hentry

/-- **The loop over states ends**, and what it leaves of the plugins is what `settleLate` does.  That it reports a
change also for a move that is refused does no harm, since none is refused. -/
theorem ends_withdrawLate (r : Roster) :
    Ends withdrawLate? r.size (fun r k => (r.handle k).state = .depsFinalized)
      (fun r k => (r.handle k).state.isRejected) r (fun r' => r'.entries = r.settleLate.entries) := by
  obtain ⟨⟨r', hrun, h'⟩, hfalls, hstays⟩ := ends_of_stakes (R := r.WithdrawnLate) (fun _ _ h => h.length_eq)
    (fun _ _ _ _ h hs hup => (h.standing_iff hs).1 hup) (fun _ _ k h => h.isDown_iff k)
    (fun i hi _ _ h => h.step (List.mem_range.1 hi)) (withdrawnLate_stakes r)
  refine ⟨⟨r', hrun, entries_eq_of_entry_eq (h'.size.trans (size_settleLate r).symm) fun k hk => ?_⟩, hfalls, hstays⟩
  have hlt : k < (settle r.lateStakes).length := by rw [h'.length_eq, ← size_settleLate]; exact hk
  have hstake := List.getElem?_eq_getElem hlt
  exact (h'.entry k _ hstake).trans (entry_settleLate hstake).symm

end Roster
end Calibration
