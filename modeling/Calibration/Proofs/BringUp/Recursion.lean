/-
# The check of a plugin without a bound on its depth

A check asks for other checks, and these for others again; that it comes to an end is seen by the number of plugins
that were not asked yet, which each check inside of another finds smaller.  `pass` carries this number along as a bound.
Here the bound is shown to be none: once it is as great as the number of plugins not asked yet, a greater one changes
nothing (`pass_eq_pass`), and the check with that bound, `resolve`, is what the check of a plugin says without any
(`resolve_eq`).
-/

import Calibration.Proofs.BringUp.Bounds

namespace Calibration

namespace Task

variable {S : Signature} {α σ : Type}

/-- Two hosts that serve alike, as long as something holds that serving keeps, run a program alike. -/
theorem run_congr {serve serve' : (q : S.Request) → σ → S.Reply q × σ} {P : σ → Prop}
    (hkeep : ∀ q s, P s → P (serve q s).2) (hsame : ∀ q s, P s → serve q s = serve' q s) (t : Task S α) {s : σ}
    (h : P s) : t.run serve s = t.run serve' s := by
  induction t generalizing s with
  | done value => rfl
  | ask q next ih =>
    change (next (serve q s).1).run serve (serve q s).2 = (next (serve' q s).1).run serve' (serve' q s).2
    rw [← hsame q s h]
    exact ih _ (hkeep q s h)

end Task

namespace BringUp
namespace Check

variable {c : Check} {i asker n : Nat} {ask ask' : Nat → Check → Bool × Check}

/-! ### Plugins not asked yet -/

/-- What checks a plugin has no more plugins asked than before. -/
def Shrinks (n : Nat) (ask : Nat → Check → Bool × Check) : Prop :=
  ∀ j c, c.pendingCount ≤ n → (ask j c).2.pendingCount ≤ n

/-- No reply makes more plugins pending, if checks do not. -/
theorem Shrinks.serve (hask : Shrinks n ask) (q : needSignature.noting.Request) (h : c.pendingCount ≤ n) :
    (serve ask asker q c).2.pendingCount ≤ n :=
  serve_preserves (P := fun c => c.pendingCount ≤ n) hask (fun _ _ h => h) (fun _ _ h => h) h q

/-- Nor does the call of a plugin's code. -/
theorem Shrinks.callCheck (hask : Shrinks n ask) (h : c.pendingCount ≤ n) :
    (callCheck ask i c).2.pendingCount ≤ n := by
  have hrun : ((c.program i).run (Check.serve ask i) (c.entered i)).2.pendingCount ≤ n :=
    Task.run_preserves (P := fun c : Check => c.pendingCount ≤ n) (fun q _ hc => hask.serve q hc) _ h
  rw [pendingCount, (callCheck_eq ask i c).2.1]
  exact hrun

/-- **No check makes more plugins pending.**  Their number bounds how deep checks can be nested, which makes the given
depth enough. -/
theorem shrinks_pass (d n : Nat) : Shrinks n (pass d) := by
  intro i c h
  refine pass_preserves (P := fun c => c.pendingCount ≤ n) (fun d i c ih h hm result c' heq => ?_) d i h
  have hcall : (Check.callCheck (pass d) i (c.setMark i .inProgress)).2.pendingCount ≤ n :=
    Shrinks.callCheck ih (Nat.le_trans (pendingCount_setMark_le (by decide)) h)
  rw [heq] at hcall
  refine Nat.le_trans (pendingCount_setMark_le ?_) hcall
  cases result <;> exact nofun

/-! ### Checks that agree -/

section Agreement

variable (hask : Shrinks n ask) (hsame : ∀ j c, c.pendingCount ≤ n → ask j c = ask' j c)
include hask hsame

/-- Checks that agree while no more than so many plugins are pending find the same first one that passes. -/
theorem firstPassing_congr (js : List Nat) (h : c.pendingCount ≤ n) :
    firstPassing ask js c = firstPassing ask' js c := by
  induction js generalizing c with
  | nil => rfl
  | cons j js ih =>
    have hj := hask j c h
    rw [firstPassing, firstPassing, ← hsame j c h]
    split
    · rfl
    · next heq =>
      rw [heq] at hj
      exact ih hj

/-- They find the same ones that pass. -/
theorem allPassing_congr (js : List Nat) (h : c.pendingCount ≤ n) : allPassing ask js c = allPassing ask' js c := by
  induction js generalizing c with
  | nil => rfl
  | cons j js ih => simp only [allPassing, ← hsame j c h, ih (hask j c h)]

/-- They give the same reply to any request. -/
theorem serve_congr (q : needSignature.noting.Request) (h : c.pendingCount ≤ n) :
    serve ask asker q c = serve ask' asker q c := by
  rcases q with line | name | attributes
  · rfl
  · simp only [serve, firstPassing_congr hask hsame _ h]
  · simp only [serve, allPassing_congr hask hsame _ h]

/-- They make the same of the call of a plugin's code. -/
theorem callCheck_congr (h : c.pendingCount ≤ n) : callCheck ask i c = callCheck ask' i c := by
  have hrun : (c.program i).run (serve ask i) (c.entered i) = (c.program i).run (serve ask' i) (c.entered i) :=
    Task.run_congr (P := fun c : Check => c.pendingCount ≤ n) (fun q _ hc => hask.serve q hc)
      (fun q _ hc => serve_congr hask hsame q hc) _ h
  simp only [program, entered] at hrun
  simp only [callCheck, hrun]

end Agreement

/-- A plugin that is not pending is not called, whatever the bound. -/
theorem pass_of_ne_pending (hm : c.mark i ≠ .pending) (d d' : Nat) : pass d i c = pass d' i c := by
  unfold pass
  split <;> first | rfl | exact absurd ‹_› hm

/-- A pending plugin is called, and its mark is what the call comes to. -/
theorem pass_of_pending (hm : c.mark i = .pending) (d : Nat) :
    pass (d + 1) i c = match callCheck (pass d) i (c.setMark i .inProgress) with
      | (.ok _, c) => (true, c.setMark i .accepted)
      | (.error e, c) => (false, c.setMark i (.rejected e.message)) := by
  unfold pass
  split
  · next heq => exact nomatch hm.symm.trans heq
  · next heq => exact nomatch hm.symm.trans heq
  · next heq => exact nomatch hm.symm.trans heq
  · rfl

/-- **A bound that is great enough is none**: a check allowed to go deeper does the same.  The induction is on the
number of plugins not asked yet, which the plugin itself makes smaller by being asked. -/
theorem pass_eq_pass {d d' : Nat} (hd : c.pendingCount ≤ d) (hd' : c.pendingCount ≤ d') :
    pass d i c = pass d' i c := by
  by_cases hm : c.mark i = .pending
  · have hpos := pendingCount_pos hm
    have hcount := pendingCount_setMark_inProgress hm
    induction d generalizing d' i c with
    | zero => omega
    | succ d ih =>
      obtain ⟨d', rfl⟩ := Nat.exists_eq_succ_of_ne_zero (n := d') (by omega)
      have hsame : ∀ j (c' : Check), c'.pendingCount ≤ (c.setMark i .inProgress).pendingCount →
          pass d j c' = pass d' j c' := by
        intro j c' hc
        by_cases hj : c'.mark j = .pending
        · exact ih (by omega) (by omega) hj (pendingCount_pos hj) (pendingCount_setMark_inProgress hj)
        · exact pass_of_ne_pending hj d d'
      rw [pass_of_pending hm, pass_of_pending hm, callCheck_congr (shrinks_pass d _) hsame (Nat.le_refl _)]
  · exact pass_of_ne_pending hm d d'

/-- The check of the plugin at a place, as deep as it goes. -/
def resolve (i : Nat) (c : Check) : Bool × Check := pass c.pendingCount i c

/-- **The check of a plugin needs no bound**: who is decided, or being checked further up, is not called again; who is
pending is called, and what it asks for is checked in the same way. -/
theorem resolve_eq (i : Nat) (c : Check) :
    resolve i c = match c.mark i with
      | .accepted | .inProgress => (true, c)
      | .rejected _ => (false, c)
      | .pending =>
        match callCheck resolve i (c.setMark i .inProgress) with
        | (.ok _, c) => (true, c.setMark i .accepted)
        | (.error e, c) => (false, c.setMark i (.rejected e.message)) := by
  by_cases hm : c.mark i = .pending
  · have hcount := pendingCount_setMark_inProgress hm
    have hcall : callCheck (pass (c.setMark i .inProgress).pendingCount) i (c.setMark i .inProgress) =
        callCheck resolve i (c.setMark i .inProgress) :=
      callCheck_congr (shrinks_pass _ _) (fun j c' hc => pass_eq_pass hc (Nat.le_refl _)) (Nat.le_refl _)
    rw [resolve, ← hcount, pass_of_pending hm, hcall]
    simp only [hm]
  · rw [resolve, pass.eq_def]
    cases hmark : c.mark i with
    | pending => exact absurd hmark hm
    | _ => simp only [hmark]

end Check
end BringUp
end Calibration
