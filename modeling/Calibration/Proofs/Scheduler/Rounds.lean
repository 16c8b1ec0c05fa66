/-
# Rounds of the scheduler

A round runs each chain that is due once, in order, and counts the runs (`visits_round`); whether a chain is due hangs
on its own last start alone, so that the chains due in a round are known before the round begins (`due`), although the
runs of others may put its own off.  A run starts the period of its chain anew, however it ends.  From that each chain
is run by its period (`KeepsPeriod`): never, once, or as soon as a round finds that the period is over, and never
earlier.

Periods are whole numbers here.  A machine has words of 64 bits for them, and of the smallest one the negative is no
such word; but only the size of a period is ever compared, as an unsigned word of seconds, with the time that has
passed, and that comparison has the same answer for every word (`isDueByWords_eq`).
-/

import Calibration.Scheduler
import Mathlib.Logic.Basic
import Mathlib.Tactic.Choose
import Mathlib.Tactic.SplitIfs

namespace Calibration

/-! ### Periods as machine words -/

/-- The bits of a word, read without a sign. -/
theorem toNat_toUInt64 (w : Int64) :
    (w.toUInt64.toNat : Int) = if w.toInt < 0 then w.toInt + UInt64.size else w.toInt := by
  have h := BitVec.toInt_eq_toNat_cond w.toBitVec
  rw [Int64.toInt_toBitVec, Int64.toNat_toBitVec] at h
  have hlt := w.toUInt64.toNat_lt
  have hsize : UInt64.size = 18446744073709551616 := rfl
  split_ifs at h ⊢ <;> omega

/-- The size of a signed word, as an unsigned one. -/
def wordSize (w : Int64) : UInt64 := if w < 0 then (-w).toUInt64 else w.toUInt64

/-- **The size of a word never overflows**, not even that of the smallest one, whose negative is itself: without a
sign it is the size all the same. -/
theorem toNat_wordSize (w : Int64) : (wordSize w).toNat = w.toInt.natAbs := by
  have hlow := w.le_toInt
  have hhigh := w.toInt_lt
  unfold wordSize
  split_ifs with h
  · have hneg : w.toInt < 0 := Int64.lt_iff_toInt_lt.1 h
    have hbits := toNat_toUInt64 (-w)
    have hsize : UInt64.size = 18446744073709551616 := rfl
    rw [Int64.toInt_neg, Int.bmod_def] at hbits
    split_ifs at hbits <;> omega
  · have hpos : ¬ w.toInt < 0 := fun hneg => h (Int64.lt_iff_toInt_lt.2 hneg)
    have hbits := toNat_toUInt64 w
    rw [if_neg hpos] at hbits
    omega

/-- A time span: whole seconds in a word, and the ticks beyond them. -/
structure Span where
  seconds : UInt64
  ticks : Nat

namespace Span

/-- The span of some ticks. -/
def ofTicks (second n : Nat) : Span := ⟨UInt64.ofNat (n / second), n % second⟩

/-- The first span is no longer than the second: by seconds first, then by ticks. -/
def isWithin (a b : Span) : Bool := a.seconds < b.seconds || (a.seconds == b.seconds && a.ticks ≤ b.ticks)

/-- Whole seconds are within a span exactly if their ticks are. -/
theorem isWithin_ofTicks {w : UInt64} {second n : Nat} (hsecond : 0 < second) (hn : n / second < UInt64.size) :
    isWithin ⟨w, 0⟩ (ofTicks second n) = decide (w.toNat * second ≤ n) := by
  have hword : (UInt64.ofNat (n / second)).toNat = n / second := by
    rw [UInt64.toNat_ofNat']
    exact Nat.mod_eq_of_lt hn
  have hle : w.toNat * second ≤ n ↔ w.toNat ≤ n / second := (Nat.le_div_iff_mul_le hsecond).symm
  rw [isWithin, ofTicks]
  simp only [Nat.zero_le, decide_true, Bool.and_true]
  rw [Bool.eq_iff_iff, Bool.or_eq_true, decide_eq_true_iff, beq_iff_eq, decide_eq_true_iff, hle,
    UInt64.lt_iff_toNat_lt, ← UInt64.toNat_inj, hword]
  omega

end Span

/-- A chain with a period is due, as it is told by machine words. -/
def isDueByWords (second : Nat) (period : Int64) (lastStart : Option Nat) (now : Nat) : Bool :=
  if period < 0 then lastStart.isNone
  else if period = 0 then false
  else match lastStart with
    | none => true
    | some last => Span.isWithin ⟨wordSize period, 0⟩ (Span.ofTicks second (now - last))

/-- **Machine words give the same answer**, for every period, while the seconds that pass fit into a word.  This
includes the smallest period of all, whose negative is no such word. -/
theorem isDueByWords_eq {c : Chain} {period : Int64} {second now : Nat} (hsecond : 0 < second)
    (hperiod : c.period = period.toInt) (hnow : now / second < UInt64.size) :
    isDueByWords second period c.lastStart now = c.isDue now second := by
  have hneg : period < 0 ↔ period.toInt < 0 := Int64.lt_iff_toInt_lt
  have hzero : period = 0 ↔ period.toInt = 0 := Int64.toInt_inj.symm
  unfold isDueByWords Chain.isDue
  rw [hperiod]
  by_cases hn : period < 0
  · rw [if_pos hn, if_pos (hneg.1 hn)]
  · rw [if_neg hn, if_neg (mt hneg.2 hn)]
    by_cases hz : period = 0
    · rw [if_pos hz, if_pos (hzero.1 hz)]
    · rw [if_neg hz, if_neg (mt hzero.2 hz)]
      cases c.lastStart with
      | none => rfl
      | some last =>
        have hpassed : (now - last) / second < UInt64.size :=
          Nat.lt_of_le_of_lt (Nat.div_le_div_right (Nat.sub_le ..)) hnow
        have hsize : (wordSize period).toNat = period.toInt.toNat := by
          rw [toNat_wordSize]
          have := mt hneg.2 hn
          omega
        simp only
        rw [Span.isWithin_ofTicks hsecond hpassed, hsize]

namespace Scheduler

/-! ### One round -/

variable {timing : Nat → Moment} {m : Moment} {h : Host} {c : Chain} {cs : List Chain} {i k n second : Nat}

/-- A chain is due when the scheduler comes to its place. -/
def isDueAt (timing : Nat → Moment) (second : Nat) (p : Chain × Nat) : Bool := p.1.isDue (timing p.2).look second

/-- The chains of a row that are due in a round, with their places. -/
def due (timing : Nat → Moment) (second : Nat) (cs : List Chain) : List (Chain × Nat) :=
  cs.zipIdx.filter (isDueAt timing second)

/-- The host once the scheduler has run a chain, however the run ends. -/
def runAt (timing : Nat → Moment) (h : Host) (p : Chain × Nat) : Host :=
  (Host.run { h with clock := (timing p.2).start } p.1).2.1

/-- A chain after a round: one that was due counts as run from its start, and whether the run was cancelled is on
record; all else of it, and every other chain, is as before. -/
def Steps (second : Nat) (m : Moment) (c c' : Chain) : Prop :=
  if c.isDue m.look second then ∃ isCancelled, c' = { c with isCancelled, lastStart := some m.start } else c' = c

/-- Each chain of a row after a round, where the first of them has a place. -/
def StepsAll (second : Nat) (timing : Nat → Moment) (n : Nat) (cs cs' : List Chain) : Prop :=
  ∀ i c, cs[i]? = some c → ∃ c', cs'[i]? = some c' ∧ Steps second (timing (i + n)) c c'

/-- The first chain of a row has its own place, and the others come after it. -/
theorem StepsAll.cons {c' : Chain} {cs' : List Chain} (hc : Steps second (timing n) c c')
    (hcs : StepsAll second timing (n + 1) cs cs') : StepsAll second timing n (c :: cs) (c' :: cs') := by
  intro i d hd
  cases i with
  | zero => exact ⟨c', rfl, Option.some.inj hd ▸ n.zero_add.symm ▸ hc⟩
  | succ i =>
    rw [Nat.add_right_comm, Nat.add_assoc]
    exact hcs i d hd

/-- A chain that is due is run at the moment when its start is taken. -/
theorem visit_of_isDue (hc : c.isDue m.look h.second) :
    visit m h c =
      (true, (Host.run { h with clock := m.start } c).2.1, (Host.run { h with clock := m.start } c).2.2) := by
  rw [visit, if_pos hc]

/-- A chain that is not due is passed over, and the host stays as it is. -/
theorem visit_of_not_isDue (hc : ¬ c.isDue m.look h.second) : visit m h c = (false, h, c) := by
  rw [visit, if_neg hc]

/-- A visit does to a chain what a round does to it. -/
theorem steps_visit : Steps h.second m c (visit m h c).2.2 := by
  rw [Steps]
  split_ifs with hc
  · rw [visit_of_isDue hc]
    exact ⟨_, rfl⟩
  · rw [visit_of_not_isDue hc]

/-- What a round over some chains does, of which the first has a place. -/
structure Visits (timing : Nat → Moment) (h : Host) (cs : List Chain) (due : List (Chain × Nat)) (n : Nat)
    (result : Nat × Host × List Chain) : Prop where
  count : result.1 = due.length
  host : result.2.1 = due.foldl (runAt timing) h
  second : result.2.1.second = h.second
  chains : StepsAll h.second timing n cs result.2.2

/-- **A round visits each chain once**, and runs it if it is due.  The induction is on the row; a run changes the host
for the chains behind it, but not whether these are due. -/
theorem visits_round (timing : Nat → Moment) (h : Host) (cs : List Chain) (n : Nat) :
    Visits timing h cs ((cs.zipIdx n).filter (isDueAt timing h.second)) n
      (round (fun i => timing (i + n)) h cs) := by
  induction cs generalizing h n with
  | nil => exact ⟨rfl, rfl, rfl, fun _ _ hc => nomatch hc⟩
  | cons c cs ih =>
    have hshift (i : Nat) : i + 1 + n = i + (n + 1) := by omega
    have hvisit : Steps h.second (timing n) c (visit (timing n) h c).2.2 := steps_visit
    rw [round, List.zipIdx_cons, Nat.zero_add]
    simp only [hshift]
    by_cases hc : c.isDue (timing n).look h.second
    · rw [visit_of_isDue hc] at hvisit ⊢
      rw [List.filter_cons_of_pos (show isDueAt timing h.second (c, n) from hc)]
      have hrest := ih (Host.run { h with clock := (timing n).start } c).2.1 (n + 1)
      exact ⟨congrArg (· + 1) hrest.count, hrest.host, hrest.second, .cons hvisit hrest.chains⟩
    · rw [visit_of_not_isDue hc] at hvisit ⊢
      rw [List.filter_cons_of_neg (show ¬ isDueAt timing h.second (c, n) from hc)]
      have hrest := ih h (n + 1)
      exact ⟨hrest.count, hrest.host, hrest.second, .cons hvisit hrest.chains⟩

/-! ### A chain by itself -/

/-- A chain is run by its period, in the rounds that look at it at these moments: never, once, or at first and then as
soon as a round finds that the period has passed since the last start, and never before that. -/
structure KeepsPeriod (period : Int) (second : Nat) (m : Nat → Moment) (runs : Nat → Prop) : Prop where
  never : period = 0 → ∀ k, ¬ runs k
  once : period < 0 → ∀ k, runs k ↔ k = 0
  first : 0 < period → runs 0
  apart : 0 < period → ∀ j k, j < k → runs j → runs k → (m j).start + period.toNat * second ≤ (m k).start
  next : 0 < period → ∀ j k, j < k → runs j →
    (∀ l, j < l → l < k → (m l).look < (m j).start + period.toNat * second) →
    (runs k ↔ (m j).start + period.toNat * second ≤ (m k).look)

section Alone

variable {x : Nat → Chain} {m : Nat → Moment}

/-- No round changes the period of a chain. -/
theorem Steps.period_eq {m : Moment} {c' : Chain} (h : Steps second m c c') : c'.period = c.period := by
  rw [Steps] at h
  split_ifs at h
  · obtain ⟨_, rfl⟩ := h
    rfl
  · rw [h]

/-- So it stays the same in all rounds. -/
theorem period_eq (hx : ∀ k, Steps second (m k) (x k) (x (k + 1))) (k : Nat) : (x k).period = (x 0).period := by
  induction k with
  | zero => rfl
  | succ k ih => exact (hx k).period_eq.trans ih

/-- The last start of a chain is that of the last round that has run it, or there was none. -/
theorem lastStart_cases (hx : ∀ k, Steps second (m k) (x k) (x (k + 1))) (hfresh : (x 0).lastStart = none) (k : Nat) :
    ((x k).lastStart = none ∧ ∀ j < k, ¬ (x j).isDue (m j).look second) ∨
      ∃ j < k, (x j).isDue (m j).look second ∧ (x k).lastStart = some (m j).start ∧
        ∀ l, j < l → l < k → ¬ (x l).isDue (m l).look second := by
  induction k with
  | zero => exact .inl ⟨hfresh, fun _ hj => absurd hj (Nat.not_lt_zero _)⟩
  | succ k ih =>
    have hstep := hx k
    rw [Steps] at hstep
    split_ifs at hstep with hk
    · obtain ⟨_, hstep⟩ := hstep
      exact .inr ⟨k, Nat.lt_succ_self k, hk, by rw [hstep], fun l hl hlk => absurd hl (by omega)⟩
    · rw [hstep]
      refine ih.imp (fun ⟨hnone, hnot⟩ => ⟨hnone, fun j hj => ?_⟩) fun ⟨j, hj, hdue, hlast, hnot⟩ =>
        ⟨j, Nat.lt_succ_of_lt hj, hdue, hlast, fun l hl hlk => ?_⟩
      · rcases Nat.lt_succ_iff_lt_or_eq.1 hj with hj | rfl
        · exact hnot j hj
        · exact hk
      · rcases Nat.lt_succ_iff_lt_or_eq.1 hlk with hlk | rfl
        · exact hnot l hl hlk
        · exact hk

/-- With a negative period a chain is due until its first run. -/
theorem isDue_of_neg (hc : c.period < 0) (now : Nat) : c.isDue now second = c.lastStart.isNone := by
  rw [Chain.isDue, if_pos hc]

/-- Without a period it is never due. -/
theorem isDue_of_zero (hc : c.period = 0) (now : Nat) : c.isDue now second = false := by
  rw [Chain.isDue, hc]
  rfl

/-- With a positive period it is due when the period has passed since its last start, or at once if there was none. -/
theorem isDue_of_pos (hc : 0 < c.period) (hsecond : 0 < second) (now : Nat) :
    c.isDue now second ↔ ∀ last, c.lastStart = some last → last + c.period.toNat * second ≤ now := by
  have hlong : 0 < c.period.toNat * second := Nat.mul_pos (by omega) hsecond
  rw [Chain.isDue, if_neg (by omega), if_neg (by omega)]
  cases c.lastStart with
  | none => exact iff_of_true rfl (fun _ h => nomatch h)
  | some last =>
    simp only [decide_eq_true_iff, Option.some.injEq, forall_eq']
    omega

/-- **A chain that is run by nothing but rounds is run by its period.**  A period of zero never lets it run, a
negative one lets it run in the first round only, and a positive one keeps its starts apart. -/
theorem keepsPeriod (hsecond : 0 < second) (hx : ∀ k, Steps second (m k) (x k) (x (k + 1)))
    (hfresh : (x 0).lastStart = none) (hclock : ∀ k, (m k).look ≤ (m k).start) :
    KeepsPeriod (x 0).period second m fun k => (x k).isDue (m k).look second := by
  have hlast := lastStart_cases hx hfresh
  constructor
  case never =>
    intro hp k hdue
    rw [isDue_of_zero ((period_eq hx k).trans hp)] at hdue
    cases hdue
  case once =>
    intro hp k
    have hfirst : (x 0).isDue (m 0).look second := by rw [isDue_of_neg hp, hfresh]; rfl
    rw [isDue_of_neg ((period_eq hx k).symm ▸ hp), Option.isNone_iff_eq_none]
    rcases hlast k with ⟨hnone, hnot⟩ | ⟨j, hj, -, hsome, -⟩
    · exact iff_of_true hnone (Classical.by_contradiction fun hk => hnot 0 (Nat.pos_of_ne_zero hk) hfirst)
    · exact iff_of_false (by rw [hsome]; exact nofun) (by omega)
  case first =>
    intro hp
    rw [isDue_of_pos hp hsecond, hfresh]
    exact fun _ h => nomatch h
  case apart =>
    intro hp j k hjk hj hk
    -- The last run before round `k` is that of round `j`, or one after it.
    induction k using Nat.strongRecOn with
    | ind k ih =>
      have hdue := (isDue_of_pos ((period_eq hx k).symm ▸ hp) hsecond _).1 hk
      rw [period_eq hx k] at hdue
      rcases hlast k with ⟨-, hnot⟩ | ⟨l, hl, hrun, hsome, hnot⟩
      · exact absurd hj (hnot j hjk)
      · have hlate := Nat.le_trans (hdue _ hsome) (hclock k)
        rcases Nat.lt_trichotomy l j with hlj | rfl | hjl
        · exact absurd hj (hnot j hlj hjk)
        · exact hlate
        · have := ih l hl hjl hrun
          omega
  case next =>
    intro hp j k hjk hj hearly
    -- No round between runs the chain, so that its last start is that of round `j`.
    induction k using Nat.strongRecOn with
    | ind k ih =>
      have hbetween : ∀ l, j < l → l < k → ¬ (x l).isDue (m l).look second := by
        intro l hl hlk hrun
        have hlate := (ih l hlk hl fun l' hl' hlt => hearly l' hl' (Nat.lt_trans hlt hlk)).1 hrun
        exact absurd (hearly l hl hlk) (Nat.not_lt.2 hlate)
      rw [isDue_of_pos ((period_eq hx k).symm ▸ hp) hsecond, period_eq hx k]
      rcases hlast k with ⟨-, hnot⟩ | ⟨l, hl, hrun, hsome, hnot⟩
      · exact absurd hj (hnot j hjk)
      · rcases Nat.lt_trichotomy l j with hlj | rfl | hjl
        · exact absurd hj (hnot j hlj hjk)
        · rw [hsome]
          exact ⟨fun h => h _ rfl, fun h _ hs => Option.some.inj hs ▸ h⟩
        · exact absurd hrun (hbetween l hjl hl)

end Alone

/-! ### All rounds -/

section Rounds

variable (timing : Nat → Nat → Moment) (h : Host) (cs : List Chain)

/-- In a round the chain at a place is run. -/
def IsRunIn (k i : Nat) : Prop := ∃ p ∈ due (timing k) h.second (rounds timing k h cs).2, p.2 = i

/-- What a round comes to after so many rounds: it gives the number of chains that are due, runs these one after the
other, each once and in the order of the row, and leaves a chain at each place that was run then or is as before. -/
structure RunsWhoIsDue (k : Nat) : Prop where
  result : round (timing k) (rounds timing k h cs).1 (rounds timing k h cs).2 =
    ((due (timing k) h.second (rounds timing k h cs).2).length, rounds timing (k + 1) h cs)
  host : (rounds timing (k + 1) h cs).1 =
    (due (timing k) h.second (rounds timing k h cs).2).foldl (runAt (timing k)) (rounds timing k h cs).1
  order : ((due (timing k) h.second (rounds timing k h cs).2).map Prod.snd).Pairwise (· < ·)
  chains : StepsAll h.second (timing k) 0 (rounds timing k h cs).2 (rounds timing (k + 1) h cs).2

/-- One round more is made after the others. -/
theorem rounds_succ (k : Nat) :
    rounds timing (k + 1) h cs = (round (timing k) (rounds timing k h cs).1 (rounds timing k h cs).2).2 := by
  induction k generalizing timing h cs with
  | zero => rfl
  | succ k ih => exact ih (fun k => timing (k + 1)) (round (timing 0) h cs).2.1 (round (timing 0) h cs).2.2

/-- The length of a second stays what it is. -/
theorem second_rounds (k : Nat) : (rounds timing k h cs).1.second = h.second := by
  induction k with
  | zero => rfl
  | succ k ih =>
    rw [rounds_succ]
    exact (visits_round (timing k) _ _ 0).second.trans ih

/-- **Each round runs whoever is due once and in order**, whatever the rounds before have come to.  The hosts are run
one behind the other, each run beginning with what the one before has left. -/
theorem runsWhoIsDue (k : Nat) : RunsWhoIsDue timing h cs k := by
  have hvisits := visits_round (timing k) (rounds timing k h cs).1 (rounds timing k h cs).2 0
  rw [second_rounds] at hvisits
  refine ⟨Prod.ext hvisits.count (rounds_succ timing h cs k).symm, ?_, ?_, ?_⟩
  · rw [rounds_succ]
    exact hvisits.host
  · have hplaces := List.zipIdx_map_snd 0 (rounds timing k h cs).2
    exact (hplaces ▸ List.pairwise_lt_range').sublist (List.filter_sublist.map Prod.snd)
  · rw [rounds_succ, ← second_rounds timing h cs k]
    exact hvisits.chains

variable {timing h cs}

/-- A chain is run in a round exactly if it is due when the scheduler looks at it. -/
theorem isRunIn_iff {k i : Nat} {c : Chain} (hc : (rounds timing k h cs).2[i]? = some c) :
    IsRunIn timing h cs k i ↔ c.isDue (timing k i).look h.second := by
  constructor
  · rintro ⟨⟨c', _⟩, hmem, rfl⟩
    obtain ⟨hplace, hdue⟩ := List.mem_filter.1 hmem
    obtain rfl := Option.some.inj (hc.symm.trans (List.mk_mem_zipIdx_iff_getElem?.1 hplace))
    exact hdue
  · intro hdue
    exact ⟨(c, i), List.mem_filter.2 ⟨List.mk_mem_zipIdx_iff_getElem?.2 hc, hdue⟩, rfl⟩

/-- The chains at one place, round by round. -/
theorem exists_chains (timing : Nat → Nat → Moment) (h : Host) {i : Nat} {c : Chain} (hc : cs[i]? = some c) :
    ∃ x : Nat → Chain, x 0 = c ∧ (∀ k, (rounds timing k h cs).2[i]? = some (x k)) ∧
      ∀ k, Steps h.second (timing k i) (x k) (x (k + 1)) := by
  have hplace : ∀ k, ∃ c', (rounds timing k h cs).2[i]? = some c' := by
    intro k
    induction k with
    | zero => exact ⟨c, hc⟩
    | succ k ih =>
      obtain ⟨c', hc'⟩ := ih
      obtain ⟨next, hnext, -⟩ := (runsWhoIsDue timing h cs k).chains i c' hc'
      exact ⟨next, hnext⟩
  choose x hx using hplace
  refine ⟨x, Option.some.inj ((hx 0).symm.trans hc), hx, fun k => ?_⟩
  obtain ⟨next, hnext, hstep⟩ := (runsWhoIsDue timing h cs k).chains i (x k) (hx k)
  obtain rfl := Option.some.inj (hnext.symm.trans (hx (k + 1)))
  exact hstep

/-- **The scheduler keeps the periods of its chains.**  Over any number of rounds each chain that was fresh is run by
its period, whatever the runs of it and of the others come to; each round runs whoever is due once and in order; and
no period is too large or too small for the machine words that tell who is due. -/
theorem rounds_keep_periods (hsecond : 0 < h.second) (hfresh : ∀ c ∈ cs, c.lastStart = none)
    (hclock : ∀ k i, (timing k i).look ≤ (timing k i).start) :
    (∀ i c, cs[i]? = some c →
        KeepsPeriod c.period h.second (fun k => timing k i) fun k => IsRunIn timing h cs k i) ∧
      (∀ k, RunsWhoIsDue timing h cs k) ∧
      ∀ w : Int64, (wordSize w).toNat = w.toInt.natAbs ∧
        ∀ (c : Chain) (now : Nat), c.period = w.toInt → now / h.second < UInt64.size →
          isDueByWords h.second w c.lastStart now = c.isDue now h.second := by
  refine ⟨fun i c hc => ?_, runsWhoIsDue timing h cs, fun w => ⟨toNat_wordSize w, fun c now hw hnow => ?_⟩⟩
  · obtain ⟨x, rfl, hx, hsteps⟩ := exists_chains timing h hc
    have hkeeps := keepsPeriod hsecond hsteps (hfresh _ (List.mem_of_getElem? hc)) fun k => hclock k i
    simp only [← isRunIn_iff (hx _)] at hkeeps
    exact hkeeps
  · exact isDueByWords_eq hsecond hw hnow

end Rounds

/-- Chains of all kinds of periods, with the smallest and the largest word among them. -/
def row : List Chain :=
  [0, -1, Int64.minValue.toInt, Int64.maxValue.toInt, 5].map fun period =>
    { name := "chain", dictName := "default", table := Host.mainTable, period }

/-- A round every two seconds, in which each chain takes a while to start. -/
def everyOther (k i : Nat) : Moment := ⟨2000 * k + 10 * i, 2000 * k + 10 * i + 7⟩

/-- All chains of the row are run by their periods, also those of the smallest and the largest word. -/
theorem row_keeps_periods :
    (0 < ({} : Host).second ∧ (∀ c ∈ row, c.lastStart = none) ∧ ∀ k i, (everyOther k i).look ≤ (everyOther k i).start) ∧
      ∀ i c, row[i]? = some c →
        KeepsPeriod c.period 1000 (fun k => everyOther k i) fun k => IsRunIn everyOther {} row k i := by
  have hsecond : 0 < ({} : Host).second := by decide
  have hfresh : ∀ c ∈ row, c.lastStart = none := by decide
  have hclock (k i : Nat) : (everyOther k i).look ≤ (everyOther k i).start := Nat.le_add_right ..
  exact ⟨⟨hsecond, hfresh, hclock⟩, (rounds_keep_periods hsecond hfresh hclock).1⟩

end Scheduler
end Calibration
