/-
# What a chain run promises

A run is three rows of calls.  All plugins are prepared, in order; of those whose preparation ended well a first part
works, and the part is the longest in which no call comes after a request to cancel nor, if the policy says so, after
a failure; all plugins tidy up, in order.  The journal tells of these calls and of no other one, the report lists the
calls that failed, and a request to cancel counts only from the beginning of the run.
-/

import Calibration.Proofs.Chain.Calls
import Mathlib.Logic.Function.Iterate

namespace Calibration

namespace Run

variable {ctx : RunContext} {members : List Nat}

/-- **A stage that calls everybody is a row of calls**, whatever comes of them.  The first and the last stage of a run
are of this kind. -/
theorem callAll_eq (stage : RunStage) (is : List Nat) (run : Run) :
    callAll ctx members stage is run =
      ((perform ctx members (is.map (·, stage)) run).1.map Call.outcome,
        (perform ctx members (is.map (·, stage)) run).2) := by
  induction is generalizing run with
  | nil => rfl
  | cons i is ih =>
    rw [List.map_cons, perform_cons, List.map_cons, ← outcome_call]
    simp only [callAll, ih]

/-- These calls of the prepared plugins are the work of a run, cancelled before or not. -/
structure Worked (policy : FailurePolicy) (isCancelled : Bool) (ready : List Nat) (worked : List Call) : Prop where
  /-- The first of the plugins work, in order. -/
  inOrder : worked.map Call.key <+: ready.map (·, .run)
  /-- Nobody begins once the run is cancelled, nor after a failure that stops it. -/
  begins : ∀ before call after, worked = before ++ call :: after → isCancelled = false ∧
    ∀ earlier ∈ before, earlier.cancels = false ∧ (policy = .stopOnFailure → earlier.fault? = none)
  /-- Nobody is left out for another reason. -/
  stops : worked.length < ready.length → isCancelled ∨
    ∃ call ∈ worked, call.cancels ∨ policy = .stopOnFailure ∧ call.fault?.isSome

namespace Worked

variable {policy : FailurePolicy} {isCancelled : Bool} {ready : List Nat} {worked : List Call} {call : Call}

/-- In a run that is cancelled nobody works. -/
theorem nil_of_isCancelled : Worked policy true ready [] where
  inOrder := List.nil_prefix
  begins _ _ _ h := absurd h.symm (List.append_ne_nil_of_right_ne_nil _ (List.cons_ne_nil _ _))
  stops _ := .inl rfl

/-- Where nobody is ready nobody works. -/
theorem nil_of_nil : Worked policy isCancelled [] [] where
  inOrder := List.nil_prefix
  begins _ _ _ h := absurd h.symm (List.append_ne_nil_of_right_ne_nil _ (List.cons_ne_nil _ _))
  stops h := absurd h (Nat.lt_irrefl 0)

/-- The first plugin fails and stops the run: its call is all the work that is done. -/
theorem singleton_of_fault (hstage : call.stage = .run) (hpolicy : policy = .stopOnFailure)
    (hfault : call.fault?.isSome) : Worked policy false (call.plugin :: ready) [call] where
  inOrder := by
    rw [List.map_singleton, List.map_cons, Call.key, hstage]
    exact (List.prefix_cons_inj _).2 List.nil_prefix
  begins before other after h := by
    cases before with
    | nil => exact ⟨rfl, fun _ hmem => absurd hmem List.not_mem_nil⟩
    | cons first before =>
      exact absurd (List.cons.inj h).2.symm (List.append_ne_nil_of_right_ne_nil _ (List.cons_ne_nil _ _))
  stops _ := .inr ⟨call, List.mem_singleton_self _, .inr ⟨hpolicy, hfault⟩⟩

/-- The first plugin works, and the others by what it leaves: cancelled by then or not, and without a failure that
counts. -/
theorem cons (hstage : call.stage = .run) (hfault : policy = .stopOnFailure → call.fault? = none)
    (h : Worked policy call.cancels ready worked) : Worked policy false (call.plugin :: ready) (call :: worked) where
  inOrder := by
    rw [List.map_cons, List.map_cons, Call.key, hstage]
    exact (List.prefix_cons_inj _).2 h.inOrder
  begins before other after heq := by
    constructor
    · rfl
    cases before with
    | nil => exact fun _ hmem => absurd hmem List.not_mem_nil
    | cons first before =>
      rw [List.cons_append, List.cons.injEq] at heq
      obtain ⟨rfl, heq⟩ := heq
      obtain ⟨hcancels, hbefore⟩ := h.begins _ _ _ heq
      exact List.forall_mem_cons.2 ⟨⟨hcancels, hfault⟩, hbefore⟩
  stops hlength := by
    rcases h.stops (Nat.lt_of_succ_lt_succ hlength) with hcancels | ⟨other, hother, hreason⟩
    · exact .inr ⟨call, List.mem_cons_self, .inl hcancels⟩
    · exact .inr ⟨other, List.mem_cons_of_mem _ hother, hreason⟩

/-- Only those who are ready work. -/
theorem plugin_mem (h : Worked policy isCancelled ready worked) (hcall : call ∈ worked) : call.plugin ∈ ready := by
  obtain ⟨i, hi, he⟩ := List.mem_map.1 (h.inOrder.subset (List.mem_map_of_mem hcall))
  have hplugin : i = call.plugin := congrArg Prod.fst he
  exact hplugin ▸ hi

end Worked

/-- **The stage of work** is a row of calls, as long as cancels and failures let it be.  Which calls these are is told
by their own outcomes (`Worked`). -/
theorem exists_worked (ctx : RunContext) (members : List Nat) (policy : FailurePolicy) (ready : List Nat) (run : Run) :
    ∃ worked : List Call, Worked policy run.isCancelled ready worked ∧
      (perform ctx members (worked.map Call.key) run).1 = worked ∧
      work ctx members policy ready run =
        (worked.map Call.outcome, (perform ctx members (worked.map Call.key) run).2) := by
  induction ready generalizing run with
  | nil => exact ⟨[], .nil_of_nil, rfl, rfl⟩
  | cons i ready ih =>
    rw [work]
    by_cases hcancelled : run.isCancelled
    · rw [hcancelled, if_pos rfl]
      exact ⟨[], .nil_of_isCancelled, rfl, rfl⟩
    have hnot : run.isCancelled = false := Bool.eq_false_iff.2 hcancelled
    rw [if_neg hcancelled, hnot]
    simp only [outcome_call, Call.fault?_outcome]
    by_cases hfault : (observe ctx members .run run i).fault?.isSome && policy = .stopOnFailure
    · rw [if_pos hfault]
      rw [Bool.and_eq_true, decide_eq_true_eq] at hfault
      have hworked : Worked policy false (i :: ready) [observe ctx members .run run i] :=
        .singleton_of_fault rfl hfault.2 hfault.1
      exact ⟨_, hworked, rfl, rfl⟩
    · rw [if_neg hfault]
      obtain ⟨worked, hworked, hperform, hwork⟩ := ih (run.call ctx members .run i).2
      rw [isCancelled_call, hnot, Bool.false_or] at hworked
      have hnone : policy = .stopOnFailure → (observe ctx members .run run i).fault? = none := by
        intro hpolicy
        simpa [hpolicy] using hfault
      have hcons : Worked policy false (i :: ready) (observe ctx members .run run i :: worked) :=
        .cons rfl hnone hworked
      refine ⟨_, hcons, ?_, ?_⟩
      · rw [List.map_cons]
        exact congrArg _ hperform
      · rw [hwork]
        rfl

end Run

/-- A run of a chain, told by the calls of its three stages. -/
structure Chain.Contract (c : Chain) (h : Host) (prepared worked tidied : List Call) : Prop where
  /-- These calls, made one after the other on the host as it was, lead to the host and the chain as they are left. -/
  performed : Run.perform (h.context c) c.members ((prepared ++ worked ++ tidied).map Call.key)
    { roster := h.roster, store := h.store } =
      (prepared ++ worked ++ tidied,
        { roster := (h.run c).2.1.roster, store := (h.run c).2.1.store, isCancelled := (h.run c).2.2.isCancelled })
  /-- The journal tells of no other call in a run. -/
  journal : (h.run c).2.1.roster.runEvents =
    h.roster.runEvents ++ (prepared ++ worked ++ tidied).flatMap Call.events
  prepares : prepared.map Call.key = c.members.map (·, .preRun)
  works : Run.Worked c.policy (prepared.any Call.cancels)
    ((prepared.filter fun call => call.ending.isOk).map Call.plugin) worked
  tidies : tidied.map Call.key = c.members.map (·, .postRun)
  /-- The report of all failures, else word of a request to cancel, else nothing. -/
  result : (h.run c).1 =
    match (prepared ++ worked ++ tidied).filterMap (Call.failure? h.roster) with
    | failure :: failures => .error (.pluginFailed c.name (failure :: failures))
    | [] => if (prepared ++ worked ++ tidied).any Call.cancels then .error (.cancelled c.name) else .ok ()

/-- What a run ends with: its failures if there are any, else the request to cancel, else nothing. -/
theorem Chain.verdict_eq (c : Chain) (failures : List StageFailure) (isCancelled : Bool) :
    c.verdict failures isCancelled =
      match failures with
      | failure :: failures => .error (.pluginFailed c.name (failure :: failures))
      | [] => if isCancelled then .error (.cancelled c.name) else .ok () := by
  cases failures <;> rfl

namespace Call

/-- Plugins keep their names as long as the outlines are the same. -/
theorem name_handle {r r' : Roster} (h : r'.outlines = r.outlines) (i : Nat) :
    (r'.handle i).name = (r.handle i).name :=
  congrArg (·.plugin.name) (Roster.outline_of_outlines_eq h i)

/-- What is reported of calls is the same at any moment of the run, since it takes only names from the roster. -/
theorem filterMap_failure? {r r' : Roster} (h : r'.outlines = r.outlines) (calls : List Call) :
    (calls.map outcome).filterMap (Outcome.failure? r') = calls.filterMap (failure? r) := by
  rw [List.filterMap_map]
  refine congrArg (List.filterMap · calls) (funext fun call => ?_)
  rw [Function.comp_apply, failure?_outcome, failure?, failure?, name_handle h]

/-- Who has prepared itself well is told by the calls themselves. -/
theorem filter_isOk_outcome (calls : List Call) :
    ((calls.map outcome).filter (·.isOk)).map (·.plugin) =
      (calls.filter fun call => call.ending.isOk).map plugin := by
  rw [List.filter_map, List.map_map]
  refine congrArg (List.map plugin) (congrArg (List.filter · calls) (funext fun call => ?_))
  exact isOk_outcome call

end Call

namespace Call

/-- The calls of a row are calls of its plugins. -/
theorem plugin_mem_of_map_key {calls : List Call} {is : List Nat} {stage : RunStage} {call : Call}
    (h : calls.map key = is.map (·, stage)) (hcall : call ∈ calls) : call.plugin ∈ is := by
  have hmem := List.mem_map_of_mem (f := key) hcall
  rw [h] at hmem
  obtain ⟨i, hi, he⟩ := List.mem_map.1 hmem
  have hplugin : i = call.plugin := congrArg Prod.fst he
  exact hplugin ▸ hi

end Call

namespace Run

variable {ctx : RunContext} {members : List Nat}

/-- What a row of calls tells of its end. -/
theorem told_of_perform_eq {keys : List (Nat × RunStage)} {run final : Run} {calls : List Call}
    (h : perform ctx members keys run = (calls, final)) :
    final.isCancelled = (run.isCancelled || calls.any Call.cancels) ∧
      final.roster.runEvents = run.roster.runEvents ++ calls.flatMap Call.events ∧
        final.roster.outlines = run.roster.outlines := by
  have hcancelled : (perform ctx members keys run).2.isCancelled = _ := isCancelled_perform keys run
  have hjournal : (perform ctx members keys run).2.roster.runEvents = _ := runEvents_perform keys run
  have houtlines : (perform ctx members keys run).2.roster.outlines = _ := outlines_perform keys run
  rw [h] at hcancelled hjournal houtlines
  exact ⟨hcancelled, hjournal, houtlines⟩

/-- **The three stages of a run** are one row of calls: all plugins are prepared, some of the prepared ones work, and
all tidy up. -/
theorem exists_stages (ctx : RunContext) (members : List Nat) (policy : FailurePolicy) (run : Run) :
    ∃ prepared worked tidied : List Call,
      perform ctx members ((prepared ++ worked ++ tidied).map Call.key) run =
        (prepared ++ worked ++ tidied, (stages ctx members policy run).2) ∧
      (stages ctx members policy run).1 = (prepared ++ worked ++ tidied).map Call.outcome ∧
      prepared.map Call.key = members.map (·, .preRun) ∧
      Worked policy (run.isCancelled || prepared.any Call.cancels)
        ((prepared.filter fun call => call.ending.isOk).map Call.plugin) worked ∧
      tidied.map Call.key = members.map (·, .postRun) := by
  have hprepared : (perform ctx members (members.map (·, .preRun)) run).1.map Call.key = members.map (·, .preRun) :=
    key_perform ..
  have hcancelled : (perform ctx members (members.map (·, .preRun)) run).2.isCancelled =
      (run.isCancelled || (perform ctx members (members.map (·, .preRun)) run).1.any Call.cancels) :=
    isCancelled_perform ..
  rw [stages, callAll_eq]
  generalize hfirst : perform ctx members (members.map (·, .preRun)) run = first at hprepared hcancelled ⊢
  obtain ⟨prepared, run₁⟩ := first
  simp only at hprepared hcancelled ⊢
  obtain ⟨worked, hworked, hperform, hwork⟩ := exists_worked ctx members policy
    ((prepared.filter fun call => call.ending.isOk).map Call.plugin) run₁
  rw [Call.filter_isOk_outcome, hwork, callAll_eq]
  have htidied : (perform ctx members (members.map (·, .postRun))
      (perform ctx members (worked.map Call.key) run₁).2).1.map Call.key = members.map (·, .postRun) := key_perform ..
  refine ⟨prepared, worked, _, ?_, ?_, hprepared, hcancelled ▸ hworked, htidied⟩
  · rw [List.map_append, List.map_append, hprepared, htidied, perform_append, perform_append, hfirst]
    simp only [hperform]
  · simp only [List.map_append]

/-- Only members of the chain are called. -/
theorem mem_of_stages {prepared worked tidied : List Call} {isCancelled : Bool} {policy : FailurePolicy}
    (hprepares : prepared.map Call.key = members.map (·, .preRun))
    (hworks : Worked policy isCancelled ((prepared.filter fun call => call.ending.isOk).map Call.plugin) worked)
    (htidies : tidied.map Call.key = members.map (·, .postRun)) {i : Nat} {stage : RunStage}
    (h : (i, stage) ∈ (prepared ++ worked ++ tidied).map Call.key) : i ∈ members := by
  obtain ⟨call, hcall, he⟩ := List.mem_map.1 h
  obtain rfl : call.plugin = i := congrArg Prod.fst he
  rcases List.mem_append.1 hcall with hcall | hcall
  · rcases List.mem_append.1 hcall with hcall | hcall
    · exact Call.plugin_mem_of_map_key hprepares hcall
    · obtain ⟨ready, hready, hsame⟩ := List.mem_map.1 (hworks.plugin_mem hcall)
      rw [← hsame]
      exact Call.plugin_mem_of_map_key hprepares (List.mem_filter.1 hready).1
  · exact Call.plugin_mem_of_map_key htidies hcall

end Run

/-- **A chain run makes its calls in order and reports what failed**, whatever the code in it does; requests to cancel
that came before the run have no effect.  There are calls of three stages, of which the journal tells and which the
contract pins down: who is called, in which order, up to where, and what the run ends with. -/
theorem Host.run_contract (h : Host) (c : Chain) :
    (∃ prepared worked tidied, c.Contract h prepared worked tidied) ∧ ∀ n, h.run (Chain.cancel^[n] c) = h.run c := by
  constructor
  · let start : Run := { roster := h.roster, store := h.store }
    obtain ⟨prepared, worked, tidied, hperform, houtcomes, hprepares, hworks, htidies⟩ :=
      Run.exists_stages (h.context c) c.members c.policy start
    obtain ⟨hcancelled, hjournal, houtlines⟩ := Run.told_of_perform_eq hperform
    rw [Bool.false_or] at hworks
    refine ⟨prepared, worked, tidied, hperform, hjournal, hprepares, hworks, htidies, ?_⟩
    have hresult : (h.run c).1 = c.verdict
        (((prepared ++ worked ++ tidied).map Call.outcome).filterMap (Outcome.failure? (h.run c).2.1.roster))
        (h.run c).2.2.isCancelled := by
      rw [← houtcomes]
      rfl
    have hflag : (h.run c).2.2.isCancelled = (prepared ++ worked ++ tidied).any Call.cancels :=
      hcancelled.trans (Bool.false_or _)
    have hnames : (h.run c).2.1.roster.outlines = h.roster.outlines := houtlines
    rw [hresult, Call.filterMap_failure? hnames, hflag, Chain.verdict_eq]
  · intro n
    induction n with
    | zero => rfl
    | succ n ih =>
      rw [Function.iterate_succ_apply', ← ih]
      rfl

end Calibration
