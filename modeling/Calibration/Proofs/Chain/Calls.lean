/-
# The calls of a chain run

A run calls plugins one after the other.  `perform` makes a given row of calls and records of each how the code
ended and whether it asked to cancel, which is read off the requests that it made, not off the state of the run.  The
stages of a run are such rows (`callAll_eq`, `work_eq`).  From a row of calls everything can be read that others see
of a run: whether it is cancelled (`isCancelled_perform`) and what the journal tells (`runEvents_perform`).
-/

import Calibration.Host.Basic
import Calibration.Proofs.Roster.Outline

namespace Calibration

namespace Task

variable {S : Signature} {α σ : Type}

/-- The requests that a program makes, in order. -/
def requests (serve : (q : S.Request) → σ → S.Reply q × σ) : Task S α → σ → List S.Request
  | done _, _ => []
  | ask q next, s => q :: (next (serve q s).1).requests serve (serve q s).2

/-- What serving a request adds to a flag of the host, a program adds. -/
theorem flag_run {serve : (q : S.Request) → σ → S.Reply q × σ} (flag : σ → Bool) (raises : S.Request → Bool)
    (h : ∀ q s, flag (serve q s).2 = (flag s || raises q)) (t : Task S α) (s : σ) :
    flag (t.run serve s).2 = (flag s || (t.requests serve s).any raises) := by
  induction t generalizing s with
  | done value => exact (Bool.or_false _).symm
  | ask q next ih =>
    refine (ih _ _).trans ?_
    rw [h, requests, List.any_cons, Bool.or_assoc]

end Task

/-- The event is the begin or the end of a call in a chain run. -/
def Event.isOfRun : Event → Bool
  | .called _ (.chain _) | .returned _ (.chain _) _ => true
  | _ => false

namespace Roster

variable {α : Type} (r : Roster) (i : Nat)

/-- The begins and ends of calls in chain runs, in order. -/
def runEvents : List Event := r.journal.filter Event.isOfRun

/-- A line in the journal tells of a run if it is the begin or the end of one of its calls. -/
theorem runEvents_log (event : Event) :
    (r.log event).runEvents = r.runEvents ++ if event.isOfRun then [event] else [] := by
  simp only [runEvents, log, List.filter_append, List.filter_cons, List.filter_nil]

/-- A call of code that only tends its own plugin writes no event of a run.  So showing a value and measuring stay out
of what a run tells. -/
theorem runEvents_callLocal {step : Step} (hstep : ∀ stage, step ≠ .chain stage) (code : LocalCode α) :
    (r.callLocal i step code).2.runEvents = r.runEvents := by
  have hcalled : Event.isOfRun (.called i step) = false := by
    cases step with
    | chain stage => exact absurd rfl (hstep stage)
    | _ => rfl
  have hreturned : ∀ fault, Event.isOfRun (.returned i step fault) = false := fun fault => by
    cases step with
    | chain stage => exact absurd rfl (hstep stage)
    | _ => rfl
  have henter : (r.enter i step).runEvents = r.runEvents :=
    (runEvents_log ..).trans (by rw [hcalled]; exact List.append_nil _)
  have hserve : ∀ (q : Signature.none.noting.Request) (s : Roster), s.runEvents = r.runEvents →
      (serveLocal q s).2.runEvents = r.runEvents := by
    rintro (line | q) s h
    · exact (runEvents_log ..).trans (by rw [h]; exact List.append_nil _)
    · exact nomatch q
  refine (runEvents_log ..).trans ?_
  rw [hreturned]
  exact (List.append_nil _).trans
    (Task.run_preserves (P := fun s : Roster => s.runEvents = r.runEvents) hserve _ henter)

end Roster

/-- A call that a run has made: how the plugin's code ended, and whether it asked to cancel the run. -/
structure Call where
  plugin : Nat
  stage : RunStage
  ending : Except Halt Unit
  cancels : Bool

namespace Call

/-- Which plugin is called in which stage. -/
def key (c : Call) : Nat × RunStage := (c.plugin, c.stage)

/-- Why the call failed: its code panicked, or returned an error; to stop because the run is cancelled is no
failure. -/
def fault? (c : Call) : Option PluginError :=
  match c.ending with
  | .ok () => none
  | .error .panicked => some .panicked
  | .error (.failed .cancelled) => none
  | .error (.failed e) => some e

/-- The report of a failure. -/
def failure? (r : Roster) (c : Call) : Option StageFailure :=
  c.fault?.map fun e => ⟨(r.handle c.plugin).name, c.stage, e.message⟩

/-- What the journal tells of the call. -/
def events (c : Call) : List Event :=
  [.called c.plugin (.chain c.stage),
    .returned c.plugin (.chain c.stage) (match c.ending with
      | .ok () => none
      | .error halt => some halt.error)]

/-- How the call ended, as the run goes by it. -/
def outcome (c : Call) : Outcome :=
  ⟨c.plugin, c.stage, match c.ending with
    | .ok () => .ok ()
    | .error halt => .error halt.error⟩

/-- How a call ended is seen in what the run keeps of it. -/
theorem isOk_outcome (c : Call) : c.outcome.isOk = c.ending.isOk := by
  obtain ⟨_, _, _ | _, _⟩ := c <;> rfl

/-- So is its failure. -/
theorem fault?_outcome (c : Call) : c.outcome.fault? = c.fault? := by
  obtain ⟨_, _, (e | _) | _, _⟩ := c
  · cases e <;> rfl
  · rfl
  · rfl

/-- And so is what is reported of the failure. -/
theorem failure?_outcome (r : Roster) (c : Call) : c.outcome.failure? r = c.failure? r := by
  rw [Outcome.failure?, failure?, fault?_outcome]
  rfl

end Call

namespace Run

variable (ctx : RunContext) (members : List Nat)

/-- A request to cancel the run. -/
def asksToCancel : chainSignature.noting.Request → Bool
  | .other .cancel => true
  | _ => false

/-- The code of a stage of the plugin at a place as a program. -/
def program (stage : RunStage) (run : Run) (i : Nat) : Task chainSignature.noting (Except Halt Unit × Workspace) :=
  ((run.roster.handle i).plugin.code stage ctx).run.run ⟨(run.roster.handle i).memory, run.store⟩

/-- The run at the moment when the code begins. -/
def entered (stage : RunStage) (run : Run) (i : Nat) : Run :=
  { run with roster := run.roster.enter i (.chain stage) }

/-- The run at the moment when the code ends. -/
def ended (stage : RunStage) (run : Run) (i : Nat) : (Except Halt Unit × Workspace) × Run :=
  (program ctx stage run i).run (serve members ctx.registry?.isSome) (entered stage run i)

/-- What there is to tell of a call. -/
def observe (stage : RunStage) (run : Run) (i : Nat) : Call where
  plugin := i
  stage := stage
  ending := (ended ctx members stage run i).1.1
  cancels := ((program ctx stage run i).requests (serve members ctx.registry?.isSome)
    (entered stage run i)).any asksToCancel

/-- Makes a row of calls, and tells of each. -/
def perform : List (Nat × RunStage) → Run → List Call × Run
  | [], run => ([], run)
  | (i, stage) :: rest, run =>
    let (calls, final) := perform rest (run.call ctx members stage i).2
    (observe ctx members stage run i :: calls, final)

variable {ctx members} {stage : RunStage} {run : Run} {i : Nat}

/-- The first call of a row is made first, and the others go on with the run that it leaves. -/
theorem perform_cons (rest : List (Nat × RunStage)) :
    perform ctx members ((i, stage) :: rest) run =
      (observe ctx members stage run i :: (perform ctx members rest (run.call ctx members stage i).2).1,
        (perform ctx members rest (run.call ctx members stage i).2).2) := rfl

/-- Two rows of calls, one after the other, are one row. -/
theorem perform_append (keys rest : List (Nat × RunStage)) (run : Run) :
    perform ctx members (keys ++ rest) run =
      ((perform ctx members keys run).1 ++ (perform ctx members rest (perform ctx members keys run).2).1,
        (perform ctx members rest (perform ctx members keys run).2).2) := by
  induction keys generalizing run with
  | nil => rfl
  | cons key keys ih =>
    obtain ⟨i, stage⟩ := key
    rw [List.cons_append, perform_cons, perform_cons, ih, List.cons_append]

/-- **The calls made are those that were to be made**, in their order: no call of a row is left out, however the
others end. -/
theorem key_perform (keys : List (Nat × RunStage)) (run : Run) :
    (perform ctx members keys run).1.map Call.key = keys := by
  induction keys generalizing run with
  | nil => rfl
  | cons key keys ih =>
    obtain ⟨i, stage⟩ := key
    rw [perform_cons, List.map_cons, ih]
    rfl

/-- What each call of a row keeps, the row keeps. -/
theorem perform_preserves {P : Run → Prop} (keys : List (Nat × RunStage))
    (hcall : ∀ i stage, (i, stage) ∈ keys → ∀ run, P run → P (run.call ctx members stage i).2) (h : P run) :
    P (perform ctx members keys run).2 := by
  induction keys generalizing run with
  | nil => exact h
  | cons key keys ih =>
    obtain ⟨i, stage⟩ := key
    rw [perform_cons]
    refine ih (fun j stage hmem => hcall j stage (List.mem_cons_of_mem _ hmem)) ?_
    exact hcall i stage List.mem_cons_self run h

/-! ### One call -/

/-- What the run keeps of a call is what there is to tell of it. -/
theorem outcome_call (stage : RunStage) (run : Run) (i : Nat) :
    (run.call ctx members stage i).1 = (observe ctx members stage run i).outcome := by
  simp only [call, observe, Call.outcome, Roster.leave, ended, program, entered]
  cases ((((run.roster.handle i).plugin.code stage ctx).run.run ⟨(run.roster.handle i).memory, run.store⟩).run
    (serve members ctx.registry?.isSome)
    { run with roster := run.roster.enter i (.chain stage) }).1.1 <;> rfl

/-- What a call leaves of the plugins: what its code has made of them, and then its plugin is left. -/
theorem roster_call (stage : RunStage) (run : Run) (i : Nat) :
    (run.call ctx members stage i).2.roster =
      ((ended ctx members stage run i).2.roster.leave i (.chain stage) (ended ctx members stage run i).1.2.memory
        (ended ctx members stage run i).1.1).2 := rfl

/-- **The run is cancelled once a call has asked for it.**  No call takes this back. -/
theorem isCancelled_call (stage : RunStage) (run : Run) (i : Nat) :
    (run.call ctx members stage i).2.isCancelled = (run.isCancelled || (observe ctx members stage run i).cancels) := by
  refine Task.flag_run Run.isCancelled asksToCancel (fun q s => ?_) _ (entered stage run i)
  rcases q with line | (_ | _ | ⟨key, item⟩ | name)
  · exact (Bool.or_false _).symm
  · exact (Bool.or_true _).symm
  · exact (Bool.or_false _).symm
  · exact (Bool.or_false _).symm
  · simp only [serve]
    split_ifs <;> exact (Bool.or_false _).symm

/-- A reply makes no other calls than to show values and to measure. -/
theorem serve_preserves {P : Roster → Prop} (hnote : ∀ line r, P r → P (r.log (.noted line)))
    (hshow : ∀ i r code, i ∈ members → P r → P (r.callLocal (α := Unit) i .ui code).2)
    (hmeasure : ∀ i r code, (r.handle i).view.isRunnable → P r → P (r.callLocal (α := Measurement) i .sensor code).2)
    (hasRegistry : Bool) (q : chainSignature.noting.Request) {run : Run} (h : P run.roster) :
    P (serve members hasRegistry q run).2.roster := by
  rcases q with line | (_ | _ | ⟨key, item⟩ | name)
  · exact hnote line _ h
  · exact h
  · exact h
  · simp only [serve, Roster.showItem]
    split
    · exact h
    · next i hi =>
      split
      · next shown _ _ =>
        have hcall := hshow i run.roster (shown key item) (List.mem_of_find?_eq_some hi) h
        split <;> next heq => rw [heq] at hcall; exact hcall
      · exact h
  · simp only [serve]
    split_ifs
    · simp only [Roster.measureWith]
      split
      · exact h
      · next i hi =>
        split_ifs
        · exact h
        · refine hmeasure i run.roster _ ?_ h
          have := List.find?_some hi
          rw [Bool.and_eq_true] at this
          exact this.2
    · exact h

/-- No reply changes who the plugins are, how far they have come, or what they need. -/
theorem outlines_serve (hasRegistry : Bool) (q : chainSignature.noting.Request) (run : Run) :
    (serve members hasRegistry q run).2.roster.outlines = run.roster.outlines :=
  serve_preserves (P := fun r => r.outlines = run.roster.outlines) (fun _ _ h => h)
    (fun _ _ _ _ h => (Roster.outlines_callLocal ..).trans h) (fun _ _ _ _ h => (Roster.outlines_callLocal ..).trans h)
    hasRegistry q rfl

/-- Nor does a call: a run leaves the lifecycles alone. -/
theorem outlines_call (stage : RunStage) (run : Run) (i : Nat) :
    (run.call ctx members stage i).2.roster.outlines = run.roster.outlines := by
  rw [roster_call, Roster.outlines_leave]
  exact Task.run_preserves (P := fun s : Run => s.roster.outlines = run.roster.outlines)
    (fun q s h => (outlines_serve _ q s).trans h) _ (Roster.outlines_enter ..)

/-- **The journal tells of the call**, and of no other one: what its code asks for meanwhile is no call of the run.  A
value that is shown is told in another way. -/
theorem runEvents_call (stage : RunStage) (run : Run) (i : Nat) :
    (run.call ctx members stage i).2.roster.runEvents =
      run.roster.runEvents ++ (observe ctx members stage run i).events := by
  have henter : (entered stage run i).roster.runEvents = run.roster.runEvents ++ [.called i (.chain stage)] :=
    Roster.runEvents_log ..
  have hended : (ended ctx members stage run i).2.roster.runEvents =
      run.roster.runEvents ++ [.called i (.chain stage)] := by
    refine Task.run_preserves
      (P := fun s : Run => s.roster.runEvents = run.roster.runEvents ++ [.called i (.chain stage)]) (fun q s h => ?_) _
      henter
    refine serve_preserves (P := fun r => r.runEvents = run.roster.runEvents ++ [.called i (.chain stage)])
      (fun line r h => ?_)
      (fun j r code _ h => (Roster.runEvents_callLocal r j (fun _ => Step.noConfusion) code).trans h)
      (fun j r code _ h => (Roster.runEvents_callLocal r j (fun _ => Step.noConfusion) code).trans h) _ q h
    rw [Roster.runEvents_log, h]
    exact List.append_nil _
  rw [roster_call]
  refine (Roster.runEvents_log ..).trans ?_
  change (ended ctx members stage run i).2.roster.runEvents ++ _ = _
  rw [hended, List.append_assoc]
  refine congrArg (run.roster.runEvents ++ ·) ?_
  simp only [observe, Call.events]
  cases (ended ctx members stage run i).1.1 <;> rfl

/-! ### Rows of calls -/

/-- **A run is cancelled exactly if it was before or one of its calls has asked for it.**  It is the induction over
the calls. -/
theorem isCancelled_perform (keys : List (Nat × RunStage)) (run : Run) :
    (perform ctx members keys run).2.isCancelled =
      (run.isCancelled || (perform ctx members keys run).1.any Call.cancels) := by
  induction keys generalizing run with
  | nil => exact (Bool.or_false _).symm
  | cons key keys ih =>
    obtain ⟨i, stage⟩ := key
    rw [perform_cons, ih, isCancelled_call, List.any_cons, Bool.or_assoc]

/-- **The journal tells of a row of calls**, call by call, and of nothing else of a run.  What a run has done can be
read off it in full. -/
theorem runEvents_perform (keys : List (Nat × RunStage)) (run : Run) :
    (perform ctx members keys run).2.roster.runEvents =
      run.roster.runEvents ++ (perform ctx members keys run).1.flatMap Call.events := by
  induction keys generalizing run with
  | nil => exact (List.append_nil _).symm
  | cons key keys ih =>
    obtain ⟨i, stage⟩ := key
    rw [perform_cons, ih, runEvents_call, List.flatMap_cons, List.append_assoc]

/-- A row of calls changes none of the lifecycles. -/
theorem outlines_perform (keys : List (Nat × RunStage)) (run : Run) :
    (perform ctx members keys run).2.roster.outlines = run.roster.outlines :=
  perform_preserves (P := fun s => s.roster.outlines = run.roster.outlines) keys
    (fun _ _ _ _ h => (outlines_call ..).trans h) rfl

end Run
end Calibration
