/-
# Values shown by a chain

A chain shows a value with the first of its plugins that has the attribute of user interfaces (`IsUi`).  What that does
is said once, for every roster and hence for every moment (`Forwards`): the plugin is called if it has the interface and
is not busy, and its memory, its error text and the journal tell of the call; nobody else is touched, and in all other
cases nothing happens at all.

While a step of a chain runs, its own plugin is busy, and those that were busy before it are; nothing that the step asks
for changes that (`isBusy_serve`).  So a user interface that asks to show a value is refused, wherever it stands in the
chain.  What a run reports as failures is read off the ends of its own calls in the journal (`result_run`), and to show
a value writes none of these.
-/

import Calibration.Proofs.Chain.Contract
import Calibration.Proofs.Roster.LocalCalls

namespace Calibration

namespace Roster

variable {r r' : Roster} {members : List Nat} {key : String} {item : Item} {shown : Bool} {i : Nat}

/-- The plugin at a place has the attribute of user interfaces. -/
def HasUi (r : Roster) (i : Nat) : Prop := Attribute.ui ∈ (r.handle i).plugin.attributes

/-- The plugin at a place is the first of some that has the attribute of user interfaces. -/
def IsUi (r : Roster) (members : List Nat) (i : Nat) : Prop :=
  ∃ before after, members = before ++ i :: after ∧ r.HasUi i ∧ ∀ j ∈ before, ¬ r.HasUi j

/-- To show a value with some plugins comes to this. -/
structure Forwards (r : Roster) (members : List Nat) (key : String) (item : Item) (shown : Bool) (r' : Roster) :
    Prop where
  /-- Without a user interface nothing happens. -/
  nobody : (∀ i ∈ members, ¬ r.HasUi i) → shown = false ∧ r' = r
  /-- Nor does anything happen while it is busy. -/
  busy : ∀ i, r.IsUi members i → (r.handle i).isBusy → shown = false ∧ r' = r
  /-- Nor if it only has the attribute. -/
  bare : ∀ i, r.IsUi members i → (r.handle i).plugin.ui? = none → shown = false ∧ r' = r
  /-- Else its code is called, and nobody else's; the value is shown if the code ends well. -/
  calls : ∀ i code, r.IsUi members i → (r.handle i).isBusy = false → (r.handle i).plugin.ui? = some code →
    ∃ reply, r.Called i .ui (code key item) reply r' ∧ (shown ↔ reply = .ok ())
  /-- No call of a run is recorded. -/
  runEvents : r'.runEvents = r.runEvents

/-- The attribute that a chain looks for is the one of the plugin. -/
theorem hasUi_iff : (r.handle i).view.hasAttribute Attribute.ui ↔ r.HasUi i := List.contains_iff_mem

/-- The look-up of a chain finds the first user interface among its plugins. -/
theorem find?_eq_some_iff_isUi :
    (members.find? fun i => (r.handle i).view.hasAttribute Attribute.ui) = some i ↔ r.IsUi members i := by
  rw [List.find?_eq_some_iff_append, hasUi_iff]
  constructor
  · rintro ⟨hui, before, after, hmembers, hbefore⟩
    refine ⟨before, after, hmembers, hui, fun j hj hj' => ?_⟩
    have hnot := hbefore j hj
    rw [hasUi_iff.2 hj'] at hnot
    cases hnot
  · rintro ⟨before, after, hmembers, hui, hbefore⟩
    refine ⟨hui, before, after, hmembers, fun j hj => ?_⟩
    rw [Bool.not_eq_true', Bool.eq_false_iff]
    exact mt hasUi_iff.1 (hbefore j hj)

/-- There is one first user interface, so that what is said of it is said of one plugin. -/
theorem IsUi.unique {j : Nat} (hi : r.IsUi members i) (hj : r.IsUi members j) : i = j :=
  Option.some.inj ((find?_eq_some_iff_isUi.2 hi).symm.trans (find?_eq_some_iff_isUi.2 hj))

/-- It is one of the plugins of the chain. -/
theorem IsUi.mem (h : r.IsUi members i) : i ∈ members := by
  obtain ⟨before, after, rfl, -⟩ := h
  exact List.mem_append_right before List.mem_cons_self

/-- Only plugins that are there have attributes. -/
theorem HasUi.lt_size (h : r.HasUi i) : i < r.size := by
  refine Nat.lt_of_not_le fun hi => ?_
  have hplugin : (r.handle i).plugin = (default : Entry).outline.plugin :=
    congrArg Outline.plugin (r.outline_of_size_le i hi)
  rw [HasUi, hplugin] at h
  cases h

/-- The first user interface has the attribute. -/
theorem IsUi.hasUi (h : r.IsUi members i) : r.HasUi i := by
  obtain ⟨-, -, -, hui, -⟩ := h
  exact hui

/-- **A value is shown by a call of the first user interface, or nothing happens.**  Nothing happens without such a
plugin, while it is busy, or if it has the attribute only. -/
theorem showItem_cases (r : Roster) (members : List Nat) (key : String) (item : Item) :
    (r.showItem members key item = (false, r) ∧ ∀ i code, r.IsUi members i → (r.handle i).isBusy = false →
        (r.handle i).plugin.ui? ≠ some code) ∨
      ∃ i code, r.IsUi members i ∧ (r.handle i).isBusy = false ∧ (r.handle i).plugin.ui? = some code ∧
        r.showItem members key item =
          ((r.callLocal i .ui (code key item)).1.isOk, (r.callLocal i .ui (code key item)).2) := by
  cases hfind : members.find? fun i => (r.handle i).view.hasAttribute Attribute.ui with
  | none =>
    refine .inl ⟨by simp only [showItem, hfind], fun i code hi => ?_⟩
    rw [find?_eq_some_iff_isUi.2 hi] at hfind
    cases hfind
  | some i =>
    have hi := find?_eq_some_iff_isUi.1 hfind
    cases hbusy : (r.handle i).isBusy with
    | true =>
      refine .inl ⟨by simp only [showItem, hfind, hbusy], fun j code hj hfree => ?_⟩
      rw [← hi.unique hj, hbusy] at hfree
      cases hfree
    | false =>
      cases hcode : (r.handle i).plugin.ui? with
      | none =>
        refine .inl ⟨by simp only [showItem, hfind, hbusy, hcode], fun j code hj _ => ?_⟩
        rw [← hi.unique hj, hcode]
        exact (Option.some_ne_none code).symm
      | some code =>
        refine .inr ⟨i, code, hi, hbusy, hcode, ?_⟩
        simp only [showItem, hfind, hbusy, hcode]
        rcases r.callLocal i .ui (code key item) with ⟨_ | _, _⟩ <;> rfl

/-- **What showing a value comes to, in any roster**: all cases at once.  There is nobody with an interface, or the
first one is busy, or its code is called. -/
theorem forwards_showItem (r : Roster) (members : List Nat) (key : String) (item : Item) :
    r.Forwards members key item (r.showItem members key item).1 (r.showItem members key item).2 := by
  rcases r.showItem_cases members key item with ⟨hidle, hnobody⟩ | ⟨i, code, hi, hfree, hcode, hcall⟩
  · rw [hidle]
    exact ⟨fun _ => ⟨rfl, rfl⟩, fun _ _ _ => ⟨rfl, rfl⟩, fun _ _ _ => ⟨rfl, rfl⟩,
      fun j code hj hfree hcode => absurd hcode (hnobody j code hj hfree), rfl⟩
  · have hcalled := r.called_callLocal i .ui (code key item)
    rw [hcall]
    refine ⟨fun hnone => absurd hi.hasUi (hnone i hi.mem), fun j hj hbusy => ?_, fun j hj hbare => ?_,
      fun j code' hj _ hcode' => ?_, r.runEvents_callLocal i (fun _ => Step.noConfusion) (code key item)⟩
    · rw [← hi.unique hj, hfree] at hbusy
      cases hbusy
    · rw [← hi.unique hj, hcode] at hbare
      cases hbare
    · obtain rfl := hi.unique hj
      obtain rfl := Option.some.inj (hcode.symm.trans hcode')
      refine ⟨_, hcalled, ?_⟩
      cases (r.callLocal i .ui (code key item)).1 with
      | ok _ => exact iff_of_true rfl rfl
      | error e => exact iff_of_false nofun nofun

/-! ### Who is busy -/

/-- To show a value leaves everybody as busy as before: the call is over when the chain goes on. -/
theorem isBusy_showItem (r : Roster) (members : List Nat) (key : String) (item : Item) (k : Nat) :
    ((r.showItem members key item).2.handle k).isBusy = (r.handle k).isBusy := by
  rcases r.showItem_cases members key item with ⟨hidle, -⟩ | ⟨i, code, -, hfree, -, hcall⟩
  · rw [hidle]
  · rw [hcall]
    exact isBusy_callLocal hfree .ui (code key item) k

/-- To measure leaves everybody as busy as before, too. -/
theorem isBusy_measureWith (r : Roster) (name : String) (isCancelled : Bool) (k : Nat) :
    ((r.measureWith name isCancelled).2.handle k).isBusy = (r.handle k).isBusy := by
  rw [measureWith]
  split
  · rfl
  · next i _ =>
    split_ifs with hbusy
    · rfl
    · exact isBusy_callLocal (Bool.eq_false_iff.2 hbusy) .sensor _ k

end Roster

/-! ### Within a step -/

namespace Task

variable {S : Signature} {α σ : Type}

/-- The requests that a program makes, each with the state of the host at that moment. -/
def moments (serve : (q : S.Request) → σ → S.Reply q × σ) : Task S α → σ → List (S.Request × σ)
  | done _, _ => []
  | ask q next, s => (q, s) :: (next (serve q s).1).moments serve (serve q s).2

/-- What serving a request keeps holds at every moment. -/
theorem moments_preserves {serve : (q : S.Request) → σ → S.Reply q × σ} {P : σ → Prop}
    (keeps : ∀ q s, P s → P (serve q s).2) (t : Task S α) {s : σ} (h : P s) : ∀ m ∈ t.moments serve s, P m.2 := by
  induction t generalizing s with
  | done value => exact fun _ hm => nomatch hm
  | ask q next ih => exact List.forall_mem_cons.2 ⟨h, ih _ (keeps q s h)⟩

end Task

namespace Run

variable {ctx : RunContext} {members : List Nat} {stage : RunStage} {run : Run} {i : Nat}

/-- Nothing that code in a chain asks for changes who is busy. -/
theorem isBusy_serve (hasRegistry : Bool) (q : chainSignature.noting.Request) (run : Run) (k : Nat) :
    ((serve members hasRegistry q run).2.roster.handle k).isBusy = (run.roster.handle k).isBusy := by
  rcases q with line | (_ | _ | ⟨key, item⟩ | name)
  · rfl
  · rfl
  · rfl
  · exact Roster.isBusy_showItem ..
  · rw [serve]
    split_ifs
    · exact Roster.isBusy_measureWith ..
    · rfl

/-- A moment of a step at which its code asks to show a value. -/
def Asks (ctx : RunContext) (members : List Nat) (stage : RunStage) (run : Run) (i : Nat) (key : String) (item : Item)
    (now : Run) : Prop :=
  (.other (.showItem key item), now) ∈
    (program ctx stage run i).moments (serve members ctx.registry?.isSome) (entered stage run i)

/-- The plugins stay what they are within a step. -/
theorem outlines_of_asks {key : String} {item : Item} {now : Run} (h : Asks ctx members stage run i key item now) :
    now.roster.outlines = run.roster.outlines :=
  Task.moments_preserves (P := fun s : Run => s.roster.outlines = run.roster.outlines)
    (fun q s hs => (outlines_serve _ q s).trans hs) _ (Roster.outlines_enter ..) _ h

/-- **At every moment of a step its own plugin is busy**, and of the others those that were busy before.  So a value
that is shown from inside a step never comes back to the plugin that shows it. -/
theorem isBusy_of_asks {key : String} {item : Item} {now : Run} (h : Asks ctx members stage run i key item now)
    (k : Nat) : (now.roster.handle k).isBusy = true ↔ k = i ∧ i < run.roster.size ∨ (run.roster.handle k).isBusy := by
  have hsame : (now.roster.handle k).isBusy = ((entered stage run i).roster.handle k).isBusy :=
    Task.moments_preserves (P := fun s : Run => (s.roster.handle k).isBusy = _)
      (fun q s hs => (isBusy_serve _ q s k).trans hs) _ rfl _ h
  rw [hsame]
  exact Roster.isBusy_enter ..

end Run

/-! ### What a run reports -/

/-- The failure of a run that an event tells of: the end of one of its calls, unless the code stopped because the run
was cancelled. -/
def Event.failure? (r : Roster) : Event → Option StageFailure
  | .returned _ (.chain _) (some .cancelled) => none
  | .returned i (.chain stage) (some e) => some ⟨(r.handle i).name, stage, e.message⟩
  | _ => none

/-- What the journal tells of one call is its failure, if there is one. -/
theorem Call.filterMap_events (r : Roster) (call : Call) :
    call.events.filterMap (Event.failure? r) = (call.failure? r).toList := by
  obtain ⟨i, stage, ending, cancels⟩ := call
  rcases ending with (e | _) | _
  · cases e <;> rfl
  · rfl
  · rfl

/-- What the journal tells of a row of calls is their failures, in order. -/
theorem Call.filterMap_flatMap_events (r : Roster) (calls : List Call) :
    (calls.flatMap Call.events).filterMap (Event.failure? r) = calls.filterMap (Call.failure? r) := by
  induction calls with
  | nil => rfl
  | cons call calls ih =>
    rw [List.flatMap_cons, List.filterMap_append, ih, call.filterMap_events]
    cases h : call.failure? r with
    | none => rw [List.filterMap_cons_none h]; rfl
    | some failure => rw [List.filterMap_cons_some h]; rfl

/-- **What a run reports is read off the ends of its own calls in the journal.**  With `runEvents_callLocal` this
keeps a failure to show a value out of the report. -/
theorem Host.result_run (h : Host) (c : Chain) :
    ∃ events, (h.run c).2.1.roster.runEvents = h.roster.runEvents ++ events ∧
      (h.run c).1 = c.verdict (events.filterMap (Event.failure? h.roster)) (h.run c).2.2.isCancelled := by
  obtain ⟨prepared, worked, tidied, hperform, houtcomes, -⟩ :=
    Run.exists_stages (h.context c) c.members c.policy { roster := h.roster, store := h.store }
  obtain ⟨-, hjournal, houtlines⟩ := Run.told_of_perform_eq hperform
  refine ⟨_, hjournal, ?_⟩
  rw [Call.filterMap_flatMap_events, ← Call.filterMap_failure? houtlines, ← houtcomes]
  rfl

/-- **To show a value is confined to the first user interface of a chain, and never blocks.**  That holds whenever a
host does it, for items and for plain values, and at every moment at which a step of the chain asks for it: then the
plugin of the step is busy, and a user interface that asks for itself is refused.  No failure of it is among those that
a run reports: these are the ends of the run's own calls, and none of these is recorded by showing a value. -/
theorem Host.showing_is_confined (h : Host) (c : Chain) (key : String) :
    (∀ item, (h.showItem c key item).2 = { h with roster := (h.showItem c key item).2.roster } ∧
        h.roster.Forwards c.members key item (h.showItem c key item).1 (h.showItem c key item).2.roster) ∧
      (∀ value, (h.showValue c key value).2 = { h with roster := (h.showValue c key value).2.roster } ∧
        h.roster.Forwards c.members key value.item (h.showValue c key value).1 (h.showValue c key value).2.roster) ∧
      (∀ ctx stage run i item now, Run.Asks ctx c.members stage run i key item now →
        (∀ k, (now.roster.handle k).isBusy = true ↔ k = i ∧ i < run.roster.size ∨ (run.roster.handle k).isBusy) ∧
          ∃ shown r, Run.serve c.members ctx.registry?.isSome (.other (.showItem key item)) now =
              (shown, { now with roster := r }) ∧
            now.roster.Forwards c.members key item shown r ∧
              (now.roster.IsUi c.members i → shown = false ∧ r = now.roster)) ∧
      ∃ events, (h.run c).2.1.roster.runEvents = h.roster.runEvents ++ events ∧
        (h.run c).1 = c.verdict (events.filterMap (Event.failure? h.roster)) (h.run c).2.2.isCancelled := by
  refine ⟨fun item => ⟨rfl, h.roster.forwards_showItem ..⟩, fun value => ⟨rfl, h.roster.forwards_showItem ..⟩, ?_,
    h.result_run c⟩
  intro ctx stage run i item now hasks
  have hbusy := Run.isBusy_of_asks hasks
  have hforwards := now.roster.forwards_showItem c.members key item
  refine ⟨hbusy, _, _, rfl, hforwards, fun hi => ?_⟩
  have hlt : i < run.roster.size := Roster.size_of_outlines_eq (Run.outlines_of_asks hasks) ▸ hi.hasUi.lt_size
  exact hforwards.busy i hi ((hbusy i).2 (.inl ⟨rfl, hlt⟩))

/-- A user interface that asks its own chain to show a value is refused; a plugin behind it that asks is served. -/
example :
    let panel : Plugin := {
      name := "panel", attributes := [Attribute.ui], ui? := some fun key _ => .note key
      run := fun _ => do .note (if ← ChainCode.showItem "own" (.bool true) then "shown" else "refused") }
    let worker : Plugin := {
      name := "worker"
      run := fun _ => do .note (if ← ChainCode.showItem "step" (.int 1) then "shown" else "refused") }
    let entries := [panel, worker].map fun p => { handle := .ofPlugin p, origin := .static : Entry }
    let h : Host := { roster := { entries } }
    let c : Chain := { name := "chain", dictName := "default", table := Host.mainTable, members := [0, 1] }
    (h.run c).2.1.roster.notes = ["refused", "step", "shown"] := by
  rfl

end Calibration
