/-
# The record of a handle

Whoever has a handle may move the plugin on in its lifecycle, reject it, set the text of its last failure and call its
code, and the code may do the same to its own handle while it is called.  Here all of it is done by the functions of the
handle and written down, as a row of moments: the handle before, the deed, and the handle after.  Each deed does one
thing (`Moment.Sound`), and the moments of a history follow each other (`leads_perform`).  So the deeds alone tell what
has become of a handle at each moment, be it in the middle of a call (`Recorded`), and of the states that it has been in
they tell a straight way to the end or to a rejection (`IsCourse`).
-/

import Calibration.Roster
import Mathlib.Data.List.Basic
import Mathlib.Tactic.IntervalCases
import Mathlib.Tactic.SplitIfs

namespace Calibration

namespace Lifecycle

/-- The states of a plugin that is never rejected, one after the other. -/
def path : List Lifecycle := [.loaded, .postLoaded, .depsChecked, .depsFinalized, .runnable]

/-- The plugin stays in the state for good. -/
def IsFinal (s : Lifecycle) : Prop := s = .runnable ∨ s.isRejected

/-- States that a plugin goes through: the first ones of the path, or some first ones but not the last, and then a
rejection. -/
def IsCourse (states : List Lifecycle) : Prop :=
  states <+: path ∨ ∃ front stage reason, states = front ++ [.rejected stage reason] ∧ front ≠ [] ∧ front <+: path ∧
    .runnable ∉ front

variable {s next : Lifecycle} {n : Nat} {states : List Lifecycle}

/-- The place of a state on the path is its rank. -/
theorem path_getElem?_iff : path[n]? = some s ↔ s.rank? = some n := by
  constructor
  · intro h
    obtain ⟨hn, rfl⟩ := List.getElem?_eq_some_iff.1 h
    replace hn : n < 5 := hn
    interval_cases n <;> rfl
  · intro h
    cases s <;> cases h <;> rfl

/-- A plugin goes on to the next state of the path, or is rejected before it is runnable. -/
theorem canEnter_cases (h : s.canEnter next) :
    ∃ n, s.rank? = some n ∧ (next.rank? = some (n + 1) ∨ n < 4 ∧ ∃ stage reason, next = .rejected stage reason) := by
  unfold canEnter at h
  split at h
  · next n m hs hnext => exact ⟨n, hs, .inl (by rw [hnext, eq_of_beq h])⟩
  · next n hs hnext =>
    refine ⟨n, hs, .inr ⟨of_decide_eq_true h, ?_⟩⟩
    cases next with
    | rejected stage reason => exact ⟨stage, reason, rfl⟩
    | _ => cases hnext
  · cases h

/-- Nobody leaves a final state. -/
theorem IsFinal.canEnter_eq_false (h : s.IsFinal) (next : Lifecycle) : s.canEnter next = false := by
  rcases h with rfl | h
  · cases next <;> rfl
  · cases s with
    | rejected stage reason => rfl
    | _ => cases h

/-- How many of the path's states there are is told by the last of them. -/
theorem eq_take_of_getLast? (h : states <+: path) (hlast : states.getLast? = some s) (hs : s.rank? = some n) :
    states = path.take (n + 1) := by
  have htake := List.prefix_iff_eq_take.1 h
  have hpos : 0 < states.length := List.length_pos_iff.2 (by rintro rfl; cases hlast)
  rw [List.getLast?_eq_getElem?, htake, List.getElem?_take, if_pos (by rw [← htake]; omega), ← htake] at hlast
  have hn := Option.some.inj ((path_getElem?_iff.1 hlast).symm.trans hs)
  rwa [show states.length = n + 1 by omega] at htake

/-- **A legal step keeps the course**: to the next state of the path, or to a rejection while there is something left
to come. -/
theorem IsCourse.concat (h : IsCourse states) (hlast : states.getLast? = some s) (hstep : s.canEnter next) :
    IsCourse (states ++ [next]) := by
  obtain ⟨n, hs, hnext⟩ := canEnter_cases hstep
  rcases h with hprefix | ⟨front, stage, reason, rfl, -⟩
  · have htake := eq_take_of_getLast? hprefix hlast hs
    rcases hnext with hnext | ⟨hn, stage, reason, rfl⟩
    · have hgrown : states ++ [next] = path.take (n + 1 + 1) := by
        rw [List.take_add_one, path_getElem?_iff.2 hnext, ← htake]
        rfl
      exact .inl (hgrown ▸ List.take_prefix ..)
    · refine .inr ⟨states, stage, reason, rfl, ?_, hprefix, fun hmem => ?_⟩
      · rintro rfl
        cases hlast
      · -- The place of `runnable` on the path is the fourth.
        rw [htake] at hmem
        obtain ⟨i, hi⟩ := List.mem_iff_getElem?.1 hmem
        rw [List.getElem?_take] at hi
        split_ifs at hi with hlt
        have hfour := Option.some.inj (path_getElem?_iff.1 hi)
        omega
  · rw [List.getLast?_concat] at hlast
    obtain rfl := Option.some.inj hlast
    cases hs

/-- Who is runnable has come all the way. -/
theorem IsCourse.eq_path (h : IsCourse states) (hlast : states.getLast? = some .runnable) : states = path := by
  rcases h with hprefix | ⟨front, stage, reason, rfl, -⟩
  · exact eq_take_of_getLast? hprefix hlast rfl
  · rw [List.getLast?_concat] at hlast
    cases hlast

end Lifecycle

namespace Handle

/-- Something that happens to a handle. -/
inductive Deed where
  /-- The plugin enters a state, or is rejected. -/
  | moved (next : Lifecycle)
  | refused (next : Lifecycle)
  | errorSet (message : String)
  /-- The code tends its memory. -/
  | tended
  | begun
  | ended (fault? : Option PluginError)
  /-- The code runs already and is not called. -/
  | turnedAway
deriving DecidableEq, Repr

namespace Deed

/-- The state that is entered. -/
def state? : Deed → Option Lifecycle
  | moved next => some next
  | _ => none

/-- The message that becomes the text of the last failure. -/
def message? : Deed → Option String
  | moved (.rejected _ reason) => some reason
  | errorSet message => some message
  | ended (some fault) => some fault.message
  | _ => none

/-- Whether the code runs afterwards. -/
def busy? : Deed → Option Bool
  | begun => some true
  | ended _ => some false
  | _ => none

end Deed

/-- A deed, and the handle before and after it. -/
structure Moment where
  before : Handle
  deed : Deed
  after : Handle

/-- What may be done with a handle at any time, also by the code that is called.  The code is given by what it does, one
after the other, and how it ends. -/
inductive Use where
  | transition (next : Lifecycle)
  | reject (stage : BringUpStage) (reason : String)
  | setError (message : String)
  | tend (memory : Dict)
  | tryInvoke (code : List Use) (ending : Except Halt Unit)

/-- What may be done with a handle from outside.  Code that waits for its own call to end would wait for ever. -/
inductive Operation where
  | use (u : Use)
  | invoke (code : List Use) (ending : Except Halt Unit)

/-- One moment, and the handle after it. -/
def moment (before : Handle) (deed : Deed) (after : Handle) : List Moment × Handle := ([⟨before, deed, after⟩], after)

/-- A step in the lifecycle that is asked for, by its answer. -/
def asked (before : Handle) (next : Lifecycle) : Except LifecycleError Unit × Handle → List Moment × Handle
  | (.ok _, after) => moment before (.moved next) after
  | (.error _, after) => moment before (.refused next) after

/-- A call, by what the code does and what the caller gets. -/
def called (before : Handle) (inside : List Moment × Handle) :
    Except PluginError Unit × Handle → List Moment × Handle
  | (reply, after) =>
    (⟨before, .begun, before.enter⟩ :: inside.1 ++ [⟨inside.2, .ended (Roster.fault? reply), after⟩], after)

mutual

/-- The moments of a use, and the handle afterwards. -/
def Use.perform : Use → Handle → List Moment × Handle
  | .transition next, h => asked h next (h.transition next)
  | .reject stage reason, h => asked h (.rejected stage reason) (h.reject stage reason)
  | .setError message, h => moment h (.errorSet message) (h.setError message)
  | .tend memory, h => moment h .tended { h with memory }
  | .tryInvoke code ending, h =>
    match h.tryInvoke fun h => (ending, (performAll code h).2) with
    | (none, after) => moment h .turnedAway after
    | (some reply, after) => called h (performAll code h.enter) (reply, after)

/-- The moments of some uses, one after the other. -/
def performAll : List Use → Handle → List Moment × Handle
  | [], h => ([], h)
  | u :: uses, h =>
    let (moments, h) := u.perform h
    let (later, h) := performAll uses h
    (moments ++ later, h)

end

/-- The moments of an operation. -/
def Operation.perform : Operation → Handle → List Moment × Handle
  | .use u, h => u.perform h
  | .invoke code ending, h =>
    called h (performAll code h.enter) (h.invoke fun h => (ending, (performAll code h).2))

/-- The moments of a history. -/
def history : List Operation → Handle → List Moment × Handle
  | [], h => ([], h)
  | op :: ops, h =>
    let (moments, h) := op.perform h
    let (later, h) := history ops h
    (moments ++ later, h)

/-! ### What one deed does -/

/-- When a deed happens, and what it does. -/
structure Moment.Sound (m : Moment) : Prop where
  state : m.after.state = m.deed.state?.getD m.before.state
  error : m.after.error = m.deed.message?.or m.before.error
  busy : m.after.isBusy = m.deed.busy?.getD m.before.isBusy
  moved : ∀ next, m.deed = .moved next → m.before.state.canEnter next
  refused : ∀ next, m.deed = .refused next → m.before.state.canEnter next = false ∧ m.after = m.before
  begun : m.deed = .begun → m.before.isBusy = false
  turnedAway : m.deed = .turnedAway → m.before.isBusy = true ∧ m.after = m.before

/-- Moments follow each other, from one handle to another. -/
def Leads : Handle → List Moment → Handle → Prop
  | h, [], h' => h' = h
  | h, m :: moments, h' => m.before = h ∧ m.Sound ∧ Leads m.after moments h'

variable {h h' h'' : Handle} {moments later : List Moment}

/-- Moments follow each other across two rows, if the second begins where the first ends. -/
theorem Leads.append (hfirst : Leads h moments h') (hlater : Leads h' later h'') : Leads h (moments ++ later) h'' := by
  induction moments generalizing h with
  | nil => exact (show h' = h from hfirst) ▸ hlater
  | cons m moments ih =>
    obtain ⟨hbefore, hsound, hrest⟩ := hfirst
    exact ⟨hbefore, hsound, ih hrest⟩

/-- One sound moment is a row. -/
theorem leads_moment {deed : Deed} (hsound : Moment.Sound ⟨h, deed, h'⟩) :
    Leads h (moment h deed h').1 (moment h deed h').2 :=
  ⟨rfl, hsound, rfl⟩

/-- A row of moments leads on, and calls that begin in it end in it. -/
def Passes (h : Handle) (row : List Moment × Handle) : Prop := Leads h row.1 row.2 ∧ row.2.isBusy = h.isBusy

/-- A step that is asked for is taken if it is legal, and else refused without a change; either way it is one sound
moment. -/
theorem passes_asked (h : Handle) (next : Lifecycle) : Passes h (asked h next (h.transition next)) := by
  unfold transition
  split_ifs with hcan
  · have hmoved : ∀ next', Deed.moved next = .moved next' → h.state.canEnter next' = true := by
      rintro _ ⟨⟩
      exact hcan
    cases next <;> exact ⟨leads_moment ⟨rfl, rfl, rfl, hmoved, nofun, nofun, nofun⟩, rfl⟩
  · refine ⟨leads_moment ⟨rfl, rfl, rfl, nofun, ?_, nofun, nofun⟩, rfl⟩
    rintro _ ⟨⟩
    exact ⟨Bool.eq_false_iff.2 hcan, rfl⟩

/-- A call of code that is not running. -/
theorem passes_called (hidle : h.isBusy = false) {inside : List Moment × Handle} (hinside : Passes h.enter inside)
    (ending : Except Halt Unit) : Passes h (called h inside (inside.2.leave ending)) := by
  have hbegun : Moment.Sound ⟨h, .begun, h.enter⟩ := ⟨rfl, rfl, rfl, nofun, nofun, fun _ => hidle, nofun⟩
  have hended : Moment.Sound
      ⟨inside.2, .ended (Roster.fault? (inside.2.leave ending).1), (inside.2.leave ending).2⟩ := by
    cases ending <;> exact ⟨rfl, rfl, rfl, nofun, nofun, nofun, nofun⟩
  refine ⟨⟨rfl, hbegun, hinside.1.append ⟨rfl, hended, rfl⟩⟩, ?_⟩
  rw [hidle]
  cases ending <;> rfl

mutual

/-- **Whatever is done with a handle passes in sound moments**, and so does what the called code does: the induction
goes into the code of a call. -/
theorem Use.passes : ∀ (u : Use) (h : Handle), Passes h (u.perform h)
  | .transition next, h => passes_asked h next
  | .reject stage reason, h => passes_asked h (.rejected stage reason)
  | .setError message, h => ⟨leads_moment ⟨rfl, rfl, rfl, nofun, nofun, nofun, nofun⟩, rfl⟩
  | .tend memory, h => ⟨leads_moment ⟨rfl, rfl, rfl, nofun, nofun, nofun, nofun⟩, rfl⟩
  | .tryInvoke code ending, h => by
    rw [Use.perform, tryInvoke]
    split_ifs with hbusy
    · exact ⟨leads_moment ⟨rfl, rfl, rfl, nofun, nofun, nofun, fun _ => ⟨hbusy, rfl⟩⟩, rfl⟩
    · exact passes_called (Bool.eq_false_iff.2 hbusy) (passes_performAll code h.enter) ending

/-- So does a row of uses. -/
theorem passes_performAll : ∀ (uses : List Use) (h : Handle), Passes h (performAll uses h)
  | [], h => ⟨rfl, rfl⟩
  | u :: uses, h => by
    have hfirst := u.passes h
    have hlater := passes_performAll uses (u.perform h).2
    exact ⟨hfirst.1.append hlater.1, hlater.2.trans hfirst.2⟩

end

/-- An operation from outside passes in sound moments if no code runs when it begins. -/
theorem Operation.passes (hidle : h.isBusy = false) (op : Operation) : Passes h (op.perform h) := by
  cases op with
  | use u => exact u.passes h
  | invoke code ending => exact passes_called hidle (passes_performAll code h.enter) ending

/-- **The moments of a history follow each other**, and in the end no code runs.  Code may use its own plugin while it
runs, and those moments stand between its beginning and its end. -/
theorem passes_history (hidle : h.isBusy = false) (ops : List Operation) : Passes h (history ops h) := by
  induction ops generalizing h with
  | nil => exact ⟨rfl, rfl⟩
  | cons op ops ih =>
    have hfirst := op.passes hidle
    have hlater := ih (hfirst.2.trans hidle)
    exact ⟨hfirst.1.append hlater.1, hlater.2.trans hfirst.2⟩

/-! ### What the deeds tell -/

/-- The states that a handle has been in. -/
def visited (past : List Deed) : List Lifecycle := .loaded :: past.filterMap Deed.state?

/-- What the deeds so far tell of a handle: its state is the last one entered, its failure the last one reported, its
code runs if a call has begun last, and its states are a course. -/
structure Recorded (past : List Deed) (h : Handle) : Prop where
  state : (visited past).getLast? = some h.state
  error : h.error = (past.filterMap Deed.message?).getLast?
  busy : h.isBusy = (past.filterMap Deed.busy?).getLast?.getD false
  course : Lifecycle.IsCourse (visited past)

variable {past : List Deed} {m : Moment}

/-- One deed more is at most one state more. -/
theorem visited_concat (past : List Deed) (deed : Deed) :
    visited (past ++ [deed]) = visited past ++ deed.state?.toList := by
  rw [visited, visited, List.filterMap_append, List.cons_append]
  cases deed <;> rfl

/-- What was told last is told by the last deed, or else by those before it. -/
theorem getLast?_filterMap_concat {α : Type} (f : Deed → Option α) (past : List Deed) (deed : Deed) :
    ((past ++ [deed]).filterMap f).getLast? = (f deed).or (past.filterMap f).getLast? := by
  rw [List.filterMap_append, List.getLast?_append]
  cases hf : f deed with
  | none => rw [List.filterMap_cons_none hf]; rfl
  | some a => rw [List.filterMap_cons_some hf]; rfl

/-- Of a new handle no deeds have told anything: it is loaded, without failure, and idle. -/
theorem recorded_ofPlugin (plugin : Plugin) : Recorded [] (ofPlugin plugin) :=
  ⟨rfl, rfl, rfl, .inl (by decide)⟩

/-- **One deed more**: what it does to the handle is what it tells.  The state, the last failure and the course of
states are each told by the deeds alone. -/
theorem Recorded.next (h : Recorded past m.before) (hm : m.Sound) : Recorded (past ++ [m.deed]) m.after := by
  constructor
  case state =>
    rw [visited_concat, hm.state, List.getLast?_append, h.state]
    cases m.deed.state? <;> rfl
  case error => rw [hm.error, getLast?_filterMap_concat, h.error]
  case busy =>
    rw [hm.busy, getLast?_filterMap_concat, h.busy]
    cases m.deed.busy? <;> rfl
  case course =>
    rw [visited_concat]
    cases hdeed : m.deed with
    | moved next => exact h.course.concat h.state (hm.moved next hdeed)
    | _ => exact (List.append_nil _).symm ▸ h.course

/-- **At each moment the deeds so far tell what has become of the handle**, by induction over the moments.  This
includes the moments in the middle of a call. -/
theorem Recorded.of_leads (h₀ : Recorded past h) (hleads : Leads h moments h') {before after : List Moment}
    (hcut : moments = before ++ m :: after) : Recorded (past ++ (before ++ [m]).map Moment.deed) m.after := by
  induction before generalizing past h moments with
  | nil =>
    obtain rfl := hcut
    obtain ⟨rfl, hsound, -⟩ := hleads
    exact h₀.next hsound
  | cons first before ih =>
    obtain rfl := hcut
    obtain ⟨rfl, hsound, hrest⟩ := hleads
    rw [List.cons_append, List.map_cons, List.append_cons]
    exact ih (h₀.next hsound) hrest rfl

/-- Nobody leaves a final state. -/
theorem Leads.state_eq (hleads : Leads h moments h') (hfinal : h.state.IsFinal) :
    ∀ m ∈ moments, m.after.state = h.state := by
  induction moments generalizing h with
  | nil => exact fun _ hm => absurd hm List.not_mem_nil
  | cons m moments ih =>
    obtain ⟨rfl, hsound, hrest⟩ := hleads
    have hstays : m.after.state = m.before.state := by
      rw [hsound.state]
      cases hdeed : m.deed with
      | moved next => exact absurd (hsound.moved next hdeed) (Bool.eq_false_iff.1 (hfinal.canEnter_eq_false next))
      | _ => rfl
    refine List.forall_mem_cons.2 ⟨hstays, fun m' hm' => ?_⟩
    exact (ih hrest (hstays ▸ hfinal) m' hm').trans hstays

/-- So whatever comes after a final state is in that state. -/
theorem Leads.pairwise (hleads : Leads h moments h') :
    moments.Pairwise fun m m' => m.after.state.IsFinal → m'.after.state = m.after.state := by
  induction moments generalizing h with
  | nil => exact .nil
  | cons m moments ih =>
    obtain ⟨-, -, hrest⟩ := hleads
    exact .cons (fun m' hm' hfinal => hrest.state_eq hfinal m' hm') (ih hrest)

/-- **The life of a handle.**  Whatever is done with a new handle, also by the code that is called, its moments follow
each other, and each deed does what it should: only legal steps are taken, and a step that is refused changes nothing.
At each moment, be it in the middle of a call, the handle is as the deeds so far tell: its states are a course, and its
failure is the last one reported.  Who is runnable has gone through all states in order, and a final state is never
left.  Code that runs already is not called again. -/
theorem history_recorded (plugin : Plugin) (ops : List Operation) :
    let row := history ops (ofPlugin plugin)
    Leads (ofPlugin plugin) row.1 row.2 ∧
      (∀ before m after, row.1 = before ++ m :: after →
        let past := (before ++ [m]).map Moment.deed
        Recorded past m.after ∧
          (m.after.state = .runnable →
            past.filterMap Deed.state? = [.postLoaded, .depsChecked, .depsFinalized, .runnable])) ∧
      (row.1.Pairwise fun m m' => m.after.state.IsFinal → m'.after.state = m.after.state) ∧
      ∀ (α : Type) (h : Handle) (call : Handle → Except Halt α × Handle), h.isBusy → h.tryInvoke call = (none, h) := by
  intro row
  have hleads : Leads (ofPlugin plugin) row.1 row.2 := (passes_history rfl ops).1
  refine ⟨hleads, fun before m after hcut => ?_, hleads.pairwise, fun α h call hbusy => if_pos hbusy⟩
  have hrecorded := (recorded_ofPlugin plugin).of_leads hleads hcut
  rw [List.nil_append] at hrecorded
  refine ⟨hrecorded, fun hrunnable => ?_⟩
  have hpath := hrecorded.course.eq_path (hrunnable ▸ hrecorded.state)
  exact (List.cons.inj hpath).2

/-- Code that asks for its own plugin, moves it on and panics; later steps that leave out a phase or come too late. -/
def restless : List Operation :=
  [.use (.transition .postLoaded),
    .invoke [.tryInvoke [] (.ok ()), .setError "warm", .transition .depsChecked] (.error .panicked),
    .use (.transition .runnable), .use (.transition .depsFinalized), .use (.transition .runnable),
    .use (.reject .checkDeps "late")]

/-- A lamp with such code becomes runnable and stays so, and what is left of its failures is the panic. -/
theorem restless_recorded :
    let lamp := ofPlugin { name := "Lamp" }
    ∃ before m, (history restless lamp).1 = before ++ [m] ∧ m.deed = .refused (.rejected .checkDeps "late") ∧
      m.after.state = .runnable ∧ m.after.error = some "Plugin panicked" ∧
      ((before ++ [m]).map Moment.deed).filterMap Deed.state? =
        [.postLoaded, .depsChecked, .depsFinalized, .runnable] ∧
      lamp.enter.isBusy ∧ lamp.enter.tryInvoke (fun h => (.ok (), h)) = (none, lamp.enter) := by
  intro lamp
  let moments := (history restless lamp).1
  have hne : moments ≠ [] := List.cons_ne_nil _ _
  have hcut : moments = moments.dropLast ++ [moments.getLast hne] := (List.dropLast_append_getLast hne).symm
  obtain ⟨-, hmoments, -, hbusy⟩ := history_recorded { name := "Lamp" } restless
  obtain ⟨hrecorded, hpath⟩ := hmoments _ _ [] hcut
  have hrunnable : (moments.getLast hne).after.state = .runnable := rfl
  refine ⟨_, _, hcut, rfl, hrunnable, hrecorded.error.trans ?_, hpath hrunnable, rfl, hbusy _ _ _ rfl⟩
  rw [← hcut]
  rfl

end Handle
end Calibration
