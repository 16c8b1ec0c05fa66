/-
# The course of a plugin

The journal tells of every call of a plugin's code, of its end, and of every step in the plugin's lifecycle.  A
`Course` is how far a plugin has come by these events: which phase it is ready for, or what has become of the call of
a phase, or where it has ended.  `Course.next` says which event may follow; any other one is out of order.

A journal in order has a past that can be told from the course alone (`past_of_follow`): which phases were called,
which of them ended well, and that there was no rejection unless it was the end.  From this comes what the journal
says about each single call in it (`disciplined_of_course`).
-/

import Calibration.Roster
import Mathlib.Data.List.Induction
import Mathlib.Tactic.SplitIfs

namespace Calibration

namespace BringUpStage

/-- The phases before a phase. -/
def earlier : BringUpStage → List BringUpStage
  | postLoad => []
  | checkDeps => [postLoad]
  | postCheckDeps => [postLoad, checkDeps]

/-- All phases, in order. -/
def all : List BringUpStage := [postLoad, checkDeps, postCheckDeps]

/-- The state that a plugin is in before a phase. -/
def entry : BringUpStage → Lifecycle
  | postLoad => .loaded
  | checkDeps => .postLoaded
  | postCheckDeps => .depsChecked

/-- The phases up to one of them are the first of all. -/
theorem earlier_append_prefix_all (stage : BringUpStage) : stage.earlier ++ [stage] <+: all := by
  cases stage <;> decide

/-- Every phase is one of all. -/
theorem mem_all (stage : BringUpStage) : stage ∈ all := by
  cases stage <;> decide

end BringUpStage

/-- The entry point is a phase of bring-up. -/
def Step.isBringUp : Step → Bool
  | .bringUp _ => true
  | _ => false

namespace Event

/-- The event is about the plugin at a place. -/
def concerns (i : Nat) : Event → Bool
  | .called k _ | .returned k _ _ | .moved k _ => k = i
  | .noted _ => false

/-- The phase of bring-up in which the plugin at a place is called. -/
def bringUpCall? (i : Nat) : Event → Option BringUpStage
  | .called k (.bringUp stage) => if k = i then some stage else none
  | _ => none

/-- The state of the plugin at a place once the event has happened. -/
def standing (i : Nat) (state : Lifecycle) : Event → Lifecycle
  | .moved k next => if k = i then next else state
  | _ => state

end Event

/-- How far a plugin has come. -/
inductive Course where
  /-- The next phase may begin. -/
  | ready (stage : BringUpStage)
  | called (stage : BringUpStage)
  | passed (stage : BringUpStage)
  | failed (stage : BringUpStage) (message : String)
  | finalized
  | runnable
  | rejected (stage : BringUpStage) (reason : String)
deriving DecidableEq, Repr

namespace Course

/-- The state that the plugin is in. -/
def state : Course → Lifecycle
  | ready stage | called stage | passed stage | failed stage _ => stage.entry
  | finalized => .depsFinalized
  | runnable => .runnable
  | rejected stage reason => .rejected stage reason

/-- The phases that were called. -/
def calls : Course → List BringUpStage
  | ready stage => stage.earlier
  | called stage | passed stage | failed stage _ | rejected stage _ => stage.earlier ++ [stage]
  | finalized | runnable => BringUpStage.all

/-- The phases that are known to have ended well. -/
def successes : Course → List BringUpStage
  | ready stage | called stage | failed stage _ => stage.earlier
  | passed stage => stage.earlier ++ [stage]
  | finalized | runnable => BringUpStage.all
  | rejected .. => []

/-- A call begins: of the phase that the plugin is ready for, or of a plugin that is runnable. -/
def call (σ : Course) (step : Step) : Option Course :=
  match σ, step with
  | ready stage, .bringUp stage' => if stage = stage' then some (called stage) else none
  | runnable, .bringUp _ => none
  | runnable, _ => some runnable
  | _, _ => none

/-- A call ends. -/
def leave (σ : Course) (step : Step) (fault? : Option PluginError) : Option Course :=
  match σ, step with
  | called stage, .bringUp stage' =>
    if stage = stage' then
      match fault? with
      | none => some (passed stage)
      | some e => some (failed stage e.message)
    else none
  | runnable, .bringUp _ => none
  | runnable, _ => some runnable
  | _, _ => none

/-- The plugin takes a step in its lifecycle: it enters the next phase after a call that ended well, becomes runnable
in the end, or is rejected, for the fault of a call or because others were rejected. -/
def move (σ : Course) (next : Lifecycle) : Option Course :=
  match σ, next with
  | passed .postLoad, .postLoaded => some (ready .checkDeps)
  | passed .checkDeps, .depsChecked => some (ready .postCheckDeps)
  | passed .postCheckDeps, .depsFinalized => some finalized
  | finalized, .runnable => some runnable
  | failed stage message, .rejected stage' reason =>
    if stage = stage' ∧ message = reason then some (rejected stage reason) else none
  | passed .checkDeps, .rejected .checkDeps reason => some (rejected .checkDeps reason)
  | finalized, .rejected .postCheckDeps reason => some (rejected .postCheckDeps reason)
  | _, _ => none

/-- The course of the plugin at a place after one more event, if that event is in order. -/
def next (i : Nat) (σ : Course) : Event → Option Course
  | .called k step => if k = i then σ.call step else some σ
  | .returned k step fault? => if k = i then σ.leave step fault? else some σ
  | .moved k state => if k = i then σ.move state else some σ
  | .noted _ => some σ

/-- The course after some events, if they are in order. -/
def follow (i : Nat) (σ? : Option Course) (events : List Event) : Option Course :=
  events.foldl (fun σ? e => σ?.bind (next i · e)) σ?

variable {i : Nat} {σ τ : Course} {step : Step} {e : Event} {events before after : List Event}

/-- A plugin that is ready for a phase is called in it. -/
theorem call_ready (stage : BringUpStage) : (ready stage).call (.bringUp stage) = some (called stage) := if_pos rfl

/-- A call that ends well has passed its phase. -/
theorem leave_called_none (stage : BringUpStage) : (called stage).leave (.bringUp stage) none = some (passed stage) :=
  if_pos rfl

/-- A call that fails is a failure of its phase, with the message. -/
theorem leave_called_some (stage : BringUpStage) (e : PluginError) :
    (called stage).leave (.bringUp stage) (some e) = some (failed stage e.message) :=
  if_pos rfl

/-- A runnable plugin is called outside of bring-up, as often as anybody likes. -/
theorem call_runnable (h : step.isBringUp = false) : runnable.call step = some runnable := by
  cases step with
  | bringUp stage => exact nomatch h
  | _ => rfl

/-- However such a call ends, the plugin stays runnable. -/
theorem leave_runnable (h : step.isBringUp = false) (fault? : Option PluginError) :
    runnable.leave step fault? = some runnable := by
  cases step with
  | bringUp stage => exact nomatch h
  | _ => rfl

/-- **When a call is in order**: in the phase that the plugin is ready for, or outside of bring-up once it is
runnable. -/
theorem call_eq_some (h : σ.call step = some τ) :
    (∃ stage, σ = ready stage ∧ step = .bringUp stage ∧ τ = called stage) ∨
      (σ = runnable ∧ step.isBringUp = false ∧ τ = runnable) := by
  unfold call at h
  split at h
  case h_1 stage stage' =>
    split_ifs at h with hs
    exact .inl ⟨stage, rfl, hs ▸ rfl, (Option.some.inj h).symm⟩
  case h_2 => exact nomatch h
  case h_3 hstep =>
    refine .inr ⟨rfl, ?_, (Option.some.inj h).symm⟩
    cases step with
    | bringUp stage => exact absurd rfl (hstep stage)
    | _ => rfl
  case h_4 => exact nomatch h

/-- **When the end of a call is in order**: it is the end of the call that the plugin is in.  In bring-up the outcome
decides how the course goes on, while in a chain it does not matter. -/
theorem leave_eq_some {fault? : Option PluginError} (h : σ.leave step fault? = some τ) :
    (∃ stage, σ = called stage ∧ step = .bringUp stage ∧
        ((fault? = none ∧ τ = passed stage) ∨ ∃ message, fault?.isSome ∧ τ = failed stage message)) ∨
      (σ = runnable ∧ step.isBringUp = false ∧ τ = runnable) := by
  unfold leave at h
  split at h
  case h_1 stage stage' =>
    split_ifs at h with hs
    refine .inl ⟨stage, rfl, hs ▸ rfl, ?_⟩
    cases fault? with
    | none => exact .inl ⟨rfl, (Option.some.inj h).symm⟩
    | some e => exact .inr ⟨e.message, rfl, (Option.some.inj h).symm⟩
  case h_2 => exact nomatch h
  case h_3 hstep =>
    refine .inr ⟨rfl, ?_, (Option.some.inj h).symm⟩
    cases step with
    | bringUp stage => exact absurd rfl (hstep stage)
    | _ => rfl
  case h_4 => exact nomatch h

/-- **When a step of the lifecycle is in order**: it leads to its state, calls nobody, and ends with no more successes
than before. -/
theorem move_eq_some {next : Lifecycle} (h : σ.move next = some τ) :
    τ.state = next ∧ σ.state.isRejected = false ∧ τ.calls = σ.calls ∧ ∀ stage ∈ τ.successes, stage ∈ σ.successes := by
  unfold move at h
  split at h
  case h_5 stage message stage' reason =>
    split_ifs at h with hs
    obtain ⟨rfl, rfl⟩ := hs
    obtain rfl := Option.some.inj h
    refine ⟨rfl, ?_, rfl, nofun⟩
    cases stage <;> rfl
  case h_8 => exact nomatch h
  all_goals
    obtain rfl := Option.some.inj h
    refine ⟨rfl, rfl, rfl, ?_⟩
    simp [successes, BringUpStage.earlier, BringUpStage.all]

/-! ### Journals in order -/

/-- A journal is followed event by event. -/
theorem follow_append (i : Nat) (σ? : Option Course) (before after : List Event) :
    follow i σ? (before ++ after) = follow i (follow i σ? before) after :=
  List.foldl_append

/-- What is out of order stays so. -/
theorem follow_none (i : Nat) (events : List Event) : follow i none events = none := by
  induction events with
  | nil => rfl
  | cons e events ih => exact ih

/-- Where a journal in order is cut, the first part is in order. -/
theorem exists_follow_of_append {σ? : Option Course} (h : follow i σ? (before ++ after) = some τ) :
    ∃ σ, follow i σ? before = some σ ∧ follow i (some σ) after = some τ := by
  rw [follow_append] at h
  cases hbefore : follow i σ? before with
  | none =>
    rw [hbefore, follow_none] at h
    exact nomatch h
  | some σ => exact ⟨σ, rfl, hbefore ▸ h⟩

/-- An event about others leaves the course alone. -/
theorem next_of_not_concerns (h : e.concerns i = false) (σ : Course) : σ.next i e = some σ := by
  cases e with
  | noted line => rfl
  | _ => exact if_neg (of_decide_eq_false h)

/-- Nothing happens to a rejected plugin. -/
theorem next_rejected {stage : BringUpStage} {reason : String} (h : (rejected stage reason).next i e = some τ) :
    e.concerns i = false ∧ τ = rejected stage reason := by
  cases hc : e.concerns i with
  | false =>
    rw [next_of_not_concerns hc] at h
    exact ⟨rfl, (Option.some.inj h).symm⟩
  | true =>
    exfalso
    cases e with
    | called k step =>
      rw [next, if_pos (of_decide_eq_true hc)] at h
      rcases call_eq_some h with ⟨_, hσ, -⟩ | ⟨hσ, -⟩ <;> exact nomatch hσ
    | returned k step fault? =>
      rw [next, if_pos (of_decide_eq_true hc)] at h
      rcases leave_eq_some h with ⟨_, hσ, -⟩ | ⟨hσ, -⟩ <;> exact nomatch hσ
    | moved k state =>
      rw [next, if_pos (of_decide_eq_true hc)] at h
      exact nomatch (move_eq_some h).2.1
    | noted line => exact nomatch hc

/-- So a journal in order tells nothing more of a plugin once it is rejected. -/
theorem follow_rejected {stage : BringUpStage} {reason : String}
    (h : follow i (some (rejected stage reason)) events = some τ) :
    (∀ e ∈ events, e.concerns i = false) ∧ τ = rejected stage reason := by
  induction events with
  | nil => exact ⟨nofun, (Option.some.inj h).symm⟩
  | cons e events ih =>
    cases hnext : (rejected stage reason).next i e with
    | none =>
      change follow i ((rejected stage reason).next i e) events = some τ at h
      rw [hnext, follow_none] at h
      exact nomatch h
    | some σ =>
      change follow i ((rejected stage reason).next i e) events = some τ at h
      obtain ⟨hc, rfl⟩ := next_rejected hnext
      rw [hnext] at h
      exact ⟨List.forall_mem_cons.2 ⟨hc, (ih h).1⟩, (ih h).2⟩

/-- What a journal tells of the plugin at a place, once it has brought it to a course. -/
structure Past (i : Nat) (events : List Event) (σ : Course) : Prop where
  state : events.foldl (Event.standing i) .loaded = σ.state
  calls : events.filterMap (Event.bringUpCall? i) = σ.calls
  successes : ∀ stage ∈ σ.successes, .returned i (.bringUp stage) none ∈ events
  rejected : ∀ stage reason, .moved i (.rejected stage reason) ∈ events → σ.state = .rejected stage reason

namespace Past

/-- One more event, told by what it adds. -/
theorem extend (h : Past i events σ) (hstate : Event.standing i σ.state e = τ.state)
    (hcalls : τ.calls = σ.calls ++ (Event.bringUpCall? i e).toList)
    (hsuccesses : ∀ stage ∈ τ.successes, stage ∈ σ.successes ∨ e = .returned i (.bringUp stage) none)
    (hrejected : ∀ stage reason, σ.state = .rejected stage reason ∨ e = .moved i (.rejected stage reason) →
      τ.state = .rejected stage reason) : Past i (events ++ [e]) τ := by
  constructor
  case state =>
    rw [List.foldl_append, h.state]
    exact hstate
  case calls =>
    rw [List.filterMap_append, h.calls, hcalls]
    cases hcall : Event.bringUpCall? i e with
    | none => rw [List.filterMap_cons_none hcall]; rfl
    | some stage => rw [List.filterMap_cons_some hcall]; rfl
  case successes =>
    intro stage hs
    rcases hsuccesses stage hs with hs | rfl
    · exact List.mem_append_left _ (h.successes stage hs)
    · exact List.mem_append_right _ (List.mem_singleton_self _)
  case rejected =>
    intro stage reason hmem
    rcases List.mem_append.1 hmem with hmem | hmem
    · exact hrejected stage reason (.inl (h.rejected stage reason hmem))
    · exact hrejected stage reason (.inr (List.mem_singleton.1 hmem).symm)

/-- An event that is no step in the lifecycle of the plugin. -/
theorem still (h : Past i events σ) (he : ∀ next, e ≠ .moved i next) (hstate : τ.state = σ.state)
    (hcalls : τ.calls = σ.calls ++ (Event.bringUpCall? i e).toList)
    (hsuccesses : ∀ stage ∈ τ.successes, stage ∈ σ.successes ∨ e = .returned i (.bringUp stage) none) :
    Past i (events ++ [e]) τ := by
  refine h.extend ?_ hcalls hsuccesses ?_
  · rw [hstate]
    cases e with
    | moved k next => exact if_neg fun hk => he next (by rw [hk])
    | _ => rfl
  · rintro stage reason (hs | hs)
    · exact hstate.trans hs
    · exact absurd hs (he _)

/-- An event about others adds nothing to the past of the plugin. -/
theorem other (h : Past i events σ) (hc : e.concerns i = false) : Past i (events ++ [e]) σ := by
  refine h.still ?_ rfl ?_ fun _ hs => .inl hs
  · rintro next rfl
    simp [Event.concerns] at hc
  · have hcall : Event.bringUpCall? i e = none := by
      unfold Event.bringUpCall?
      split
      · exact if_neg (of_decide_eq_false hc)
      · rfl
    simp [hcall]

/-- The begin of a call is one more phase that was called, or no phase. -/
theorem call (h : Past i events σ) (hcall : σ.call step = some τ) : Past i (events ++ [.called i step]) τ := by
  rcases call_eq_some hcall with ⟨stage, rfl, rfl, rfl⟩ | ⟨rfl, hstep, rfl⟩
  · refine h.still (by simp) rfl ?_ fun _ hs => .inl hs
    rw [Event.bringUpCall?, if_pos rfl]
    rfl
  · refine h.still (by simp) rfl ?_ fun _ hs => .inl hs
    cases step with
    | bringUp stage => exact nomatch hstep
    | _ => rfl

/-- The end of a call is one more success, if it ended well. -/
theorem leave (h : Past i events σ) {fault? : Option PluginError} (hleave : σ.leave step fault? = some τ) :
    Past i (events ++ [.returned i step fault?]) τ := by
  rcases leave_eq_some hleave with ⟨stage, rfl, rfl, ⟨rfl, rfl⟩ | ⟨message, -, rfl⟩⟩ | ⟨rfl, -, rfl⟩
  · refine h.still (by simp) rfl (List.append_nil _).symm ?_
    intro s hs
    rcases List.mem_append.1 hs with hs | hs
    · exact .inl hs
    · rw [List.mem_singleton.1 hs]
      exact .inr rfl
  · exact h.still (by simp) rfl (List.append_nil _).symm fun _ hs => .inl hs
  · exact h.still (by simp) rfl (List.append_nil _).symm fun _ hs => .inl hs

/-- A step of the lifecycle changes neither calls nor successes, and its state is the one that the plugin is in. -/
theorem move (h : Past i events σ) {next : Lifecycle} (hmove : σ.move next = some τ) :
    Past i (events ++ [.moved i next]) τ := by
  obtain ⟨rfl, hlive, hcalls, hsuccesses⟩ := move_eq_some hmove
  refine h.extend (if_pos rfl) (hcalls.trans (List.append_nil _).symm) (fun s hs => .inl (hsuccesses s hs)) ?_
  rintro stage reason (hs | hs)
  · simp [hs, Lifecycle.isRejected] at hlive
  · exact (Event.moved.inj hs).2

/-- **What an event in order adds to the past**, case by case over the events.  Each of them leaves a state whose past
is known. -/
theorem next (h : Past i events σ) (he : σ.next i e = some τ) : Past i (events ++ [e]) τ := by
  cases hc : e.concerns i with
  | false =>
    rw [next_of_not_concerns hc] at he
    exact Option.some.inj he ▸ h.other hc
  | true =>
    cases e with
    | called k step =>
      obtain rfl : k = i := of_decide_eq_true hc
      rw [Course.next, if_pos rfl] at he
      exact h.call he
    | returned k step fault? =>
      obtain rfl : k = i := of_decide_eq_true hc
      rw [Course.next, if_pos rfl] at he
      exact h.leave he
    | moved k state =>
      obtain rfl : k = i := of_decide_eq_true hc
      rw [Course.next, if_pos rfl] at he
      exact h.move he
    | noted line => exact nomatch hc

end Past

/-- **A journal in order has a past** that its course tells, by induction over its events from the first one on.  What
a discipline asks of a journal is then read off the state at its end. -/
theorem past_of_follow (h : follow i (some (ready .postLoad)) events = some σ) : Past i events σ := by
  induction events using List.reverseRecOn generalizing σ with
  | nil =>
    obtain rfl := Option.some.inj h
    exact ⟨rfl, rfl, nofun, nofun⟩
  | append_singleton events e ih =>
    obtain ⟨τ, hbefore, he⟩ := exists_follow_of_append h
    exact (ih hbefore).next he

/-- An event of a journal in order comes when its turn is. -/
theorem exists_next_of_prefix (h : follow i (some (ready .postLoad)) events = some σ)
    (hbefore : before ++ [e] <+: events) : ∃ τ τ', Past i before τ ∧ τ.next i e = some τ' := by
  obtain ⟨after, rfl⟩ := hbefore
  obtain ⟨τ', hfirst, -⟩ := exists_follow_of_append h
  obtain ⟨τ, hτ, he⟩ := exists_follow_of_append hfirst
  exact ⟨τ, τ', past_of_follow hτ, he⟩

/-- A phase that was called by the course was called by the journal. -/
theorem Past.mem_of_calls (h : Past i events σ) {stage : BringUpStage} (hs : stage ∈ σ.calls) :
    .called i (.bringUp stage) ∈ events := by
  rw [← h.calls] at hs
  obtain ⟨e, he, hcall⟩ := List.mem_filterMap.1 hs
  unfold Event.bringUpCall? at hcall
  split at hcall
  · split_ifs at hcall with hk
    rw [← Option.some.inj hcall, ← hk]
    exact he
  · exact nomatch hcall

/-- **The phases that were called are the first of all**, none of them twice, since a course has no other calls to
tell of. -/
theorem calls_prefix_all (σ : Course) : σ.calls <+: BringUpStage.all := by
  cases σ with
  | ready stage => exact (List.prefix_append _ _).trans stage.earlier_append_prefix_all
  | finalized => exact List.prefix_rfl
  | runnable => exact List.prefix_rfl
  | called stage => exact stage.earlier_append_prefix_all
  | passed stage => exact stage.earlier_append_prefix_all
  | failed stage _ => exact stage.earlier_append_prefix_all
  | rejected stage _ => exact stage.earlier_append_prefix_all

/-- Who is in the state of runnable plugins has that course. -/
theorem eq_runnable_of_state (h : σ.state = .runnable) : σ = runnable := by
  cases σ with
  | runnable => rfl
  | finalized => exact nomatch h
  | rejected stage reason => exact nomatch h
  | _ stage => cases stage <;> exact nomatch h

/-- Who is in the state of a rejection has that course. -/
theorem eq_rejected_of_state {stage : BringUpStage} {reason : String} (h : σ.state = .rejected stage reason) :
    σ = rejected stage reason := by
  cases σ with
  | rejected stage' reason' =>
    obtain ⟨rfl, rfl⟩ := Lifecycle.rejected.inj h
    rfl
  | runnable => exact nomatch h
  | finalized => exact nomatch h
  | _ stage => cases stage <;> exact nomatch h

end Course

namespace Roster

/-- The course of the plugin at a place by the journal, if all is in order. -/
def course (r : Roster) (i : Nat) : Option Course := Course.follow i (some (.ready .postLoad)) r.journal

/-- What the journal says about the calls of the plugin at a place. -/
structure Disciplined (r : Roster) (i : Nat) : Prop where
  /-- The calls of bring-up are the first of the phases, each once. -/
  calls : r.journal.filterMap (Event.bringUpCall? i) <+: BringUpStage.all
  /-- A phase is called once all earlier ones have been called and have ended well, and not after a rejection. -/
  bringUp : ∀ before stage, before ++ [.called i (.bringUp stage)] <+: r.journal →
    (∀ s ∈ stage.earlier, .called i (.bringUp s) ∈ before ∧ .returned i (.bringUp s) none ∈ before) ∧
      ∀ s reason, .moved i (.rejected s reason) ∉ before
  /-- All other calls are made of runnable plugins. -/
  other : ∀ before step, before ++ [.called i step] <+: r.journal → step.isBringUp = false →
    before.foldl (Event.standing i) .loaded = .runnable
  /-- A plugin is runnable only after all phases were called and have ended well. -/
  runnable : ∀ before, before <+: r.journal → before.foldl (Event.standing i) .loaded = .runnable →
    ∀ stage, .called i (.bringUp stage) ∈ before ∧ .returned i (.bringUp stage) none ∈ before
  /-- Nothing happens to a plugin after its rejection. -/
  rejected : ∀ before stage reason after, r.journal = before ++ .moved i (.rejected stage reason) :: after →
    ∀ e ∈ after, e.concerns i = false
  /-- The plugin is in the state that the journal tells. -/
  state : (r.handle i).state = r.journal.foldl (Event.standing i) .loaded
  /-- The text of the last failure of a rejected plugin is the reason of its rejection. -/
  error : ∀ stage reason, (r.handle i).state = .rejected stage reason → (r.handle i).error = some reason

/-- **A journal in order speaks of discipline**: what it says of calls in phases, of calls outside of bring-up and of
what comes after a rejection is read off its past. -/
theorem disciplined_of_course {r : Roster} {i : Nat} {σ : Course} (h : r.course i = some σ)
    (hstate : (r.handle i).state = σ.state)
    (herror : ∀ stage reason, (r.handle i).state = .rejected stage reason → (r.handle i).error = some reason) :
    r.Disciplined i := by
  have hpast : Course.Past i r.journal σ := Course.past_of_follow h
  constructor
  case calls =>
    rw [hpast.calls]
    exact σ.calls_prefix_all
  case bringUp =>
    intro before stage hbefore
    obtain ⟨τ, _, hτ, he⟩ := Course.exists_next_of_prefix h hbefore
    rw [Course.next, if_pos rfl] at he
    rcases Course.call_eq_some he with ⟨stage', rfl, hstep, -⟩ | ⟨-, hstep, -⟩
    · obtain rfl := Step.bringUp.inj hstep
      constructor
      · intro s hs
        exact ⟨hτ.mem_of_calls hs, hτ.successes s hs⟩
      · intro s reason hmem
        have hrejected := hτ.rejected s reason hmem
        cases stage <;> exact nomatch hrejected
    · exact nomatch hstep
  case other =>
    intro before step hbefore hstep
    obtain ⟨τ, _, hτ, he⟩ := Course.exists_next_of_prefix h hbefore
    rw [Course.next, if_pos rfl] at he
    rcases Course.call_eq_some he with ⟨stage, -, rfl, -⟩ | ⟨rfl, -⟩
    · exact nomatch hstep
    · exact hτ.state
  case runnable =>
    rintro before ⟨after, hjournal⟩ hrunnable stage
    rw [course, ← hjournal] at h
    obtain ⟨τ, hτ, -⟩ := Course.exists_follow_of_append h
    have hτ := Course.past_of_follow hτ
    obtain rfl := Course.eq_runnable_of_state (hτ.state.symm.trans hrunnable)
    exact ⟨hτ.mem_of_calls stage.mem_all, hτ.successes stage stage.mem_all⟩
  case rejected =>
    intro before stage reason after hjournal
    rw [course, hjournal, List.append_cons] at h
    obtain ⟨τ, hτ, hafter⟩ := Course.exists_follow_of_append h
    have hstate := (Course.past_of_follow hτ).rejected stage reason
      (List.mem_append_right _ (List.mem_singleton_self _))
    rw [Course.eq_rejected_of_state hstate] at hafter
    exact (Course.follow_rejected hafter).1
  case state => exact hstate.trans hpast.state.symm
  case error => exact herror

end Roster
end Calibration
