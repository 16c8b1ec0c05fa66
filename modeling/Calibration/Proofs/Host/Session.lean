/-
# Call discipline in a session

A session is a registry together with the chains that are put together from its plugins.  A chain takes runnable
plugins only, and who is runnable stays so; hence a chain run calls runnable plugins only, and keeps the roster to its
courses (`follows_run`).  So does each other operation (`Sound.perform`).  In the end each plugin has been called in
good order, whatever its code and that of the others did, and after a bring-up there is nothing left to do until
another plugin is loaded (`disciplined_foldl_perform`).
-/

import Calibration.Proofs.BringUp.Collaborators
import Calibration.Proofs.BringUp.Discipline
import Calibration.Proofs.Chain.Contract
import Calibration.Proofs.Config.Assembly

namespace Calibration

namespace Run

variable {ctx : RunContext} {members : List Nat} {σ : Nat → Course} {run : Run} {i : Nat}

/-- **A call in a chain** of runnable plugins keeps to the courses.  While it runs, a member may be called to show a
value and a runnable plugin to measure, and neither is a call of bring-up. -/
theorem follows_call (hmembers : ∀ j ∈ members, σ j = .runnable) (stage : RunStage) (hi : i ∈ members)
    (h : run.roster.Follows σ) : (run.call ctx members stage i).2.roster.Follows σ := by
  have hentered : (entered stage run i).roster.Follows σ := h.enter_runnable (hmembers i hi) rfl
  rw [roster_call]
  refine Roster.Follows.leave_runnable ?_ (hmembers i hi) rfl _ _
  refine Task.run_preserves (P := fun s : Run => s.roster.Follows σ) (fun q s hs => ?_) _ hentered
  refine serve_preserves (P := fun r => r.Follows σ) (fun line _ h => h.noted line) ?_ ?_ _ q hs
  · intro j r code hj h
    exact h.callLocal_runnable (hmembers j hj) rfl code
  · intro j r code hj h
    refine h.callLocal_runnable (Course.eq_runnable_of_state ?_) rfl code
    rw [← h.state]
    exact of_decide_eq_true hj

end Run

namespace Host

variable {h : Host} {c : Chain}

/-- A chain run changes none of the lifecycles. -/
theorem outlines_run (h : Host) (c : Chain) : (h.run c).2.1.roster.outlines = h.roster.outlines := by
  let start : Run := { roster := h.roster, store := h.store }
  obtain ⟨_, _, _, hperform, -⟩ := Run.exists_stages (h.context c) c.members c.policy start
  exact (Run.told_of_perform_eq hperform).2.2

/-- A chain of runnable plugins keeps to the courses. -/
theorem follows_run {σ : Nat → Course} (hσ : h.roster.Follows σ) (hmembers : ∀ i ∈ c.members, σ i = .runnable) :
    (h.run c).2.1.roster.Follows σ := by
  let start : Run := { roster := h.roster, store := h.store }
  obtain ⟨prepared, worked, tidied, hperform, -, hprepares, hworks, htidies⟩ :=
    Run.exists_stages (h.context c) c.members c.policy start
  have hfollows : (Run.perform (h.context c) c.members ((prepared ++ worked ++ tidied).map Call.key)
      start).2.roster.Follows σ := by
    refine Run.perform_preserves (P := fun run => run.roster.Follows σ) _ ?_ hσ
    intro i stage hkey run hrun
    exact Run.follows_call hmembers stage (Run.mem_of_stages hprepares hworks htidies hkey) hrun
  rw [hperform] at hfollows
  exact hfollows

end Host

namespace Roster

variable {r : Roster} {k : Nat}

/-! ### Runnable plugins stay so -/

/-- Who is runnable stays so when a plugin is loaded. -/
theorem runnable_add (h : (r.handle k).state = .runnable) (plugin : Plugin) (origin : Origin)
    (version? : Option (Nat × Nat)) : ((r.add plugin origin version?).handle k).state = .runnable := by
  obtain ⟨state, -, -, ho⟩ := r.outline_add plugin origin version?
  have hk : k < r.size := lt_size_of_ne (by rw [h]; exact nofun)
  rw [state_handle, ho, if_neg (Nat.ne_of_lt hk)]
  exact h

/-- Who is runnable stays so in a dependency check. -/
theorem runnable_checkDeps (h : (r.handle k).state = .runnable) : (r.checkDeps.handle k).state = .runnable := by
  have hk : k < r.size := lt_size_of_ne (by rw [h]; exact nofun)
  rw [state_handle] at h ⊢
  rw [r.state_checkDeps hk, h]
  rfl

/-- Who is runnable stays so in the late phase. -/
theorem runnable_postCheckDeps (h : (r.handle k).state = .runnable) : (r.postCheckDeps.handle k).state = .runnable := by
  have hk : k < r.size := lt_size_of_ne (by rw [h]; exact nofun)
  rw [state_handle] at h ⊢
  rcases r.state_postCheckDeps hk (by rw [h]; exact nofun) with ⟨hd, -⟩ | ⟨-, he, -⟩
  · rw [h] at hd
    exact nomatch hd
  · exact he.trans h

/-! ### Nothing is left to do after a bring-up -/

/-- **After a bring-up everybody is decided**, so that nothing is left to do.  A second one finds nobody in a phase
that it would have to go on from. -/
theorem settled_bringUp (hs : r.Supported) : r.bringUp.Settled := by
  intro k
  have hchecked := hs.checkDeps
  by_cases hk : k < r.size
  · have hk' : k < r.checkDeps.size := r.size_checkDeps.symm ▸ hk
    have hne := state_checkDeps_ne_postLoaded hk
    rw [state_handle]
    change (r.checkDeps.postCheckDeps.outline k).state ≠ _ ∧ (r.checkDeps.postCheckDeps.outline k).state ≠ _ ∧
      (r.checkDeps.postCheckDeps.outline k).state ≠ _
    rcases r.checkDeps.state_postCheckDeps hk' (hchecked.resting k hk').ne_depsFinalized with
      ⟨-, ⟨he, -⟩ | ⟨hrej, -⟩⟩ | ⟨hd, he, -⟩
    · simp [he]
    · obtain ⟨stage, reason, he⟩ := Lifecycle.exists_of_isRejected hrej
      simp [he]
    · rw [he]
      exact ⟨hne, hd, (hchecked.resting k hk').ne_depsFinalized⟩
  · have hle : r.bringUp.size ≤ k := by
      rw [bringUp, size_postCheckDeps, size_checkDeps]
      exact Nat.not_lt.1 hk
    rw [state_handle, outline_of_size_le _ _ hle]
    decide

/-- Whether anything is left to do is told by the outlines. -/
theorem Settled.of_outlines_eq {r' : Roster} (h : r.Settled) (ho : r'.outlines = r.outlines) : r'.Settled := by
  intro k
  rw [state_of_outlines_eq ho]
  exact h k

/-- So is what holds between two operations. -/
theorem Supported.of_outlines_eq {r' : Roster} (h : r.Supported) (ho : r'.outlines = r.outlines) : r'.Supported := by
  have hout := outline_of_outlines_eq ho
  have hsize := size_of_outlines_eq ho
  constructor
  · simpa only [hout, hsize] using h.resting
  · simpa only [hout, hsize] using h.group
  · simpa only [hout, hsize] using h.depsChecked
  · simpa only [hout, hsize] using h.runnable

end Roster

namespace Chain

variable {h : Host} {r : Roster}

/-- All plugins of the chain are runnable. -/
def IsReady (r : Roster) (c : Chain) : Prop := ∀ i ∈ c.members, (r.handle i).state = .runnable

/-- A plugin that a chain takes is runnable. -/
theorem IsReady.append {c c' : Chain} {i : Nat} (hc : c.IsReady r) (h : c.append r i = .ok c') : c'.IsReady r := by
  rw [Chain.append] at h
  split_ifs at h with hi
  obtain rfl := Except.ok.inj h
  intro j hj
  rcases List.mem_append.1 hj with hj | hj
  · exact hc j hj
  · rw [List.mem_singleton.1 hj]
    exact of_decide_eq_true hi

/-- The chain of a plan is made of runnable plugins. -/
theorem isReady_build {plan : ChainPlan} {c : Chain} (hbuild : (plan.build h).1 = .ok c) : c.IsReady h.roster :=
  ((plan.builds h).assembled c hbuild).runnable

end Chain

/-! ### Sessions -/

/-- A registry and the chains put together from its plugins. -/
structure Session where
  host : Host
  chains : List Chain := []

namespace Session

/-- An operation of a session; chains are named by their places. -/
inductive Operation where
  | registry (op : Host.Operation)
  /-- A chain of the settings of another, without plugins. -/
  | start (c : Chain)
  | newChain (name dictName : String)
  | build (plan : ChainPlan)
  | append (chain plugin : Nat)
  | clear (chain : Nat)
  | cancel (chain : Nat)
  | run (chain : Nat)
  /-- The registry goes; chains stay. -/
  | close

/-- The operation may load plugins. -/
def Operation.loads : Operation → Bool
  | registry .checkDeps | registry .postCheckDeps | registry .bringUp => false
  | registry _ => true
  | _ => false

/-- The session after an operation, whatever its result. -/
def Operation.perform (s : Session) : Operation → Session
  | registry op => { s with host := op.run s.host }
  | start c => { s with chains := s.chains ++ [c.clear] }
  | newChain name dictName =>
    let (c, host) := s.host.newChain name dictName
    { host, chains := s.chains ++ [c] }
  | build plan =>
    match plan.build s.host with
    | (.ok c, host) => { host, chains := s.chains ++ [c] }
    | (.error _, host) => { s with host }
  | append chain plugin =>
    { s with chains := s.chains.modify chain fun c => (c.append s.host.roster plugin).toOption.getD c }
  | clear chain => { s with chains := s.chains.modify chain Chain.clear }
  | cancel chain => { s with chains := s.chains.modify chain Chain.cancel }
  | run chain =>
    match s.chains[chain]? with
    | some c =>
      let (_, host, c) := s.host.run c
      { host, chains := s.chains.set chain c }
    | none => s
  | close => { s with host := s.host.close }

variable {s : Session}

/-- Building a chain leaves the plugins as they are. -/
theorem roster_perform_build (s : Session) (plan : ChainPlan) :
    ((Operation.build plan).perform s).host.roster = s.host.roster := by
  have hroster : (plan.build s.host).2.roster = s.host.roster := rfl
  simp only [Operation.perform]
  split <;> next heq =>
    rw [heq] at hroster
    exact hroster

/-- A chain run leaves the lifecycles as they are, whether there is such a chain or not. -/
theorem outlines_perform_run (s : Session) (chain : Nat) :
    ((Operation.run chain).perform s).host.roster.outlines = s.host.roster.outlines := by
  simp only [Operation.perform]
  split
  · next c _ => exact Host.outlines_run s.host c
  · rfl

/-- **Who is runnable stays so** in each operation, whatever chains there are and however the session came about.  No
phase calls it again, and the failures of a run are no rejections. -/
theorem runnable_perform {k : Nat} (h : (s.host.roster.handle k).state = .runnable) (op : Operation) :
    ((op.perform s).host.roster.handle k).state = .runnable := by
  cases op with
  | registry op =>
    exact Host.run_preserves (P := fun r => (r.handle k).state = .runnable)
      (fun _ _ _ _ h => Roster.runnable_add h ..) (fun _ h => Roster.runnable_checkDeps h)
      (fun _ h => Roster.runnable_postCheckDeps h) h op
  | build plan =>
    rw [roster_perform_build]
    exact h
  | run chain => exact (Roster.state_of_outlines_eq (outlines_perform_run s chain) k).trans h
  | _ => exact h

/-- **Who is runnable stays so for good**, whatever is done in the session.  It is the induction over its operations.
-/
theorem runnable_foldl_perform {k : Nat} (h : (s.host.roster.handle k).state = .runnable) (ops : List Operation) :
    ((ops.foldl Operation.perform s).host.roster.handle k).state = .runnable :=
  List.foldlRecOn (motive := fun s : Session => (s.host.roster.handle k).state = .runnable) ops _ h
    fun _ h op _ => runnable_perform h op

/-- What holds between two operations: the plugins have kept to their courses, and chains are made of runnable ones. -/
structure Sound (s : Session) : Prop where
  orderly : s.host.roster.Orderly
  supported : s.host.roster.Supported
  ready : ∀ c ∈ s.chains, c.IsReady s.host.roster

/-- A new session over some files, with the built-in plugins or without. -/
def opened (builtins : Bool) (files : Files) : Session := { host := .opened builtins files }

/-- A new session is sound. -/
theorem sound_opened (builtins : Bool) (files : Files) : (opened builtins files).Sound where
  orderly := Host.opened_of_add (fun _ plugin origin version? h => h.add plugin origin version?) Roster.orderly_empty ..
  supported := Host.supported_opened builtins files
  ready := nofun

/-- An operation of the registry keeps everything. -/
theorem Sound.registry (hs : s.Sound) (op : Host.Operation) : ((Operation.registry op).perform s).Sound := by
  have hkept : (op.run s.host).roster.Orderly ∧ (op.run s.host).roster.Supported := by
    refine Host.run_preserves (P := fun r => r.Orderly ∧ r.Supported) ?_ ?_ ?_ ⟨hs.orderly, hs.supported⟩ op
    · rintro r plugin origin version? ⟨ho, hsupported⟩
      exact ⟨ho.add .., hsupported.add ..⟩
    · rintro r ⟨ho, hsupported⟩
      exact ⟨ho.checkDeps, hsupported.checkDeps⟩
    · rintro r ⟨ho, hsupported⟩
      exact ⟨ho.postCheckDeps, hsupported.postCheckDeps⟩
  exact ⟨hkept.1, hkept.2, fun c hc i hi => runnable_perform (hs.ready c hc i hi) (.registry op)⟩

/-- Chains are changed, and the host but for its roster. -/
theorem Sound.of_roster_eq (hs : s.Sound) {s' : Session} (hroster : s'.host.roster = s.host.roster)
    (hready : ∀ c ∈ s'.chains, c ∈ s.chains ∨ c.IsReady s.host.roster) : s'.Sound := by
  constructor
  · rw [hroster]
    exact hs.orderly
  · rw [hroster]
    exact hs.supported
  · intro c hc
    rw [hroster]
    rcases hready c hc with hold | hnew
    · exact hs.ready c hold
    · exact hnew

/-- A chain is put to the others. -/
theorem Sound.push (hs : s.Sound) {host : Host} {c : Chain} (hroster : host.roster = s.host.roster)
    (hc : c.IsReady s.host.roster) : Sound { host, chains := s.chains ++ [c] } := by
  refine hs.of_roster_eq hroster ?_
  intro c' hc'
  rcases List.mem_append.1 hc' with hold | hnew
  · exact .inl hold
  · exact .inr (List.mem_singleton.1 hnew ▸ hc)

/-- A chain is changed and stays ready. -/
theorem Sound.modify (hs : s.Sound) (chain : Nat) {f : Chain → Chain}
    (hf : ∀ c, c.IsReady s.host.roster → (f c).IsReady s.host.roster) :
    Sound { s with chains := s.chains.modify chain f } := by
  refine hs.of_roster_eq rfl ?_
  intro c hc
  obtain ⟨k, hk⟩ := List.mem_iff_getElem?.1 hc
  rw [List.getElem?_modify] at hk
  obtain ⟨old, hold, rfl⟩ := Option.map_eq_some_iff.1 hk
  have hmem := List.mem_of_getElem? hold
  split_ifs
  · exact .inr (hf old (hs.ready old hmem))
  · exact .inl hmem

/-- A chain run keeps everything. -/
theorem Sound.run (hs : s.Sound) (chain : Nat) : ((Operation.run chain).perform s).Sound := by
  simp only [Operation.perform]
  split
  · next c hc =>
    have hready := hs.ready c (List.mem_of_getElem? hc)
    have hrunnable : ∀ i ∈ c.members, Course.resting (s.host.roster.handle i).state = .runnable := by
      intro i hi
      rw [hready i hi]
      rfl
    have hfollows := Host.follows_run hs.orderly hrunnable
    have houtlines := Host.outlines_run s.host c
    have hkept : ∀ c' : Chain, c'.IsReady s.host.roster → c'.IsReady (s.host.run c).2.1.roster := by
      intro c' hc' i hi
      rw [Roster.state_of_outlines_eq houtlines]
      exact hc' i hi
    constructor
    · exact hfollows.orderly fun k => by rw [Course.state_resting]
    · exact hs.supported.of_outlines_eq houtlines
    · intro c' hc'
      rcases List.mem_or_eq_of_mem_set hc' with hold | rfl
      · exact hkept c' (hs.ready c' hold)
      · -- The run notes its start in the chain, and leaves the members as they are.
        exact hkept c hready
  · exact hs

/-- **One operation** keeps everything.  An assembly takes in runnable plugins only, a run calls members only, and
bring-up is covered by what is known of the registry. -/
theorem Sound.perform (hs : s.Sound) (op : Operation) : (op.perform s).Sound := by
  cases op with
  | registry op => exact hs.registry op
  | start c => exact hs.push rfl nofun
  | newChain name dictName => exact hs.push rfl nofun
  | build plan =>
    have hroster : (plan.build s.host).2.roster = s.host.roster := rfl
    have hready : ∀ c, (plan.build s.host).1 = .ok c → c.IsReady s.host.roster := fun _ => Chain.isReady_build
    simp only [Operation.perform]
    split
    · next c host heq =>
      rw [heq] at hroster hready
      exact hs.push hroster (hready c rfl)
    · next e host heq =>
      rw [heq] at hroster
      exact hs.of_roster_eq hroster fun c hc => .inl hc
  | append chain plugin =>
    refine hs.modify chain ?_
    intro c hc
    cases happend : c.append s.host.roster plugin with
    | error e => exact hc
    | ok c' => exact hc.append happend
  | clear chain => exact hs.modify chain fun _ _ => nofun
  | cancel chain => exact hs.modify chain fun _ hc => hc
  | run chain => exact hs.run chain
  | close => exact hs.of_roster_eq rfl fun _ hc => .inl hc

/-! ### Nothing is left to do after a bring-up -/

/-- A bring-up of the session is one of its roster. -/
theorem roster_bringUp (s : Session) :
    ((Operation.registry .bringUp).perform s).host.roster = s.host.roster.bringUp := by
  simp only [Operation.perform, Host.Operation.run, Host.bringUp]

/-- Where nothing is left to do, bring-up does nothing. -/
theorem perform_bringUp_eq_self (h : s.host.roster.Settled) : (Operation.registry .bringUp).perform s = s := by
  simp only [Operation.perform, Host.Operation.run, Host.bringUp]
  rw [Roster.bringUp_eq_self h]

/-- An operation that loads nothing leaves nothing to do if there was nothing to do before. -/
theorem settled_perform (h : s.host.roster.Settled) {op : Operation} (hop : op.loads = false) :
    (op.perform s).host.roster.Settled := by
  cases op with
  | registry op =>
    cases op with
    | checkDeps =>
      change s.host.roster.checkDeps.Settled
      rw [Roster.checkDeps_eq_self h]
      exact h
    | postCheckDeps =>
      change s.host.roster.postCheckDeps.Settled
      rw [Roster.postCheckDeps_eq_self h]
      exact h
    | bringUp =>
      rw [perform_bringUp_eq_self h]
      exact h
    | _ => exact nomatch hop
  | build plan =>
    rw [roster_perform_build]
    exact h
  | run chain => exact h.of_outlines_eq (outlines_perform_run s chain)
  | _ => exact h

/-- A row of operations keeps everything. -/
theorem Sound.foldl_perform (hs : s.Sound) (ops : List Operation) : (ops.foldl Operation.perform s).Sound :=
  List.foldlRecOn (motive := Sound) ops _ hs fun _ hs op _ => hs.perform op

/-- **In a session each plugin is called in good order**, whatever the code of the plugins does; and when a bring-up
follows another, and nothing is loaded in between, it does nothing. -/
theorem disciplined_foldl_perform (builtins : Bool) (files : Files) (ops : List Operation) :
    let s := ops.foldl Operation.perform (opened builtins files)
    (∀ i, s.host.roster.Disciplined i) ∧
      ∀ between : List Operation, (∀ op ∈ between, op.loads = false) →
        let s' := between.foldl Operation.perform ((Operation.registry .bringUp).perform s)
        (Operation.registry .bringUp).perform s' = s' := by
  intro s
  have hs : s.Sound := (sound_opened builtins files).foldl_perform ops
  constructor
  · intro i
    exact Roster.disciplined_of_course (hs.orderly.course i) (hs.orderly.state i) (hs.orderly.error i)
  · intro between hbetween
    have hfirst : ((Operation.registry .bringUp).perform s).host.roster.Settled := by
      rw [roster_bringUp]
      exact Roster.settled_bringUp hs.supported
    have hlast := List.foldlRecOn (motive := fun s' => s'.host.roster.Settled) between Operation.perform hfirst
      fun s' h op hop => settled_perform h (hbetween op hop)
    exact perform_bringUp_eq_self hlast

/-- A screen that needs a lamp, the lamp, and a printer that needs what nobody has. -/
def loading : List Operation :=
  [.registry (.loadStatic { name := "Screen", checkDeps := fun _ => .requireAll (.ok ()) [.require "Lamp"] } none),
    .registry (.loadStatic { name := "Lamp" } none),
    .registry (.loadStatic { name := "Printer", checkDeps := fun _ => .requireAll (.ok ()) [.require "Paper"] } none)]

/-- The screen is put into a chain, and works. -/
def showing : List Operation := [.newChain "show" "shelf", .append 0 0, .run 0]

/-- The screen has worked and the printer is rejected; one more bring-up changes nothing. -/
theorem bringUp_after_showing :
    let s := showing.foldl Operation.perform ((Operation.registry .bringUp).perform
      (loading.foldl Operation.perform (opened false {})))
    (∀ op ∈ showing, op.loads = false) ∧ .called 0 (.chain .run) ∈ s.host.roster.journal ∧
      (s.host.roster.handle 2).state.isRejected ∧ (Operation.registry .bringUp).perform s = s := by
  have hshowing : ∀ op ∈ showing, op.loads = false := by decide
  refine ⟨hshowing, by decide +kernel, by decide +kernel, ?_⟩
  exact (disciplined_foldl_perform false {} loading).2 showing hshowing

end Session
end Calibration
