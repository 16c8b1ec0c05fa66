/-
# Both results or none

A run of the white point either writes its reading and the chromaticity of that reading into the chain's dict, or fails
and leaves the store as it was.  Between its start and the two writes it may fail in six places (`Obstacle`), and each
of these stands in the way for itself (`Hindered`); it fails nowhere else, whatever the sensor and the user interfaces
of the chain do (`writes_both_or_none`).
-/

import Calibration.Proofs.Demo.ChosenSensor
import Calibration.Proofs.Roster.LocalCalls

namespace Calibration

namespace Roster

variable {r : Roster} {name : String}

/-- The code that takes a reading with the plugin at a place. -/
def sensorCode (r : Roster) (k : Nat) (isCancelled : Bool) : LocalCode Measurement :=
  match (r.handle k).plugin.sensor? with
  | some sensor => sensor isCancelled
  | none => .fail (.missingDependency Attribute.sensor)

/-- The reading that the plugin at a place would take now. -/
def readingAt (r : Roster) (k : Nat) (isCancelled : Bool) : Except PluginError Measurement :=
  ((r.sensorCode k isCancelled).ending (r.handle k).memory).1.mapError Halt.error

/-- A plugin that is found and not busy takes its reading. -/
theorem measureWith_reply (isCancelled : Bool)
    (hfree : ∀ k, r.firstRunnable? name = some k → (r.handle k).isBusy = false) :
    (r.measureWith name isCancelled).1 = (r.firstRunnable? name).map (r.readingAt · isCancelled) := by
  rw [measureWith]
  cases h : r.firstRunnable? name with
  | none => rfl
  | some k =>
    simp only [hfree k h]
    exact congrArg some (called_callLocal r k .sensor (r.sensorCode k isCancelled)).result

/-- A plugin that begins a step is the same plugin with the same memory. -/
theorem handle_enter (r : Roster) (i : Nat) (step : Step) (k : Nat) :
    ((r.enter i step).handle k).plugin = (r.handle k).plugin ∧
      ((r.enter i step).handle k).memory = (r.handle k).memory :=
  ⟨congrArg Outline.plugin (outline_of_outlines_eq (r.outlines_enter i step) k), memory_enter step⟩

/-- Nobody's reading depends on which plugin is in a step. -/
theorem readingAt_enter (r : Roster) (i : Nat) (step : Step) (k : Nat) (isCancelled : Bool) :
    (r.enter i step).readingAt k isCancelled = r.readingAt k isCancelled := by
  rw [readingAt, sensorCode, (r.handle_enter i step k).1, (r.handle_enter i step k).2]
  rfl

end Roster

namespace WhitePoint

/-- The sensor that the white point at a place finds, if it finds one, is another plugin, and its code does not run
already; else the white point would wait for itself, or for somebody who waits for it. -/
def FindsFree (run : Run) (i : Nat) : Prop :=
  ∀ name k, sensor? (run.roster.handle i).memory = some name → run.roster.firstRunnable? name = some k →
    k ≠ i ∧ (run.roster.handle k).isBusy = false

/-- The white point at a place finds its sensor and gets a reading from it. -/
def Reads (ctx : RunContext) (run : Run) (i : Nat) (m : Measurement) : Prop :=
  ∃ name k, sensor? (run.roster.handle i).memory = some name ∧ ctx.registry? ≠ none ∧
    run.roster.firstRunnable? name = some k ∧ run.roster.readingAt k run.isCancelled = .ok m

/-- The reading has light. -/
def HasLight (m : Measurement) : Prop := (m.x + m.y + m.z).isPositive

/-- What ends a run of the white point at a place before it writes, and with which error. -/
inductive Obstacle (ctx : RunContext) (run : Run) (i : Nat) : PluginError → Prop where
  | unchosen (hsensor : sensor? (run.roster.handle i).memory = none) :
    Obstacle ctx run i (.missingDependency Attribute.sensor)
  | unregistered {name : String} (hsensor : sensor? (run.roster.handle i).memory = some name)
    (hregistry : ctx.registry? = none) : Obstacle ctx run i (.missingDependency name)
  | absent {name : String} (hsensor : sensor? (run.roster.handle i).memory = some name)
    (hfind : run.roster.firstRunnable? name = none) : Obstacle ctx run i (.missingDependency name)
  | unread {name : String} {k : Nat} {e : PluginError} (hsensor : sensor? (run.roster.handle i).memory = some name)
    (hregistry : ctx.registry? ≠ none) (hfind : run.roster.firstRunnable? name = some k)
    (hreading : run.roster.readingAt k run.isCancelled = .error e) : Obstacle ctx run i e
  | dark {m : Measurement} (hreads : Reads ctx run i m) (hdark : ¬ HasLight m) :
    Obstacle ctx run i (.hardware "no light on the sensor")
  | homeless {m : Measurement} (hreads : Reads ctx run i m) (hlight : HasLight m)
    (hdict : run.store.find? ctx.table ctx.dictName = none) :
    Obstacle ctx run i (.config ("no dict '" ++ ctx.dictName ++ "'"))

/-- Something stands in the way of a run, whatever else does. -/
inductive Hindered (ctx : RunContext) (run : Run) (i : Nat) : Prop where
  | unchosen (h : sensor? (run.roster.handle i).memory = none)
  | unregistered (h : ctx.registry? = none)
  | absent (h : ∀ name, sensor? (run.roster.handle i).memory = some name → run.roster.firstRunnable? name = none)
  | unread (h : ∀ m, ¬ Reads ctx run i m)
  | dark (h : ∀ m, Reads ctx run i m → ¬ HasLight m)
  | homeless (h : run.store.find? ctx.table ctx.dictName = none)

/-- The reading and its coordinates stand in the dict at a reference, and nothing else in the store has changed. -/
structure Measured (s : Store) (r : DictRef) (m : Measurement) (s' : Store) : Prop where
  reading : (s'.dict r).get? readingKey = some (.xyz m)
  chromaticity : (s'.dict r).get? chromaticityKey =
    some (.doubleArray [m.x / (m.x + m.y + m.z), m.y / (m.x + m.y + m.z)])
  entries : ∀ key, key ≠ readingKey → key ≠ chromaticityKey → (s'.dict r).get? key = (s.dict r).get? key
  keys : (s'.dict r).keys =
    (s.dict r).keys ++ [readingKey, chromaticityKey].filter fun key => key ∉ (s.dict r).keys
  scope : (s'.dict r).scope = (s.dict r).scope
  dicts : ∀ q, q ≠ r → s'.dict q = s.dict q
  length : s'.dicts.length = s.dicts.length
  tables : s'.tables = s.tables
  files : s'.files = s.files

variable {ctx : RunContext} {members : List Nat} {run : Run} {i : Nat}

/-- Two items written one after the other put those of their keys that are new behind the others. -/
theorem keys_set_set {key key' : String} (hne : key ≠ key') (d : Dict) (item item' : Item) :
    ((d.set key item).set key' item').keys = d.keys ++ [key, key'].filter fun key => key ∉ d.keys := by
  have hset (d : Dict) (key : String) (item : Item) : (d.set key item).keys =
      if key ∈ d.keys then d.keys else d.keys ++ [key] := Assoc.keys_set ..
  rw [hset, hset]
  by_cases hkey : key ∈ d.keys <;> by_cases hkey' : key' ∈ d.keys <;> simp [hkey, hkey', hne.symm]

/-- **What is written is the reading and its coordinates**, and nothing else of the store has changed.  Other keys of
the same dict keep their items, too. -/
theorem measured_written {s : Store} {r : DictRef} (hr : r < s.dicts.length) (m : Measurement) :
    Measured s r m (written s r m [m.x / (m.x + m.y + m.z), m.y / (m.x + m.y + m.z)]) := by
  let xy : Item := .doubleArray [m.x / (m.x + m.y + m.z), m.y / (m.x + m.y + m.z)]
  have hwritten : written s r m [m.x / (m.x + m.y + m.z), m.y / (m.x + m.y + m.z)] =
      s.setDict r (((s.dict r).set readingKey (.xyz m)).set chromaticityKey xy) := by
    rw [written, Store.modifyDict, Store.modifyDict, Store.dict_setDict hr, Store.setDict_setDict]
  have hne : readingKey ≠ chromaticityKey := by decide
  have hdict := s.dict_setDict hr (((s.dict r).set readingKey (.xyz m)).set chromaticityKey xy)
  rw [hwritten]
  refine ⟨?_, ?_, fun key hreading hchromaticity => ?_, ?_, ?_, fun q hq => Store.dict_setDict_of_ne hq _,
    Store.length_setDict .., rfl, rfl⟩
  · rw [hdict, Dict.get?, Dict.set, Assoc.find?_set, if_neg hne.symm, Dict.set, Assoc.find?_set, if_pos rfl]
  · rw [hdict, Dict.get?, Dict.set, Assoc.find?_set, if_pos rfl]
  · rw [hdict, Dict.get?, Dict.set, Assoc.find?_set, if_neg hchromaticity.symm, Dict.set, Assoc.find?_set,
      if_neg hreading.symm, Dict.get?]
  · rw [hdict, keys_set_set hne]
  · rw [hdict]
    rfl

/-- What the host replies to the question of the white point. -/
def answer (ctx : RunContext) (run : Run) (name : String) : Option (Except PluginError Measurement) :=
  if ctx.registry?.isSome then
    (run.roster.firstRunnable? name).map (run.roster.readingAt · run.isCancelled)
  else none

/-- A white point that asks to measure gets the answer that its sensor gives, if that is another plugin and free. -/
theorem exists_serve (ctx : RunContext) (members : List Nat) {name : String}
    (hfree : ∀ k, run.roster.firstRunnable? name = some k → k ≠ i ∧ (run.roster.handle k).isBusy = false) :
    ∃ run', Run.serve members ctx.registry?.isSome (.other (.measure name)) (Run.entered .run run i) =
      (answer ctx run name, run') := by
  have hfirst : (Run.entered .run run i).roster.firstRunnable? name = run.roster.firstRunnable? name :=
    Roster.firstRunnable?_of_outlines_eq (run.roster.outlines_enter i _) name
  have hidle : ∀ k, (Run.entered .run run i).roster.firstRunnable? name = some k →
      ((Run.entered .run run i).roster.handle k).isBusy = false := by
    intro k hk
    obtain ⟨hne, hnot⟩ := hfree k (hfirst ▸ hk)
    rw [Bool.eq_false_iff]
    intro hbusy
    rcases (run.roster.isBusy_enter i (.chain .run) k).1 hbusy with ⟨he, -⟩ | hbusy
    · exact hne he
    · rw [hnot] at hbusy
      cases hbusy
  have hreply := Roster.measureWith_reply run.isCancelled hidle
  rw [hfirst] at hreply
  rw [answer, Run.serve]
  split_ifs
  · refine ⟨_, Prod.ext (hreply.trans ?_) rfl⟩
    exact congrArg (Option.map · _) (funext fun k => Roster.readingAt_enter ..)
  · exact ⟨_, rfl⟩

/-- What a run of the white point at a place comes to: a store with both results, or an error. -/
def outcome (ctx : RunContext) (run : Run) (i : Nat) : Except PluginError Store :=
  match sensor? (run.roster.handle i).memory with
  | none => .error (.missingDependency Attribute.sensor)
  | some name => ((answer ctx run name).getD (.error (.missingDependency name))).bind (recorded ctx run.store)

/-- **A call of the white point** ends and leaves the store as its reading has it: the code runs to its end, whatever
the user interfaces of the chain make of the value. -/
theorem call_eq (ctx : RunContext) (members : List Nat) (hplugin : (run.roster.handle i).plugin = plugin)
    (hfree : FindsFree run i) :
    (run.call ctx members .run i).1.result = (outcome ctx run i).map (fun _ => ()) ∧
      (run.call ctx members .run i).2.store = (outcome ctx run i).toOption.getD run.store := by
  have hended : (Run.ended ctx members .run run i).1 =
      ending ⟨(run.roster.handle i).memory, run.store⟩ (outcome ctx run i) := by
    rw [Run.ended, Run.program, hplugin]
    change (((WhitePoint.run ctx).run.run _).run _ _).1 = _
    rw [outcome]
    cases hsensor : sensor? (run.roster.handle i).memory with
    | none => exact run_of_unchosen ctx hsensor _
    | some name =>
      obtain ⟨run', hserve⟩ := exists_serve ctx members (hfree name · hsensor)
      exact run_of_reply ctx hsensor hserve
  rw [Run.result_call, Run.store_call, hended]
  cases outcome ctx run i <;> exact ⟨rfl, rfl⟩

/-- A reading with light is written into the chain's dict, if that is there. -/
theorem recorded_of_hasLight {store : Store} {m : Measurement} (h : HasLight m) :
    recorded ctx store m = (store.find? ctx.table ctx.dictName).elim
      (.error (.config ("no dict '" ++ ctx.dictName ++ "'")))
      fun r => .ok (written store r m [m.x / (m.x + m.y + m.z), m.y / (m.x + m.y + m.z)]) := by
  rw [recorded, Measurement.chromaticity?, if_pos (show (m.x + m.y + m.z).isPositive = true from h)]
  cases store.find? ctx.table ctx.dictName <;> rfl

/-- A reading without light is a fault of the hardware. -/
theorem recorded_of_not_hasLight {store : Store} {m : Measurement} (h : ¬ HasLight m) :
    recorded ctx store m = .error (.hardware "no light on the sensor") := by
  rw [recorded, Measurement.chromaticity?, if_neg (show ¬ (m.x + m.y + m.z).isPositive = true from h)]

/-- **Nothing but the six obstacles stands in the way of both results.**  Each of them is one place at which the code
can end early. -/
theorem outcome_cases (ctx : RunContext) (run : Run) (i : Nat) :
    (∃ m r, Reads ctx run i m ∧ HasLight m ∧ run.store.find? ctx.table ctx.dictName = some r ∧
        outcome ctx run i =
          .ok (written run.store r m [m.x / (m.x + m.y + m.z), m.y / (m.x + m.y + m.z)])) ∨
      ∃ e, Obstacle ctx run i e ∧ outcome ctx run i = .error e := by
  cases hsensor : sensor? (run.roster.handle i).memory with
  | none => exact .inr ⟨_, .unchosen hsensor, by rw [outcome, hsensor]⟩
  | some name =>
    have houtcome : outcome ctx run i =
        ((answer ctx run name).getD (.error (.missingDependency name))).bind (recorded ctx run.store) := by
      rw [outcome, hsensor]
    rw [houtcome, answer]
    by_cases hregistry : ctx.registry? = none
    · exact .inr ⟨_, .unregistered hsensor hregistry, by rw [hregistry]; rfl⟩
    · rw [if_pos (Option.isSome_iff_ne_none.2 hregistry)]
      cases hfind : run.roster.firstRunnable? name with
      | none => exact .inr ⟨_, .absent hsensor hfind, rfl⟩
      | some k =>
        rw [Option.map_some, Option.getD_some]
        cases hreading : run.roster.readingAt k run.isCancelled with
        | error e => exact .inr ⟨e, .unread hsensor hregistry hfind hreading, rfl⟩
        | ok m =>
          have hreads : Reads ctx run i m := ⟨name, k, hsensor, hregistry, hfind, hreading⟩
          rw [Except.bind]
          by_cases hlight : HasLight m
          · rw [recorded_of_hasLight hlight]
            cases hdict : run.store.find? ctx.table ctx.dictName with
            | none => exact .inr ⟨_, .homeless hreads hlight hdict, rfl⟩
            | some r => exact .inl ⟨m, r, hreads, hlight, rfl, rfl⟩
          · exact .inr ⟨_, .dark hreads hlight, recorded_of_not_hasLight hlight⟩

/-- Where something stands in the way a run does not have all that it needs. -/
theorem Hindered.not_ready (h : Hindered ctx run i) {m : Measurement} {r : DictRef} (hreads : Reads ctx run i m)
    (hlight : HasLight m) (hdict : run.store.find? ctx.table ctx.dictName = some r) : False := by
  obtain ⟨name, k, hsensor, hregistry, hfind, -⟩ := id hreads
  cases h with
  | unchosen h => exact nomatch h.symm.trans hsensor
  | unregistered h => exact hregistry h
  | absent h => exact nomatch (h name hsensor).symm.trans hfind
  | unread h => exact h m hreads
  | dark h => exact h m hreads hlight
  | homeless h => exact nomatch h.symm.trans hdict

/-- **The white point writes both results or none.**  A run of it ends well and has written exactly its reading and the
coordinates of that reading, or it fails for an obstacle, with the error that goes with it, and has left the store
alone; and whatever hinders it makes it fail. -/
theorem writes_both_or_none (hplugin : (run.roster.handle i).plugin = plugin) (hfree : FindsFree run i)
    (hdict : ∀ r, run.store.find? ctx.table ctx.dictName = some r → r < run.store.dicts.length) :
    ((∃ m r, Reads ctx run i m ∧ HasLight m ∧ run.store.find? ctx.table ctx.dictName = some r ∧
          (run.call ctx members .run i).1.result = .ok () ∧
          Measured run.store r m (run.call ctx members .run i).2.store) ∨
        ∃ e, Obstacle ctx run i e ∧ (run.call ctx members .run i).1.result = .error e ∧
          (run.call ctx members .run i).2.store = run.store) ∧
      (Hindered ctx run i → ∃ e, (run.call ctx members .run i).1.result = .error e) := by
  obtain ⟨hresult, hstore⟩ := call_eq ctx members hplugin hfree
  rw [hresult, hstore]
  rcases outcome_cases ctx run i with ⟨m, r, hreads, hlight, hfind, houtcome⟩ | ⟨e, hobstacle, houtcome⟩
  · rw [houtcome]
    refine ⟨.inl ⟨m, r, hreads, hlight, hfind, rfl, measured_written (hdict r hfind) m⟩, fun hhindered => ?_⟩
    exact (hhindered.not_ready hreads hlight hfind).elim
  · rw [houtcome]
    exact ⟨.inr ⟨e, hobstacle, rfl, rfl⟩, fun _ => ⟨e, rfl⟩⟩

/-- A white point that has chosen the meter behind it. -/
def darkroom : Run where
  roster := {
    entries := [
      { handle := { Handle.ofPlugin plugin with
          memory := ({} : Dict).set "sensor" (.string "Meter"), state := .runnable }, origin := .static },
      { handle := { Handle.ofPlugin { SimSensor.plugin with name := "Meter" } with
          state := .runnable }, origin := .static }] }
  store := { dicts := [{}], tables := [{ names := [("calibrate", 0)], scope := .host }] }

/-- A chain with a dict, bound to an open registry. -/
def darkroomContext : RunContext where
  chain := "white"
  dictName := "calibrate"
  table := 0
  members := []
  registry? := some darkroom.roster.views
  types := []
  now := .epoch

/-- The white point in the darkroom reads the meter and writes both results. -/
theorem darkroom_writes_both :
    (darkroom.roster.handle 0).plugin = plugin ∧ FindsFree darkroom 0 ∧
      (∀ r, darkroom.store.find? darkroomContext.table darkroomContext.dictName = some r →
        r < darkroom.store.dicts.length) ∧
      ∃ m r, Reads darkroomContext darkroom 0 m ∧
        Measured darkroom.store r m (darkroom.call darkroomContext [0] .run 0).2.store := by
  have hfree : FindsFree darkroom 0 := by
    intro name k hname hk
    obtain rfl : "Meter" = name := Option.some.inj hname
    obtain rfl : 1 = k := Option.some.inj ((show some 1 = _ by decide).trans hk)
    exact ⟨by decide, rfl⟩
  have hdict : ∀ r, darkroom.store.find? darkroomContext.table darkroomContext.dictName = some r →
      r < darkroom.store.dicts.length := by
    intro r hr
    obtain rfl : 0 = r := Option.some.inj hr
    decide
  have hends : (darkroom.call darkroomContext [0] .run 0).1.isOk = true := by decide +kernel
  refine ⟨rfl, hfree, hdict, ?_⟩
  rcases (writes_both_or_none rfl hfree hdict).1 with ⟨m, r, hreads, -, -, -, hmeasured⟩ | ⟨e, -, hresult, -⟩
  · exact ⟨m, r, hreads, hmeasured⟩
  · rw [Outcome.isOk, hresult] at hends
    cases hends

end WhitePoint
end Calibration
